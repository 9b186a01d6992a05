import RecordMapper.Proofs.Collection.Outcome
import RecordMapper.Proofs.Model.Checked
import RecordMapper.Proofs.Record.Statement

/-!
# Inserts of one row

A row can be inserted by itself or as the only row of a bulk insert, and a new record by its own save or by a grouped
save of a collection that holds nothing else.  Each writes the values of columns, but a bulk insert leaves out a blank
primary key.

* `SendsOne` says that a write is refused before any call, or sends one statement and then only reads;
* `insertCall?` and `bulkCall?` are the statements of the two inserts (`yields_insert_sends`,
  `yields_insertMany_sends`), `savedBy` and `groupSavedBy` those of the two saves (`yields_saveAll_alone`);
* the same rows are refused with the same errors, and the statements are the same exactly if no blank key is written
  (`insert_agrees_iff`); a blank key is written by the one and not by the other (`save_writes_blankKey`).
-/

namespace RecordMapper

variable {σ α : Type}

/-- The runs of a write with one statement: it is refused before any call, the statement fails, or it is done and what
follows it only reads. -/
inductive SendsOne (statement : Except Error Call) : Except Error α → List Event → Prop where
  | refused {e : Error} (h : statement = .error e) : SendsOne statement (.error e) []
  | failed {c : Call} (h : statement = .ok c) (e : Error) : SendsOne statement (.error e) [.failed c e]
  | sent {c : Call} (h : statement = .ok c) (result : Except Error α) {later : List Event}
    (hlater : OnlyReads later) : SendsOne statement result (.done c :: later)

namespace Model

variable {m : Model} {data : Assignments} {pairs : List (String × Value)}

/-! ### Statements for one row -/

/-- The statement that inserts a row by itself, or the error that the row is refused with. -/
def insertCall? (m : Model) (d : Dialect) (data : Assignments) : Except Error Call :=
  (m.writable data.toList).map (m.insertCall d)

/-- The statement that inserts a row as the only one of a bulk insert, or the error that the row is refused with. -/
def bulkCall? (m : Model) (d : Dialect) (data : Assignments) : Except Error Call :=
  (m.bulkPairs data).map (m.insertCall d)

/-- The row holds a blank value under the primary key, which is a column of the table. -/
def HoldsBlankKey (m : Model) (data : Assignments) : Prop :=
  m.hasColumn m.primaryCol = true ∧ ∃ v, data.get? m.primaryCol = some v ∧ v.isBlank = true

/-- A single row is a batch of its own. -/
theorem inserts_singleton (pairs : List (String × Value)) :
    inserts [pairs] = [(pairs.map Prod.fst, [(0, pairs.map Prod.snd)])] := by
  have hbatch : inserts [pairs] = Batch.statements (pairs.map Prod.fst, [(0, pairs.map Prod.snd)]) :=
    List.append_nil _
  rw [hbatch, Batch.statements]
  split <;> rfl

theorem batchCall_singleton (m : Model) (d : Dialect) (pairs : List (String × Value)) :
    m.batchCall d (pairs.map Prod.fst, [(0, pairs.map Prod.snd)]) = m.insertCall d pairs := by
  cases pairs <;> rfl

theorem yields_insert_sends (d : Driver σ) (m : Model) (data : Assignments) :
    Yields (m.insert d.traced data) (SendsOne (m.insertCall? d.dialect data)) := by
  refine (yields_insert d m data).mono fun result events h => ?_
  unfold insertCall?
  cases h with
  | unwritable h => exact .refused (by rw [h]; rfl)
  | notInserted h e => exact .failed (by rw [h]; rfl) e
  | inserted h hlater => exact .sent (by rw [h]; rfl) _ hlater.onlyReads

/-- After the statement of a bulk insert, at most the generated key is asked for. -/
theorem BulkRun.sendsOne {d : Dialect} {b : Batch} {done : List Batch} {result : Except Error (List Value)}
    {events : List Event} (h : BulkRun d m [b] done result events) : SendsOne (.ok (m.batchCall d b)) result events := by
  generalize hbatches : [b] = batches at h
  cases h with
  | inserted _ keys =>
    subst hbatches
    refine .sent rfl (.ok keys) ?_
    split
    · exact .nil
    · exact .of_call rfl
  | notInserted before failed after e =>
    rcases List.append_eq_singleton_iff.1 hbatches.symm with ⟨rfl, hb⟩ | ⟨-, hb⟩
    · obtain ⟨rfl, -⟩ := List.cons.inj hb
      exact .failed rfl e
    · exact nomatch hb
  | noKey before hkey after e =>
    rcases List.append_eq_singleton_iff.1 hbatches.symm with ⟨rfl, hb⟩ | ⟨-, hb⟩
    · obtain ⟨rfl, -⟩ := List.cons.inj hb
      exact .sent rfl (.error e) (.of_call rfl)
    · exact nomatch hb

theorem yields_insertMany_sends (d : Driver σ) (m : Model) (data : Assignments) :
    Yields (m.insertMany d.traced [data]) (SendsOne (m.bulkCall? d.dialect data)) := by
  cases hpairs : m.bulkPairs data with
  | error e =>
    have hrefused : [data].mapM m.bulkPairs = .error e := by
      rw [List.mapM_cons, hpairs]
      rfl
    rw [insertMany_eq, hrefused]
    refine Yields.result_bind (fun e' h => .refused ?_) fun _ h => nomatch h
    rw [bulkCall?, hpairs, ← Except.error.inj h]
    rfl
  | ok pairs =>
    obtain ⟨rfl, hscalar⟩ := bulkPairs_eq_ok_iff.1 hpairs
    refine (yields_insertMany d m [data]).mono ?_
    rintro result events ⟨done, hrun⟩
    rw [bulkCall?, hpairs]
    cases hrun with
    | unwritable h =>
      have haccepted := mapM_bulkPairs_eq_ok_iff.2 ⟨rfl, List.forall_mem_singleton.2 hscalar⟩
      exact nomatch h.symm.trans haccepted
    | sent h =>
      rw [List.map_singleton, inserts_singleton] at h
      have hsends := h.sendsOne
      rwa [batchCall_singleton] at hsends

/-! ### When the statements are the same -/

/-- An insert binds one value for each of its entries. -/
theorem binds_insertOne (m : Model) (d : Dialect) (pairs : List (String × Value)) :
    (m.insertOne d pairs).binds = pairs.map Prod.snd := by
  cases pairs with
  | nil => rfl
  | cons pair pairs => exact List.append_nil _

theorem length_of_insertCall_eq {d : Dialect} {pairs others : List (String × Value)}
    (h : m.insertCall d pairs = m.insertCall d others) : pairs.length = others.length := by
  obtain ⟨-, hbinds⟩ := Call.execute.inj h
  rw [binds_insertOne, binds_insertOne] at hbinds
  simpa using congrArg List.length hbinds

/-- All that is written by a single insert is written by a bulk insert, too, unless it is a blank key. -/
theorem holdsBlankKey_iff (h : m.writable data.toList = .ok pairs) :
    m.HoldsBlankKey data ↔ ∃ e ∈ pairs, e.1 = m.primaryCol ∧ e.2.isBlank = true := by
  obtain ⟨rfl, -⟩ := writable_eq_ok_iff.1 h
  constructor
  · rintro ⟨hcol, v, hget, hblank⟩
    exact ⟨_, List.mem_filter.2 ⟨OrderedMap.get?_eq_some_iff.1 hget, hcol⟩, rfl, hblank⟩
  · rintro ⟨⟨col, v⟩, he, rfl, hblank⟩
    obtain ⟨hmem, hcol⟩ := List.mem_filter.1 he
    exact ⟨hcol, v, OrderedMap.get?_eq_some_iff.2 hmem, hblank⟩

/-- The two statements for a row are the same exactly if the row is refused or holds no blank key. -/
theorem bulkCall?_eq_iff (m : Model) (d : Dialect) (data : Assignments) :
    m.bulkCall? d data = m.insertCall? d data ↔ ∀ c, m.insertCall? d data = .ok c → ¬ m.HoldsBlankKey data := by
  unfold bulkCall? insertCall? bulkPairs
  cases hpairs : m.writable data.toList with
  | error e => exact iff_of_true rfl nofun
  | ok pairs =>
    show Except.ok (m.insertCall d (pairs.filter _)) = .ok (m.insertCall d pairs) ↔ _
    constructor
    · intro h _ _ hholds
      obtain ⟨e, he, hcol, hblank⟩ := (holdsBlankKey_iff hpairs).1 hholds
      have hlength := length_of_insertCall_eq (Except.ok.inj h)
      have hkept := List.length_filter_eq_length_iff.1 hlength e he
      simp [hcol, hblank] at hkept
    · intro h
      have hnot := h _ rfl
      rw [holdsBlankKey_iff hpairs] at hnot
      rw [List.filter_eq_self.2 fun e he => ?_]
      by_contra hleft
      obtain ⟨hcol, hblank⟩ : e.1 = m.primaryCol ∧ e.2.isBlank = true := by simpa using hleft
      exact hnot ⟨e, he, hcol, hblank⟩

/-- The two inserts refuse the same rows with the same errors. -/
theorem errorOf?_bulkCall? (m : Model) (d : Dialect) (data : Assignments) :
    errorOf? (m.bulkCall? d data) = errorOf? (m.insertCall? d data) := by
  rw [bulkCall?, insertCall?, bulkPairs, errorOf?_map, errorOf?_map, errorOf?_map]

end Model

/-! ### Statements for one record -/

theorem statements_append (events later : List Event) :
    statements (events ++ later) = statements events ++ statements later := by
  rw [statements, List.map_append, List.filter_append]
  rfl

theorem SendsOne.statements {statement : Except Error Call} {result : Except Error α} {events : List Event}
    (h : SendsOne statement result events) (hexecute : ∀ c, statement = .ok c → c.isExecute = true) :
    statements events = statement.toOption.toList := by
  cases h with
  | refused h =>
    rw [h]
    rfl
  | failed h e =>
    rw [h]
    exact statements_execute (hexecute _ h) (.error e) .nil
  | sent h _ hlater =>
    rw [h]
    exact statements_execute (hexecute _ h) (.ok ()) hlater

theorem Model.isExecute_bulkCall? {m : Model} {d : Dialect} {data : Assignments} {c : Call}
    (h : m.bulkCall? d data = .ok c) : c.isExecute = true := by
  obtain ⟨pairs, -, rfl⟩ := map_eq_ok h
  rfl

namespace Record

/-- The statement by which a save writes a record, if there is one. -/
def savedBy (q : Quoter) (r : Record) : Option Call :=
  r.statementOf q r.unsaved

/-- The statement by which a grouped save writes a record that is alone in its collection, if there is one. -/
def groupSavedBy (q : Quoter) (r : Record) : Option Call :=
  if r.isNew then
    if r.data.isEmpty then none else (r.model.bulkCall? q.dialect r.data).toOption
  else r.savedBy q

theorem savedBy_of_new {q : Quoter} {r : Record} (hnew : r.isNew = true) (hdata : r.data.isEmpty = false) :
    r.savedBy q = (r.model.insertCall? q.dialect r.data).toOption := by
  have hunstored : r.isUnstored = true := by rw [isUnstored, hnew, Bool.true_or]
  have hne : r.data.toList.isEmpty = false := hdata
  rw [savedBy, unsaved_of_unstored hunstored, statementOf, hne, Model.insertCall?]
  cases r.model.writable r.data.toList with
  | error e => rfl
  | ok pairs => simp [hunstored, Except.map, Except.toOption]

theorem groupSavedBy_of_new {q : Quoter} {r : Record} (hnew : r.isNew = true) (hdata : r.data.isEmpty = false) :
    r.groupSavedBy q = (r.model.bulkCall? q.dialect r.data).toOption := by
  rw [groupSavedBy, if_pos hnew, hdata]
  rfl

/-- The collection that holds nothing but a record. -/
def alone (r : Record) (access : Access) : Collection :=
  (Collection.empty r.model access).push r

section Alone

variable {r : Record} {access : Access}

theorem accepted_alone (hwritable : r.access = .writable) : (r.alone access).Accepted true where
  writable := Collection.ensureWritable_iff.2 (List.forall_mem_singleton.2 (by rw [hwritable]; decide))
  oneTable _ := Collection.ensureOneTable_iff.2 (List.forall_mem_singleton.2 fun _ => rfl)

/-- A grouped save passes over the record, and then inserts it if it is new. -/
theorem saveAll_alone_snd (hwritable : r.access = .writable) (d : Driver σ) (db : Database σ) :
    let pass := Collection.saveMembers d true (r.alone access).members db
    ((r.alone access).saveAll d true db).2 = (((r.alone access).passed d db).insertNew d pass.2).2 := by
  rw [Collection.saveAll_of_accepted (accepted_alone hwritable)]
  rfl

theorem toInsert_alone : (r.alone access).toInsert = if r.isNew && !r.data.isEmpty then [(.index 0, r)] else [] := by
  show [((MemberKey.index 0), r)].filter _ = _
  rw [List.filter_cons, List.filter_nil]

theorem yields_saveAll_old (d : Driver σ) (hwritable : r.access = .writable) (hold : r.isNew = false) :
    Yields ((r.alone access).saveAll d.traced true) fun _ events =>
      statements events = (r.savedBy d.quoter).toList := by
  intro db
  obtain ⟨events, hevents, hstatement⟩ := yields_saveSelf_statement d r db
  have hpass : (Collection.saveMembers d.traced true (r.alone access).members db).2 = (r.save d.traced none db).2 :=
    congrArg Prod.snd (Collection.saveMembers_saved d.traced true [] db hold)
  have hnone : ((r.alone access).passed d.traced db).toInsert = [] := by
    rw [Collection.toInsert_passed, toInsert_alone, hold]
    rfl
  refine ⟨events, ?_, hstatement⟩
  rw [saveAll_alone_snd hwritable, Collection.insertNew_nothing hnone, hpass]
  exact hevents

theorem yields_saveAll_new (d : Driver σ) (hwritable : r.access = .writable) (hnew : r.isNew = true) :
    Yields ((r.alone access).saveAll d.traced true) fun _ events =>
      statements events = (r.groupSavedBy d.quoter).toList := by
  intro db
  have hskipped : Collection.saveMembers d.traced true (r.alone access).members db =
      (⟨(r.alone access).members, []⟩, db) :=
    Collection.saveMembers_skipped d.traced true [] db hnew
  have hpassed : (r.alone access).passed d.traced db = r.alone access :=
    congrArg (fun pass => { r.alone access with members := pass.1.members }) hskipped
  have hpass : (Collection.saveMembers d.traced true (r.alone access).members db).2 = db := congrArg Prod.snd hskipped
  rw [saveAll_alone_snd hwritable, hpassed, hpass]
  cases hdata : r.data.isEmpty with
  | true =>
    have hnone : (r.alone access).toInsert = [] := by
      rw [toInsert_alone, hnew, hdata]
      rfl
    rw [Collection.insertNew_nothing hnone, groupSavedBy, if_pos hnew, hdata]
    exact ⟨[], (List.append_nil _).symm, rfl⟩
  | false =>
    have hinsert : (r.alone access).toInsert = [(.index 0, r)] := by
      rw [toInsert_alone, hnew, hdata]
      rfl
    have hrows : (r.alone access).rowsToInsert = [r.data] := by
      rw [Collection.rowsToInsert, hinsert]
      rfl
    have hmany := Model.yields_insertMany_sends d r.model r.data
    obtain ⟨events, hevents, hrun⟩ := Collection.yields_insertNew_of (c := r.alone access) (hrows ▸ hmany) db
    refine ⟨events, hevents, ?_⟩
    rcases hrun with ⟨hnone, -⟩ | ⟨-, result, sent, later, hsends, hreads, rfl⟩
    · exact absurd (hinsert.symm.trans hnone) (List.cons_ne_nil _ _)
    · rw [statements_append, statements_of_onlyReads hreads, List.append_nil, groupSavedBy_of_new hnew hdata]
      exact hsends.statements fun _ => Model.isExecute_bulkCall?

/-- A record that is alone in its collection is written by its own save, or by a bulk insert if it is new. -/
theorem yields_saveAll_alone (d : Driver σ) (hwritable : r.access = .writable) (access : Access) :
    Yields ((r.alone access).saveAll d.traced true) fun _ events =>
      statements events = (r.groupSavedBy d.quoter).toList := by
  cases hnew : r.isNew with
  | true => exact yields_saveAll_new d hwritable hnew
  | false =>
    rw [groupSavedBy, hnew]
    exact yields_saveAll_old d hwritable hnew

/-- The two saves write a record by the same statement unless it is new and is inserted with a blank key. -/
theorem groupSavedBy_eq_iff (q : Quoter) (r : Record) :
    r.groupSavedBy q = r.savedBy q ↔
      ∀ c, r.isNew = true → r.savedBy q = some c → ¬ r.model.HoldsBlankKey r.data := by
  cases hnew : r.isNew with
  | false =>
    refine iff_of_true ?_ nofun
    rw [groupSavedBy, hnew]
    rfl
  | true =>
    cases hdata : r.data.isEmpty with
    | true =>
      have hnone : r.savedBy q = none := statementOf_nothing (.inl hdata)
      rw [groupSavedBy, if_pos hnew, hdata, hnone]
      exact iff_of_true rfl nofun
    | false =>
      have hiff := Model.bulkCall?_eq_iff r.model q.dialect r.data
      have herrors := Model.errorOf?_bulkCall? r.model q.dialect r.data
      rw [groupSavedBy_of_new hnew hdata, savedBy_of_new hnew hdata]
      cases hinsert : r.model.insertCall? q.dialect r.data with
      | error e =>
        rw [hinsert] at herrors
        rw [eq_error_iff.2 herrors]
        exact iff_of_true rfl nofun
      | ok c =>
        obtain ⟨bulk, hbulk⟩ := exists_ok_iff.2 (herrors.trans (exists_ok_iff.1 ⟨c, hinsert⟩))
        rw [hinsert, hbulk] at hiff
        rw [hbulk]
        simpa [Except.toOption] using hiff

end Alone

end Record

/--
A row that is inserted by itself or as the only row of a bulk insert, over a driver that fails as it likes.  Both are
refused with the same error before any call or send one statement; it is the same for both exactly if the row holds no
blank value under a primary key that is a column.  In the same way a writable record is written by the same statement
when it is saved and when a collection that holds nothing else is saved with grouping, unless it is new and a blank key
is written by its own save.
-/
theorem insert_agrees_iff (d : Driver σ) (m : Model) (data : Assignments) :
    Yields (m.insert d.traced data) (SendsOne (m.insertCall? d.dialect data)) ∧
      Yields (m.insertMany d.traced [data]) (SendsOne (m.bulkCall? d.dialect data)) ∧
      errorOf? (m.bulkCall? d.dialect data) = errorOf? (m.insertCall? d.dialect data) ∧
      (m.bulkCall? d.dialect data = m.insertCall? d.dialect data ↔
        ∀ c, m.insertCall? d.dialect data = .ok c → ¬ m.HoldsBlankKey data) ∧
      ∀ r : Record, r.access = .writable → ∀ access,
        Yields (r.save d.traced none) (fun _ events => statements events = (r.savedBy d.quoter).toList) ∧
        Yields ((r.alone access).saveAll d.traced true) (fun _ events =>
          statements events = (r.groupSavedBy d.quoter).toList) ∧
        (r.groupSavedBy d.quoter = r.savedBy d.quoter ↔
          ∀ c, r.isNew = true → r.savedBy d.quoter = some c → ¬ r.model.HoldsBlankKey r.data) := by
  refine ⟨m.yields_insert_sends d data, m.yields_insertMany_sends d data, m.errorOf?_bulkCall? d.dialect data,
    m.bulkCall?_eq_iff d.dialect data, fun r hwritable access => ⟨?_, ?_, ?_⟩⟩
  · exact r.yields_saveSelf_statement d
  · exact r.yields_saveAll_alone d hwritable access
  · exact r.groupSavedBy_eq_iff d.quoter

namespace Record.Example

/-- A new post whose key was left empty. -/
def emptyKeyed : Record :=
  { new posts .writable with data := .ofList [("id", .text ""), ("title", .text "a")] }

/-- The insert of the post with its empty key. -/
def insertEmptyKeyed : Call := .execute "INSERT INTO posts (id, title) VALUES (?1, ?2)" [.text "", .text "a"]

end Record.Example

open Record.Example in
/-- A post without a key is inserted by the same statement in all four ways. -/
theorem insert_agrees_iff_draft :
    let idle := Driver.scripted .sqlite (Driver.idle .sqlite)
    draft.access = .writable ∧ posts.bulkCall? .sqlite draft.data = posts.insertCall? .sqlite draft.data ∧
      posts.insertCall? .sqlite draft.data = .ok insertDraft ∧
      draft.groupSavedBy idle.quoter = draft.savedBy idle.quoter ∧ draft.savedBy idle.quoter = some insertDraft := by
  intro idle
  have hnoKey : ¬ posts.HoldsBlankKey draft.data := by
    rintro ⟨-, v, hget, -⟩
    exact nomatch hget
  obtain ⟨-, -, -, hrow, hrecords⟩ := insert_agrees_iff idle posts draft.data
  obtain ⟨-, -, hrecord⟩ := hrecords draft rfl .writable
  exact ⟨rfl, hrow.2 fun _ _ => hnoKey, rfl, hrecord.2 fun _ _ _ => hnoKey, rfl⟩

open Record.Example in
/-- An empty key is written by a single insert and by the save of its record, and left out by a bulk insert and by a
grouped save. -/
theorem save_writes_blankKey :
    ((posts.insert driver emptyKeyed.data (database {})).2.events.map Event.call).head? = some insertEmptyKeyed ∧
      ((posts.insertMany driver [emptyKeyed.data] (database {})).2.events.map Event.call).head? = some insertDraft ∧
      emptyKeyed.isNew = true ∧
      statements (emptyKeyed.save driver none (database {})).2.events = [insertEmptyKeyed] ∧
      statements ((emptyKeyed.alone .writable).saveAll driver true (database {})).2.events = [insertDraft] :=
  ⟨rfl, rfl, rfl, rfl, rfl⟩

end RecordMapper
