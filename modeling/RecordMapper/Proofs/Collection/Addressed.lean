import RecordMapper.Proofs.Collection.Passes
import RecordMapper.Proofs.Model.KeyClause

/-!
# Updates and deletes address rows by key

Every update that saves a record, and every delete of one, is restricted to the stored key of the record, whether it is
sent for the record alone or for the members of a collection; a record without such a key is not updated or deleted.

* the stored key is the one of the snapshot, or else of the data (`Record.IsStoredKey`);
* `writes_addressed` says it of all writes of records and collections, and that no delete is without a condition;
* a key that is a single value stands for one row, but a list that is set as the key is taken for one, and then several
  rows are deleted or updated (`Record.list_key_deletes_several`).
-/

namespace RecordMapper

variable {σ : Type}

namespace Model

variable {m : Model} {q : Quoter} {key : Value} {events : List Event}

/-- The call updates some columns of the rows of a key. -/
def Updates (m : Model) (q : Quoter) (key : Value) (c : Call) : Prop :=
  ∃ (pairs : List (String × Value)) (clause : Sql), KeyClause q m.primaryCol pairs.length key clause ∧
    c = .execute
      ("UPDATE " ++ m.tableName ++ " SET " ++ setText q.dialect (pairs.map Prod.fst) ++ " WHERE " ++ clause.text)
      (pairs.map Prod.snd ++ clause.binds)

/-- The call deletes the rows of a key. -/
def Deletes (m : Model) (q : Quoter) (key : Value) (c : Call) : Prop :=
  ∃ clause : Sql, KeyClause q m.primaryCol 0 key clause ∧
    c = .execute ("DELETE FROM " ++ m.tableName ++ " WHERE " ++ clause.text) clause.binds

theorem UpdateRun.updates {changes : Assignments} {result : Except Error (Option Nat)}
    (h : m.UpdateRun q changes (Record.only m.primaryCol key) result events) (hblank : key.isBlank = false) :
    ∀ e ∈ events, m.Updates q key e.call := by
  intro e he
  obtain ⟨pairs, sql, -, hsql, hcall⟩ := h.of_mem he
  obtain ⟨clause, hclause, rfl⟩ := updateSql_only hblank hsql
  exact ⟨pairs, clause, hclause, hcall⟩

theorem DeleteRun.deletes {result : Except Error (Option Nat)}
    (h : m.DeleteRun q (Record.only m.primaryCol key) result events) (hblank : key.isBlank = false) :
    ∀ e ∈ events, m.Deletes q key e.call := by
  intro e he
  obtain ⟨sql, -, hsql, hcall⟩ := h.of_mem he
  obtain ⟨clause, hclause, rfl⟩ := deleteSql_only hblank hsql
  exact ⟨clause, hclause, hcall⟩

/-- Every delete has a condition. -/
theorem DeleteRun.restricted {values : Assignments} {result : Except Error (Option Nat)}
    (h : m.DeleteRun q values result events) :
    ∀ e ∈ events, ∃ condition binds,
      e.call = .execute ("DELETE FROM " ++ m.tableName ++ " WHERE " ++ condition) binds ∧ condition ≠ "" := by
  intro e he
  obtain ⟨sql, hne, hsql, hcall⟩ := h.of_mem he
  obtain ⟨clause, hclause, rfl⟩ := deleteSql_eq_ok hsql
  exact ⟨clause.text, clause.binds, hcall, Filter.text_ne_of_compile (Filter.matching_ne hne) hclause⟩

end Model

namespace Record

variable {r : Record} {key : Value}

/-- The key under which the row of a record is stored: the snapshot's, or the current one if the snapshot has none.
A key that is missing, `NULL` or the empty text is none. -/
structure IsStoredKey (r : Record) (key : Value) : Prop where
  notBlank : key.isBlank = false
  held : r.initial.get? r.model.primaryCol = some key ∨
    (∀ v, r.initial.get? r.model.primaryCol = some v → v.isBlank = true) ∧ r.data.get? r.model.primaryCol = some key

theorem isStoredKey_of_storedKey? (h : r.storedKey? = some key) : r.IsStoredKey key := by
  have hfound : ((r.initial.get? r.model.primaryCol).filter fun v => !v.isBlank).or
      ((r.data.get? r.model.primaryCol).filter fun v => !v.isBlank) = some key := by
    rw [← h, storedKey?, Option.orElse_eq_orElse, Option.orElse_eq_or]
  rcases Option.or_eq_some_iff.1 hfound with hinitial | ⟨hnone, hdata⟩
  · obtain ⟨hheld, hblank⟩ := Option.filter_eq_some_iff.1 hinitial
    exact ⟨by simpa using hblank, .inl hheld⟩
  · obtain ⟨hheld, hblank⟩ := Option.filter_eq_some_iff.1 hdata
    refine ⟨by simpa using hblank, .inr ⟨fun v hv => ?_, hheld⟩⟩
    simpa using Option.filter_eq_none_iff.1 hnone v hv

/-- The call updates the rows of the record's stored key. -/
def Updates (r : Record) (q : Quoter) (c : Call) : Prop :=
  ∃ key, r.IsStoredKey key ∧ r.model.Updates q key c

/-- The call deletes the rows of the record's stored key. -/
def Deletes (r : Record) (q : Quoter) (c : Call) : Prop :=
  ∃ key, r.IsStoredKey key ∧ r.model.Deletes q key c

/-- A record is saved by inserts, or by updates of the rows of its stored key. -/
theorem yields_save_addressed (d : Driver σ) (r : Record) (values : Option Assignments) :
    Yields (r.save d.traced values) fun _ events => ∀ e ∈ events, e.call.isExecute = true →
      e.call.Inserts ∨ (r.merged values).Updates d.quoter e.call := by
  refine (yields_save d r values).mono fun result events hrun e he hexecute => ?_
  cases hrun with
  | nothing | unkeyed => exact absurd he List.not_mem_nil
  | notInserted _ hrun | inserted _ hrun => exact .inl (hrun.onlyInserts e he hexecute)
  | notUpdated _ hkey hrun | updated _ hkey hrun =>
    have hstored := isStoredKey_of_storedKey? hkey
    exact .inr ⟨_, hstored, hrun.updates hstored.notBlank e he⟩

/-- A record is deleted by deletes of the rows of its stored key. -/
theorem yields_delete_addressed (d : Driver σ) (r : Record) (clear : Bool) :
    Yields (r.delete d.traced clear) fun _ events => ∀ e ∈ events, r.Deletes d.quoter e.call := by
  intro db
  obtain ⟨events, htrace, hrun⟩ := yields_deleteRow d r.model r db
  refine ⟨events, ?_, fun e he => ?_⟩
  · unfold delete
    generalize r.deleteRow d.traced r.model db = answer at htrace ⊢
    obtain ⟨_ | _, after⟩ := answer
    · exact htrace
    · exact htrace
  · rcases hrun with rfl | ⟨key, answer, hkey, hrun⟩
    · exact absurd he List.not_mem_nil
    · have hstored : r.IsStoredKey key := isStoredKey_of_storedKey? hkey
      exact ⟨key, hstored, hrun.deletes hstored.notBlank e he⟩

end Record

namespace Collection

/-- Members are saved by inserts, or by updates of the rows of their stored keys. -/
theorem yields_saveAll_addressed (d : Driver σ) (c : Collection) (grouped : Bool) :
    Yields (c.saveAll d.traced grouped) fun _ events => ∀ e ∈ events, e.call.isExecute = true →
      e.call.Inserts ∨ ∃ member ∈ c.members, member.2.Updates d.quoter e.call := by
  have hpass : Yields (saveMembers d.traced grouped c.members) fun _ events => ∀ e ∈ events,
      e.call.isExecute = true → e.call.Inserts ∨ ∃ member ∈ c.members, member.2.Updates d.quoter e.call := by
    refine yields_saveMembers grouped fun member hmember => ?_
    refine (Record.yields_save_addressed d member.2 none).mono fun _ events h e he hexecute => ?_
    exact (h e he hexecute).imp_right fun hupdates => ⟨member, hmember, hupdates⟩
  rcases saveAll_refused_or_accepted d.traced c grouped with ⟨e, -, hrefused⟩ | haccepted
  · rw [hrefused]
    exact Yields.pure (List.forall_mem_nil _)
  · rw [saveAll_of_accepted haccepted]
    refine hpass.andThen fun pass events hevents => ?_
    dsimp only
    split
    · refine (yields_insertNew d _).andThen fun inserted later hlater => Yields.pure ?_
      rw [List.append_nil]
      exact List.forall_mem_append.2 ⟨hevents, fun e he hexecute => .inl (hlater e he hexecute)⟩
    · rw [pure_bind]
      refine Yields.pure ?_
      rwa [List.append_nil]

/-- Members are deleted by deletes of the rows of their stored keys. -/
theorem yields_deleteAll_addressed (d : Driver σ) (c : Collection) :
    Yields (c.deleteAll d.traced) fun _ events =>
      ∀ e ∈ events, ∃ member ∈ c.members, member.2.Deletes d.quoter e.call := by
  have hpass : Yields (deleteMembers d.traced c.members) fun _ events =>
      ∀ e ∈ events, ∃ member ∈ c.members, member.2.Deletes d.quoter e.call := by
    refine yields_deleteMembers fun member hmember => ?_
    exact (Record.yields_delete_addressed d member.2 false).mono fun _ _ h e he => ⟨member, hmember, h e he⟩
  unfold deleteAll
  split
  · exact Yields.pure (List.forall_mem_nil _)
  · refine hpass.andThen fun pass events hevents => ?_
    rw [← List.append_nil events] at hevents
    split
    · exact Yields.pure hevents
    · exact Yields.pure hevents

end Collection

/--
Which rows the writes of records and collections address, whatever the driver answers.  A record is saved by an insert
or an update of the rows of its stored key, and deleted by a delete of these rows, alone and as a member; without a
stored key it is neither updated nor deleted.  The condition for a key compares the primary column with the one value
that is bound, unless the key is a list.  A delete of the rows that hold some values always has a condition.
-/
theorem writes_addressed (d : Driver σ) :
    (∀ (r : Record) (values : Option Assignments),
      Yields (r.save d.traced values) fun _ events => ∀ e ∈ events, e.call.isExecute = true →
        e.call.Inserts ∨ (r.merged values).Updates d.quoter e.call) ∧
    (∀ (r : Record) (clear : Bool),
      Yields (r.delete d.traced clear) fun _ events => ∀ e ∈ events, r.Deletes d.quoter e.call) ∧
    (∀ (c : Collection) (grouped : Bool),
      Yields (c.saveAll d.traced grouped) fun _ events => ∀ e ∈ events, e.call.isExecute = true →
        e.call.Inserts ∨ ∃ member ∈ c.members, member.2.Updates d.quoter e.call) ∧
    (∀ c : Collection,
      Yields (c.deleteAll d.traced) fun _ events =>
        ∀ e ∈ events, ∃ member ∈ c.members, member.2.Deletes d.quoter e.call) ∧
    ∀ (m : Model) (values : Assignments),
      Yields (m.deleteMatching d.traced values) fun _ events => ∀ e ∈ events, ∃ condition binds,
        e.call = .execute ("DELETE FROM " ++ m.tableName ++ " WHERE " ++ condition) binds ∧ condition ≠ "" :=
  ⟨Record.yields_save_addressed d, Record.yields_delete_addressed d, Collection.yields_saveAll_addressed d,
    Collection.yields_deleteAll_addressed d,
    fun m values => (Model.yields_deleteMatching d m values).mono fun _ _ h => h.restricted⟩

namespace Record

namespace Example

/-- A new post, the key of which was set to a list. -/
def severalPosts : Record := (new posts .writable).place "id" (.array [.int 1, .int 2])

/-- A post that was made of a row with a list as its key, and renamed. -/
def renamedPosts : Record :=
  (ofRow posts .writable (.ofList [("id", .array [.int 1, .int 2]), ("title", .text "a")])).place "title" (.text "b")

end Example

open Example in
/-- A list as the key is not refused, and several rows are deleted or updated. -/
theorem list_key_deletes_several :
    Reachable driver posts severalPosts ∧
      (severalPosts.delete driver false (database {})).2.events =
        [.done (.execute "DELETE FROM posts WHERE id IN (1, 2)" [])] ∧
      Reachable driver posts renamedPosts ∧
      (renamedPosts.save driver none (database {})).2.events =
        [.done (.execute "UPDATE posts SET title = ?1 WHERE id IN (1, 2)" [.text "b"])] :=
  ⟨.step (.new .writable) (.set "id" (.array [.int 1, .int 2])) (database {}), rfl,
    .step (.ofRow .writable (.ofList [("id", .array [.int 1, .int 2]), ("title", .text "a")]))
      (.set "title" (.text "b")) (database {}), rfl⟩

end Record

end RecordMapper
