import RecordMapper.Proofs.Collection.Members
import RecordMapper.Proofs.Model.BulkInsert
import RecordMapper.Proofs.Record.Steps

/-!
# The calls of collections

A collection is saved or deleted by a pass over its members and, for a grouped save, one insert after it.

* a pass makes the calls that its members make (`yields_saveMembers`, `yields_deleteMembers`);
* the insert of the new members is a bulk insert and then reads (`yields_insertNew_of`), so of the calls that write it
  makes inserts only (`yields_insertNew`).
-/

namespace RecordMapper

variable {σ : Type}

/-- The call inserts rows. -/
def Call.Inserts (c : Call) : Prop :=
  ∃ text binds, c = .execute ("INSERT INTO " ++ text) binds

/-- Of the calls that write, all insert rows. -/
def OnlyInserts (events : List Event) : Prop :=
  ∀ e ∈ events, e.call.isExecute = true → e.call.Inserts

theorem OnlyReads.onlyInserts {events : List Event} (h : OnlyReads events) : OnlyInserts events :=
  fun e he hexecute => nomatch (h e he).symm.trans hexecute

theorem OnlyInserts.append {events later : List Event} (h : OnlyInserts events) (hlater : OnlyInserts later) :
    OnlyInserts (events ++ later) :=
  List.forall_mem_append.2 ⟨h, hlater⟩

theorem OnlyInserts.cons {c : Call} (h : c.Inserts) {ending : Except Error Unit} {later : List Event}
    (hlater : OnlyInserts later) : OnlyInserts (⟨c, ending⟩ :: later) :=
  List.forall_mem_cons.2 ⟨fun _ => h, hlater⟩

namespace Model

variable {m : Model} {d : Dialect}

theorem inserts_insertDefaults (m : Model) : (Call.execute m.insertDefaults.text m.insertDefaults.binds).Inserts :=
  ⟨_, _, congrArg (Call.execute · []) (String.append_assoc ..)⟩

theorem inserts_insertRows (m : Model) (d : Dialect) (cols : List String) (rows : List (List Value)) :
    (Call.execute (m.insertRows d cols rows).text (m.insertRows d cols rows).binds).Inserts := by
  simp only [insertRows, String.append_assoc]
  exact ⟨_, _, rfl⟩

theorem inserts_insertCall (m : Model) (d : Dialect) (pairs : List (String × Value)) :
    (m.insertCall d pairs).Inserts := by
  unfold insertCall insertOne
  split
  · exact m.inserts_insertDefaults
  · exact m.inserts_insertRows d _ _

theorem inserts_batchCall (m : Model) (d : Dialect) (b : Batch) : (m.batchCall d b).Inserts := by
  unfold batchCall batchSql
  split
  · exact m.inserts_insertDefaults
  · exact m.inserts_insertRows d _ _

theorem InsertRun.onlyInserts {q : Quoter} {data : Assignments} {result : Except Error Assignments}
    {events : List Event} (h : InsertRun q m data result events) : OnlyInserts events := by
  intro e he hexecute
  obtain ⟨pairs, -, hcall⟩ := h.of_isExecute he hexecute
  rw [hcall]
  exact m.inserts_insertCall q.dialect pairs

theorem onlyInserts_insertEvents (m : Model) (d : Dialect) (b : Batch) : OnlyInserts (m.insertEvents d b) := by
  refine .cons (m.inserts_batchCall d b) ?_
  split
  · exact OnlyReads.nil.onlyInserts
  · exact (OnlyReads.of_call rfl).onlyInserts

theorem BulkRun.onlyInserts {batches done : List Batch} {result : Except Error (List Value)} {events : List Event}
    (h : BulkRun d m batches done result events) : OnlyInserts events := by
  have hdone (batches : List Batch) : OnlyInserts (batches.flatMap (m.insertEvents d)) := by
    intro e he
    obtain ⟨b, -, he⟩ := List.mem_flatMap.1 he
    exact m.onlyInserts_insertEvents d b e he
  cases h with
  | inserted => exact hdone _
  | notInserted _ b => exact (hdone _).append (.cons (m.inserts_batchCall d b) OnlyReads.nil.onlyInserts)
  | @noKey before b =>
    exact (hdone before).append (.cons (m.inserts_batchCall d b) (OnlyReads.of_call rfl).onlyInserts)

theorem InsertManyRun.onlyInserts {rows : List Assignments} {done : List Batch} {result : Except Error (List Value)}
    {events : List Event} (h : InsertManyRun d m rows done result events) : OnlyInserts events := by
  cases h with
  | unwritable => exact OnlyReads.nil.onlyInserts
  | sent h => exact h.onlyInserts

end Model

namespace Collection

variable {d : Driver σ} {P : Event → Prop}

/-! ### Passes -/

/-- What holds of each call of a save of a member holds of each call of the pass. -/
theorem yields_saveMembers (grouped : Bool) {members : List (MemberKey × Record)}
    (h : ∀ e ∈ members, Yields (e.2.save d.traced none) fun _ events => ∀ event ∈ events, P event) :
    Yields (saveMembers d.traced grouped members) fun _ events => ∀ event ∈ events, P event := by
  induction members with
  | nil => exact Yields.pure (List.forall_mem_nil _)
  | cons member members ih =>
    obtain ⟨key, r⟩ := member
    obtain ⟨hmember, hmembers⟩ := List.forall_mem_cons.1 h
    rw [saveMembers]
    split
    · refine (ih hmembers).andThen fun pass events hpass => Yields.pure ?_
      rwa [List.append_nil]
    · refine hmember.andThen fun saved events hsaved => ?_
      refine (ih hmembers).andThen fun pass later hpass => Yields.pure ?_
      rw [List.append_nil]
      exact List.forall_mem_append.2 ⟨hsaved, hpass⟩

/-- What holds of each call of a delete of a member holds of each call of the pass. -/
theorem yields_deleteMembers {members : List (MemberKey × Record)}
    (h : ∀ e ∈ members, Yields (e.2.delete d.traced false) fun _ events => ∀ event ∈ events, P event) :
    Yields (deleteMembers d.traced members) fun _ events => ∀ event ∈ events, P event := by
  induction members with
  | nil => exact Yields.pure (List.forall_mem_nil _)
  | cons member members ih =>
    obtain ⟨key, r⟩ := member
    obtain ⟨hmember, hmembers⟩ := List.forall_mem_cons.1 h
    rw [deleteMembers]
    split
    · exact Yields.pure (List.forall_mem_nil _)
    · refine hmember.andThen fun deleted events hdeleted => ?_
      refine (ih hmembers).andThen fun pass later hpass => Yields.pure ?_
      rw [List.append_nil]
      exact List.forall_mem_append.2 ⟨hdeleted, hpass⟩

/-! ### The insert of the new members -/

theorem yields_readBack (d : Driver σ) (m : Model) (keys : List Value) :
    Yields (readBack d.traced m keys) fun _ events => OnlyReads events := by
  intro db
  by_cases hknown : keys.filter (fun v => !v.isBlank) = []
  · rw [readBack_nothing hknown]
    exact ⟨[], (List.append_nil _).symm, .nil⟩
  · rw [readBack_apply rfl hknown]
    obtain ⟨events, hevents, answer, hrun, -⟩ := Model.yields_fetchRows d m _ db
    exact ⟨events, hevents, hrun.onlyReads⟩

/-- The insert of the new members makes no call if there are none; else it is a bulk insert, and then it only reads. -/
theorem yields_insertNew_of {c : Collection} {P : Except Error (List Value) → List Event → Prop}
    (h : Yields (c.model.insertMany d.traced c.rowsToInsert) P) :
    Yields (c.insertNew d.traced) fun _ events =>
      c.toInsert = [] ∧ events = [] ∨
        c.toInsert ≠ [] ∧ ∃ result sent later, P result sent ∧ OnlyReads later ∧ events = sent ++ later := by
  intro db
  by_cases hne : c.toInsert = []
  · rw [insertNew_nothing hne]
    exact ⟨[], (List.append_nil _).symm, .inl ⟨hne, rfl⟩⟩
  · obtain ⟨sent, hsent, hrun⟩ := h db
    cases hmany : c.model.insertMany d.traced c.rowsToInsert db with
    | mk result after =>
      rw [hmany] at hsent
      cases result with
      | error error =>
        rw [insertNew_failed hne hmany]
        exact ⟨sent, hsent, .inr ⟨hne, _, sent, [], hrun, .nil, (List.append_nil _).symm⟩⟩
      | ok keys =>
        rw [insertNew_inserted hne hmany]
        obtain ⟨later, hlater, hreads⟩ := yields_readBack d c.model keys after
        refine ⟨sent ++ later, ?_, .inr ⟨hne, _, sent, later, hrun, hreads, rfl⟩⟩
        rw [← List.append_assoc, ← hsent]
        exact hlater

theorem yields_insertNew (d : Driver σ) (c : Collection) :
    Yields (c.insertNew d.traced) fun _ events => OnlyInserts events := by
  refine (yields_insertNew_of (Model.yields_insertMany d c.model c.rowsToInsert)).mono ?_
  rintro _ _ (⟨-, rfl⟩ | ⟨-, result, sent, later, ⟨done, hrun⟩, hreads, rfl⟩)
  · exact OnlyReads.nil.onlyInserts
  · exact hrun.onlyInserts.append hreads.onlyInserts

end Collection

end RecordMapper
