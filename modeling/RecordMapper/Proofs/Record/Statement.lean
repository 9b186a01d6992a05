import RecordMapper.Proofs.Record.Outcome
import RecordMapper.Proofs.Record.Steps

/-!
# The statement of a save

A save writes by one statement at most, and which one it is depends on the record alone.

* `unsaved` are the entries that a save is about to write: all data of an unstored record, and of any other one what
  differs from its snapshot;
* `statementOf` is the statement that writes entries, if there is one;
* whatever the driver answers, a save sends this statement, and else it only reads (`yields_saveSelf_statement`).
-/

namespace RecordMapper

variable {σ : Type}

/-- The statements among some calls that give no rows. -/
def statements (events : List Event) : List Call :=
  (events.map Event.call).filter Call.isExecute

theorem statements_of_onlyReads {events : List Event} (h : OnlyReads events) : statements events = [] := by
  rw [statements, List.filter_eq_nil_iff, List.forall_mem_map]
  exact fun e he => by rw [h e he]; exact Bool.false_ne_true

/-- A statement before calls that only read is the only one. -/
theorem statements_execute {c : Call} (h : c.isExecute = true) (ending : Except Error Unit) {later : List Event}
    (hlater : OnlyReads later) : statements (⟨c, ending⟩ :: later) = [c] := by
  have hcons : statements (⟨c, ending⟩ :: later) = c :: statements later := List.filter_cons_of_pos h
  rw [hcons, statements_of_onlyReads hlater]

namespace Record

/-- The entries that a save is about to write. -/
def unsaved (r : Record) : List (String × Value) :=
  if r.isUnstored then r.data.toList else r.changes.toList

/-- The statement by which a save writes entries: there is none if there are no entries, if one of them is no single
value, or if the row cannot be named. -/
def statementOf (q : Quoter) (r : Record) (entries : List (String × Value)) : Option Call :=
  if entries.isEmpty then none
  else
    match r.model.writable entries with
    | .error _ => none
    | .ok pairs =>
      if r.isUnstored then some (r.model.insertCall q.dialect pairs)
      else
        match r.storedKey?.map fun key => r.model.updateSql q pairs (only r.model.primaryCol key) with
        | some (.ok sql) => some (.execute sql.text sql.binds)
        | some (.error _) | none => none

variable {r : Record} {q : Quoter} {events : List Event}

theorem unsaved_of_unstored (h : r.isUnstored = true) : r.unsaved = r.data.toList :=
  if_pos h

theorem unsaved_of_stored (h : r.isUnstored = false) : r.unsaved = r.changes.toList := by
  simp [unsaved, h]

/-- A record without data has no key. -/
theorem isUnstored_of_empty (h : r.data.isEmpty = true) : r.isUnstored = true := by
  have hnone : r.data.get? r.model.primaryCol = none := by
    rw [OrderedMap.get?, List.isEmpty_iff.1 h]
    rfl
  simp [isUnstored, primaryKey, hnone, Value.isBlank]

theorem data_isEmpty_of_stored (h : r.isUnstored = false) : r.data.isEmpty = false := by
  cases hempty : r.data.isEmpty with
  | false => rfl
  | true => exact nomatch (isUnstored_of_empty hempty).symm.trans h

/-- A record of which nothing is to be written has no statement. -/
theorem statementOf_nothing (h : r.data.isEmpty = true ∨ r.isUnstored = false ∧ r.changes.isEmpty = true) :
    r.statementOf q r.unsaved = none := by
  have hnone : r.unsaved.isEmpty = true := by
    rcases h with h | ⟨hstored, hchanges⟩
    · rw [unsaved_of_unstored (isUnstored_of_empty h)]
      exact h
    · rw [unsaved_of_stored hstored]
      exact hchanges
  exact if_pos hnone

theorem statements_insertRun (hdata : r.data.isEmpty = false) (h : r.isUnstored = true)
    {answer : Except Error Assignments} (hrun : r.model.InsertRun q r.data answer events) :
    statements events = (r.statementOf q r.unsaved).toList := by
  have hne : r.data.toList.isEmpty = false := hdata
  rw [unsaved_of_unstored h, statementOf, hne]
  cases hrun with
  | unwritable hpairs => simp [hpairs, statements]
  | notInserted hpairs e =>
    simp only [hpairs, h, if_true, Bool.false_eq_true, if_false]
    exact statements_execute rfl (.error e) .nil
  | inserted hpairs hlater =>
    simp only [hpairs, h, if_true, Bool.false_eq_true, if_false]
    exact statements_execute rfl (.ok ()) hlater.onlyReads

theorem statements_updateRun (h : r.isUnstored = false) (hchanges : r.changes.isEmpty = false) {key : Value}
    (hkey : r.storedKey? = some key) {answer : Except Error (Option Nat)}
    (hrun : r.model.UpdateRun q r.changes (only r.model.primaryCol key) answer events) :
    statements events = (r.statementOf q r.unsaved).toList := by
  have hne : r.changes.toList.isEmpty = false := hchanges
  rw [unsaved_of_stored h, statementOf, hne, hkey]
  cases hrun with
  | unwritable hpairs => simp [hpairs, statements]
  | nothing hpairs =>
    -- what differs are columns, so all of it is written
    have hall := (Model.writable_eq_ok_iff.1 hpairs).1
    rw [eq_comm, List.filter_eq_nil_iff] at hall
    obtain ⟨e, he⟩ := List.exists_mem_of_ne_nil _ (List.isEmpty_eq_false_iff.1 hne)
    exact absurd (hasColumn_of_mem_changes (List.mem_map_of_mem he)) (hall e he)
  | notSent hpairs _ hsql => simp [hpairs, h, hsql, statements]
  | notUpdated hpairs _ hsql e =>
    simp only [hpairs, h, hsql, Option.map_some, Bool.false_eq_true, if_false]
    exact statements_execute rfl (.error e) .nil
  | updated hpairs _ hsql n =>
    simp only [hpairs, h, hsql, Option.map_some, Bool.false_eq_true, if_false]
    exact statements_execute rfl (.ok ()) .nil

/-- A save writes by its statement, whatever comes of it. -/
theorem yields_saveSelf_statement (d : Driver σ) (r : Record) :
    Yields (r.saveSelf d.traced) fun _ events => statements events = (r.statementOf d.quoter r.unsaved).toList := by
  refine yields_saveSelf_of_ways d (fun h => ?_) ?_ ?_
  · rw [statementOf_nothing h]
    rfl
  · exact fun hdata h _ _ hrun => statements_insertRun hdata h hrun
  · exact fun h hchanges _ _ _ hkey hrun => statements_updateRun h hchanges hkey hrun

end Record

end RecordMapper
