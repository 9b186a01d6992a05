import RecordMapper.Proofs.Record.Runs
import RecordMapper.Proofs.Record.State

/-!
# What comes of a save

A save places the values that it is given, and then goes one of four ways: there is nothing to save, the record is
inserted, nothing of it differs from its snapshot, or what differs is written.

* the way depends on the record alone, not on the driver (`isUnstored_iff`, `changes_isEmpty_iff`);
* an update that is done is one statement that writes all changes (`Model.UpdateRun.eq_done`), and an update sends no
  insert (`Model.UpdateRun.not_insert`);
* `save_outcome` says for each result what it means for the record and for the database.
-/

namespace RecordMapper

variable {σ : Type}

/-! ### Updates -/

namespace Model

/-- No update is an insert. -/
theorem updateSql_ne_insertOne {m : Model} {q : Quoter} {pairs pairs' : List (String × Value)} {values : Assignments}
    {sql : Sql} (h : m.updateSql q pairs values = .ok sql) (d : Dialect) : sql.text ≠ (m.insertOne d pairs').text := by
  have hupdate : sql.text.toList.head? = some 'U' := by
    unfold updateSql at h
    cases hclause : matchClause q values pairs.length with
    | error fault =>
      rw [hclause] at h
      exact nomatch h
    | ok clause =>
      rw [hclause] at h
      obtain rfl := Except.ok.inj h
      simp only [String.toList_append, List.append_assoc]
      rfl
  have hinsert : (m.insertOne d pairs').text.toList.head? = some 'I' := by
    unfold insertOne
    split
    · unfold insertDefaults
      simp only [String.toList_append, List.append_assoc]
      rfl
    · unfold insertRows
      simp only [String.toList_append, List.append_assoc]
      rfl
  intro heq
  rw [heq, hinsert] at hupdate
  exact absurd hupdate (by decide)

/-- An update that is done has written all of its changes in one statement, if they are columns. -/
theorem UpdateRun.eq_done {q : Quoter} {m : Model} {changes values : Assignments} {n : Option Nat} {events : List Event}
    (h : m.UpdateRun q changes values (.ok n) events) (hne : changes.isEmpty = false)
    (hcols : ∀ col ∈ changes.keys, m.hasColumn col = true) :
    ∃ sql, m.updateSql q changes.toList values = .ok sql ∧ events = [.done (.execute sql.text sql.binds)] := by
  have hall {pairs : List (String × Value)} (hpairs : m.writable changes.toList = .ok pairs) :
      pairs = changes.toList := by
    rw [(writable_eq_ok_iff.1 hpairs).1, List.filter_eq_self]
    exact fun e he => hcols e.1 (List.mem_map_of_mem he)
  cases h with
  | nothing hpairs =>
    have hnil := hall hpairs
    simp [OrderedMap.isEmpty, ← hnil] at hne
  | updated hpairs _ hsql =>
    obtain rfl := hall hpairs
    exact ⟨_, hsql, rfl⟩

theorem UpdateRun.not_insert {q : Quoter} {m : Model} {changes values : Assignments}
    {result : Except Error (Option Nat)} {events : List Event} (h : m.UpdateRun q changes values result events)
    (d : Dialect) (pairs : List (String × Value)) (ending : Except Error Unit) :
    ⟨m.insertCall d pairs, ending⟩ ∉ events := by
  cases h with
  | unwritable | nothing | notSent => exact List.not_mem_nil
  | notUpdated _ _ hsql | updated _ _ hsql =>
    intro hmem
    have hcall := congrArg Event.call (List.mem_singleton.1 hmem)
    exact updateSql_ne_insertOne hsql d (Call.execute.inj hcall).1.symm

end Model

theorem Value.isBlank_iff {v : Value} : v.isBlank = true ↔ v = .null ∨ v = .text "" := by
  cases v <;> simp [isBlank]

namespace Record

/-! ### The way of a save -/

/-- The primary key is missing, `NULL` or the empty text. -/
def LacksKey (r : Record) : Prop :=
  ∀ key, r.data.get? r.model.primaryCol = some key → key = .null ∨ key = .text ""

theorem primaryKey_isBlank_iff {r : Record} : r.primaryKey.isBlank = true ↔ r.LacksKey := by
  unfold primaryKey LacksKey
  cases r.data.get? r.model.primaryCol with
  | none => simp [Value.isBlank]
  | some key => simp [Value.isBlank_iff]

theorem isUnstored_iff {r : Record} : r.isUnstored = true ↔ r.isNew = true ∨ r.LacksKey := by
  rw [isUnstored, Bool.or_eq_true, primaryKey_isBlank_iff]

/-- There is nothing to write when every column that is held is alike to the snapshot, where a missing one is `NULL`. -/
theorem changes_isEmpty_iff {r : Record} :
    r.changes.isEmpty = true ↔ ∀ col v, r.data.get? col = some v → r.model.hasColumn col = true →
      v.alike ((r.initial.get? col).getD .null) = true := by
  have hchanged {col : String} {v : Value} (hv : r.data.get? col = some v) :
      r.isChanged col = !v.alike ((r.initial.get? col).getD .null) := by
    rw [isChanged, hv]
    rfl
  have hempty : r.changes.isEmpty = true ↔
      ∀ e ∈ r.data.toList, ¬ (r.model.hasColumn e.1 && r.isChanged e.1) = true :=
    List.isEmpty_iff.trans List.filter_eq_nil_iff
  rw [hempty]
  constructor
  · intro hunchanged col v hv hcol
    simpa [hcol, hchanged hv] using hunchanged (col, v) (OrderedMap.get?_eq_some_iff.1 hv)
  · intro halike e he
    have hv : r.data.get? e.1 = some e.2 := OrderedMap.get?_eq_some_iff.2 he
    cases hcol : r.model.hasColumn e.1 with
    | false => simp
    | true => simp [hchanged hv, halike e.1 e.2 hv hcol]

theorem hasColumn_of_mem_changes {r : Record} {col : String} (h : col ∈ r.changes.keys) :
    r.model.hasColumn col = true := by
  obtain ⟨e, he, rfl⟩ := List.mem_map.1 h
  exact (Bool.and_eq_true_iff.1 (List.mem_filter.1 he).2).1

/-- The values that a save is given are placed in the data, if they are those of columns, or else aside. -/
theorem merged_eq (r : Record) (values : Option Assignments) :
    r.merged values =
      { r with
        data := r.data.union ((values.getD ∅).filter fun name _ => r.model.hasColumn name)
        scratch := r.scratch.union ((values.getD ∅).filter fun name _ => !r.model.hasColumn name) } := by
  cases values with
  | none =>
    cases r
    rfl
  | some values => exact merge_eq r values

/-! ### The four ways -/

/-- What a save of a record as it is may come to, with the calls that it makes. -/
structure SavedAs (q : Quoter) (r : Record) (result : Except Error SaveOutcome × Record) (events : List Event) :
    Prop where
  inserted : result.1 = .ok .inserted → result.2.isNew = false ∧ result.2.data = result.2.initial
  updated : result.1 = .ok .updated → result.2.isNew = r.isNew ∧ result.2.data = result.2.initial ∧
    ∃ key sql, r.model.updateSql q r.changes.toList (only r.model.primaryCol key) = .ok sql ∧
      events = [.done (.execute sql.text sql.binds)]
  nothing : result.1 = .ok .nothingToSave → result.2 = r ∧ events = []
  failed : ∀ e, result.1 = .error e → result.2 = r
  /-- A record that belongs to no row is inserted. -/
  inserts : r.data.isEmpty = false → r.isUnstored = true →
    ∃ answer, r.model.InsertRun q r.data answer events ∧ result.1 = answer.map fun _ => .inserted
  /-- No other record is inserted. -/
  inserts_only : (result.1 = .ok .inserted ∨ ∃ pairs ending, ⟨r.model.insertCall q.dialect pairs, ending⟩ ∈ events) →
    r.data.isEmpty = false ∧ r.isUnstored = true
  /-- Any other record with data is updated, unless nothing of it differs from the snapshot. -/
  nothing_iff : r.data.isEmpty = false → r.isUnstored = false →
    (result.1 = .ok .nothingToSave ↔ r.changes.isEmpty = true)

namespace SavedAs

variable {q : Quoter} {r : Record} {events : List Event}

/-- A record without data, or without changes, is left as it is. -/
theorem of_nothing (hinserts : r.data.isEmpty = false → r.isUnstored = false ∧ r.changes.isEmpty = true) :
    SavedAs q r (.ok .nothingToSave, r) [] where
  inserted h := nomatch h
  updated h := nomatch h
  nothing _ := ⟨rfl, rfl⟩
  failed _ h := nomatch h
  inserts hdata h := nomatch (hinserts hdata).1.symm.trans h
  inserts_only := by
    rintro (h | ⟨pairs, ending, h⟩)
    · exact nomatch h
    · exact nomatch h
  nothing_iff hdata _ := ⟨fun _ => (hinserts hdata).2, fun _ => rfl⟩

theorem of_insert (hdata : r.data.isEmpty = false) (h : r.isUnstored = true) {answer : Except Error Assignments}
    (hrun : r.model.InsertRun q r.data answer events) :
    SavedAs q r (answer.map fun _ => .inserted, r.afterInsert answer) events where
  inserted hok := by
    cases answer with
    | error e => exact nomatch hok
    | ok stored => exact ⟨rfl, rfl⟩
  updated hok := by cases answer <;> exact nomatch hok
  nothing hok := by cases answer <;> exact nomatch hok
  failed e herror := by
    cases answer with
    | error e => rfl
    | ok stored => exact nomatch herror
  inserts _ _ := ⟨answer, hrun, rfl⟩
  inserts_only _ := ⟨hdata, h⟩
  nothing_iff _ hstored := nomatch h.symm.trans hstored

theorem of_update (h : r.isUnstored = false) (hchanges : r.changes.isEmpty = false) {key : Value}
    {answer : Except Error (Option Nat)}
    (hrun : r.model.UpdateRun q r.changes (only r.model.primaryCol key) answer events) :
    SavedAs q r (answer.map fun _ => .updated, r.afterUpdate answer) events where
  inserted hok := by cases answer <;> exact nomatch hok
  updated hok := by
    cases answer with
    | error e => exact nomatch hok
    | ok n =>
      obtain ⟨sql, hsql, hevents⟩ := hrun.eq_done hchanges fun _ => hasColumn_of_mem_changes
      exact ⟨rfl, rfl, key, sql, hsql, hevents⟩
  nothing hok := by cases answer <;> exact nomatch hok
  failed e herror := by
    cases answer with
    | error e => rfl
    | ok n => exact nomatch herror
  inserts _ hunstored := nomatch h.symm.trans hunstored
  inserts_only := by
    rintro (hok | ⟨pairs, ending, hmem⟩)
    · cases answer <;> exact nomatch hok
    · exact absurd hmem (hrun.not_insert q.dialect pairs ending)
  nothing_iff _ _ := by
    rw [hchanges]
    cases answer <;> simp [Except.map]

end SavedAs

theorem yields_saveSelf (d : Driver σ) (r : Record) : Yields (r.saveSelf d.traced) (SavedAs d.quoter r) := by
  refine yields_saveSelf_of_ways d (fun h => .of_nothing fun hdata => ?_) ?_ ?_
  · exact h.resolve_left fun hempty => nomatch hempty.symm.trans hdata
  · exact fun hdata h _ _ hrun => .of_insert hdata h hrun
  · exact fun h hchanges _ _ _ _ hrun => .of_update h hchanges hrun

/--
What a save comes to, for every record, whatever the driver answers.  With the given values placed, the record is
inserted exactly if it holds data and is new or has no key; any other record with data is left alone exactly if all that
it holds is alike to the snapshot.  A failure leaves behind nothing but the placed values.
-/
theorem save_outcome (d : Driver σ) (r : Record) (values : Option Assignments) (db : Database (List Event × σ)) :
    let merged := r.merged values
    let saved := r.save d.traced values db
    let inserts := merged.data.isEmpty = false ∧ (r.isNew = true ∨ merged.LacksKey)
    ∃ events, saved.2.events = db.events ++ events ∧
      (saved.1.1 = .ok .inserted → saved.1.2.isNew = false ∧ saved.1.2.data = saved.1.2.initial) ∧
      (saved.1.1 = .ok .updated →
        saved.1.2.isNew = r.isNew ∧ saved.1.2.data = saved.1.2.initial ∧
          ∃ key sql, r.model.updateSql d.quoter merged.changes.toList (only r.model.primaryCol key) = .ok sql ∧
            events = [.done (.execute sql.text sql.binds)]) ∧
      (saved.1.1 = .ok .nothingToSave →
        events = [] ∧ saved.1.2.initial = r.initial ∧ saved.1.2.isNew = r.isNew) ∧
      (∀ e, saved.1.1 = .error e →
        saved.1.2.initial = r.initial ∧ saved.1.2.related = r.related ∧ saved.1.2.isNew = r.isNew ∧
          saved.1.2.data = r.data.union ((values.getD ∅).filter fun name _ => r.model.hasColumn name) ∧
          saved.1.2.scratch = r.scratch.union ((values.getD ∅).filter fun name _ => !r.model.hasColumn name)) ∧
      -- the record is inserted
      (inserts → ∃ answer, r.model.InsertRun d.quoter merged.data answer events ∧
        saved.1.1 = answer.map fun _ => .inserted) ∧
      ((saved.1.1 = .ok .inserted ∨ ∃ pairs ending, ⟨r.model.insertCall d.dialect pairs, ending⟩ ∈ events) → inserts) ∧
      -- it is not inserted, and there is nothing to update
      (¬ inserts → merged.data.isEmpty = false →
        (saved.1.1 = .ok .nothingToSave ↔ ∀ col v, merged.data.get? col = some v → r.model.hasColumn col = true →
          v.alike ((r.initial.get? col).getD .null) = true)) := by
  intro merged saved inserts
  have hmerged : merged = _ := r.merged_eq values
  have hmodel : merged.model = r.model := by rw [hmerged]
  have hinitial : merged.initial = r.initial := by rw [hmerged]
  have hrelated : merged.related = r.related := by rw [hmerged]
  have hisNew : merged.isNew = r.isNew := by rw [hmerged]
  have hsave : saved = merged.saveSelf d.traced db := by
    cases values <;> rfl
  have hunstored : merged.isUnstored = true ↔ r.isNew = true ∨ merged.LacksKey := by rw [isUnstored_iff, hisNew]
  obtain ⟨events, htrace, h⟩ := yields_saveSelf d merged db
  rw [← hsave] at htrace h
  refine ⟨events, htrace, h.inserted, fun hok => ?_, fun hok => ?_, fun e herror => ?_, fun hinserts => ?_,
    fun hinserted => ?_, fun hnot hdata => ?_⟩
  · rw [← hisNew, ← hmodel]
    exact h.updated hok
  · obtain ⟨hsame, hevents⟩ := h.nothing hok
    rw [hsame]
    exact ⟨hevents, hinitial, hisNew⟩
  · rw [h.failed e herror]
    exact ⟨hinitial, hrelated, hisNew, by rw [hmerged], by rw [hmerged]⟩
  · rw [← hmodel]
    exact h.inserts hinserts.1 (hunstored.2 hinserts.2)
  · rw [← hmodel] at hinserted
    obtain ⟨hdata, hway⟩ := h.inserts_only hinserted
    exact ⟨hdata, hunstored.1 hway⟩
  · have hway : merged.isUnstored = false := by
      cases hway : merged.isUnstored with
      | false => rfl
      | true => exact absurd ⟨hdata, hunstored.1 hway⟩ hnot
    rw [h.nothing_iff hdata hway, changes_isEmpty_iff, hmodel, hinitial]

end Record

end RecordMapper
