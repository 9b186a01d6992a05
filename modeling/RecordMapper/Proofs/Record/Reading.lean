import RecordMapper.Proofs.Record.Statement

/-!
# Reading before a save

Looking a name up only reads, yet it may fill a column in, and so change what a following save writes.

* a save depends on no more of a record than on what it is about to write and to which row (`SavesLike`);
* looking a name up keeps this, unless it fills in a column that the save then writes as well (`FillsUnsaved`);
* so the statement of the save is the same, or else writes this column in addition (`get_then_save`).
-/

namespace RecordMapper

variable {σ : Type}

theorem Value.null_alike_iff {v : Value} : Value.null.alike v = true ↔ v = .null := by
  cases v <;> simp [alike]

namespace Record

variable {d : Driver σ} {r s : Record} {name : String}

/-! ### What a save depends on -/

/-- Both records are about to write the same entries to the same row. -/
structure SavesLike (s r : Record) : Prop where
  model : s.model = r.model
  isUnstored : s.isUnstored = r.isUnstored
  storedKey? : s.storedKey? = r.storedKey?
  unsaved : s.unsaved = r.unsaved

namespace SavesLike

theorem refl (r : Record) : r.SavesLike r := ⟨rfl, rfl, rfl, rfl⟩

theorem attach (r : Record) (name : String) (related : Related) : (r.attach name related).SavesLike r :=
  ⟨rfl, rfl, rfl, rfl⟩

theorem data (h : s.SavesLike r) (hway : r.isUnstored = true) : s.data = r.data := by
  have hunsaved := h.unsaved
  rw [unsaved_of_unstored (h.isUnstored.trans hway), unsaved_of_unstored hway] at hunsaved
  exact OrderedMap.ext hunsaved

theorem changes (h : s.SavesLike r) (hway : r.isUnstored = false) : s.changes = r.changes := by
  have hunsaved := h.unsaved
  rw [unsaved_of_stored (h.isUnstored.trans hway), unsaved_of_stored hway] at hunsaved
  exact OrderedMap.ext hunsaved

/-- Their saves come to the same, on every database. -/
theorem saveSelf (h : s.SavesLike r) (d : Driver σ) (db : Database σ) :
    (s.saveSelf d db).1.1 = (r.saveSelf d db).1.1 ∧ (s.saveSelf d db).2 = (r.saveSelf d db).2 := by
  cases hway : r.isUnstored with
  | true =>
    have hdata := h.data hway
    cases hempty : r.data.isEmpty with
    | true =>
      rw [saveSelf_of_empty hempty, saveSelf_of_empty (by rwa [hdata])]
      exact ⟨rfl, rfl⟩
    | false =>
      rw [saveSelf_of_unstored hempty hway, saveSelf_of_unstored (by rwa [hdata]) (h.isUnstored.trans hway)]
      unfold insertSelf
      rw [h.model, hdata]
      obtain ⟨_ | _, after⟩ := r.model.insert d r.data db
      · exact ⟨rfl, rfl⟩
      · exact ⟨rfl, rfl⟩
  | false =>
    have hway' : s.isUnstored = false := h.isUnstored.trans hway
    have hchanges := h.changes hway
    cases hempty : r.changes.isEmpty with
    | true =>
      rw [saveSelf_of_unchanged (data_isEmpty_of_stored hway) hway hempty,
        saveSelf_of_unchanged (data_isEmpty_of_stored hway') hway' (by rwa [hchanges])]
      exact ⟨rfl, rfl⟩
    | false =>
      obtain ⟨key, hkey⟩ := exists_storedKey hway
      have hempty' : s.changes.isEmpty = false := by rwa [hchanges]
      rw [saveSelf_of_changed (data_isEmpty_of_stored hway) hway hempty,
        saveSelf_of_changed (data_isEmpty_of_stored hway') hway' hempty']
      unfold updateSelf
      rw [writeChanges_of_changed hempty hkey, writeChanges_of_changed hempty' (h.storedKey?.trans hkey), hchanges,
        h.model]
      generalize (do return (← r.model.updateMatching d r.changes (only r.model.primaryCol key)).getD 0 :
        Operation σ Nat) db = answer
      obtain ⟨_ | _, after⟩ := answer
      · exact ⟨rfl, rfl⟩
      · exact ⟨rfl, rfl⟩

theorem statementOf (h : s.SavesLike r) (q : Quoter) : s.statementOf q = r.statementOf q := by
  funext entries
  rw [Record.statementOf, h.model, h.isUnstored, h.storedKey?]
  rfl

end SavesLike

/-! ### Filling a column in -/

/-- Looking the name up fills in a column that a save then writes: nothing is held under the name, which is that of a
column, and the record is to be inserted or its snapshot holds a value there. -/
structure FillsUnsaved (r : Record) (name : String) : Prop where
  missing : r.holds name = false
  hasColumn : r.model.hasColumn name = true
  differs : r.isUnstored = true ∨ ∃ v, r.initial.get? name = some v ∧ v ≠ .null

theorem get?_of_not_holds (h : r.holds name = false) : r.data.get? name = none := by
  rw [holds, Bool.or_eq_false_iff, Bool.or_eq_false_iff] at h
  simpa [OrderedMap.contains] using h.1.1

/-- The record with a column filled in. -/
def filled (r : Record) (name : String) : Record :=
  { r with data := r.data.insert name .null }

section Filled

variable (hmissing : r.data.get? name = none)

include hmissing

/-- A column without a value has changed if the snapshot holds one. -/
theorem isChanged_of_missing : r.isChanged name = true ↔ ∃ v, r.initial.get? name = some v ∧ v ≠ .null := by
  have hchanged : r.isChanged name = true ↔ (r.initial.get? name).getD .null ≠ .null := by
    simp [isChanged, hmissing, ← Value.null_alike_iff]
  rw [hchanged]
  cases r.initial.get? name with
  | none => simp
  | some v => simp

/-- A column that is filled in counts as the same value as before. -/
theorem getD_filled (col : String) : ((r.filled name).data.get? col).getD .null = (r.data.get? col).getD .null := by
  rw [filled, OrderedMap.get?_insert]
  split
  · rename_i hcol
    rw [← hcol, hmissing]
    rfl
  · rfl

theorem isChanged_filled : (r.filled name).isChanged = r.isChanged := by
  funext col
  rw [isChanged, getD_filled hmissing]
  rfl

theorem isUnstored_filled : (r.filled name).isUnstored = r.isUnstored := by
  rw [isUnstored, primaryKey, getD_filled hmissing]
  rfl

theorem storedKey?_filled : (r.filled name).storedKey? = r.storedKey? := by
  have hkey : ((r.filled name).data.get? r.model.primaryCol).filter (fun v => !v.isBlank) =
      (r.data.get? r.model.primaryCol).filter fun v => !v.isBlank := by
    rw [filled, OrderedMap.get?_insert]
    split
    · rename_i hcol
      rw [← hcol, hmissing]
      rfl
    · rfl
  exact congrArg ((r.initial.get? r.model.primaryCol).filter (fun v => !v.isBlank) <|> ·) hkey

theorem data_filled : (r.filled name).data.toList = r.data.toList ++ [(name, .null)] := by
  refine OrderedMap.toList_insert_of_not_mem ?_
  rw [OrderedMap.mem_keys_iff, OrderedMap.contains, hmissing]
  exact Bool.false_ne_true

/-- The column is added to what differs, if it is one that has changed. -/
theorem changes_filled (hcol : r.model.hasColumn name = true) :
    (r.filled name).changes.toList = r.changes.toList ++ if r.isChanged name then [(name, .null)] else [] := by
  show (r.filled name).data.toList.filter (fun e => r.model.hasColumn e.1 && (r.filled name).isChanged e.1) = _
  rw [data_filled hmissing, isChanged_filled hmissing, List.filter_append, List.filter_singleton, hcol, Bool.true_and,
    cond_eq_ite]
  rfl

end Filled

/-- A column that the save leaves out either way makes no difference to it. -/
theorem filled_savesLike (hmissing : r.holds name = false) (hcol : r.model.hasColumn name = true)
    (hfills : ¬ r.FillsUnsaved name) : (r.filled name).SavesLike r := by
  have hnone := get?_of_not_holds hmissing
  have hdiffers : ¬ (r.isUnstored = true ∨ r.isChanged name = true) := by
    rw [isChanged_of_missing hnone]
    exact fun h => hfills ⟨hmissing, hcol, h⟩
  obtain ⟨hway, hsame⟩ := not_or.1 hdiffers
  have hstored : r.isUnstored = false := Bool.eq_false_iff.2 hway
  refine ⟨rfl, isUnstored_filled hnone, storedKey?_filled hnone, ?_⟩
  rw [unsaved_of_stored hstored, unsaved_of_stored ((isUnstored_filled hnone).trans hstored), changes_filled hnone hcol,
    if_neg hsame, List.append_nil]

/-- A column that the save writes is written last. -/
theorem unsaved_filled (h : r.FillsUnsaved name) : (r.filled name).unsaved = r.unsaved ++ [(name, .null)] := by
  have hnone := get?_of_not_holds h.missing
  cases hway : r.isUnstored with
  | true =>
    rw [unsaved_of_unstored hway, unsaved_of_unstored ((isUnstored_filled hnone).trans hway), data_filled hnone]
  | false =>
    have hchanged : r.isChanged name = true := by
      rw [isChanged_of_missing hnone]
      exact h.differs.resolve_left (Bool.eq_false_iff.1 hway)
    rw [unsaved_of_stored hway, unsaved_of_stored ((isUnstored_filled hnone).trans hway),
      changes_filled hnone h.hasColumn, if_pos hchanged]

theorem statementOf_filled (hmissing : r.data.get? name = none) (q : Quoter) :
    (r.filled name).statementOf q = r.statementOf q := by
  funext entries
  rw [statementOf, isUnstored_filled hmissing, storedKey?_filled hmissing]
  rfl

/-! ### Looking a name up -/

/-- A column under whose name nothing is held is filled in. -/
theorem get_of_column (hmissing : r.holds name = false) (hcol : r.model.hasColumn name = true) (db : Database σ) :
    (r.get d name db).1.2 = r.filled name := by
  simp [get, hmissing, hcol, filled]
  rfl

/-- Looking a name up makes no difference to a save, unless it fills in a column that the save then writes. -/
theorem get_savesLike (hfills : ¬ r.FillsUnsaved name) (db : Database σ) :
    (r.get d name db).1.2.SavesLike r := by
  rcases r.get_record d name db with hsame | ⟨hcol, -⟩ | ⟨name', related, hattached⟩
  · rw [hsame]
    exact .refl r
  · cases hheld : r.holds name with
    | true =>
      have hsame : (r.get d name db).1.2 = r := by
        simp [get, hheld]
        rfl
      rw [hsame]
      exact .refl r
    | false =>
      rw [get_of_column hheld hcol]
      exact filled_savesLike hheld hcol hfills
  · rw [hattached]
    exact .attach r name' related

/--
A name is looked up before a save, whatever the driver answers.  Looking it up sends no statement, and the save comes to
the same with it as without it, calls and all, unless a column is filled in that the save then writes: the record is
then the one in which this column was set to `NULL`, and the statement of the save writes it in addition.
-/
theorem get_then_save (d : Driver σ) (r : Record) (name : String) (db : Database (List Event × σ)) :
    let read := r.get d.traced name db
    (∃ events, read.2.events = db.events ++ events ∧ OnlyReads events) ∧
      (∀ start, ∃ events, (r.save d.traced none start).2.events = start.events ++ events ∧
        statements events = (r.statementOf d.quoter r.unsaved).toList) ∧
      (¬ r.FillsUnsaved name →
        (∀ start, ∃ events, (read.1.2.save d.traced none start).2.events = start.events ++ events ∧
          statements events = (r.statementOf d.quoter r.unsaved).toList) ∧
        ∀ start, (read.1.2.save d.traced none start).1.1 = (r.save d.traced none start).1.1 ∧
          (read.1.2.save d.traced none start).2 = (r.save d.traced none start).2) ∧
      (r.FillsUnsaved name →
        read.1.2 = r.place name .null ∧
        ∀ start, ∃ events, (read.1.2.save d.traced none start).2.events = start.events ++ events ∧
          statements events = (r.statementOf d.quoter (r.unsaved ++ [(name, .null)])).toList) := by
  intro read
  refine ⟨yields_get d r name db, yields_saveSelf_statement d r, fun hfills => ?_, fun hfills => ?_⟩
  · have hlike : read.1.2.SavesLike r := get_savesLike hfills db
    refine ⟨?_, hlike.saveSelf d.traced⟩
    rw [← hlike.unsaved, ← hlike.statementOf]
    exact yields_saveSelf_statement d read.1.2
  · have hread : read.1.2 = r.filled name := get_of_column hfills.missing hfills.hasColumn db
    rw [hread]
    refine ⟨(place_of_column hfills.hasColumn).symm, ?_⟩
    rw [← unsaved_filled hfills, ← statementOf_filled (get?_of_not_holds hfills.missing)]
    exact yields_saveSelf_statement d (r.filled name)

namespace Example

/-- A stored post, the title of which was removed from the record. -/
def untitled : Record :=
  (ofRow posts .writable (.ofList [("id", .int 1), ("title", .text "a")])).unset "title"

end Example

open Example in
/-- Looking up a title that was removed has the save write it as `NULL`, where it would have written nothing; and a new
record, of which nothing was to be saved, is inserted. -/
theorem get_writes_null :
    let read := untitled.get driver "title" (database {})
    let readNew := (new posts .writable).get driver "title" (database {})
    read.2.events = [] ∧
      (untitled.save driver none (database {})).1.1 = .ok .nothingToSave ∧
      statements (untitled.save driver none (database {})).2.events = [] ∧
      statements (read.1.2.save driver none read.2).2.events =
        [.execute "UPDATE posts SET title = ?1 WHERE id = ?2" [.null, .int 1]] ∧
      readNew.2.events = [] ∧
      statements ((new posts .writable).save driver none (database {})).2.events = [] ∧
      statements (readNew.1.2.save driver none readNew.2).2.events =
        [.execute "INSERT INTO posts (title) VALUES (?1)" [.null]] :=
  ⟨rfl, rfl, rfl, rfl, rfl, rfl, rfl⟩

end Record

end RecordMapper
