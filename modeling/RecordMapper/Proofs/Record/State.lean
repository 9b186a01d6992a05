import RecordMapper.Record.Save

/-!
# What changes in a record

Placing values in a record, and saving it, changes only what the record holds of its own row.

* model, access and related rows stay what they are (`Continues`, `save_continues`), so putting back the rest undoes
  a save (`restored_save`);
* the record of a fetched row holds the columns of the table as its data and as its snapshot, and everything else
  aside, each in the order of the row (`holdsRow_ofRow`).
-/

namespace RecordMapper

/-! ### Maps -/

namespace OrderedMap

variable {α β : Type} [DecidableEq α]

theorem toList_insert_of_not_mem {m : OrderedMap α β} {k : α} {v : β} (h : k ∉ m.keys) :
    (m.insert k v).toList = m.toList ++ [(k, v)] :=
  Entries.put_of_not_mem h

/-- Entries under new keys are put last. -/
private theorem toList_foldl_insert {es : List (α × β)} {m : OrderedMap α β} (hnodup : (es.map Prod.fst).Nodup)
    (hnew : ∀ k ∈ es.map Prod.fst, k ∉ m.keys) :
    (es.foldl (fun m e => m.insert e.1 e.2) m).toList = m.toList ++ es := by
  induction es generalizing m with
  | nil => simp
  | cons e es ih =>
    rw [List.map_cons, List.nodup_cons] at hnodup
    rw [List.map_cons, List.forall_mem_cons] at hnew
    have hkeys : (m.insert e.1 e.2).keys = m.keys ++ [e.1] := by rw [keys_insert, if_neg hnew.1]
    have hrest : ∀ k ∈ es.map Prod.fst, k ∉ (m.insert e.1 e.2).keys := by
      intro k hk hmem
      rw [hkeys, List.mem_append, List.mem_singleton] at hmem
      rcases hmem with hmem | rfl
      · exact hnew.2 k hk hmem
      · exact hnodup.1 hk
    rw [List.foldl_cons, ih hnodup.2 hrest, toList_insert_of_not_mem hnew.1, List.append_assoc]
    rfl

/-- Maps without a key in common are put one after the other. -/
theorem toList_union_of_disjoint {m n : OrderedMap α β} (h : ∀ k ∈ n.keys, k ∉ m.keys) :
    (m.union n).toList = m.toList ++ n.toList :=
  toList_foldl_insert n.nodup_keys h

theorem empty_union (n : OrderedMap α β) : (∅ : OrderedMap α β).union n = n :=
  ext (toList_union_of_disjoint fun _ _ => List.not_mem_nil)

end OrderedMap

namespace Record

variable {σ : Type}

/-! ### What stays -/

/-- A record is another one with other values: it is of the same model and has the same related rows. -/
structure Continues (r before : Record) : Prop where
  model : r.model = before.model
  access : r.access = before.access
  related : r.related = before.related

namespace Continues

theorem refl (r : Record) : r.Continues r := ⟨rfl, rfl, rfl⟩

theorem trans {r s t : Record} (h : r.Continues s) (h' : s.Continues t) : r.Continues t :=
  ⟨h.model.trans h'.model, h.access.trans h'.access, h.related.trans h'.related⟩

/-- The rest put back, the record is the one before. -/
theorem restored {r before : Record} (h : r.Continues before) : r.restored before = before := by
  obtain ⟨hmodel, haccess, hrelated⟩ := h
  cases r
  cases before
  cases hmodel
  cases haccess
  cases hrelated
  rfl

end Continues

theorem place_continues (r : Record) (name : String) (v : Value) : (r.place name v).Continues r := by
  unfold place
  split
  · exact ⟨rfl, rfl, rfl⟩
  · exact ⟨rfl, rfl, rfl⟩

private theorem foldl_place (es : List (String × Value)) (r : Record) :
    es.foldl (fun r e => r.place e.1 e.2) r =
      { r with
        data := (es.filter fun e => r.model.hasColumn e.1).foldl (fun m e => m.insert e.1 e.2) r.data
        scratch := (es.filter fun e => !r.model.hasColumn e.1).foldl (fun m e => m.insert e.1 e.2) r.scratch } := by
  induction es generalizing r with
  | nil =>
    cases r
    rfl
  | cons e es ih =>
    rw [List.foldl_cons, ih, List.filter_cons, List.filter_cons]
    cases hcol : r.model.hasColumn e.1 <;> simp [place, hcol]

/-- Values are placed in the data, if they are those of columns, or else aside. -/
theorem merge_eq (r : Record) (values : Assignments) :
    r.merge values =
      { r with
        data := r.data.union (values.filter fun name _ => r.model.hasColumn name)
        scratch := r.scratch.union (values.filter fun name _ => !r.model.hasColumn name) } :=
  foldl_place values.toList r

theorem merge_continues (r : Record) (values : Assignments) : (r.merge values).Continues r := by
  rw [merge_eq]
  exact ⟨rfl, rfl, rfl⟩

theorem adopt_continues (r : Record) (stored : Assignments) : (r.adopt stored).Continues r := by
  have h := merge_continues { r with data := {} } stored
  exact ⟨h.model, h.access, h.related⟩

/-- What holds of a record, and still does when it adopts a row or takes its data as the snapshot, holds after a save. -/
theorem saveSelf_induction (d : Driver σ) {r : Record} {P : Record → Prop} (hkept : P r)
    (hadopt : ∀ stored, P (r.adopt stored)) (hsnapshot : P r.snapshot) (db : Database σ) : P (r.saveSelf d db).1.2 := by
  unfold saveSelf
  split
  · exact hkept
  · split
    · unfold insertSelf
      cases r.model.insert d r.data db with
      | mk result db =>
        cases result with
        | error e => exact hkept
        | ok stored => exact hadopt stored
    · split
      · exact hkept
      · unfold updateSelf
        cases r.writeChanges d r.model db with
        | mk result db =>
          cases result with
          | error e => exact hkept
          | ok n => exact hsnapshot

theorem saveSelf_continues (d : Driver σ) (r : Record) (db : Database σ) :
    (r.saveSelf d db).1.2.Continues r :=
  saveSelf_induction d (P := fun s => s.Continues r) (.refl r) (adopt_continues r) ⟨rfl, rfl, rfl⟩ db

theorem save_continues (d : Driver σ) (r : Record) (values : Option Assignments) (db : Database σ) :
    (r.save d values db).1.2.Continues r := by
  cases values with
  | none => exact saveSelf_continues d r db
  | some values => exact (saveSelf_continues d (r.merge values) db).trans (merge_continues r values)

/-- Whatever a save changed in a record, putting back the rest undoes it. -/
theorem restored_save (d : Driver σ) (r : Record) (values : Option Assignments) (db : Database σ) :
    (r.save d values db).1.2.restored r = r :=
  (save_continues d r values db).restored

/-- A record that is not new does not become new by a save. -/
theorem save_isNew (d : Driver σ) {r : Record} (h : r.isNew = false) (db : Database σ) :
    (r.save d none db).1.2.isNew = false :=
  saveSelf_induction d (P := fun s => s.isNew = false) h (fun _ => rfl) h db

/-! ### The record of a row -/

/-- The record holds a stored row of a model: the columns of the table as data and as snapshot, the rest aside. -/
structure HoldsRow (r : Record) (m : Model) (access : Access) (row : Assignments) : Prop where
  model : r.model = m
  access : r.access = access
  data : r.data = row.filter fun name _ => m.hasColumn name
  initial : r.initial = r.data
  scratch : r.scratch = row.filter fun name _ => !m.hasColumn name
  related : r.related = []
  isNew : r.isNew = false

/-- The record of a fetched row holds that row. -/
theorem holdsRow_ofRow (m : Model) (access : Access) (row : Assignments) :
    (ofRow m access row).HoldsRow m access row := by
  have hload : (new m access).load row = ((new m access).merge row).snapshot := by
    unfold load snapshotIfNone
    rw [merge_eq, merge_eq, if_pos]
    · rfl
    · rfl
  unfold ofRow
  rw [hload, merge_eq]
  exact
    { model := rfl
      access := rfl
      data := OrderedMap.empty_union _
      initial := rfl
      scratch := OrderedMap.empty_union _
      related := rfl
      isNew := rfl }

end Record

end RecordMapper
