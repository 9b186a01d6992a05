import Mathlib.Data.List.Forall2
import Mathlib.Data.List.Perm.Basic
import RecordMapper.Model.Write

/-!
# The statements of a bulk insert

The rows of a bulk insert are sorted into batches by the columns that they write, and every batch becomes one
statement, except that rows without values are inserted one by one.

* every row stands in exactly one tuple of one statement, under its place among all rows (`placed_inserts`);
* the placeholders of a statement are numbered through, and each is bound to the value that stands there
  (`WritesRows`, `writesRows_batchSql`).
-/

namespace RecordMapper.Model

/-! ### Rows and batches -/

/-- The values that a row writes in a bulk insert: those of columns, without a blank primary key. -/
def writtenCells (m : Model) (row : Assignments) : List (String × Value) :=
  (row.toList.filter fun e => m.hasColumn e.1).filter fun e => e.1 ≠ m.primaryCol || !e.2.isBlank

/-- The rows of a batch as columns with values, each with its place among all rows. -/
def Batch.placed (b : Batch) : List (List (String × Value) × Nat) :=
  b.2.map fun row => (b.1.zip row.2, row.1)

/-- A batch has rows, and each of them has one value for each column. -/
structure Batch.IsFilled (b : Batch) : Prop where
  nonempty : b.2 ≠ []
  width : ∀ row ∈ b.2, row.2.length = b.1.length

private theorem zip_map_fst_snd {α β : Type} (es : List (α × β)) : (es.map Prod.fst).zip (es.map Prod.snd) = es := by
  rw [List.zip_map']
  exact List.map_id es

private theorem addToBatches_nil (place : Nat) (pairs : List (String × Value)) :
    addToBatches place pairs [] = [(pairs.map Prod.fst, [(place, pairs.map Prod.snd)])] := rfl

private theorem addToBatches_same {place : Nat} {pairs : List (String × Value)} {b : Batch}
    (h : b.1 = pairs.map Prod.fst) (batches : List Batch) :
    addToBatches place pairs (b :: batches) = (b.1, b.2 ++ [(place, pairs.map Prod.snd)]) :: batches := by
  simp [addToBatches, Entries.find?, Entries.put, h]

private theorem addToBatches_other {place : Nat} {pairs : List (String × Value)} {b : Batch}
    (h : b.1 ≠ pairs.map Prod.fst) (batches : List Batch) :
    addToBatches place pairs (b :: batches) = b :: addToBatches place pairs batches := by
  simp [addToBatches, Entries.find?, Entries.put, h]

/-- A row goes to one batch, the others stay as they are. -/
private theorem placed_addToBatches (place : Nat) (pairs : List (String × Value)) (batches : List Batch) :
    ((addToBatches place pairs batches).flatMap Batch.placed).Perm (batches.flatMap Batch.placed ++ [(pairs, place)]) := by
  induction batches with
  | nil => simp [addToBatches_nil, Batch.placed, zip_map_fst_snd]
  | cons b batches ih =>
    by_cases hcols : b.1 = pairs.map Prod.fst
    · rw [addToBatches_same hcols, List.flatMap_cons, List.flatMap_cons, List.append_assoc]
      simp only [Batch.placed, List.map_append, List.map_cons, List.map_nil, hcols, zip_map_fst_snd,
        List.append_assoc]
      exact List.Perm.append_left _ List.perm_append_comm
    · rw [addToBatches_other hcols, List.flatMap_cons, List.flatMap_cons, List.append_assoc]
      exact List.Perm.append_left _ ih

private theorem placed_batchesFrom (place : Nat) (rows : List (List (String × Value))) (batches : List Batch) :
    ((batchesFrom place batches rows).flatMap Batch.placed).Perm
      (batches.flatMap Batch.placed ++ rows.zipIdx place) := by
  induction rows generalizing place batches with
  | nil => simp [batchesFrom]
  | cons row rows ih =>
    have hadded := (placed_addToBatches place row batches).append_right (rows.zipIdx (place + 1))
    rw [List.append_assoc] at hadded
    exact (ih (place + 1) (addToBatches place row batches)).trans hadded

private theorem isFilled_addToBatches {place : Nat} {pairs : List (String × Value)} {batches : List Batch}
    (h : ∀ b ∈ batches, b.IsFilled) : ∀ b ∈ addToBatches place pairs batches, b.IsFilled := by
  induction batches with
  | nil =>
    rw [addToBatches_nil, List.forall_mem_singleton]
    exact ⟨by simp, by simp⟩
  | cons b batches ih =>
    obtain ⟨hb, hbatches⟩ := List.forall_mem_cons.1 h
    by_cases hcols : b.1 = pairs.map Prod.fst
    · rw [addToBatches_same hcols, List.forall_mem_cons]
      refine ⟨⟨by simp, ?_⟩, hbatches⟩
      rw [List.forall_mem_append]
      exact ⟨hb.width, by simp [hcols]⟩
    · rw [addToBatches_other hcols, List.forall_mem_cons]
      exact ⟨hb, ih hbatches⟩

private theorem isFilled_batchesFrom {place : Nat} {rows : List (List (String × Value))} {batches : List Batch}
    (h : ∀ b ∈ batches, b.IsFilled) : ∀ b ∈ batchesFrom place batches rows, b.IsFilled := by
  induction rows generalizing place batches with
  | nil => exact h
  | cons row rows ih => exact ih (isFilled_addToBatches h)

/-! ### Statements -/

/-- The statements of a batch; rows without values are inserted one by one. -/
def Batch.statements (b : Batch) : List Batch :=
  if b.1.isEmpty then b.2.map fun row => (b.1, [row]) else [b]

/-- The statements of a bulk insert in the order in which they are sent, each with the rows that it inserts. -/
def inserts (rows : List (List (String × Value))) : List Batch :=
  (batchesFrom 0 [] rows).flatMap Batch.statements

theorem placed_statements (b : Batch) : b.statements.flatMap Batch.placed = b.placed := by
  unfold Batch.statements
  split
  · rw [List.flatMap_map]
    exact List.flatMap_pure_eq_map _ _
  · exact List.flatMap_singleton Batch.placed b

/-- Every row is inserted by one statement, once. -/
theorem placed_inserts (rows : List (List (String × Value))) :
    ((inserts rows).flatMap Batch.placed).Perm rows.zipIdx := by
  rw [inserts, List.flatMap_assoc]
  simp only [placed_statements]
  exact placed_batchesFrom 0 rows []

/-- Every row has one place. -/
theorem places_inserts (rows : List (List (String × Value))) :
    (((inserts rows).flatMap Batch.placed).map Prod.snd).Perm (List.range rows.length) := by
  have h := (placed_inserts rows).map Prod.snd
  rwa [List.zipIdx_map_snd, ← List.range_eq_range'] at h

theorem nodup_places (rows : List (List (String × Value))) :
    (((inserts rows).flatMap Batch.placed).map Prod.snd).Nodup :=
  (places_inserts rows).nodup_iff.2 List.nodup_range

theorem mem_places {rows : List (List (String × Value))} {place : Nat} :
    place ∈ ((inserts rows).flatMap Batch.placed).map Prod.snd ↔ place < rows.length :=
  (places_inserts rows).mem_iff.trans List.mem_range

theorem isFilled_statements {b : Batch} (h : b.IsFilled) : ∀ st ∈ b.statements, st.IsFilled := by
  unfold Batch.statements
  split
  · rw [List.forall_mem_map]
    exact fun row hrow => ⟨List.cons_ne_nil row [], List.forall_mem_singleton.2 (h.width row hrow)⟩
  · exact List.forall_mem_singleton.2 h

theorem isFilled_inserts {rows : List (List (String × Value))} : ∀ b ∈ inserts rows, b.IsFilled := by
  intro st hst
  obtain ⟨b, hb, hst⟩ := List.mem_flatMap.1 hst
  exact isFilled_statements (isFilled_batchesFrom (List.forall_mem_nil _) b hb) st hst

/-- A statement without columns inserts one row. -/
theorem single_of_no_columns {rows : List (List (String × Value))} {b : Batch} (hb : b ∈ inserts rows)
    (hcols : b.1 = []) : ∃ place, b = ([], [(place, [])]) := by
  have hfilled := isFilled_inserts b hb
  obtain ⟨batch, -, hst⟩ := List.mem_flatMap.1 hb
  unfold Batch.statements at hst
  split at hst
  · obtain ⟨⟨place, values⟩, -, rfl⟩ := List.mem_map.1 hst
    have hcols : batch.1 = [] := hcols
    have hwidth : values.length = batch.1.length := hfilled.width (place, values) (List.mem_singleton_self _)
    rw [hcols, List.length_nil, List.length_eq_zero_iff] at hwidth
    rw [hcols, hwidth]
    exact ⟨place, rfl⟩
  · rename_i hne
    obtain rfl := List.mem_singleton.1 hst
    exact absurd (List.isEmpty_iff.2 hcols) hne

/-! ### The text of a statement -/

/-- The statement of a batch. -/
def batchSql (m : Model) (d : Dialect) (b : Batch) : Sql :=
  if b.1.isEmpty then m.insertDefaults else m.insertRows d b.1 (b.2.map Prod.snd)

/-- The numbers of the placeholders in each tuple. -/
def tupleNumbers (bound : Nat) : List (List Value) → List (List Nat)
  | [] => []
  | row :: rows => List.range' (bound + 1) row.length :: tupleNumbers (bound + row.length) rows

/--
A statement inserts the rows of a batch: a row of defaults, or one tuple for each row, with placeholders that are
numbered through and bound to the values of the row.
-/
inductive WritesRows (m : Model) (d : Dialect) : Batch → Sql → Prop where
  | defaults (place : Nat) :
    WritesRows m d ([], [(place, [])]) { text := "INSERT INTO " ++ m.tableName ++ " DEFAULT VALUES", binds := [] }
  | rows {cols : List String} {rows : List (Nat × List Value)} {numbers : List (List Nat)} {binds : List Value}
      (hcols : cols ≠ []) (hrows : rows ≠ []) (hwidth : ∀ row ∈ rows, row.2.length = cols.length)
      (hnumbers : numbers.flatten = List.range' 1 binds.length)
      (hbinds : List.Forall₂
        (fun tuple row => List.Forall₂ (fun n v => binds[n - 1]? = some v) tuple row.2) numbers rows) :
    WritesRows m d (cols, rows)
      { text := "INSERT INTO " ++ m.tableName ++ " (" ++ ", ".intercalate cols ++ ") VALUES " ++
          ", ".intercalate (numbers.map fun tuple => "(" ++ ", ".intercalate (tuple.map d.placeholder) ++ ")")
        binds }

private theorem tuples_eq (d : Dialect) (bound : Nat) (rows : List (List Value)) :
    tuples d bound rows =
      (tupleNumbers bound rows).map fun tuple => "(" ++ ", ".intercalate (tuple.map d.placeholder) ++ ")" := by
  induction rows generalizing bound with
  | nil => rfl
  | cons row rows ih => rw [tuples, tupleNumbers, List.map_cons, ih, placeholders]

private theorem flatten_tupleNumbers (bound : Nat) (rows : List (List Value)) :
    (tupleNumbers bound rows).flatten = List.range' (bound + 1) rows.flatten.length := by
  induction rows generalizing bound with
  | nil => rfl
  | cons row rows ih =>
    rw [tupleNumbers, List.flatten_cons, ih, List.flatten_cons, List.length_append, Nat.add_right_comm bound]
    exact List.range'_append_1

/-- The numbers after `before` others stand for the values after them. -/
private theorem numbered_row (before row after : List Value) :
    List.Forall₂ (fun n v => (before ++ row ++ after)[n - 1]? = some v)
      (List.range' (before.length + 1) row.length) row := by
  rw [List.forall₂_iff_get]
  refine ⟨List.length_range', fun i hi hrow => ?_⟩
  simp only [List.get_eq_getElem, List.getElem_range', Nat.one_mul]
  have hplace : before.length + 1 + i - 1 = before.length + i := by omega
  rw [hplace, List.append_assoc, List.getElem?_append_right (Nat.le_add_right _ _), Nat.add_sub_cancel_left,
    List.getElem?_append_left hrow, List.getElem?_eq_getElem hrow]

private theorem numbered_rows (before : List Value) (rows : List (Nat × List Value)) :
    List.Forall₂
      (fun tuple row => List.Forall₂ (fun n v => (before ++ (rows.map Prod.snd).flatten)[n - 1]? = some v) tuple row.2)
      (tupleNumbers before.length (rows.map Prod.snd)) rows := by
  induction rows generalizing before with
  | nil => exact .nil
  | cons row rows ih =>
    rw [List.map_cons, tupleNumbers, List.flatten_cons, ← List.append_assoc]
    refine .cons (numbered_row before row.2 _) ?_
    rw [← List.length_append]
    exact ih (before ++ row.2)

/-- The statement of a batch inserts its rows. -/
theorem writesRows_batchSql (m : Model) (d : Dialect) {rows : List (List (String × Value))} {b : Batch}
    (hb : b ∈ inserts rows) : WritesRows m d b (m.batchSql d b) := by
  obtain ⟨cols, values⟩ := b
  cases cols with
  | nil =>
    obtain ⟨place, hsingle⟩ := single_of_no_columns hb rfl
    rw [hsingle]
    exact .defaults place
  | cons col cols =>
    have hfilled := isFilled_inserts _ hb
    have hnumbers := flatten_tupleNumbers 0 (values.map Prod.snd)
    have hwrites := WritesRows.rows (m := m) (d := d) (List.cons_ne_nil col cols) hfilled.nonempty hfilled.width
      hnumbers (numbered_rows [] values)
    rwa [← tuples_eq] at hwrites

end RecordMapper.Model
