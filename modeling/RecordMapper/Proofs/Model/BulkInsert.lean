import RecordMapper.Proofs.Model.Batches
import RecordMapper.Proofs.Model.Runs

/-!
# The runs of bulk inserts

Which calls a bulk insert makes, whichever of them fail.

* its rows are checked first, then one statement is sent after the other (`insertMany_eq`);
* a statement that succeeds takes the keys from its rows, or from the key that is reported (`insertStatement_eq_ok`);
* it ends with the first statement that fails or whose keys are not reported; those before it are done (`BulkRun`,
  `InsertManyRun`, `yields_insertMany`).
-/

namespace RecordMapper.Model

variable {σ : Type}

/-! ### One statement after the other -/

/-- Sends the statement of a batch and puts the keys of its rows in their places. -/
def insertStatement (d : Driver σ) (m : Model) (keys : List Value) (b : Batch) : Operation σ (List Value) := do
  let _ ← send d (m.batchSql d.dialect b)
  match b.1.idxOf? m.primaryCol with
  | some i => return setKeys keys (b.2.map fun row => (row.1, row.2[i]?.getD .null))
  | none =>
    let generated ← m.generatedKeys d b.2.length
    return setKeys keys ((b.2.map Prod.fst).zip generated)

/-- Sends the statements of batches in order. -/
def insertStatements (d : Driver σ) (m : Model) (keys : List Value) (batches : List Batch) :
    Operation σ (List Value) :=
  batches.foldlM (m.insertStatement d) keys

theorem insertStatements_cons (d : Driver σ) (m : Model) (keys : List Value) (b : Batch) (batches : List Batch) :
    m.insertStatements d keys (b :: batches) =
      m.insertStatement d keys b >>= fun keys => m.insertStatements d keys batches :=
  List.foldlM_cons

private theorem set_generated (d : Dialect) (v : Value) (keys : List Value) (place : Nat) :
    keys.set place ((keysFrom d v 1).getLast?.getD .null) = setKeys keys ([place].zip (keysFrom d v 1)) := by
  unfold keysFrom
  cases v.int64? <;> rfl

private theorem insertEmpty_eq (d : Driver σ) (m : Model) (keys : List Value) (rows : List (Nat × List Value)) :
    m.insertEmpty d keys rows = m.insertStatements d keys (rows.map fun row => ([], [row])) := by
  induction rows generalizing keys with
  | nil => rfl
  | cons row rows ih =>
    rw [List.map_cons, insertStatements_cons, insertEmpty, insertStatement, bind_assoc]
    refine congrArg _ (funext fun _ => ?_)
    simp only [generatedKeys, List.idxOf?_nil, bind_assoc, pure_bind, ih, set_generated]
    rfl

private theorem insertBatch_eq (d : Driver σ) (m : Model) (keys : List Value) (b : Batch) :
    m.insertBatch d keys b = m.insertStatements d keys b.statements := by
  obtain ⟨cols, rows⟩ := b
  cases cols with
  | nil => exact insertEmpty_eq d m keys rows
  | cons col cols =>
    show _ = m.insertStatement d keys (col :: cols, rows) >>= pure
    rw [bind_pure]
    rfl

private theorem insertBatches_eq (d : Driver σ) (m : Model) (keys : List Value) (batches : List Batch) :
    batches.foldlM (m.insertBatch d) keys = m.insertStatements d keys (batches.flatMap Batch.statements) := by
  induction batches generalizing keys with
  | nil => rfl
  | cons b batches ih =>
    rw [List.foldlM_cons, List.flatMap_cons, insertStatements, List.foldlM_append, insertBatch_eq]
    exact congrArg _ (funext ih)

/-- A bulk insert is checked as a whole, then its statements are sent. -/
theorem insertMany_eq (d : Driver σ) (m : Model) (rows : List Assignments) :
    m.insertMany d rows = Database.result (rows.mapM m.bulkPairs) >>= fun pairs =>
      m.insertStatements d (List.replicate rows.length .null) (inserts pairs) := by
  unfold insertMany
  simp only [insertBatches_eq, inserts]

theorem bulkPairs_eq_ok_iff {m : Model} {row : Assignments} {pairs : List (String × Value)} :
    m.bulkPairs row = .ok pairs ↔
      pairs = m.writtenCells row ∧ ∀ e ∈ row.toList, m.hasColumn e.1 = true → e.2.isScalar = true := by
  unfold bulkPairs
  constructor
  · intro h
    cases hwritten : m.writable row.toList with
    | error e => simp [hwritten, Except.map] at h
    | ok written =>
      obtain ⟨rfl, hscalar⟩ := writable_eq_ok_iff.1 hwritten
      rw [hwritten] at h
      exact ⟨(Except.ok.inj h).symm, hscalar⟩
  · rintro ⟨rfl, hscalar⟩
    rw [writable_eq_ok_iff.2 ⟨rfl, hscalar⟩]
    rfl

/-- What a bulk insert writes are the values of columns, and each of them must be a single value. -/
theorem mapM_bulkPairs_eq_ok_iff {m : Model} {rows : List Assignments} {pairs : List (List (String × Value))} :
    rows.mapM m.bulkPairs = .ok pairs ↔
      pairs = rows.map m.writtenCells ∧
        ∀ row ∈ rows, ∀ e ∈ row.toList, m.hasColumn e.1 = true → e.2.isScalar = true := by
  induction rows generalizing pairs with
  | nil => exact ⟨fun h => ⟨(Except.ok.inj h).symm, List.forall_mem_nil _⟩, fun h => h.1 ▸ rfl⟩
  | cons row rows ih =>
    rw [List.mapM_cons, List.forall_mem_cons, List.map_cons]
    constructor
    · intro h
      cases hrow : m.bulkPairs row with
      | error e =>
        rw [hrow] at h
        exact nomatch h
      | ok written =>
        cases hrows : rows.mapM m.bulkPairs with
        | error e =>
          rw [hrow, hrows] at h
          exact nomatch h
        | ok rest =>
          obtain ⟨rfl, hscalar⟩ := bulkPairs_eq_ok_iff.1 hrow
          obtain ⟨rfl, hscalars⟩ := ih.1 hrows
          rw [hrow, hrows] at h
          exact ⟨(Except.ok.inj h).symm, hscalar, hscalars⟩
    · rintro ⟨rfl, hscalar, hscalars⟩
      rw [bulkPairs_eq_ok_iff.2 ⟨rfl, hscalar⟩, ih.2 ⟨rfl, hscalars⟩]
      rfl

/-! ### What succeeds -/

/-- The statement of a batch that succeeds, and where the keys come from: the rows, or the key that is reported. -/
theorem insertStatement_eq_ok {d : Driver σ} {m : Model} {b : Batch} {keys keys' : List Value} {db db' : Database σ}
    (h : m.insertStatement d keys b db = (.ok keys', db')) :
    ∃ affected s, (d.execute (m.batchSql d.dialect b).text (m.batchSql d.dialect b).binds).run db.store =
        (.ok affected, s) ∧
      ((∃ i, b.1.idxOf? m.primaryCol = some i ∧ db'.store = s ∧
          keys' = setKeys keys (b.2.map fun row => (row.1, row.2[i]?.getD .null))) ∨
        (m.primaryCol ∉ b.1 ∧ ∃ v, (d.lastInsertId (m.sequence? d.dialect)).run s = (.ok v, db'.store) ∧
          keys' = setKeys keys ((b.2.map Prod.fst).zip (keysFrom d.dialect v b.2.length)))) := by
  obtain ⟨affected, sent, hsend, h⟩ := Operation.bind_eq_ok_iff.1 h
  obtain ⟨s, hrun, rfl⟩ := Database.call_eq_ok_iff.1 hsend
  refine ⟨affected, s, hrun, ?_⟩
  cases hplace : b.1.idxOf? m.primaryCol with
  | some i =>
    rw [hplace] at h
    obtain ⟨rfl, rfl⟩ := Operation.pure_eq_ok_iff.1 h
    exact .inl ⟨i, rfl, rfl, rfl⟩
  | none =>
    rw [hplace] at h
    obtain ⟨generated, asked, hask, h⟩ := Operation.bind_eq_ok_iff.1 h
    obtain ⟨rfl, rfl⟩ := Operation.pure_eq_ok_iff.1 h
    obtain ⟨v, after, hcall, hpure⟩ := Operation.bind_eq_ok_iff.1 hask
    obtain ⟨rfl, rfl⟩ := Operation.pure_eq_ok_iff.1 hpure
    obtain ⟨s', hrun', rfl⟩ := Database.call_eq_ok_iff.1 hcall
    exact .inr ⟨List.idxOf?_eq_none_iff.1 hplace, v, hrun', rfl⟩

/-- The rows of a bulk insert that succeeds hold single values in their columns, and its statements succeed. -/
theorem insertMany_eq_ok {d : Driver σ} {m : Model} {rows : List Assignments} {keys : List Value}
    {db db' : Database σ} (h : m.insertMany d rows db = (.ok keys, db')) :
    (∀ row ∈ rows, ∀ e ∈ row.toList, m.hasColumn e.1 = true → e.2.isScalar = true) ∧
      m.insertStatements d (List.replicate rows.length .null) (inserts (rows.map m.writtenCells)) db =
        (.ok keys, db') := by
  rw [insertMany_eq] at h
  obtain ⟨pairs, checked, hchecked, h⟩ := Operation.bind_eq_ok_iff.1 h
  obtain ⟨hpairs, rfl⟩ := Prod.mk.inj hchecked
  obtain ⟨rfl, hscalar⟩ := mapM_bulkPairs_eq_ok_iff.1 hpairs
  exact ⟨hscalar, h⟩

/-! ### Traces -/

/-- The statement of a batch, as a call. -/
def batchCall (m : Model) (d : Dialect) (b : Batch) : Call :=
  .execute (m.batchSql d b).text (m.batchSql d b).binds

/-- The question for the keys that the database made up. -/
def keyCall (m : Model) (d : Dialect) : Call :=
  .lastInsertId (m.sequence? d)

/-- The calls for a batch that is inserted; generated keys are asked for if the rows bring none along. -/
def insertEvents (m : Model) (d : Dialect) (b : Batch) : List Event :=
  .done (m.batchCall d b) :: if m.primaryCol ∈ b.1 then [] else [.done (m.keyCall d)]

/-- The runs of the statements of a bulk insert, with the batches whose statement is done. -/
inductive BulkRun (d : Dialect) (m : Model) :
    List Batch → List Batch → Except Error (List Value) → List Event → Prop where
  /-- All batches are inserted. -/
  | inserted (batches : List Batch) (keys : List Value) :
    BulkRun d m batches batches (.ok keys) (batches.flatMap (m.insertEvents d))
  /-- A statement fails after those before it are done. -/
  | notInserted (before : List Batch) (b : Batch) (after : List Batch) (e : Error) :
    BulkRun d m (before ++ b :: after) before (.error e)
      (before.flatMap (m.insertEvents d) ++ [.failed (m.batchCall d b) e])
  /-- The keys of a statement that is done stay unknown. -/
  | noKey (before : List Batch) {b : Batch} (hkey : m.primaryCol ∉ b.1) (after : List Batch) (e : Error) :
    BulkRun d m (before ++ b :: after) (before ++ [b]) (.error e)
      (before.flatMap (m.insertEvents d) ++ [.done (m.batchCall d b), .failed (m.keyCall d) e])

theorem BulkRun.cons {d : Dialect} {m : Model} {batches done : List Batch} {result : Except Error (List Value)}
    {events : List Event} (h : BulkRun d m batches done result events) (b : Batch) :
    BulkRun d m (b :: batches) (b :: done) result (m.insertEvents d b ++ events) := by
  cases h with
  | inserted _ keys => exact .inserted (b :: batches) keys
  | notInserted _ failed after e =>
    rw [← List.append_assoc]
    exact .notInserted (b :: done) failed after e
  | noKey before hkey after e =>
    rw [← List.append_assoc]
    exact .noKey (b :: before) hkey after e

/-- A run without a failed call inserts all batches. -/
theorem BulkRun.of_done {d : Dialect} {m : Model} {batches done : List Batch} {result : Except Error (List Value)}
    {events : List Event} (h : BulkRun d m batches done result events) (hdone : ∀ e ∈ events, e.ending = .ok ()) :
    events = batches.flatMap (m.insertEvents d) ∧ ∃ keys, result = .ok keys := by
  cases h with
  | inserted _ keys => exact ⟨rfl, keys, rfl⟩
  | notInserted _ b after e => exact nomatch hdone (.failed (m.batchCall d b) e) (by simp)
  | noKey before hkey after e => exact nomatch hdone (.failed (m.keyCall d) e) (by simp)

private theorem yields_insertStatement (d : Driver σ) (m : Model) (keys : List Value) (b : Batch) :
    Yields (m.insertStatement d.traced keys b) fun result events =>
      (∃ keys, result = .ok keys ∧ events = m.insertEvents d.dialect b) ∨
        ∃ e, result = .error e ∧ ∃ done, ∀ after, BulkRun d.dialect m (b :: after) done (.error e) events := by
  unfold insertStatement
  refine Yields.call_bind _ _ (fun e => .inr ⟨e, rfl, _, fun after => .notInserted [] b after e⟩) fun _ => ?_
  cases hplace : b.1.idxOf? m.primaryCol with
  | some i =>
    have hkey : m.primaryCol ∈ b.1 := by
      by_contra hkey
      simp [List.idxOf?_eq_none_iff.2 hkey] at hplace
    exact Yields.pure (.inl ⟨_, rfl, by rw [insertEvents, if_pos hkey]; rfl⟩)
  | none =>
    have hkey : m.primaryCol ∉ b.1 := List.idxOf?_eq_none_iff.1 hplace
    unfold generatedKeys
    rw [bind_assoc]
    refine Yields.call_bind _ _ (fun e => .inr ⟨e, rfl, _, fun after => .noKey [] hkey after e⟩) fun v => ?_
    exact Yields.pure (.inl ⟨_, rfl, by rw [insertEvents, if_neg hkey]; rfl⟩)

private theorem yields_insertStatements (d : Driver σ) (m : Model) (keys : List Value) (batches : List Batch) :
    Yields (m.insertStatements d.traced keys batches) fun result events =>
      ∃ done, BulkRun d.dialect m batches done result events := by
  induction batches generalizing keys with
  | nil => exact Yields.pure ⟨[], .inserted [] keys⟩
  | cons b batches ih =>
    rw [insertStatements_cons]
    refine (yields_insertStatement d m keys b).bind ?_ ?_
    · rintro e events (⟨keys, h, -⟩ | ⟨e', h, done, hrun⟩)
      · cases h
      · obtain rfl := Except.error.inj h
        exact ⟨done, hrun batches⟩
    · rintro keys events (⟨keys', h, rfl⟩ | ⟨e, h, -⟩)
      · exact (ih keys).mono fun _ _ ⟨done, hrun⟩ => ⟨b :: done, hrun.cons b⟩
      · cases h

/-- The runs of a bulk insert, with the batches whose statement is done. -/
inductive InsertManyRun (d : Dialect) (m : Model) (rows : List Assignments) :
    List Batch → Except Error (List Value) → List Event → Prop where
  /-- A value cannot be written. -/
  | unwritable {e : Error} (h : rows.mapM m.bulkPairs = .error e) : InsertManyRun d m rows [] (.error e) []
  /-- The statements are sent. -/
  | sent {done : List Batch} {result : Except Error (List Value)} {events : List Event}
      (h : BulkRun d m (inserts (rows.map m.writtenCells)) done result events) :
    InsertManyRun d m rows done result events

/-- Only statements of the bulk insert are done. -/
theorem InsertManyRun.done_subset {d : Dialect} {m : Model} {rows : List Assignments} {done : List Batch}
    {result : Except Error (List Value)} {events : List Event} (h : InsertManyRun d m rows done result events) :
    done ⊆ inserts (rows.map m.writtenCells) := by
  cases h with
  | unwritable => exact List.nil_subset _
  | sent h =>
    generalize inserts (rows.map m.writtenCells) = batches at h
    cases h with
    | inserted => exact List.Subset.refl _
    | notInserted => exact List.subset_append_left _ _
    | @noKey before b hkey after e =>
      rw [List.append_cons before b after]
      exact List.subset_append_left _ _

theorem yields_insertMany (d : Driver σ) (m : Model) (rows : List Assignments) :
    Yields (m.insertMany d.traced rows) fun result events =>
      ∃ done, InsertManyRun d.dialect m rows done result events := by
  rw [insertMany_eq]
  refine Yields.result_bind (fun e h => ⟨[], .unwritable h⟩) fun pairs hpairs => ?_
  rw [(mapM_bulkPairs_eq_ok_iff.1 hpairs).1]
  exact (yields_insertStatements d m _ _).mono fun _ _ ⟨done, h⟩ => ⟨done, .sent h⟩

end RecordMapper.Model
