import RecordMapper.Proofs.Model.BulkInsert

/-!
# The keys of bulk inserts

A bulk insert over a database that gives the rows of one statement consecutive keys and reports one of them (`Stores`).

* from the key that is reported, the keys of all rows of a statement are counted (`insertStatements_keys`);
* every row is written once, and the key that is returned in its place is its own or the one that the database gave it
  (`insertMany_writes_each_row`);
* a database that reports integers leaves no key unknown (`insertMany_known`).
-/

namespace RecordMapper.Model

open Decimal

variable {σ : Type}

/-! ### What the database does -/

/-- Consecutive keys from a first one. -/
def consecutive (first : Int) (count : Nat) : List Value :=
  (List.range count).map fun (i : Nat) => .bigint (Int64.ofInt (first + i))

/-- The key that a database reports of consecutive ones: MySQL the first, the others the last. -/
def reportedOf (d : Dialect) (first : Int) (count : Nat) : Int :=
  match d with
  | .mysql => first
  | .postgres | .sqlite => first + (count - 1 : Nat)

/-- In a state of the store, the last new rows have consecutive keys of 64 bits, and the database reports them. -/
structure Reports (d : Driver σ) (m : Model) (entries : σ → List (Value × Row)) (s : σ) (new : List (Value × Row))
    (first : Int) : Prop where
  lower : -0x8000000000000000 ≤ first
  upper : first + new.length ≤ 0x8000000000000000
  keys : new.map Prod.fst = consecutive first new.length
  reported : ∀ v s', (d.lastInsertId (m.sequence? d.dialect)).run s = (.ok v, s') →
    v.int64? = some (Int64.ofInt (reportedOf d.dialect first new.length)) ∧ entries s' = entries s

/--
A statement of a bulk insert that succeeds adds its rows to the entries of the table, with what the database keeps of
their values. Rows without keys of their own get consecutive ones.
-/
def Stores (d : Driver σ) (m : Model) (entries : σ → List (Value × Row))
    (keeps : List (String × Value) → Value × Row → Prop) (b : Batch) : Prop :=
  ∀ s affected s', (d.execute (m.batchSql d.dialect b).text (m.batchSql d.dialect b).binds).run s = (.ok affected, s') →
    ∃ new, entries s' = entries s ++ new ∧ List.Forall₂ (fun row e => keeps row.1 e) b.placed new ∧
      (m.primaryCol ∉ b.1 → ∃ first, Reports d m entries s' new first)

/-! ### The keys of one statement -/

/-- The key of a row: its own, or the one that the database gave it. -/
def keyOf (m : Model) (cells : List (String × Value)) (given : Value) : Value :=
  (Entries.find? m.primaryCol cells).getD given

/-- The places of rows with their keys. -/
def keyed (m : Model) (rows : List (List (String × Value) × Nat)) (new : List (Value × Row)) : List (Nat × Value) :=
  (rows.zip new).map fun e => (e.1.2, m.keyOf e.1.1 e.2.1)

theorem keyed_append {m : Model} {rows more : List (List (String × Value) × Nat)} {new later : List (Value × Row)}
    (h : rows.length = new.length) :
    m.keyed (rows ++ more) (new ++ later) = m.keyed rows new ++ m.keyed more later := by
  rw [keyed, List.zip_append h, List.map_append]
  rfl

private theorem clamped_of_bounds {i : Int} (hlower : -0x8000000000000000 ≤ i) (hupper : i < 0x8000000000000000) :
    clamped i = i := by
  unfold clamped
  omega

/-- From the reported key the keys of all rows are found again. -/
private theorem keysFrom_reported {d : Dialect} {v : Value} {first : Int} {count : Nat}
    (hlower : -0x8000000000000000 ≤ first) (hupper : first + count ≤ 0x8000000000000000) (hcount : 0 < count)
    (hv : v.int64? = some (Int64.ofInt (reportedOf d first count))) : keysFrom d v count = consecutive first count := by
  have hclamped : clamped first = first := clamped_of_bounds hlower (by omega)
  have hreported : (Int64.ofInt (reportedOf d first count)).toInt = reportedOf d first count := by
    cases d <;> exact Int64.toInt_ofInt_of_le (by simp only [reportedOf]; omega) (by simp only [reportedOf]; omega)
  have hkeys : keysFrom d v count =
      (List.range count).map fun (i : Nat) => .bigint (Int64.ofInt (clamped (first + i))) := by
    simp only [keysFrom, hv, hreported]
    cases d with
    | mysql => rfl
    | postgres | sqlite => simp only [reportedOf, Int.add_sub_cancel, hclamped]
  rw [hkeys, consecutive]
  refine List.map_congr_left fun i hi => ?_
  have hi : i < count := List.mem_range.1 hi
  rw [clamped_of_bounds (by omega) (by omega)]

private theorem find?_zip_of_idxOf? {cols : List String} {k : String} {i : Nat} (h : cols.idxOf? k = some i)
    (row : List Value) : Entries.find? k (cols.zip row) = row[i]? := by
  induction cols generalizing row i with
  | nil => simp at h
  | cons col cols ih =>
    cases row with
    | nil => rfl
    | cons v row =>
      rw [List.zip_cons_cons, Entries.find?]
      rw [List.idxOf?_cons] at h
      by_cases hcol : col = k
      · simp only [hcol, BEq.rfl, if_true, Option.some.injEq] at h ⊢
        subst h
        rfl
      · simp only [hcol, beq_iff_eq, if_false, Option.map_eq_some_iff] at h ⊢
        obtain ⟨j, hj, rfl⟩ := h
        exact ih hj row

private theorem find?_zip_of_notMem {cols : List String} {k : String} (h : k ∉ cols) (row : List Value) :
    Entries.find? k (cols.zip row) = none := by
  refine Entries.find?_eq_none_iff.2 fun hmem => ?_
  obtain ⟨cell, hcell, hcol⟩ := List.mem_map.1 hmem
  exact h (hcol ▸ (List.of_mem_zip hcell).1)

/-- Rows that bring their keys along. -/
private theorem keyed_own {m : Model} {cols : List String} {i : Nat} (hi : cols.idxOf? m.primaryCol = some i)
    {rows : List (Nat × List Value)} (hwidth : ∀ row ∈ rows, row.2.length = cols.length) {new : List (Value × Row)}
    (hlength : rows.length = new.length) :
    rows.map (fun row => (row.1, row.2[i]?.getD .null)) = m.keyed (Batch.placed (cols, rows)) new := by
  induction rows generalizing new with
  | nil => rfl
  | cons row rows ih =>
    cases new with
    | nil => simp at hlength
    | cons e new =>
      obtain ⟨hrow, hrows⟩ := List.forall_mem_cons.1 hwidth
      obtain ⟨hbound, -⟩ := List.idxOf?_eq_some_iff.1 hi
      have hkey : m.keyOf (cols.zip row.2) e.1 = row.2[i]?.getD .null := by
        rw [keyOf, find?_zip_of_idxOf? hi, List.getElem?_eq_getElem (hrow ▸ hbound)]
        rfl
      rw [List.map_cons, ih hrows (Nat.succ.inj hlength), ← hkey]
      rfl

/-- Rows that get their keys from the database. -/
private theorem keyed_given {m : Model} {cols : List String} (hkey : m.primaryCol ∉ cols)
    (rows : List (Nat × List Value)) (new : List (Value × Row)) :
    (rows.map Prod.fst).zip (new.map Prod.fst) = m.keyed (Batch.placed (cols, rows)) new := by
  induction rows generalizing new with
  | nil => rfl
  | cons row rows ih =>
    cases new with
    | nil => rfl
    | cons e new =>
      rw [List.map_cons, List.map_cons, List.zip_cons_cons, ih new]
      simp [keyed, Batch.placed, keyOf, find?_zip_of_notMem hkey]

/-- A statement that succeeds adds its rows, and their keys are set in their places. -/
private theorem insertStatement_keys {d : Driver σ} {m : Model} {entries : σ → List (Value × Row)}
    {keeps : List (String × Value) → Value × Row → Prop} {b : Batch} (hstores : m.Stores d entries keeps b)
    (hfilled : b.IsFilled) {keys keys' : List Value} {db db' : Database σ}
    (h : m.insertStatement d keys b db = (.ok keys', db')) :
    ∃ new, entries db'.store = entries db.store ++ new ∧ List.Forall₂ (fun row e => keeps row.1 e) b.placed new ∧
      keys' = setKeys keys (m.keyed b.placed new) := by
  obtain ⟨affected, s, hrun, hkeys⟩ := insertStatement_eq_ok h
  obtain ⟨new, hnew, hkeeps, hreports⟩ := hstores db.store affected s hrun
  have hlength : b.2.length = new.length := by
    rw [← hkeeps.length_eq]
    exact (List.length_map _).symm
  obtain ⟨i, hplace, rfl, rfl⟩ | ⟨hkey, v, hasked, rfl⟩ := hkeys
  · exact ⟨new, hnew, hkeeps, congrArg _ (keyed_own hplace hfilled.width hlength)⟩
  · obtain ⟨first, hreports⟩ := hreports hkey
    obtain ⟨hv, hsame⟩ := hreports.reported v _ hasked
    refine ⟨new, hsame.trans hnew, hkeeps, ?_⟩
    have hcount : 0 < new.length := hlength ▸ List.length_pos_of_ne_nil hfilled.nonempty
    rw [hlength, keysFrom_reported hreports.lower hreports.upper hcount hv, ← hreports.keys]
    exact congrArg _ (keyed_given hkey b.2 new)

/-! ### The keys of all statements -/

theorem setKeys_append (keys : List Value) (places more : List (Nat × Value)) :
    setKeys keys (places ++ more) = setKeys (setKeys keys places) more :=
  List.foldl_append

theorem length_setKeys (keys : List Value) (places : List (Nat × Value)) :
    (setKeys keys places).length = keys.length := by
  induction places generalizing keys with
  | nil => rfl
  | cons e places ih => exact (ih _).trans List.length_set

private theorem getElem?_setKeys_of_notMem {place : Nat} {places : List (Nat × Value)}
    (h : place ∉ places.map Prod.fst) (keys : List Value) : (setKeys keys places)[place]? = keys[place]? := by
  induction places generalizing keys with
  | nil => rfl
  | cons e places ih =>
    rw [List.map_cons, List.mem_cons, not_or] at h
    exact (ih h.2 _).trans (List.getElem?_set_ne (Ne.symm h.1))

/-- With distinct places, every key is found in its place. -/
theorem getElem?_setKeys {places : List (Nat × Value)} (hplaces : (places.map Prod.fst).Nodup) {e : Nat × Value}
    (he : e ∈ places) {keys : List Value} (hbound : e.1 < keys.length) : (setKeys keys places)[e.1]? = some e.2 := by
  induction places generalizing keys with
  | nil => exact absurd he List.not_mem_nil
  | cons first places ih =>
    rw [List.map_cons, List.nodup_cons] at hplaces
    rcases List.mem_cons.1 he with rfl | he
    · exact (getElem?_setKeys_of_notMem hplaces.1 _).trans (List.getElem?_set_self hbound)
    · exact ih hplaces.2 he (List.length_set.symm ▸ hbound)

/-- Statements that succeed add their rows, and the keys of all of them are set in their places. -/
theorem insertStatements_keys {d : Driver σ} {m : Model} {entries : σ → List (Value × Row)}
    {keeps : List (String × Value) → Value × Row → Prop} {batches : List Batch}
    (hstores : ∀ b ∈ batches, m.Stores d entries keeps b) (hfilled : ∀ b ∈ batches, b.IsFilled)
    {keys keys' : List Value} {db db' : Database σ} (h : m.insertStatements d keys batches db = (.ok keys', db')) :
    ∃ new, entries db'.store = entries db.store ++ new ∧
      List.Forall₂ (fun row e => keeps row.1 e) (batches.flatMap Batch.placed) new ∧
      keys' = setKeys keys (m.keyed (batches.flatMap Batch.placed) new) := by
  induction batches generalizing keys db with
  | nil =>
    obtain ⟨rfl, rfl⟩ := Operation.pure_eq_ok_iff.1 h
    exact ⟨[], (List.append_nil _).symm, .nil, rfl⟩
  | cons b batches ih =>
    rw [insertStatements_cons] at h
    obtain ⟨between, sent, hfirst, hrest⟩ := Operation.bind_eq_ok_iff.1 h
    obtain ⟨hb, hbatches⟩ := List.forall_mem_cons.1 hstores
    obtain ⟨hbfilled, hfilled⟩ := List.forall_mem_cons.1 hfilled
    obtain ⟨new, hnew, hkeeps, rfl⟩ := insertStatement_keys hb hbfilled hfirst
    obtain ⟨more, hmore, hkeepsMore, rfl⟩ := ih hbatches hfilled hrest
    refine ⟨new ++ more, by rw [hmore, hnew, List.append_assoc], List.rel_append hkeeps hkeepsMore, ?_⟩
    rw [List.flatMap_cons, keyed_append hkeeps.length_eq, setKeys_append]

/-- The keys of rows at distinct places: each row's own or the one that the database gave it. -/
private theorem keys_in_places {m : Model} {keeps : List (String × Value) → Value × Row → Prop}
    {rows : List (List (String × Value) × Nat)} {new : List (Value × Row)} (hplaces : (rows.map Prod.snd).Nodup)
    {keys : List Value} (hbound : ∀ row ∈ rows, row.2 < keys.length)
    (hkeeps : List.Forall₂ (fun row e => keeps row.1 e) rows new) :
    List.Forall₂ (fun row e => keeps row.1 e ∧ (setKeys keys (m.keyed rows new))[row.2]? = some (m.keyOf row.1 e.1))
      rows new := by
  rw [List.forall₂_iff_zip] at hkeeps ⊢
  obtain ⟨hlength, hkeeps⟩ := hkeeps
  refine ⟨hlength, fun {row e} hmem => ⟨hkeeps hmem, ?_⟩⟩
  have hkeyed : (m.keyed rows new).map Prod.fst = rows.map Prod.snd := by
    have hrows := congrArg (List.map Prod.snd) (List.map_fst_zip (Nat.le_of_eq hlength))
    rw [List.map_map] at hrows
    rwa [keyed, List.map_map]
  exact getElem?_setKeys (hkeyed ▸ hplaces) (List.mem_map_of_mem hmem) (hbound row (List.of_mem_zip hmem).1)

/-! ### All rows -/

/-- A trace changes nothing of what the database does. -/
theorem Stores.traced {d : Driver σ} {m : Model} {entries : σ → List (Value × Row)}
    {keeps : List (String × Value) → Value × Row → Prop} {b : Batch} (h : m.Stores d entries keeps b) :
    m.Stores d.traced (fun s => entries s.2) keeps b := by
  rintro ⟨events, s⟩ affected ⟨events', s'⟩ hrun
  obtain ⟨hresult, hstate⟩ := Prod.mk.inj hrun
  have hrun : (d.execute (m.batchSql d.dialect b).text (m.batchSql d.dialect b).binds).run s = (.ok affected, s') :=
    Prod.ext hresult (Prod.mk.inj hstate).2
  obtain ⟨new, hnew, hkeeps, hreports⟩ := h s affected s' hrun
  refine ⟨new, hnew, hkeeps, fun hkey => ?_⟩
  obtain ⟨first, hreports⟩ := hreports hkey
  refine ⟨first, hreports.lower, hreports.upper, hreports.keys, ?_⟩
  rintro v ⟨events'', s''⟩ hrun
  obtain ⟨hresult, hstate⟩ := Prod.mk.inj hrun
  exact hreports.reported v s'' (Prod.ext hresult (Prod.mk.inj hstate).2)

private theorem length_insertStatement {d : Driver σ} {m : Model} {b : Batch} {keys keys' : List Value}
    {db db' : Database σ} (h : m.insertStatement d keys b db = (.ok keys', db')) : keys'.length = keys.length := by
  obtain ⟨affected, s, -, ⟨i, -, -, rfl⟩ | ⟨-, v, -, rfl⟩⟩ := insertStatement_eq_ok h
  · exact length_setKeys _ _
  · exact length_setKeys _ _

private theorem length_insertStatements {d : Driver σ} {m : Model} {batches : List Batch} {keys keys' : List Value}
    {db db' : Database σ} (h : m.insertStatements d keys batches db = (.ok keys', db')) :
    keys'.length = keys.length := by
  induction batches generalizing keys db with
  | nil =>
    obtain ⟨rfl, -⟩ := Operation.pure_eq_ok_iff.1 h
    rfl
  | cons b batches ih =>
    rw [insertStatements_cons] at h
    obtain ⟨between, sent, hfirst, hrest⟩ := Operation.bind_eq_ok_iff.1 h
    exact (ih hrest).trans (length_insertStatement hfirst)

/-- A bulk insert that succeeds gives one key for each row. -/
theorem length_insertMany {d : Driver σ} {m : Model} {rows : List Assignments} {keys : List Value}
    {db db' : Database σ} (h : m.insertMany d rows db = (.ok keys, db')) : keys.length = rows.length := by
  rw [length_insertStatements (insertMany_eq_ok h).2, List.length_replicate]

/-- A bulk insert that succeeds adds its rows, and the keys that it gives are theirs. -/
theorem insertMany_keys {d : Driver σ} {m : Model} {entries : σ → List (Value × Row)}
    {keeps : List (String × Value) → Value × Row → Prop} {rows : List Assignments}
    (hstores : ∀ b ∈ inserts (rows.map m.writtenCells), m.Stores d entries keeps b) {keys : List Value}
    {db db' : Database σ} (h : m.insertMany d rows db = (.ok keys, db')) :
    ∃ new, entries db'.store = entries db.store ++ new ∧
      List.Forall₂ (fun row e => keeps row.1 e ∧ keys[row.2]? = some (m.keyOf row.1 e.1))
        ((inserts (rows.map m.writtenCells)).flatMap Batch.placed) new := by
  obtain ⟨new, hnew, hkeeps, rfl⟩ := insertStatements_keys hstores isFilled_inserts (insertMany_eq_ok h).2
  refine ⟨new, hnew, keys_in_places (nodup_places _) (fun row hrow => ?_) hkeeps⟩
  rw [List.length_replicate, ← List.length_map (f := m.writtenCells)]
  exact mem_places.1 (List.mem_map_of_mem hrow)

/--
A bulk insert of rows whose columns hold single values.  Every row stands in one tuple of one statement, with what it
writes, and each statement writes the rows of its tuples.  When all calls succeed, these statements have been sent once
each, and the keys of all rows are returned in the order of the rows: their own keys, or those that a database with
consecutive keys gave to the rows that it stored.
-/
theorem insertMany_writes_each_row (d : Driver σ) (m : Model) (rows : List Assignments)
    (hscalar : ∀ row ∈ rows, ∀ e ∈ row.toList, m.hasColumn e.1 = true → e.2.isScalar = true)
    (db : Database (List Event × σ)) :
    let batches := inserts (rows.map m.writtenCells)
    let inserted := m.insertMany d.traced rows db
    (batches.flatMap Batch.placed).Perm (rows.map m.writtenCells).zipIdx ∧
      (∀ b ∈ batches, WritesRows m d.dialect b (m.batchSql d.dialect b)) ∧
      ∃ events, inserted.2.events = db.events ++ events ∧
        ((∀ e ∈ events, e.ending = .ok ()) →
          events = batches.flatMap (m.insertEvents d.dialect) ∧
            ∃ keys, inserted.1 = .ok keys ∧ keys.length = rows.length ∧
              ∀ entries keeps, (∀ b ∈ batches, m.Stores d entries keeps b) →
                ∃ new, entries inserted.2.store.2 = entries db.store.2 ++ new ∧
                  List.Forall₂ (fun row e => keeps row.1 e ∧ keys[row.2]? = some (m.keyOf row.1 e.1))
                    (batches.flatMap Batch.placed) new) := by
  intro batches inserted
  refine ⟨placed_inserts _, fun b hb => writesRows_batchSql m d.dialect hb, ?_⟩
  obtain ⟨events, hevents, done, hrun⟩ := yields_insertMany d m rows db
  refine ⟨events, hevents, fun hdone => ?_⟩
  have hinserted : inserted = (inserted.1, inserted.2) := rfl
  generalize inserted.1 = result at hrun hinserted ⊢
  cases hrun with
  | unwritable hfaulty =>
    rw [mapM_bulkPairs_eq_ok_iff.2 ⟨rfl, hscalar⟩] at hfaulty
    exact nomatch hfaulty
  | sent hrun =>
    obtain ⟨hall, keys, rfl⟩ := hrun.of_done hdone
    refine ⟨hall, keys, rfl, length_insertMany hinserted, fun entries keeps hstores => ?_⟩
    exact insertMany_keys (fun b hb => (hstores b hb).traced) hinserted

/-! ### Known keys -/

/-- After a statement of a bulk insert, the database reports an integer if it reports a key. -/
def ReportsInteger (d : Driver σ) (m : Model) (b : Batch) : Prop :=
  ∀ s affected s', (d.execute (m.batchSql d.dialect b).text (m.batchSql d.dialect b).binds).run s = (.ok affected, s') →
    m.primaryCol ∉ b.1 → ∀ v s'', (d.lastInsertId (m.sequence? d.dialect)).run s' = (.ok v, s'') → v.int64?.isSome = true

theorem Stores.reportsInteger {d : Driver σ} {m : Model} {entries : σ → List (Value × Row)}
    {keeps : List (String × Value) → Value × Row → Prop} {b : Batch} (h : m.Stores d entries keeps b) :
    m.ReportsInteger d b := by
  intro s affected s' hrun hkey v s'' hasked
  obtain ⟨new, -, -, hreports⟩ := h s affected s' hrun
  obtain ⟨first, hreports⟩ := hreports hkey
  rw [(hreports.reported v s'' hasked).1]
  rfl

/-- A trace changes nothing of what the database reports. -/
theorem ReportsInteger.traced {d : Driver σ} {m : Model} {b : Batch} (h : m.ReportsInteger d b) :
    m.ReportsInteger d.traced b := by
  rintro ⟨events, s⟩ affected ⟨events', s'⟩ hrun hkey v ⟨events'', s''⟩ hasked
  obtain ⟨hresult, hstate⟩ := Prod.mk.inj hrun
  obtain ⟨hvalue, hafter⟩ := Prod.mk.inj hasked
  exact h s affected s' (Prod.ext hresult (Prod.mk.inj hstate).2) hkey v s''
    (Prod.ext hvalue (Prod.mk.inj hafter).2)

/-- A value that rows can be told apart by: it has a text as a key, and is not blank. -/
def IsKnown (k : Value) : Prop := k.keyText?.isSome = true ∧ k.isBlank = false

private theorem known_keysFrom {d : Dialect} {v : Value} (hv : v.int64?.isSome = true) (count : Nat) :
    (keysFrom d v count).length = count ∧ ∀ k ∈ keysFrom d v count, IsKnown k := by
  obtain ⟨n, hn⟩ := Option.isSome_iff_exists.1 hv
  simp only [keysFrom, hn]
  refine ⟨by rw [List.length_map, List.length_range], fun k hk => ?_⟩
  obtain ⟨i, -, rfl⟩ := List.mem_map.1 hk
  exact ⟨rfl, rfl⟩

/-- A statement that succeeds sets known keys in the places of its rows. -/
private theorem insertStatement_known {d : Driver σ} {m : Model} {b : Batch} (hids : m.ReportsInteger d b)
    (hfilled : b.IsFilled) (hown : ∀ row ∈ b.placed, ∀ k, Entries.find? m.primaryCol row.1 = some k → IsKnown k)
    {keys keys' : List Value} {db db' : Database σ} (h : m.insertStatement d keys b db = (.ok keys', db')) :
    ∃ places, keys' = setKeys keys places ∧ places.map Prod.fst = b.placed.map Prod.snd ∧
      ∀ e ∈ places, IsKnown e.2 := by
  have hplaces : b.placed.map Prod.snd = b.2.map Prod.fst := by
    rw [Batch.placed, List.map_map]
    rfl
  rw [hplaces]
  obtain ⟨affected, s, hrun, ⟨i, hi, -, rfl⟩ | ⟨hkey, v, hasked, rfl⟩⟩ := insertStatement_eq_ok h
  · refine ⟨_, rfl, by rw [List.map_map]; rfl, List.forall_mem_map.2 fun row hrow => ?_⟩
    obtain ⟨hbound, -⟩ := List.idxOf?_eq_some_iff.1 hi
    obtain ⟨k, hk⟩ : ∃ k, row.2[i]? = some k :=
      ⟨_, List.getElem?_eq_getElem ((hfilled.width row hrow).symm ▸ hbound)⟩
    rw [hk]
    exact hown _ (List.mem_map_of_mem hrow) k ((find?_zip_of_idxOf? hi row.2).trans hk)
  · obtain ⟨hlength, hknown⟩ := known_keysFrom (d := d.dialect) (hids _ affected s hrun hkey v _ hasked) b.2.length
    refine ⟨_, rfl, List.map_fst_zip (Nat.le_of_eq ?_), fun e he => hknown e.2 (List.of_mem_zip he).2⟩
    rw [hlength, List.length_map]

private theorem insertStatements_known {d : Driver σ} {m : Model} {batches : List Batch}
    (hids : ∀ b ∈ batches, m.ReportsInteger d b) (hfilled : ∀ b ∈ batches, b.IsFilled)
    (hown : ∀ row ∈ batches.flatMap Batch.placed, ∀ k, Entries.find? m.primaryCol row.1 = some k → IsKnown k)
    {keys keys' : List Value} {db db' : Database σ} (h : m.insertStatements d keys batches db = (.ok keys', db')) :
    ∃ places, keys' = setKeys keys places ∧ places.map Prod.fst = (batches.flatMap Batch.placed).map Prod.snd ∧
      ∀ e ∈ places, IsKnown e.2 := by
  induction batches generalizing keys db with
  | nil =>
    obtain ⟨rfl, -⟩ := Operation.pure_eq_ok_iff.1 h
    exact ⟨[], rfl, rfl, fun _ he => nomatch he⟩
  | cons b batches ih =>
    rw [insertStatements_cons] at h
    obtain ⟨between, sent, hfirst, hrest⟩ := Operation.bind_eq_ok_iff.1 h
    obtain ⟨hidsb, hids⟩ := List.forall_mem_cons.1 hids
    obtain ⟨hb, hfilled⟩ := List.forall_mem_cons.1 hfilled
    rw [List.flatMap_cons] at hown
    obtain ⟨hownb, hown⟩ := List.forall_mem_append.1 hown
    obtain ⟨places, rfl, hplaces, hknown⟩ := insertStatement_known hidsb hb hownb hfirst
    obtain ⟨more, rfl, hmore, hknownMore⟩ := ih hids hfilled hown hrest
    refine ⟨places ++ more, (setKeys_append keys places more).symm, ?_, List.forall_mem_append.2 ⟨hknown, hknownMore⟩⟩
    rw [List.flatMap_cons, List.map_append, List.map_append, hplaces, hmore]

/-- A key that a row writes itself is known. -/
private theorem known_of_written {m : Model} {row : Assignments}
    (hscalar : ∀ e ∈ row.toList, m.hasColumn e.1 = true → e.2.isScalar = true) {k : Value}
    (hk : Entries.find? m.primaryCol (m.writtenCells row) = some k) : IsKnown k := by
  obtain ⟨hcell, hblank⟩ := List.mem_filter.1 (Entries.mem_of_find? hk)
  obtain ⟨hmem, hcol⟩ := List.mem_filter.1 hcell
  have hsingle := hscalar _ hmem hcol
  cases k <;> simp_all [IsKnown, Value.isScalar, Value.isBlank, Value.keyText?]

/-- A database that reports integers leaves no key unknown. -/
theorem insertMany_known {d : Driver σ} {m : Model} {rows : List Assignments}
    (hids : ∀ b ∈ inserts (rows.map m.writtenCells), m.ReportsInteger d b) {keys : List Value} {db db' : Database σ}
    (h : m.insertMany d rows db = (.ok keys, db')) : ∀ k ∈ keys, IsKnown k := by
  obtain ⟨hscalar, hrun⟩ := insertMany_eq_ok h
  have hperm := placed_inserts (rows.map m.writtenCells)
  have hown : ∀ row ∈ (inserts (rows.map m.writtenCells)).flatMap Batch.placed, ∀ k,
      Entries.find? m.primaryCol row.1 = some k → IsKnown k := by
    intro row hrow k hk
    obtain ⟨data, hdata, hcells⟩ := List.mem_map.1 (List.fst_mem_of_mem_zipIdx (hperm.subset hrow))
    rw [← hcells] at hk
    exact known_of_written (hscalar data hdata) hk
  obtain ⟨places, rfl, hplaces, hknown⟩ := insertStatements_known hids isFilled_inserts hown hrun
  intro k hk
  obtain ⟨place, hplace⟩ := List.mem_iff_getElem?.1 hk
  have hbound : place < (List.replicate rows.length Value.null).length :=
    length_setKeys _ places ▸ (List.getElem?_eq_some_iff.1 hplace).1
  obtain ⟨e, he, rfl⟩ := List.mem_map.1 (hplaces ▸ mem_places.2 (by simpa using hbound))
  have hkey := getElem?_setKeys (hplaces ▸ nodup_places _) he hbound
  exact Option.some.inj (hkey.symm.trans hplace) ▸ hknown e he

/-! ### An example -/

namespace Example

/-- Notes with a key, a title and a body. -/
def notes : Model :=
  Model.bind (.ofTable "notes")
    (.ofColumns "notes"
      [(Column.ofDeclaration "id" "INTEGER").asPrimaryKey true, .ofDeclaration "title" "TEXT",
        .ofDeclaration "body" "TEXT"])

/-- A row as it is stored under its key. -/
def entryOf (m : Model) (key : Value) (cells : List (String × Value)) : Value × Row :=
  let others := cells.filter fun e => e.1 ≠ m.primaryCol
  (key, { names := m.primaryCol :: others.map Prod.fst, values := key :: others.map Prod.snd })

/-- Rows as they are stored, those without keys of their own under numbers from `next` on. -/
def entriesFrom (m : Model) (next : Nat) : List (List (String × Value)) → List (Value × Row)
  | [] => []
  | cells :: rows => entryOf m (m.keyOf cells (.bigint (Int64.ofInt next))) cells :: entriesFrom m (next + 1) rows

/-- The values of the rows of a batch. -/
def cellsOf (b : Batch) : List (List (String × Value)) := b.placed.map Prod.fst

/--
A database of one table, which carries out the inserts of some batches as long as there are keys, and answers some
queries with the rows that it finds for the keys that they ask for.
-/
def oneTable (m : Model) (same : Value → Value → Bool) (batches : List Batch) (queries : List (String × List Value)) :
    Driver (List (Value × Row)) where
  dialect := .sqlite
  query sql _ := fun entries =>
    let keys := (Entries.find? sql queries).getD []
    (.ok ((entries.filter fun e => keys.any (same e.1)).map Prod.snd), entries)
  execute sql _ := fun entries =>
    match batches.find? fun b => (m.batchSql .sqlite b).text == sql with
    | some b =>
      if entries.length + (cellsOf b).length < 0x8000000000000000 then
        (.ok (cellsOf b).length, entries ++ entriesFrom m (entries.length + 1) (cellsOf b))
      else (.error (.query .database "table is full" none none), entries)
    | none => (.error (.query .sqlGrammar "unknown statement" none none), entries)
  lastInsertId _ := fun entries => (.ok (.bigint (Int64.ofInt entries.length)), entries)
  begin := pure ()
  commit := pure ()
  rollback := pure ()
  inTransaction _ := false
  columns _ := pure []

/-- A row is stored with its own key, if it has one. -/
def KeepsKey (m : Model) (cells : List (String × Value)) (e : Value × Row) : Prop :=
  ∃ given, e = entryOf m (m.keyOf cells given) cells

theorem length_entriesFrom (m : Model) (next : Nat) (rows : List (List (String × Value))) :
    (entriesFrom m next rows).length = rows.length := by
  induction rows generalizing next with
  | nil => rfl
  | cons cells rows ih => exact congrArg Nat.succ (ih (next + 1))

theorem keepsKey_entriesFrom (m : Model) (next : Nat) (rows : List (List (String × Value))) :
    List.Forall₂ (KeepsKey m) rows (entriesFrom m next rows) := by
  induction rows generalizing next with
  | nil => exact .nil
  | cons cells rows ih => exact .cons ⟨_, rfl⟩ (ih (next + 1))

theorem consecutive_succ (first : Int) (count : Nat) :
    consecutive first (count + 1) = .bigint (Int64.ofInt first) :: consecutive (first + 1) count := by
  simp only [consecutive, List.range_succ_eq_map, List.map_cons, List.map_map]
  refine congrArg₂ _ (by simp) (List.map_congr_left fun i _ => ?_)
  simp only [Function.comp_apply, Int.natCast_succ, Int.add_assoc, Int.add_comm 1]

/-- Rows without keys of their own get consecutive numbers. -/
theorem keys_entriesFrom {m : Model} (next : Nat) {rows : List (List (String × Value))}
    (hrows : ∀ cells ∈ rows, Entries.find? m.primaryCol cells = none) :
    (entriesFrom m next rows).map Prod.fst = consecutive next rows.length := by
  induction rows generalizing next with
  | nil => rfl
  | cons cells rows ih =>
    obtain ⟨hcells, hrows⟩ := List.forall_mem_cons.1 hrows
    rw [List.length_cons, consecutive_succ, entriesFrom, List.map_cons, ih (next + 1) hrows, keyOf, hcells]
    rfl

/-- The inserts of the batches are carried out. -/
theorem oneTable_stores {m : Model} {same : Value → Value → Bool} {batches : List Batch}
    {queries : List (String × List Value)} {b : Batch} (hfilled : b.IsFilled)
    (hfind : ∃ found, (batches.find? fun c => (m.batchSql .sqlite c).text == (m.batchSql .sqlite b).text) = some found ∧
      cellsOf found = cellsOf b) :
    m.Stores (oneTable m same batches queries) id (KeepsKey m) b := by
  intro entries affected after hrun
  obtain ⟨found, hfound, hcells⟩ := hfind
  have hrows : (cellsOf b).length = b.2.length := by rw [cellsOf, Batch.placed, List.length_map, List.length_map]
  have hrun : (if entries.length + (cellsOf b).length < 0x8000000000000000 then
      (.ok (cellsOf b).length, entries ++ entriesFrom m (entries.length + 1) (cellsOf b))
      else (.error (.query .database "table is full" none none), entries) :
        Except Error Nat × List (Value × Row)) = (.ok affected, after) := by
    simp only [oneTable, hfound, hcells] at hrun
    exact hrun
  split at hrun
  · rename_i hroom
    obtain ⟨-, rfl⟩ := Prod.mk.inj hrun
    refine ⟨_, rfl, List.forall₂_map_left_iff.1 (keepsKey_entriesFrom m _ _), fun hkey => ?_⟩
    have hown : ∀ cells ∈ cellsOf b, Entries.find? m.primaryCol cells = none := by
      intro cells hcells
      obtain ⟨_, hplaced, rfl⟩ := List.mem_map.1 hcells
      obtain ⟨row, -, rfl⟩ := List.mem_map.1 hplaced
      exact find?_zip_of_notMem hkey row.2
    refine ⟨(entries.length + 1 : Nat), ?_, ?_, ?_, ?_⟩
    · omega
    · rw [length_entriesFrom]
      omega
    · rw [keys_entriesFrom _ hown, length_entriesFrom]
    · intro v s' hasked
      obtain ⟨hv, rfl⟩ := Prod.mk.inj hasked
      obtain rfl := Except.ok.inj hv
      have hpos : 0 < (cellsOf b).length := hrows ▸ List.length_pos_of_ne_nil hfilled.nonempty
      refine ⟨congrArg (some ∘ Int64.ofInt) ?_, rfl⟩
      simp only [reportedOf, oneTable, List.length_append, length_entriesFrom]
      omega
  · cases (Prod.mk.inj hrun).1

/-- Two notes that leave their key to the database, one with a key, and one without any value of a column. -/
def mixedRows : List Assignments :=
  [.ofList [("title", .text "a")], .ofList [("id", .int 40), ("title", .text "b")], .ofList [("draft", .text "c")],
    .ofList [("id", .text ""), ("title", .text "d")]]

/-- The database for these notes. -/
def mixedTable : Driver (List (Value × Row)) :=
  oneTable notes (fun _ _ => false) (inserts (mixedRows.map notes.writtenCells)) []

end Example

open Example in
/-- The two notes without a key stand in one statement; the keys come back in the order of the rows. -/
theorem insertMany_writes_each_row_mixed :
    let batches := inserts (mixedRows.map notes.writtenCells)
    let inserted := notes.insertMany mixedTable.traced mixedRows { store := ([], []) }
    (∀ row ∈ mixedRows, ∀ e ∈ row.toList, notes.hasColumn e.1 = true → e.2.isScalar = true) ∧
      (∀ b ∈ batches, notes.Stores mixedTable id (KeepsKey notes) b) ∧
      inserted.1 = .ok [.bigint 1, .int 40, .bigint 4, .bigint 2] ∧
      inserted.2.events = batches.flatMap (notes.insertEvents .sqlite) ∧
      List.Forall₂
        (fun row e => KeepsKey notes row.1 e ∧
          [.bigint 1, .int 40, .bigint 4, .bigint 2][row.2]? = some (notes.keyOf row.1 e.1))
        (batches.flatMap Batch.placed) inserted.2.store.2 := by
  intro batches inserted
  have hscalar : ∀ row ∈ mixedRows, ∀ e ∈ row.toList, notes.hasColumn e.1 = true → e.2.isScalar = true := by
    have hall : (mixedRows.all fun row => row.toList.all fun e => e.2.isScalar) = true := rfl
    intro row hrow e he _
    exact List.all_eq_true.1 (List.all_eq_true.1 hall row hrow) e he
  have hstores : ∀ b ∈ batches, notes.Stores mixedTable id (KeepsKey notes) b := by
    intro b hb
    refine oneTable_stores (isFilled_inserts b hb) ?_
    have hbatches : batches =
        [(["title"], [(0, [.text "a"]), (3, [.text "d"])]), (["id", "title"], [(1, [.int 40, .text "b"])]),
          ([], [(2, [])])] := rfl
    rw [hbatches] at hb
    simp only [List.mem_cons, List.not_mem_nil, or_false] at hb
    rcases hb with rfl | rfl | rfl <;> exact ⟨_, rfl, rfl⟩
  have hinserted : inserted.1 = .ok [.bigint 1, .int 40, .bigint 4, .bigint 2] := rfl
  obtain ⟨-, -, events, hevents, hrun⟩ :=
    insertMany_writes_each_row mixedTable notes mixedRows hscalar { store := ([], []) }
  have hevents : inserted.2.events = events := hevents
  have hdone : ∀ e ∈ inserted.2.events, e.ending = .ok () := by
    have hends : inserted.2.events.map Event.ending = [.ok (), .ok (), .ok (), .ok (), .ok ()] := rfl
    intro e he
    simpa [hends] using List.mem_map_of_mem (f := Event.ending) he
  obtain ⟨hsent, keys, hkeys, -, hnew⟩ := hrun (hevents ▸ hdone)
  obtain ⟨new, hentries, hrows⟩ := hnew id (KeepsKey notes) hstores
  obtain rfl : keys = _ := Except.ok.inj (hkeys.symm.trans hinserted)
  have hentries : inserted.2.store.2 = new := hentries
  exact ⟨hscalar, hstores, hinserted, hevents.trans hsent, hentries ▸ hrows⟩

end RecordMapper.Model
