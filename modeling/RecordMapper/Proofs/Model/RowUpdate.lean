import RecordMapper.Proofs.Model.KeyClause
import RecordMapper.Proofs.Model.Runs

/-!
# Updates of one row

An update by primary key binds the new values in the order of their columns, and the key after them
(`updateSql_key`).  Over a driver that carries such a statement out as it reads (`KeepsRow`), the row then holds the
new values and is otherwise what it was, and a failed update leaves it as it was (`KeepsRow.updateMatching`).
-/

namespace RecordMapper

variable {σ : Type}

namespace Model

/-- The update of some columns of the row with a key: the columns take the first parameters, the key is the next. -/
def updateRowText (m : Model) (d : Dialect) (cols : List String) : String :=
  "UPDATE " ++ m.tableName ++ " SET " ++
    ", ".intercalate (cols.zipIdx.map fun e => e.1 ++ " = " ++ d.placeholder (e.2 + 1)) ++
    " WHERE " ++ m.primaryCol ++ " = " ++ d.placeholder (cols.length + 1)

/-- The driver stores updates of the row with a key as they read, and keeps the row when an update fails. -/
structure KeepsRow (d : Driver σ) (m : Model) (key : Value) (row : σ → String → Value) : Prop where
  updated : ∀ {cols : List String} {values : List Value} {s s' : σ} {n : Nat}, cols ≠ [] → cols.Nodup →
    (∀ col ∈ cols, m.hasColumn col = true) → values.length = cols.length →
    (d.execute (m.updateRowText d.dialect cols) (values ++ [key])).run s = (.ok n, s') →
    (∀ e ∈ cols.zip values, row s' e.1 = e.2) ∧ ∀ col ∉ cols, row s' col = row s col
  failed : ∀ {cols : List String} {values : List Value} {s s' : σ} {e : Error}, cols ≠ [] → cols.Nodup →
    (∀ col ∈ cols, m.hasColumn col = true) → values.length = cols.length →
    (d.execute (m.updateRowText d.dialect cols) (values ++ [key])).run s = (.error e, s') → row s' = row s

/-! ### The statement -/

theorem updateSql_key {m : Model} {q : Quoter} {pairs : List (String × Value)} {key : Value} {sql : Sql}
    (hblank : key.isBlank = false) (hscalar : key.isScalar = true)
    (h : m.updateSql q pairs (Record.only m.primaryCol key) = .ok sql) :
    sql = { text := m.updateRowText q.dialect (pairs.map Prod.fst), binds := pairs.map Prod.snd ++ [key] } := by
  obtain ⟨clause, hclause, rfl⟩ := updateSql_only hblank h
  rw [hclause.eq_row hscalar]
  simp [updateRowText, setText, String.append_assoc]

/-! ### What it does -/

/-- An update of some columns by key, whichever way it ends. -/
theorem KeepsRow.updateMatching {d : Driver σ} {m : Model} {key : Value} {row : σ → String → Value}
    (h : KeepsRow d m key row) (hblank : key.isBlank = false) (hscalar : key.isScalar = true) {changes : Assignments}
    (hcols : ∀ col ∈ changes.keys, m.hasColumn col = true) (db : Database σ) :
    match m.updateMatching d changes (Record.only m.primaryCol key) db with
    | (.error _, after) => row after.store = row db.store
    | (.ok _, after) =>
      (∀ e ∈ changes.toList, e.2.isScalar = true ∧ row after.store e.1 = e.2) ∧
        ∀ col ∉ changes.keys, row after.store col = row db.store col := by
  unfold Model.updateMatching
  rw [Operation.bind_apply]
  cases hpairs : m.writable changes.toList with
  | error e => rfl
  | ok pairs =>
    obtain ⟨hfilter, hscalars⟩ := writable_eq_ok_iff.1 hpairs
    have hall : pairs = changes.toList := by
      rw [hfilter, List.filter_eq_self]
      exact fun e he => hcols e.1 (List.mem_map_of_mem he)
    subst hall
    have hvalues : ∀ e ∈ changes.toList, e.2.isScalar = true := fun e he =>
      hscalars e he (hcols e.1 (List.mem_map_of_mem he))
    show match (if changes.toList.isEmpty then pure none else _ : Operation σ (Option Nat)) db with
      | (.error _, after) => _
      | (.ok _, after) => _
    by_cases hempty : changes.toList.isEmpty = true
    · rw [if_pos hempty, Operation.pure_apply]
      rw [List.isEmpty_iff] at hempty
      simp [hempty, OrderedMap.keys]
    · rw [if_neg hempty]
      rw [List.isEmpty_iff] at hempty
      have hne : changes.toList.map Prod.fst ≠ [] := by simpa using hempty
      have htable : ∀ col ∈ changes.toList.map Prod.fst, m.hasColumn col = true := hcols
      have hlength : (changes.toList.map Prod.snd).length = (changes.toList.map Prod.fst).length := by simp
      rw [Operation.bind_apply]
      unfold sendChecked send Database.call
      cases hsql : m.updateSql d.quoter changes.toList (Record.only m.primaryCol key) with
      | error fault => rfl
      | ok sql =>
        obtain rfl := updateSql_key hblank hscalar hsql
        dsimp only
        cases hrun : (d.execute _ _).run db.store with
        | mk result s' =>
          cases result with
          | error e => exact h.failed hne changes.nodup_keys htable hlength hrun
          | ok n =>
            obtain ⟨hset, hkept⟩ := h.updated hne changes.nodup_keys htable hlength hrun
            rw [List.zip_map', List.forall_mem_map] at hset
            exact ⟨fun e he => ⟨hvalues e he, hset e he⟩, hkept⟩

end Model

end RecordMapper
