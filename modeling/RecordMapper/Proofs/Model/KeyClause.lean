import RecordMapper.Proofs.Filter.Matched
import RecordMapper.Record.Save

/-!
# Statements for the row of a key

An update or a delete by primary key has the condition of that key (`updateSql_only`, `deleteSql_only`), which is one of
two (`KeyClause`): a single value is compared with the primary column and bound, so that it stands for one row.  A list
is no key of a row, but it is not refused either; its condition holds for the row of each of its values.
-/

namespace RecordMapper

/-- The condition for a key in a column, after `bound` parameters. -/
inductive KeyClause (q : Quoter) (col : String) (bound : Nat) : Value → Sql → Prop where
  /-- The row of a single value. -/
  | row {key : Value} (hblank : key.isBlank = false) (hscalar : key.isScalar = true) :
    KeyClause q col bound key { text := col ++ " = " ++ q.dialect.placeholder (bound + 1), binds := [key] }
  /-- The rows of the values of a list. -/
  | rows {keys : List Value} (hne : keys ≠ []) (hscalar : ∀ key ∈ keys, key.isScalar = true) :
    KeyClause q col bound (.array keys)
      { text := col ++ " IN (" ++ ", ".intercalate (keys.map (Filter.memberText q)) ++ ")", binds := [] }

variable {q : Quoter} {col : String} {key : Value} {bound : Nat} {sql : Sql}

/-- A single value stands for one row. -/
theorem KeyClause.eq_row (h : KeyClause q col bound key sql) (hscalar : key.isScalar = true) :
    sql = { text := col ++ " = " ++ q.dialect.placeholder (bound + 1), binds := [key] } := by
  cases h with
  | row => rfl
  | rows => exact nomatch hscalar

namespace Filter

/-- The filter for one value that is not blank has the condition of a key. -/
theorem keyClause_of_matching (hblank : key.isBlank = false)
    (h : (matching (Record.only col key)).compile q bound = .ok sql) : KeyClause q col bound key sql := by
  obtain ⟨text, binds⟩ := sql
  obtain ⟨texts, htests, rfl⟩ := compile_matching h
  have hentry : (Record.only col key).toList = [(col, key)] := rfl
  rw [hentry] at htests
  cases htests with
  | cons htest hrest =>
    cases hrest with
    | nil =>
      cases htest with
      | isNull => exact nomatch hblank
      | isIn hne hscalar => exact .rows hne hscalar
      | equals _ hscalar => exact .row hblank hscalar

theorem length_matching (values : Assignments) : (matching values).length = values.toList.length := by
  rw [matching_eq, matchEntries, List.length_map, List.length_zipIdx]

/-- There is something to match if there are values. -/
theorem matching_ne {values : Assignments} (h : values.isEmpty = false) : matching values ≠ [] := by
  rw [ne_eq, ← List.length_eq_zero_iff, length_matching, List.length_eq_zero_iff, ← List.isEmpty_iff]
  exact ne_true_of_eq_false h

end Filter

namespace Model

variable {m : Model}

/-- An update by key has the condition of the key after the columns that it sets. -/
theorem updateSql_only {pairs : List (String × Value)} (hblank : key.isBlank = false)
    (h : m.updateSql q pairs (Record.only m.primaryCol key) = .ok sql) :
    ∃ clause, KeyClause q m.primaryCol pairs.length key clause ∧
      sql = { text := "UPDATE " ++ m.tableName ++ " SET " ++ setText q.dialect (pairs.map Prod.fst) ++ " WHERE " ++
                clause.text
              binds := pairs.map Prod.snd ++ clause.binds } := by
  have hne : (Record.only m.primaryCol key).isEmpty = false := rfl
  obtain ⟨condition, hcondition, rfl⟩ := map_eq_ok h
  rw [matchClause, hne, if_neg Bool.false_ne_true] at hcondition
  obtain ⟨clause, hclause, rfl⟩ := map_eq_ok hcondition
  exact ⟨clause, Filter.keyClause_of_matching hblank hclause, by simp [String.append_assoc]⟩

/-- A delete has the condition that it is compiled to. -/
theorem deleteSql_eq_ok {values : Assignments} (h : m.deleteSql q values = .ok sql) :
    ∃ clause, (Filter.matching values).compile q 0 = .ok clause ∧
      sql = { clause with text := "DELETE FROM " ++ m.tableName ++ " WHERE " ++ clause.text } := by
  obtain ⟨clause, hclause, rfl⟩ := map_eq_ok h
  exact ⟨clause, hclause, rfl⟩

/-- A delete by key has the condition of the key. -/
theorem deleteSql_only (hblank : key.isBlank = false)
    (h : m.deleteSql q (Record.only m.primaryCol key) = .ok sql) :
    ∃ clause, KeyClause q m.primaryCol 0 key clause ∧
      sql = { clause with text := "DELETE FROM " ++ m.tableName ++ " WHERE " ++ clause.text } := by
  obtain ⟨clause, hclause, hsql⟩ := deleteSql_eq_ok h
  exact ⟨clause, Filter.keyClause_of_matching hblank hclause, hsql⟩

end Model

end RecordMapper
