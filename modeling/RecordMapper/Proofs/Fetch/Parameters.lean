import RecordMapper.Fetch.Select
import RecordMapper.Proofs.Filter.Leaf

/-!
# The parameters of queries

The leaves of a query are those of its conditions before grouping and then of those after it, each part only if it has
a say.

* the parameters of a query are the operands of the leaves that compare with one value, and the leaf of each parameter
  is written with the number of the parameter, also across the two parts (`sql_written`, `leafTextAt_binding`);
* the values of these operands do not show in the text (`text_withoutValues`);
* `parameters_are_leaf_operands` puts this together.
-/

namespace RecordMapper

open RecordMapper.Logic RecordMapper.Filter

/-! ### Without values -/

/-- A test without its operand, if that is a bound value. -/
def Test.withoutValue (t : Test) : Test :=
  if t.op.comparesOne then { t with operand := none } else t

mutual

/-- A condition without the values that it binds. -/
def Condition.withoutValues : Condition → Condition
  | .test t => .test t.withoutValue
  | .group es => .group (Filter.withoutValues es)

/-- A filter without the values that it binds. -/
def Filter.withoutValues : Filter → Filter
  | [] => []
  | (link, c) :: es => (link, c.withoutValues) :: Filter.withoutValues es

end

/-- A query without the values that it binds. -/
def Select.withoutValues (s : Select) : Select :=
  { s with fetch :=
    { s.fetch with filter := s.fetch.filter.withoutValues, having := s.fetch.having.withoutValues } }

/-! ### Leaves -/

namespace Select

/-- The leaves of conditions under a key; none if the key has no say. -/
def leavesAt (s : Select) (key : FetchKey) (f : Filter) : List Test :=
  if s.uses key then f.tests else []

/-- The leaves of a query, in source order. -/
def leaves (s : Select) : List Test :=
  s.leavesAt .filter s.fetch.filter ++ s.leavesAt .having s.fetch.having

/-- Conditions after a keyword, their leaves written by `leaf` and counted from `start`; nothing if their key has no
say. -/
def clauseText (s : Select) (key : FetchKey) (keyword : String) (f : Filter) (leaf : Nat → String) (start : Nat) :
    String :=
  if s.uses key then keyword ++ tokensText leaf (f.tokens start) else ""

/-- The text of a query whose leaves are written by `leaf`. -/
def textWith (s : Select) (q : Quoter) (leaf : Nat → String) : String :=
  s.headText ++ s.clauseText .filter " WHERE " s.fetch.filter leaf 0 ++ s.groupText ++
    s.clauseText .having " HAVING " s.fetch.having leaf (s.leavesAt .filter s.fetch.filter).length ++
    s.endText q.dialect

private theorem conditions_written {s : Select} {q : Quoter} {key : FetchKey} {keyword : String} {f : Filter}
    {bound : Nat} {sql : Sql} (h : s.conditions q key keyword f bound = .ok sql) (before after : List Test)
    (hn : bound = (binding before).length) :
    sql.binds.map some = (binding (s.leavesAt key f)).map Test.operand ∧
      sql.text = s.clauseText key keyword f (leafTextAt q 0 (before ++ (s.leavesAt key f ++ after))) before.length := by
  unfold conditions at h
  by_cases huses : s.uses key
  · cases hsql : f.compile q bound with
    | error fault => simp [huses, hsql] at h
    | ok inner =>
      obtain rfl : { inner with text := keyword ++ inner.text } = sql := by simpa [huses, hsql] using h
      obtain ⟨hbinds, htext⟩ := written_of_compile hsql before after (n := 0) (by omega)
      simpa [leavesAt, clauseText, huses] using ⟨hbinds, htext⟩
  · obtain rfl : { text := "", binds := [] } = sql := by simpa [huses] using h
    simp [leavesAt, clauseText, huses, binding]

/-- A query binds the operands of its leaves, which are numbered through. -/
theorem sql_written {s : Select} {q : Quoter} {sql : Sql} (h : s.sql q = .ok sql) :
    sql.binds.map some = (binding s.leaves).map Test.operand ∧
      sql.text = s.textWith q (leafTextAt q 0 s.leaves) := by
  unfold Select.sql at h
  cases hfilter : s.conditions q .filter " WHERE " s.fetch.filter 0 with
  | error fault => simp [hfilter] at h
  | ok filter =>
    cases hhaving : s.conditions q .having " HAVING " s.fetch.having filter.binds.length with
    | error fault => simp [hfilter, hhaving] at h
    | ok having =>
      simp only [hfilter, hhaving, Except.ok.injEq] at h
      subst h
      obtain ⟨hb, ht⟩ := conditions_written hfilter [] (s.leavesAt .having s.fetch.having) rfl
      have hlength : filter.binds.length = (binding (s.leavesAt .filter s.fetch.filter)).length := by
        simpa using congrArg List.length hb
      -- the second part counts on from the leaves of the first
      obtain ⟨hb', ht'⟩ := conditions_written hhaving (s.leavesAt .filter s.fetch.filter) [] hlength
      rw [List.append_nil] at ht'
      constructor
      · rw [List.map_append, hb, hb', leaves, binding_append, List.map_append]
      · simp only [ht, ht', textWith, leaves, List.nil_append, List.length_nil]

end Select

/-- A leaf that binds is written with its place among such leaves. -/
theorem Filter.leafTextAt_binding (q : Quoter) (bound : Nat) {ts : List Test} {place : Nat} {t : Test}
    (ht : ts[place]? = some t) (hone : t.op.comparesOne) :
    (binding ts)[(binding (ts.take place)).length]? = some t ∧
      leafTextAt q bound ts place =
        t.col ++ " " ++ t.op.sql ++ " " ++ q.dialect.placeholder (bound + (binding (ts.take place)).length + 1) := by
  obtain ⟨hlt, hget⟩ := List.getElem?_eq_some_iff.1 ht
  have htake : ts.take (place + 1) = ts.take place ++ [t] := by
    rw [List.take_succ_eq_append_getElem hlt, hget]
  have hbind : binding [t] = [t] := by simp [binding, hone]
  constructor
  · have hsplit : ts = ts.take (place + 1) ++ ts.drop (place + 1) := (List.take_append_drop ..).symm
    have hts : binding ts = binding (ts.take place) ++ t :: binding (ts.drop (place + 1)) := by
      conv => lhs; rw [hsplit, htake, binding_append, binding_append, hbind, List.append_assoc]
      rfl
    rw [hts]
    simp
  · have hnumber : (binding (ts.take (place + 1))).length = (binding (ts.take place)).length + 1 := by
      rw [htake, binding_append, hbind]
      simp
    simp only [leafTextAt, ht, leafText, hone, if_true, hnumber, Nat.add_assoc]

/-! ### The text does not show values -/

theorem Test.op_withoutValue (t : Test) : t.withoutValue.op = t.op := by
  unfold Test.withoutValue
  split <;> rfl

theorem Filter.leafText_withoutValue (q : Quoter) (n : Nat) (t : Test) :
    leafText q n t.withoutValue = leafText q n t := by
  by_cases hone : t.op.comparesOne <;> simp [leafText, Test.withoutValue, hone]

theorem Filter.length_binding_withoutValue (ts : List Test) :
    (binding (ts.map Test.withoutValue)).length = (binding ts).length := by
  simp [binding, List.filter_map, Function.comp_def, Test.op_withoutValue]

theorem Filter.leafTextAt_withoutValue (q : Quoter) (bound : Nat) (ts : List Test) :
    leafTextAt q bound (ts.map Test.withoutValue) = leafTextAt q bound ts := by
  funext place
  simp only [leafTextAt, List.getElem?_map, ← List.map_take, length_binding_withoutValue]
  cases ts[place]? with
  | none => rfl
  | some t => exact leafText_withoutValue q _ t

mutual

private theorem tests_condition_withoutValues (c : Condition) :
    c.withoutValues.tests = c.tests.map Test.withoutValue := by
  match c with
  | .test t => simp [Condition.withoutValues, Condition.tests]
  | .group es => rw [Condition.withoutValues, Condition.tests, Condition.tests, tests_withoutValues es]

private theorem tests_withoutValues (f : Filter) : f.withoutValues.tests = f.tests.map Test.withoutValue := by
  match f with
  | [] => simp [Filter.withoutValues, Filter.tests]
  | (link, c) :: es =>
    rw [Filter.withoutValues, Filter.tests, Filter.tests, List.map_append, tests_condition_withoutValues c,
      tests_withoutValues es]

end

mutual

private theorem tokens_condition_withoutValues (c : Condition) (start : Nat) :
    c.withoutValues.tokens start = c.tokens start := by
  match c with
  | .test t => simp [Condition.withoutValues, Condition.tokens]
  | .group es => rw [Condition.withoutValues, Condition.tokens, Condition.tokens, tokensFrom_withoutValues es]

private theorem tokensFrom_withoutValues (es : Filter) (start : Nat) (first : Bool) :
    tokensFrom start first es.withoutValues = tokensFrom start first es := by
  match es with
  | [] => simp [Filter.withoutValues, tokensFrom]
  | (link, c) :: es =>
    rw [Filter.withoutValues, tokensFrom, tokensFrom, tokens_condition_withoutValues c, tokensFrom_withoutValues es,
      tests_condition_withoutValues c, List.length_map]

end

private theorem isEmpty_withoutValues (f : Filter) : f.withoutValues.isEmpty = f.isEmpty := by
  match f with
  | [] => simp [Filter.withoutValues]
  | (link, c) :: es => simp [Filter.withoutValues]

namespace Select

private theorem uses_withoutValues (s : Select) (key : FetchKey) : s.withoutValues.uses key = s.uses key := by
  cases key <;> simp [uses, withoutValues, Fetch.isSet, isEmpty_withoutValues]

private theorem leavesAt_withoutValues (s : Select) (key : FetchKey) (f : Filter) :
    s.withoutValues.leavesAt key f.withoutValues = (s.leavesAt key f).map Test.withoutValue := by
  unfold leavesAt
  rw [uses_withoutValues]
  split
  · exact tests_withoutValues f
  · rfl

/-- The values of a query do not show in its text. -/
theorem text_withoutValues (s : Select) (q : Quoter) :
    s.withoutValues.textWith q (leafTextAt q 0 s.withoutValues.leaves) = s.textWith q (leafTextAt q 0 s.leaves) := by
  have hleaves : s.withoutValues.leaves = s.leaves.map Test.withoutValue := by
    rw [leaves, leaves, List.map_append, ← leavesAt_withoutValues, ← leavesAt_withoutValues]
    rfl
  have hlength : (s.withoutValues.leavesAt .filter s.withoutValues.fetch.filter).length =
      (s.leavesAt .filter s.fetch.filter).length :=
    (congrArg List.length (leavesAt_withoutValues s .filter s.fetch.filter)).trans (List.length_map _)
  have hhead : s.withoutValues.headText = s.headText := by
    simp only [headText, uses_withoutValues]
    rfl
  have hgroup : s.withoutValues.groupText = s.groupText := by
    simp only [groupText, uses_withoutValues]
    rfl
  have hend : s.withoutValues.endText q.dialect = s.endText q.dialect := by
    simp only [endText, uses_withoutValues]
    rfl
  have hclause : ∀ (key : FetchKey) (keyword : String) (f : Filter) (leaf : Nat → String) (start : Nat),
      s.withoutValues.clauseText key keyword f.withoutValues leaf start = s.clauseText key keyword f leaf start := by
    intro key keyword f leaf start
    rw [clauseText, clauseText, uses_withoutValues, tokens, tokens, tokensFrom_withoutValues]
  rw [textWith, textWith, hleaves, hlength, hhead, hgroup, hend, leafTextAt_withoutValue]
  exact congrArg₂ (fun a b => s.headText ++ a ++ s.groupText ++ b ++ s.endText q.dialect)
    (hclause .filter ..) (hclause .having ..)

/-- The parameters of a query are the operands of the leaves that compare with one value, in source order; the leaf of
the parameter with the number `i` is written as column, operator and placeholder `i`.  The same holds of a filter after
any number of parameters.  Queries that differ only in these operands have the same text. -/
theorem parameters_are_leaf_operands :
    (∀ (s : Select) (q : Quoter) (sql : Sql), s.sql q = .ok sql →
      sql.binds.map some = (binding s.leaves).map Test.operand ∧
        sql.text = s.textWith q (leafTextAt q 0 s.leaves)) ∧
    (∀ (f : Filter) (q : Quoter) (bound : Nat) (sql : Sql), f.compile q bound = .ok sql →
      sql.binds.map some = (binding f.tests).map Test.operand ∧
        sql.text = tokensText (leafTextAt q bound f.tests) (f.tokens 0)) ∧
    (∀ (q : Quoter) (bound : Nat) (ts : List Test) (place : Nat) (t : Test),
      ts[place]? = some t → t.op.comparesOne →
        (binding ts)[(binding (ts.take place)).length]? = some t ∧
          leafTextAt q bound ts place =
            t.col ++ " " ++ t.op.sql ++ " " ++ q.dialect.placeholder (bound + (binding (ts.take place)).length + 1)) ∧
    ∀ (s s' : Select) (q : Quoter) (sql sql' : Sql), s.withoutValues = s'.withoutValues →
      s.sql q = .ok sql → s'.sql q = .ok sql' → sql.text = sql'.text := by
  refine ⟨fun s q sql h => sql_written h, fun f q bound sql h => ?_, fun q bound ts place t ht hone => ?_, ?_⟩
  · simpa using written_of_compile h [] [] (n := bound) rfl
  · exact leafTextAt_binding q bound ht hone
  · intro s s' q sql sql' hsame h h'
    rw [(sql_written h).2, (sql_written h').2, ← text_withoutValues s q, ← text_withoutValues s' q, hsame]

/-- A query with leaves of every kind in both of its parts. -/
private def twoParts : Select :=
  { table := "t"
    fetch :=
      { filter :=
          [(.and "0", .test { col := "a", op := .gt, operand := some (.bool true) }),
            (.and "1", .test { col := "b", op := .isNull, operand := some (.text "x") })]
        group := ["a"]
        having :=
          [(.and "0", .test { col := "c", op := .isIn, operand := some (.array [.null]) }),
            (.or, .test { col := "d", op := .eq, operand := some (.text "y") })] } }

/-- The second parameter stands in the second part. -/
theorem parameters_are_leaf_operands_twoParts :
    ∃ sql, twoParts.sql Dialect.sqlite.quoter = .ok sql ∧
      sql.text = "SELECT t.* FROM t WHERE a > ?1 AND b IS NULL GROUP BY a HAVING c IN (NULL) OR d = ?2" ∧
      sql.binds.map some = (binding twoParts.leaves).map Test.operand ∧
      leafTextAt Dialect.sqlite.quoter 0 twoParts.leaves 3 = "d = ?2" := by
  obtain ⟨hsql, -, hleaf, -⟩ := parameters_are_leaf_operands
  have h : twoParts.sql Dialect.sqlite.quoter = .ok
      ⟨"SELECT t.* FROM t WHERE a > ?1 AND b IS NULL GROUP BY a HAVING c IN (NULL) OR d = ?2",
        [.bool true, .text "y"]⟩ := rfl
  exact ⟨_, h, rfl, (hsql twoParts _ _ h).1, (hleaf Dialect.sqlite.quoter 0 twoParts.leaves 3 _ rfl rfl).2⟩

end Select

end RecordMapper
