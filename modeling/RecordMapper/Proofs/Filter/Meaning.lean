import RecordMapper.Proofs.Filter.Leaf

/-!
# The meaning of filters

`Filter.value` is what a filter means when its leaves have given truth values: a list is the disjunction of its runs,
cut before every condition that is linked by `OR`, a run is the conjunction of its conditions, and a group has the value
of its list.

* the text of a compiled filter can be read as a boolean expression in one way only, and that expression has the value
  of the filter under all truth values of the leaves (`compile_parses_to_value`).
-/

namespace RecordMapper

open Logic

mutual

/-- The value of a condition whose first leaf has the place `start`. -/
def Condition.value (v : Nat → Truth) (start : Nat) : Condition → Truth
  | .test _ => v start
  | .group es => .ofRuns (Filter.entryValues v start es)

/-- The values of the conditions of a filter, those linked by `OR` marked. -/
def Filter.entryValues (v : Nat → Truth) (start : Nat) : Filter → List (Bool × Truth)
  | [] => []
  | (link, c) :: es => (link.isOr, c.value v start) :: Filter.entryValues v (start + c.tests.length) es

end

/-- The value of a filter; an empty one asks for nothing. -/
def Filter.value (v : Nat → Truth) (f : Filter) : Truth :=
  if f.isEmpty then .yes else .ofRuns (Filter.entryValues v 0 f)

namespace Filter

/-! ### Parsing -/

mutual

/-- A condition is a factor. -/
private theorem parses_condition {c : Condition} (hc : c.WellFormed) (start : Nat) :
    ∃ e, Parses .factor (c.tokens start) e ∧ ∀ v, e.value v = c.value v start := by
  match c with
  | .test t =>
    rw [Condition.tokens]
    exact ⟨.leaf start, .leaf start, fun v => by rw [Condition.value]; rfl⟩
  | .group [] => cases hc with | group hne => exact absurd rfl hne
  | .group ((link, d) :: es) =>
    have heach : ∀ e ∈ (link, d) :: es, e.2.WellFormed := by cases hc with | group _ _ heach => exact heach
    obtain ⟨a, ha, hav⟩ := parses_condition (heach (link, d) (by simp)) start
    obtain ⟨e, he, hev⟩ := parses_further es (fun e he => heach e (by simp [he])) (start + d.tests.length)
      .nothing (.factor ha)
    refine ⟨.group e, ?_, fun v => ?_⟩
    · rw [Condition.tokens, tokensFrom]
      exact .group he
    · rw [Condition.value, entryValues, Expr.value, hev, hav]
      exact Truth.ofRuns_cons_mark ..

/-- The conditions after the first go on with the run that is open, or start new ones. -/
private theorem parses_further (es : List (Link × Condition)) (hes : ∀ e ∈ es, e.2.WellFormed) (start : Nat)
    {ps ts : List Token} {before : Option Expr} {run : Expr} (hb : ParsesBefore ps before)
    (hrun : Parses .conjunction ts run) :
    ∃ e, Parses .disjunction (ps ++ (ts ++ tokensFrom start false es)) e ∧
      ∀ v, e.value v = afterRuns v before (.ofRuns ((false, run.value v) :: entryValues v start es)) := by
  -- a condition under `AND` goes on with `run`, one under `OR` moves `run` to the runs before
  match es with
  | [] =>
    refine ⟨joined .or before run, ?_, fun v => ?_⟩
    · rw [tokensFrom, List.append_nil]
      exact hb.joined hrun
    · rw [entryValues, Truth.ofRuns_singleton, value_joined]
  | (link, d) :: es =>
    obtain ⟨a, ha, hav⟩ := parses_condition (hes (link, d) (by simp)) start
    have hrest : ∀ e ∈ es, e.2.WellFormed := fun e he => hes e (by simp [he])
    cases hlink : link.isOr with
    | false =>
      obtain ⟨e, he, hev⟩ := parses_further es hrest (start + d.tests.length) hb (.and hrun ha)
      refine ⟨e, ?_, fun v => ?_⟩
      · simpa [tokensFrom, hlink] using he
      · rw [hev, entryValues, hlink, Truth.ofRuns_cons_and, Expr.value, hav]
    | true =>
      obtain ⟨e, he, hev⟩ := parses_further es hrest (start + d.tests.length) (.runs (hb.joined hrun)) (.factor ha)
      refine ⟨e, ?_, fun v => ?_⟩
      · simpa [tokensFrom, hlink] using he
      · rw [hev, entryValues, hlink, Truth.ofRuns_cons_or, hav, ← afterRuns_or, ← value_joined]
        exact congrArg _ (Truth.ofRuns_cons_mark ..)

end

/-- The tokens of a well-formed filter are those of an expression of its value. -/
theorem parses_tokens {f : Filter} (hf : f.WellFormed) (hne : f ≠ []) :
    ∃ e, Parses .disjunction (f.tokens 0) e ∧ ∀ v, e.value v = f.value v := by
  match f with
  | [] => exact absurd rfl hne
  | (link, c) :: es =>
    obtain ⟨a, ha, hav⟩ := parses_condition (hf.each (link, c) (by simp)) 0
    obtain ⟨e, he, hev⟩ := parses_further es (fun e he => hf.each e (by simp [he])) (0 + c.tests.length)
      .nothing (.factor ha)
    refine ⟨e, ?_, fun v => ?_⟩
    · rw [tokens, tokensFrom]
      exact he
    · rw [hev, hav, value, entryValues]
      exact Truth.ofRuns_cons_mark ..

/-- The text of a compiled filter is made of its leaves, each once and in source order, connectives and parentheses.  It
is a clause in one way only, an expression unless the filter is empty, and the clause has the value of the filter. -/
theorem compile_parses_to_value {f : Filter} {q : Quoter} {bound : Nat} {sql : Sql} (h : f.compile q bound = .ok sql) :
    sql.text = tokensText (leafTextAt q bound f.tests) (f.tokens 0) ∧
      (f.tokens 0).filterMap Token.place? = List.range f.tests.length ∧
      ∃ clause, ParsesClause (f.tokens 0) clause ∧ (∀ other, ParsesClause (f.tokens 0) other → other = clause) ∧
        (clause = none ↔ f = []) ∧ ∀ v, clauseValue v clause = f.value v := by
  have htext := (written_of_compile h [] [] (n := bound) rfl).2
  rw [List.append_nil] at htext
  refine ⟨htext, places_tokens f, ?_⟩
  by_cases hne : f = []
  · subst hne
    exact ⟨none, .nothing, fun other hother => hother.unique .nothing, by simp, fun v => rfl⟩
  · obtain ⟨e, he, hev⟩ := parses_tokens (exists_compile_iff.1 ⟨sql, h⟩) hne
    exact ⟨some e, .expression he, fun other hother => hother.unique (.expression he), by simp [hne], hev⟩

/-- A list whose group is cut from the first condition and joined to the last one. -/
private def mixed : Filter :=
  [(.and "0", .test { col := "a", op := .eq, operand := some (.bool true) }),
    (.orTagged "x", .group
      [(.and "0", .test { col := "b", op := .isNull }),
        (.or, .test { col := "c", op := .isIn, operand := some (.array [.bool false, .null]) })]),
    (.and "1", .test { col := "d", op := .like, operand := some (.text "x") })]

/-- The `AND` after the group binds tighter than the `OR` before it. -/
theorem compile_parses_to_value_mixed :
    mixed.compile Dialect.postgres.quoter 2 =
        .ok ⟨"a = $3 OR (b IS NULL OR c IN (0, NULL)) AND d LIKE $4", [.bool true, .text "x"]⟩ ∧
      ∃ clause, ParsesClause (mixed.tokens 0) clause ∧
        ∀ v, clauseValue v clause = (v 0).or (((v 1).or (v 2)).and (v 3)) := by
  have h : mixed.compile Dialect.postgres.quoter 2 =
      .ok ⟨"a = $3 OR (b IS NULL OR c IN (0, NULL)) AND d LIKE $4", [.bool true, .text "x"]⟩ := rfl
  obtain ⟨-, -, clause, hparse, -, -, hvalue⟩ := compile_parses_to_value h
  refine ⟨h, clause, hparse, fun v => (hvalue v).trans ?_⟩
  have hmixed : mixed.value v =
      .any [.all [v 0], .all [.any [.all [v 1], .all [v 2]], v 3]] := rfl
  rw [hmixed]
  cases v 0 <;> cases v 1 <;> cases v 2 <;> cases v 3 <;> rfl

end Filter

end RecordMapper
