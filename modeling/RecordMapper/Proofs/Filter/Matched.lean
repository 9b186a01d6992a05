import RecordMapper.Proofs.Filter.Composed
import RecordMapper.Proofs.Filter.WellFormed

/-!
# Filters for values

The rows that hold some values are asked for by one test for each of them, in their order.

* `MatchTest` is the test of one value: `NULL` has its own test, a list is written into the text, and any other value is
  a parameter; `MatchTests` are the tests of several, whose parameters are numbered on from those before;
* the filter for values is compiled to these tests, joined by `AND` (`Filter.compile_matching`), and it is compiled
  exactly if each of them can be made (`Filter.exists_compile_matching_iff`).
-/

namespace RecordMapper

/-- The test that a column holds a value, after `bound` parameters, with the parameter that it adds. -/
inductive MatchTest (q : Quoter) (bound : Nat) : String × Value → String → List Value → Prop where
  | isNull {col : String} : MatchTest q bound (col, .null) (col ++ " IS NULL") []
  /-- The members of a list are no parameters. -/
  | isIn {col : String} {vs : List Value} (hne : vs ≠ []) (hscalar : ∀ v ∈ vs, v.isScalar = true) :
    MatchTest q bound (col, .array vs) (col ++ " IN (" ++ ", ".intercalate (vs.map (Filter.memberText q)) ++ ")") []
  | equals {col : String} {v : Value} (hnull : v ≠ .null) (hscalar : v.isScalar = true) :
    MatchTest q bound (col, v) (col ++ " = " ++ q.dialect.placeholder (bound + 1)) [v]

/-- The tests of some entries after `bound` parameters, with the parameters that they add. -/
inductive MatchTests (q : Quoter) : Nat → List (String × Value) → List String → List Value → Prop where
  | nil (bound : Nat) : MatchTests q bound [] [] []
  | cons {bound : Nat} {e : String × Value} {es : List (String × Value)} {text : String} {texts : List String}
    {binds more : List Value} (h : MatchTest q bound e text binds)
    (hrest : MatchTests q (bound + binds.length) es texts more) :
    MatchTests q bound (e :: es) (text :: texts) (binds ++ more)

/-- There is a test for a value in a column. -/
def IsMatchable (e : String × Value) : Prop :=
  Text.trimmed e.1 ≠ "" ∧ (e.2.isScalar = true ∨ ∃ vs, e.2 = .array vs ∧ vs ≠ [] ∧ ∀ v ∈ vs, v.isScalar = true)

namespace Filter

variable {q : Quoter} {bound : Nat} {col : String}

/-- The link of the condition at a place. -/
def linkAt (place : Nat) : Link :=
  .and (Decimal.natText place)

/-! ### Single tests -/

/-- Nothing is needed for the test for `NULL`. -/
theorem operandOf_isNull {operand : Operand} (h : operandOf { col, op := .isNull } = .ok operand) :
    operand = .none := by
  unfold operandOf at h
  split at h
  · cases h
  · exact (Except.ok.inj h).symm

/-- Equality is tested with a single value. -/
theorem operandOf_eq {v : Value} {operand : Operand}
    (h : operandOf { col, op := .eq, operand := some v } = .ok operand) : v.isScalar = true ∧ operand = .bound v := by
  unfold operandOf at h
  split at h
  · cases h
  · simp only [Operator.takesOperand, Operator.isMembership, Bool.not_true, Bool.false_eq_true, if_false] at h
    split at h
    · rename_i hscalar
      exact ⟨hscalar, (Except.ok.inj h).symm⟩
    · cases h

/-- Membership is tested in a list of single values. -/
theorem operandOf_isIn {vs : List Value} {operand : Operand}
    (h : operandOf { col, op := .isIn, operand := some (.array vs) } = .ok operand) :
    vs ≠ [] ∧ (∀ v ∈ vs, v.isScalar = true) ∧ operand = .members vs := by
  unfold operandOf at h
  split at h
  · cases h
  · simp only [Operator.takesOperand, Operator.isMembership, Bool.not_true, Bool.false_eq_true, if_false, if_true,
      membershipOperand] at h
    split at h
    · cases h
    · rename_i hempty
      split at h
      · rename_i hall
        exact ⟨fun hnil => hempty (List.isEmpty_iff.2 hnil), List.all_eq_true.1 hall, (Except.ok.inj h).symm⟩
      · cases h

theorem testText_isNull (q : Quoter) (index : Nat) (col : String) :
    testText q index col .isNull .none = col ++ " IS NULL" := by
  simp [testText, Operator.sql, String.append_assoc]

theorem testText_eq (q : Quoter) (index : Nat) (col : String) (v : Value) :
    testText q index col .eq (.bound v) = col ++ " = " ++ q.dialect.placeholder index := by
  simp [testText, Operator.sql, String.append_assoc]

theorem testText_isIn (q : Quoter) (index : Nat) (col : String) (vs : List Value) :
    testText q index col .isIn (.members vs) = col ++ " IN (" ++ ", ".intercalate (vs.map (memberText q)) ++ ")" := by
  simp [testText, Operator.sql, String.append_assoc]

/-- The condition of an entry is written as its test, if it can be written. -/
theorem matchTest_of_pieces (bound : Nat) {link : Link} {v : Value} {ps : List Piece}
    (h : conditionPieces link (matchOf col v) = .ok ps) :
    MatchTest q bound (col, v) (renderFrom q bound ps) (ps.flatMap Piece.binds) := by
  have hpieces {t : Test} (h : conditionPieces link (.test t) = .ok ps) :
      ∃ operand, operandOf t = .ok operand ∧ renderFrom q bound ps = testText q (bound + 1) t.col t.op operand ∧
        ps.flatMap Piece.binds = Piece.binds (.test t.col t.op operand) := by
    rw [conditionPieces] at h
    split at h
    · rename_i operand hoperand
      obtain rfl := Except.ok.inj h
      exact ⟨operand, hoperand, String.append_empty, List.append_nil _⟩
    · cases h
  cases v with
  | null =>
    obtain ⟨operand, hoperand, htext, hbinds⟩ := hpieces h
    obtain rfl := operandOf_isNull hoperand
    rw [htext, hbinds, testText_isNull]
    exact .isNull
  | array vs =>
    obtain ⟨operand, hoperand, htext, hbinds⟩ := hpieces h
    obtain ⟨hne, hscalar, rfl⟩ := operandOf_isIn hoperand
    rw [htext, hbinds, testText_isIn]
    exact .isIn hne hscalar
  | _ =>
    obtain ⟨operand, hoperand, htext, hbinds⟩ := hpieces h
    obtain ⟨hscalar, rfl⟩ := operandOf_eq hoperand
    rw [htext, hbinds, testText_eq]
    exact .equals (by simp) hscalar

/-! ### Several tests -/

/-- Entries with their conditions, the first of which stands at a place. -/
def matchEntries (place : Nat) (es : List (String × Value)) : Filter :=
  (es.zipIdx place).map fun e => (linkAt e.2, matchOf e.1.1 e.1.2)

theorem matching_eq (values : Assignments) : matching values = matchEntries 0 values.toList := by
  have hfoldl (es : List (String × Value)) (f : Filter) :
      es.foldl (fun f e => f.and (matchOf e.1 e.2)) f = f ++ matchEntries f.length es := by
    induction es generalizing f with
    | nil => exact (List.append_nil f).symm
    | cons e es ih =>
      rw [List.foldl_cons, ih, Filter.and, push, List.length_append, List.length_singleton, List.append_assoc]
      rfl
  exact (hfoldl values.toList []).trans (List.nil_append _)

/-- The pieces of conditions that begin with an entry are those of its test and those of the others. -/
theorem entryPieces_matchEntries {first : Bool} {place : Nat} {e : String × Value} {es : List (String × Value)}
    {ps : List Piece} (h : entryPieces first (matchEntries place (e :: es)) = .ok ps) :
    ∃ cs rest, conditionPieces (linkAt place) (matchOf e.1 e.2) = .ok cs ∧
      entryPieces false (matchEntries (place + 1) es) = .ok rest ∧
      ps = (if first then cs else .and :: cs) ++ rest := by
  have hentries : matchEntries place (e :: es) = (linkAt place, matchOf e.1 e.2) :: matchEntries (place + 1) es := rfl
  have hlink : (first && (linkAt place).isOr) = false := Bool.and_false first
  rw [hentries, entryPieces, hlink, if_neg Bool.false_ne_true] at h
  cases hcs : conditionPieces (linkAt place) (matchOf e.1 e.2) with
  | error fault => simp [hcs] at h
  | ok cs =>
    cases hrest : entryPieces false (matchEntries (place + 1) es) with
    | error fault => simp [hcs, hrest] at h
    | ok rest =>
      rw [hcs, hrest] at h
      exact ⟨cs, rest, rfl, rfl, (Except.ok.inj h).symm⟩

/-- A text that is joined to others, of which there may be none. -/
theorem intercalate_further (separator text : String) (texts : List String) :
    separator.intercalate (text :: texts) =
      text ++ if texts = [] then "" else separator ++ separator.intercalate texts := by
  cases texts with
  | nil => simp
  | cons next texts => rw [String.intercalate_cons_cons, if_neg (List.cons_ne_nil next texts), String.append_assoc]

/-- Conditions after others are written as their tests, each after an `AND`. -/
theorem matchTests_of_further {place : Nat} {es : List (String × Value)} {ps : List Piece}
    (h : entryPieces false (matchEntries place es) = .ok ps) (bound : Nat) :
    ∃ texts, MatchTests q bound es texts (ps.flatMap Piece.binds) ∧
      renderFrom q bound ps = if texts = [] then "" else " AND " ++ " AND ".intercalate texts := by
  induction es generalizing place bound ps with
  | nil =>
    obtain rfl := Except.ok.inj h
    exact ⟨[], .nil bound, rfl⟩
  | cons e es ih =>
    obtain ⟨cs, rest, hcs, hrest, rfl⟩ := entryPieces_matchEntries h
    have htest := matchTest_of_pieces (q := q) bound hcs
    obtain ⟨texts, htests, htext⟩ := ih hrest (bound + (cs.flatMap Piece.binds).length)
    refine ⟨renderFrom q bound cs :: texts, ?_, ?_⟩
    · rw [if_neg Bool.false_ne_true, List.flatMap_append]
      exact .cons htest htests
    · rw [if_neg Bool.false_ne_true, if_neg (List.cons_ne_nil _ texts), intercalate_further, ← htext,
        ← renderFrom_append]
      rfl

/-- Conditions are written as their tests, joined by `AND`. -/
theorem compile_matching {values : Assignments} {sql : Sql} (h : (matching values).compile q bound = .ok sql) :
    ∃ texts, MatchTests q bound values.toList texts sql.binds ∧ sql.text = " AND ".intercalate texts := by
  rw [compile, pieces, matching_eq] at h
  cases hps : entryPieces true (matchEntries 0 values.toList) with
  | error fault => simp [hps] at h
  | ok ps =>
    rw [hps] at h
    obtain rfl := Except.ok.inj h
    cases hes : values.toList with
    | nil =>
      rw [hes] at hps
      obtain rfl := Except.ok.inj hps
      exact ⟨[], .nil bound, String.intercalate_nil.symm⟩
    | cons e es =>
      rw [hes] at hps
      obtain ⟨cs, rest, hcs, hrest, rfl⟩ := entryPieces_matchEntries hps
      have htest := matchTest_of_pieces (q := q) bound hcs
      obtain ⟨texts, htests, htext⟩ := matchTests_of_further hrest (bound + (cs.flatMap Piece.binds).length)
      refine ⟨renderFrom q bound cs :: texts, ?_, ?_⟩
      · rw [if_pos rfl, render, List.flatMap_append]
        exact .cons htest htests
      · rw [if_pos rfl, intercalate_further, ← htext, ← renderFrom_append]
        rfl

/-! ### When there are tests -/

theorem wellFormed_test_iff {t : Test} : (Condition.test t).WellFormed ↔ t.WellFormed :=
  ⟨fun h => by cases h; assumption, .test⟩

/-- A test can be made of a column that is named and a single value or a list of them. -/
theorem wellFormed_matchOf_iff {col : String} {v : Value} : (matchOf col v).WellFormed ↔ IsMatchable (col, v) := by
  cases v with
  | null =>
    refine wellFormed_test_iff.trans ⟨fun h => ⟨h.column, .inl rfl⟩, fun h => ⟨h.1, nofun, nofun, nofun⟩⟩
  | array vs =>
    refine wellFormed_test_iff.trans ⟨fun h => ⟨h.column, .inr ⟨vs, rfl, h.members rfl _ rfl⟩⟩, fun h => ?_⟩
    obtain ⟨hcol, hscalar | ⟨_, ⟨⟩, hmembers⟩⟩ := h
    · exact nomatch hscalar
    · refine ⟨hcol, fun _ => Option.some_ne_none _, nofun, fun _ v hv => ?_⟩
      obtain rfl := Option.some.inj hv
      exact hmembers
  | _ =>
    refine wellFormed_test_iff.trans ⟨fun h => ⟨h.column, .inl (h.single rfl _ rfl)⟩, fun h => ?_⟩
    obtain ⟨hcol, hscalar | ⟨_, ⟨⟩, -⟩⟩ := h
    refine ⟨hcol, fun _ => Option.some_ne_none _, fun _ v hv => ?_, nofun⟩
    obtain rfl := Option.some.inj hv
    exact hscalar

theorem conditions_matchEntries (place : Nat) (es : List (String × Value)) :
    (matchEntries place es).map Prod.snd = es.map fun e => matchOf e.1 e.2 := by
  induction es generalizing place with
  | nil => rfl
  | cons e es ih => exact congrArg (matchOf e.1 e.2 :: ·) (ih (place + 1))

/-- A filter for values is compiled exactly if there is a test for each of them. -/
theorem exists_compile_matching_iff (q : Quoter) (bound : Nat) {values : Assignments} :
    (∃ sql, (matching values).compile q bound = .ok sql) ↔ ∀ e ∈ values.toList, IsMatchable e := by
  have heach : (∀ e ∈ matching values, e.2.WellFormed) ↔ ∀ e ∈ values.toList, IsMatchable e := by
    rw [← List.forall_mem_map (P := Condition.WellFormed), matching_eq, conditions_matchEntries, List.forall_mem_map]
    exact forall₂_congr fun e _ => wellFormed_matchOf_iff
  rw [exists_compile_iff, ← heach]
  refine ⟨fun h => h.each, fun h => ⟨fun e he => ?_, h⟩⟩
  rw [matching_eq] at he
  obtain ⟨_, -, rfl⟩ := List.mem_map.1 (List.mem_of_mem_head? he)
  exact Bool.false_ne_true

end Filter

end RecordMapper
