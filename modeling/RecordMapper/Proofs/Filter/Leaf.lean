import RecordMapper.Proofs.Filter.Composed
import RecordMapper.Proofs.Filter.WellFormed
import RecordMapper.Proofs.Logic.Expression

/-!
# The leaves of filters

`Filter.tests` lists the tests of a filter in source order and `Filter.tokens` its boolean structure, in which a test
is known by its place in that list.  A test with an operator for one value binds its operand, and its number is its
place among such tests; no other test binds anything.

* the text of a compiled filter is its tokens written one after the other, each leaf under its own number, and its
  parameters are the operands of the leaves that bind (`Written`, `written_of_compile`).
-/

namespace RecordMapper

open Logic

mutual

/-- The tests of a condition, in source order. -/
def Condition.tests : Condition → List Test
  | .test t => [t]
  | .group es => Filter.tests es

/-- The tests of a filter, in source order. -/
def Filter.tests : Filter → List Test
  | [] => []
  | (_, c) :: es => c.tests ++ Filter.tests es

end

mutual

/-- The tokens of a condition whose first leaf has the place `start`. -/
def Condition.tokens (start : Nat) : Condition → List Token
  | .test _ => [.leaf start]
  | .group es => .opening :: (Filter.tokensFrom start true es ++ [.closing])

/-- The tokens of a list of conditions, or of the rest of one. -/
def Filter.tokensFrom (start : Nat) (first : Bool) : List (Link × Condition) → List Token
  | [] => []
  | (link, c) :: es =>
    (if first then [] else [if link.isOr then .or else .and]) ++
      (c.tokens start ++ Filter.tokensFrom (start + c.tests.length) false es)

end

/-- The tokens of a filter whose first leaf has the place `start`. -/
def Filter.tokens (start : Nat) (f : Filter) : List Token :=
  Filter.tokensFrom start true f

namespace Filter

mutual

private theorem places_condition (c : Condition) (start : Nat) :
    (c.tokens start).filterMap Token.place? = List.range' start c.tests.length := by
  match c with
  | .test t => simp [Condition.tokens, Condition.tests, Token.place?]
  | .group es =>
    rw [Condition.tokens, Condition.tests, List.filterMap_cons_none rfl, List.filterMap_append,
      places_tokensFrom es start true]
    exact List.append_nil _

private theorem places_tokensFrom (es : List (Link × Condition)) (start : Nat) (first : Bool) :
    (tokensFrom start first es).filterMap Token.place? = List.range' start (tests es).length := by
  match es with
  | [] => simp [tokensFrom, tests]
  | (link, c) :: es =>
    have hlink : (if first then [] else [if link.isOr then Token.or else .and]).filterMap Token.place? = [] := by
      cases first <;> cases link.isOr <;> rfl
    rw [tokensFrom, tests, List.filterMap_append, List.filterMap_append, hlink, places_condition c,
      places_tokensFrom es, List.length_append, ← List.range'_append_1]
    rfl

end

/-- Every leaf is one token, in source order. -/
theorem places_tokens (f : Filter) : (f.tokens 0).filterMap Token.place? = List.range f.tests.length := by
  rw [tokens, places_tokensFrom, List.range_eq_range']

/-- A token in SQL. -/
def tokenText (leaf : Nat → String) : Token → String
  | .leaf place => leaf place
  | .and => " AND "
  | .or => " OR "
  | .opening => "("
  | .closing => ")"

/-- Tokens in SQL. -/
def tokensText (leaf : Nat → String) (ts : List Token) : String :=
  String.join (ts.map (tokenText leaf))

/-- The tests that bind their operand. -/
def binding (ts : List Test) : List Test :=
  ts.filter fun t => t.op.comparesOne

/-- A test in SQL, the parameter that it binds having the given number. -/
def leafText (q : Quoter) (index : Nat) (t : Test) : String :=
  if t.op.comparesOne then t.col ++ " " ++ t.op.sql ++ " " ++ q.dialect.placeholder index
  else
    match operandOf t with
    | .ok operand => testText q index t.col t.op operand
    | .error _ => ""

/-- The test at a place in SQL.  Its number counts the tests up to it that bind, after the `bound` parameters before
them all. -/
def leafTextAt (q : Quoter) (bound : Nat) (ts : List Test) (place : Nat) : String :=
  match ts[place]? with
  | some t => leafText q (bound + (binding (ts.take (place + 1))).length) t
  | none => ""

/-! ### Operands -/

/-- What an operand can be: nothing, the operand of a membership test, or a bound value. -/
theorem operandOf_cases {t : Test} {operand : Operand} (h : operandOf t = .ok operand) :
    (¬ t.op.takesOperand ∧ operand = .none) ∨
      (t.op.isMembership ∧ ∃ v, t.operand = some v ∧ membershipOperand v = .ok operand) ∨
      (t.op.comparesOne ∧ ∃ v, t.operand = some v ∧ operand = .bound v) := by
  unfold operandOf at h
  by_cases hcol : Text.isBlankText t.col
  · simp [hcol] at h
  by_cases htakes : t.op.takesOperand
  · cases hv : t.operand with
    | none => simp [hcol, htakes, hv] at h
    | some v =>
      by_cases hmem : t.op.isMembership
      · exact .inr (.inl ⟨hmem, v, rfl, by simpa [hcol, htakes, hv, hmem] using h⟩)
      · by_cases hs : v.isScalar
        · refine .inr (.inr ⟨by simp [Operator.comparesOne, htakes, hmem], v, rfl, ?_⟩)
          simpa [hcol, htakes, hv, hmem, hs, eq_comm] using h
        · simp [hcol, htakes, hv, hmem, hs] at h
  · exact .inl ⟨htakes, by simpa [hcol, htakes, eq_comm] using h⟩

theorem membershipOperand_ne_bound (v w : Value) : membershipOperand v ≠ .ok (.bound w) := by
  unfold membershipOperand
  repeat' split
  all_goals simp

private theorem testText_of_ne_bound {operand : Operand} (h : ∀ v, operand ≠ .bound v) (q : Quoter) (m n : Nat)
    (col : String) (op : Operator) : testText q m col op operand = testText q n col op operand := by
  cases operand with
  | bound v => exact absurd rfl (h v)
  | _ => rfl

/-- A test binds its operand exactly if it compares with one value. -/
private theorem binds_test {t : Test} {operand : Operand} (h : operandOf t = .ok operand) :
    (Piece.binds (.test t.col t.op operand)).map some = (binding [t]).map Test.operand := by
  rcases operandOf_cases h with ⟨htakes, rfl⟩ | ⟨hmem, v, _, hop⟩ | ⟨hone, v, hv, rfl⟩
  · simp [Piece.binds, binding, Operator.comparesOne, htakes]
  · cases operand with
    | bound w => exact absurd hop (membershipOperand_ne_bound v w)
    | _ => simp [Piece.binds, binding, Operator.comparesOne, hmem]
  · simp [Piece.binds, binding, hone, hv]

/-- A test is written as its leaf. -/
private theorem testText_eq_leafText {t : Test} {operand : Operand} (h : operandOf t = .ok operand) (q : Quoter)
    (n : Nat) : testText q (n + 1) t.col t.op operand = leafText q (n + (binding [t]).length) t := by
  rcases operandOf_cases h with ⟨htakes, rfl⟩ | ⟨hmem, v, _, hop⟩ | ⟨hone, v, hv, rfl⟩
  · simp [leafText, Operator.comparesOne, htakes, h, testText]
  · have hone : ¬ t.op.comparesOne := by simp [Operator.comparesOne, hmem]
    simp only [leafText, hone, h]
    exact testText_of_ne_bound (fun w hw => membershipOperand_ne_bound v w (hw ▸ hop)) q _ _ t.col t.op
  · simp [leafText, hone, testText, binding]

/-! ### Compiling -/

/-- Pieces that bind the operands of the leaves `ts` and are written as the tokens `tokens` over these leaves, wherever
the leaves stand in a larger list. -/
structure Written (ps : List Piece) (ts : List Test) (tokens : Nat → List Token) : Prop where
  binds : (ps.flatMap Piece.binds).map some = (binding ts).map Test.operand
  text : ∀ q bound before after, renderFrom q (bound + (binding before).length) ps =
    tokensText (leafTextAt q bound (before ++ (ts ++ after))) (tokens before.length)

theorem tokensText_append (leaf : Nat → String) (us us' : List Token) :
    tokensText leaf (us ++ us') = tokensText leaf us ++ tokensText leaf us' := by
  simp [tokensText]

theorem binding_append (ts ts' : List Test) : binding (ts ++ ts') = binding ts ++ binding ts' :=
  List.filter_append ..

theorem Written.append {ps ps' : List Piece} {ts ts' : List Test} {tokens tokens' : Nat → List Token}
    (h : Written ps ts tokens) (h' : Written ps' ts' tokens') :
    Written (ps ++ ps') (ts ++ ts') fun start => tokens start ++ tokens' (start + ts.length) := by
  refine ⟨?_, fun q bound before after => ?_⟩
  · rw [List.flatMap_append, List.map_append, h.binds, h'.binds, binding_append, List.map_append]
  · have hlength : (ps.flatMap Piece.binds).length = (binding ts).length := by
      simpa using congrArg List.length h.binds
    have hrest := h'.text q bound (before ++ ts) after
    rw [binding_append, List.length_append, ← Nat.add_assoc] at hrest
    rw [renderFrom_append, hlength, hrest, tokensText_append, List.append_assoc, h.text q bound before (ts' ++ after)]
    simp

private theorem written_test {t : Test} {operand : Operand} (h : operandOf t = .ok operand) :
    Written [.test t.col t.op operand] [t] fun start => [.leaf start] := by
  refine ⟨by simpa using binds_test h, fun q bound before after => ?_⟩
  have hplace : (before ++ ([t] ++ after))[before.length]? = some t := by simp
  -- a test that binds counts itself, so that its number is one more than the parameters before it
  have htake : (before ++ ([t] ++ after)).take (before.length + 1) = before ++ [t] := by
    rw [← List.append_assoc, List.take_left' (by simp)]
  have htext := testText_eq_leafText h q (bound + (binding before).length)
  simp only [tokensText, List.map_cons, List.map_nil, tokenText, leafTextAt, hplace, htake, binding_append,
    List.length_append, ← Nat.add_assoc, ← htext]
  simp [renderFrom]

private theorem written_nil : Written [] [] fun _ => [] :=
  ⟨rfl, fun _ _ _ _ => by simp [renderFrom, tokensText]⟩

/-- Connectives and parentheses bind nothing and are written as they are. -/
private theorem written_token {p : Piece} {u : Token} (hbinds : p.binds = [])
    (htext : ∀ q n leaf, renderFrom q n [p] = tokenText leaf u) : Written [p] [] fun _ => [u] := by
  refine ⟨by simp [hbinds, binding], fun q bound before after => ?_⟩
  rw [htext q _ (leafTextAt q bound (before ++ ([] ++ after)))]
  simp [tokensText]

private theorem written_link (link : Link) :
    Written [linkPiece link] [] fun _ => [if link.isOr then .or else .and] := by
  unfold linkPiece
  split
  · exact written_token rfl fun _ _ _ => by simp [renderFrom, tokenText]
  · exact written_token rfl fun _ _ _ => by simp [renderFrom, tokenText]

mutual

private theorem written_condition (link : Link) (c : Condition) {ps : List Piece}
    (h : conditionPieces link c = .ok ps) : Written ps c.tests fun start => c.tokens start := by
  match c with
  | .test t =>
    rw [conditionPieces] at h
    cases hop : operandOf t with
    | error reason => simp [hop] at h
    | ok operand =>
      simp only [hop, Except.ok.injEq] at h
      subst h
      simpa only [Condition.tests, Condition.tokens] using written_test hop
  | .group [] => simp [conditionPieces] at h
  | .group (e :: es) =>
    rw [conditionPieces] at h
    cases hin : entryPieces true (e :: es) with
    | error fault => simp [hin] at h
    | ok inner =>
      simp only [hin, Except.ok.injEq] at h
      subst h
      have hopen : Written [.openGroup] [] fun _ => [.opening] :=
        written_token rfl fun _ _ _ => by simp [renderFrom, tokenText]
      have hclose : Written [.closeGroup] [] fun _ => [.closing] :=
        written_token rfl fun _ _ _ => by simp [renderFrom, tokenText]
      simpa only [Condition.tests, Condition.tokens, List.append_nil, List.nil_append, List.singleton_append,
        List.length_nil, Nat.add_zero] using hopen.append ((written_entries true (e :: es) hin).append hclose)

private theorem written_entries (first : Bool) (es : List (Link × Condition)) {ps : List Piece}
    (h : entryPieces first es = .ok ps) : Written ps (tests es) fun start => tokensFrom start first es := by
  match es with
  | [] =>
    simp only [entryPieces, Except.ok.injEq] at h
    subst h
    simpa only [tests, tokensFrom] using written_nil
  | (link, c) :: es =>
    rw [entryPieces] at h
    by_cases hor : first && link.isOr
    · simp [hor] at h
    cases hc : conditionPieces link c with
    | error fault => simp [hor, hc] at h
    | ok pieces =>
      cases hes : entryPieces false es with
      | error fault => simp [hor, hc, hes] at h
      | ok rest =>
        simp only [hor, hc, hes] at h
        have hboth := (written_condition link c hc).append (written_entries false es hes)
        cases first with
        | true =>
          obtain rfl : pieces ++ rest = ps := by simpa using h
          simpa only [tests, tokensFrom, if_true, List.nil_append] using hboth
        | false =>
          obtain rfl : linkPiece link :: (pieces ++ rest) = ps := by simpa using h
          simpa [tests, tokensFrom] using (written_link link).append hboth

end

/-- A compiled filter is written as its tokens, and binds the operands of its leaves, in source order. -/
theorem written_of_compile {f : Filter} {q : Quoter} {bound : Nat} {sql : Sql} (h : f.compile q bound = .ok sql)
    (before after : List Test) {n : Nat} (hn : bound = n + (binding before).length) :
    sql.binds.map some = (binding f.tests).map Test.operand ∧
      sql.text = tokensText (leafTextAt q n (before ++ (f.tests ++ after))) (f.tokens before.length) := by
  rw [compile] at h
  cases hps : f.pieces with
  | error fault => simp [hps] at h
  | ok ps =>
    simp only [hps, Except.ok.injEq] at h
    subst h hn
    have hw := written_entries true f hps
    exact ⟨hw.binds, hw.text q n before after⟩

end Filter

end RecordMapper
