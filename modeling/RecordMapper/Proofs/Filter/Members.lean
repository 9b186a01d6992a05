import RecordMapper.Filter.Compile
import RecordMapper.Proofs.Dialect.Lexeme

/-!
# The members of a membership test

A membership test writes its members into the text.  Read by the rules of its dialect, that text is a list in
parentheses with one literal for each member, each literal standing for its member (`members_read_back`).  Whatever
is written after the list, the list is read the same: no member ends its own string or the list.
-/

namespace RecordMapper

open Text Decimal

/-- What the literal is for the value to be read from it. -/
def Lexeme.Denotes (d : Dialect) (l : Lexeme) : Value → Prop
  | .null => l = .null
  | .bool b => l = .number [if b then '1' else '0']
  | .int n => ∃ cs, l = .number cs ∧ readInt? cs = some n.toInt
  | .bigint n => ∃ cs, l = .number cs ∧ readInt? cs = some n.toInt
  | .double x => if isFinite x then l = .number (plainText x).toList else l = .null
  | .decimal s => if (Number.read? s).isSome then l = .number (trim s.toList) else l = .string s.toList
  | .text s => l = .string s.toList
  | .json doc => l = .string doc.text.toList
  | .bytes bs =>
    if d = .postgres then ∃ cs, l = .string ('\\' :: 'x' :: cs) ∧ hexBytes? cs = some bs else l = .blob bs
  | .array _ | .default => False

/-- The operands whose members are literals: a list of single values, and any one value but a text. -/
inductive Value.Lists : Value → List Value → Prop where
  | array {items : List Value} (hne : items ≠ []) (h : ∀ item ∈ items, item.isScalar) : Lists (.array items) items
  | single {v : Value} (h : v.isScalar) (htext : ∀ s, v ≠ .text s) : Lists v [v]

namespace Value.Lists

variable {v : Value} {vs : List Value}

theorem ne_nil (h : v.Lists vs) : vs ≠ [] := by
  cases h with
  | array hne _ => exact hne
  | single _ _ => exact List.cons_ne_nil v []

theorem isScalar (h : v.Lists vs) : ∀ w ∈ vs, w.isScalar := by
  cases h with
  | array _ h => exact h
  | single h _ => simpa using h

end Value.Lists

namespace Filter

/-- A text is written as a string of its characters. -/
private theorem readsAs_quoteText (d : Dialect) (s : String) :
    d.ReadsAs (d.quoteText s).toList (.string s.toList) := by
  rw [Dialect.quoteText, String.toList_ofList]
  exact d.readsAs_string s.toList

/-- An integer is written as a number that is read back. -/
private theorem readsAs_intText (d : Dialect) (i : Int) : d.ReadsAs (intText i).toList (.number (intDigits i)) := by
  rw [intText, String.toList_ofList]
  exact d.readsAs_number (numeral_of_readInt (readInt?_intDigits i))

section Numbers

variable (d : Dialect) {x : Float} {s : String}

theorem memberText_double_finite (h : isFinite x) : memberText d.quoter (.double x) = plainText x := by
  simp [memberText, Value.literal?, h]

theorem memberText_double_other (h : ¬ isFinite x) : memberText d.quoter (.double x) = "NULL" := by
  simp [memberText, Value.literal?, h, Dialect.quoter, Dialect.quoteLiteral]

theorem memberText_decimal_number (h : (Number.read? s).isSome) : memberText d.quoter (.decimal s) = trimmed s := by
  simp [memberText, Value.literal?, h]

theorem memberText_decimal_other (h : ¬ (Number.read? s).isSome) :
    memberText d.quoter (.decimal s) = d.quoteText s := by
  simp [memberText, Value.literal?, h, Dialect.quoter, Dialect.quoteLiteral]

end Numbers

private theorem readsAs_double (d : Dialect) (x : Float) :
    ∃ l, d.ReadsAs (memberText d.quoter (.double x)).toList l ∧ l.Denotes d (.double x) := by
  by_cases hx : isFinite x
  · refine ⟨.number (plainText x).toList, ?_, by rw [Lexeme.Denotes, if_pos hx]⟩
    rw [memberText_double_finite d hx]
    exact d.readsAs_number (numeral_plainText hx)
  · refine ⟨.null, ?_, by rw [Lexeme.Denotes, if_neg hx]⟩
    rw [memberText_double_other d hx]
    exact d.readsAs_null

private theorem readsAs_decimal (d : Dialect) (s : String) :
    ∃ l, d.ReadsAs (memberText d.quoter (.decimal s)).toList l ∧ l.Denotes d (.decimal s) := by
  by_cases hs : (Number.read? s).isSome
  · refine ⟨.number (trim s.toList), ?_, by rw [Lexeme.Denotes, if_pos hs]⟩
    rw [memberText_decimal_number d hs, trimmed, String.toList_ofList]
    exact d.readsAs_number (numeral_trim hs)
  · refine ⟨.string s.toList, ?_, by rw [Lexeme.Denotes, if_neg hs]⟩
    rw [memberText_decimal_other d hs]
    exact readsAs_quoteText d s

private theorem readsAs_bytes (d : Dialect) (bs : List UInt8) :
    ∃ l, d.ReadsAs (memberText d.quoter (.bytes bs)).toList l ∧ l.Denotes d (.bytes bs) := by
  by_cases hd : d = .postgres
  · subst hd
    refine ⟨.string ('\\' :: 'x' :: Dialect.hexDigits bs), ?_, ?_⟩
    · -- a string of digits, of which none needs an escape
      have hquote : '\'' ∉ Dialect.hexDigits bs := Dialect.notMem_hexDigits (by decide) bs
      have hread := Dialect.readsAs_string .postgres ('\\' :: 'x' :: Dialect.hexDigits bs)
      rw [Dialect.escaped_of_notMem (by decide) (by simp [hquote])] at hread
      have htext : (memberText Dialect.postgres.quoter (.bytes bs)).toList =
          '\'' :: ('\\' :: 'x' :: Dialect.hexDigits bs ++ ['\'']) := by
        simp [memberText, Value.literal?, Dialect.quoter, Dialect.quoteLiteral, Dialect.quoteBytes]
      rw [htext]
      exact hread
    · rw [Lexeme.Denotes, if_pos rfl]
      exact ⟨_, rfl, Dialect.hexBytes?_hexDigits bs⟩
  · refine ⟨.blob bs, ?_, by rw [Lexeme.Denotes, if_neg hd]⟩
    have htext : (memberText d.quoter (.bytes bs)).toList = 'X' :: '\'' :: (Dialect.hexDigits bs ++ ['\'']) := by
      cases d with
      | postgres => exact absurd rfl hd
      | _ => simp [memberText, Value.literal?, Dialect.quoter, Dialect.quoteLiteral, Dialect.quoteBytes]
    rw [htext]
    exact Dialect.readsAs_blob hd bs

/-- A single value is written as a literal that stands for it. -/
theorem readsAs_memberText (d : Dialect) {v : Value} (h : v.isScalar) :
    ∃ l, d.ReadsAs (memberText d.quoter v).toList l ∧ l.Denotes d v := by
  cases v with
  | null => exact ⟨.null, d.readsAs_null, rfl⟩
  | bool b =>
    cases b
    · exact ⟨_, readsAs_intText d 0, rfl⟩
    · exact ⟨_, readsAs_intText d 1, rfl⟩
  | int n => exact ⟨_, readsAs_intText d n.toInt, _, rfl, readInt?_intDigits n.toInt⟩
  | bigint n => exact ⟨_, readsAs_intText d n.toInt, _, rfl, readInt?_intDigits n.toInt⟩
  | double x => exact readsAs_double d x
  | decimal s => exact readsAs_decimal d s
  | text s => exact ⟨_, readsAs_quoteText d s, rfl⟩
  | json doc => exact ⟨_, readsAs_quoteText d doc.text, rfl⟩
  | bytes bs => exact readsAs_bytes d bs
  | array items => cases h
  | default => cases h

/-- The members of a list one after the other. -/
private theorem readsAs_members (d : Dialect) {vs : List Value} (h : ∀ v ∈ vs, v.isScalar) :
    ∃ ls, List.Forall₂ (fun v l => d.ReadsAs (memberText d.quoter v).toList l ∧ l.Denotes d v) vs ls := by
  induction vs with
  | nil => exact ⟨[], .nil⟩
  | cons v vs ih =>
    obtain ⟨l, hl⟩ := readsAs_memberText d (h v (by simp))
    obtain ⟨ls, hls⟩ := ih fun w hw => h w (List.mem_cons_of_mem v hw)
    exact ⟨l :: ls, .cons hl hls⟩

private theorem membershipOperand_of_lists {v : Value} {vs : List Value} (h : v.Lists vs) :
    membershipOperand v = .ok (.members vs) := by
  cases h with
  | array hne h =>
    have hall : vs.all Value.isScalar = true := List.all_eq_true.2 h
    simp [membershipOperand, hne, hall]
  | single h htext =>
    cases v with
    | text s => exact absurd rfl (htext s)
    | array items => cases h
    | default => cases h
    | _ => rfl

theorem operandOf_of_lists {v : Value} {vs : List Value} (h : v.Lists vs) {t : Test} (hcol : ¬ isBlankText t.col)
    (hop : t.op.isMembership) (hv : t.operand = some v) : operandOf t = .ok (.members vs) := by
  have htakes := t.op.takesOperand_of_isMembership hop
  simp only [operandOf, hcol, htakes, hop, hv, membershipOperand_of_lists h]
  rfl

theorem testText_members (q : Quoter) (vs : List Value) (index : Nat) (col : String) (op : Operator) :
    testText q index col op (.members vs) =
      col ++ " " ++ op.sql ++ " " ++ ("(" ++ ", ".intercalate (vs.map (memberText q)) ++ ")") := by
  have hspace : " (" = " " ++ "(" := rfl
  rw [testText, hspace]
  simp only [String.append_assoc]

/--
What a membership test writes behind its operator is read as a list in parentheses, one literal for each member in
their order, each standing for its member; and the list ends there, whatever follows it.
-/
theorem members_read_back (d : Dialect) {v : Value} {vs : List Value} (h : v.Lists vs) :
    ∃ operand text ls,
      (∀ t : Test, ¬ isBlankText t.col → t.op.isMembership → t.operand = some v → operandOf t = .ok operand) ∧
      (∀ index col op, testText d.quoter index col op operand = col ++ " " ++ op.sql ++ " " ++ text) ∧
      List.Forall₂ (Lexeme.Denotes d) ls vs ∧
      d.lexemes text.toList = some (Lexeme.listOf ls) ∧
      ∀ rest, d.lexemes (text.toList ++ rest) = (d.lexemes rest).map (Lexeme.listOf ls ++ ·) := by
  obtain ⟨ls, hls⟩ := readsAs_members d h.isScalar
  have hread : List.Forall₂ (fun lit l => d.ReadsAs lit.toList l) (vs.map (memberText d.quoter)) ls :=
    List.forall₂_map_left_iff.2 (hls.imp fun _ _ => And.left)
  have hlex := Dialect.lexemes_list hread (by simpa using h.ne_nil)
  refine ⟨.members vs, _, ls, fun _ => operandOf_of_lists h, testText_members d.quoter vs,
    (hls.imp fun _ _ => And.right).flip, ?_, hlex⟩
  have hnil := hlex []
  rwa [List.append_nil, Dialect.lexemes_nil, Option.map_some, List.append_nil] at hnil

/-- A quote, a backslash and a parenthesis in one text of MySQL, and a blob that is a quote. -/
theorem members_read_back_quotes :
    ∃ ls, List.Forall₂ (Lexeme.Denotes .mysql) ls [.text "\\'); --", .bytes [0x27], .decimal " 1.50 ", .null] ∧
      Dialect.mysql.lexemes "('\\\\''); --', X'27', 1.50, NULL)".toList = some (Lexeme.listOf ls) := by
  obtain ⟨operand, text, ls, hop, htext, hden, hlex, -⟩ :=
    members_read_back .mysql (.array (List.cons_ne_nil (.text "\\'); --") [.bytes [0x27], .decimal " 1.50 ", .null])
      (by decide))
  have hoperand := hop { col := "c", op := .isIn, operand := some (.array _) } (by decide) rfl rfl
  cases hoperand
  have hlist : "c IN " ++ "('\\\\''); --', X'27', 1.50, NULL)" = "c IN " ++ text := htext 1 "c" .isIn
  rw [(String.append_right_inj _).1 hlist]
  exact ⟨ls, hden, hlex⟩

end Filter

end RecordMapper
