import RecordMapper.Proofs.Sqlite.Documented
import RecordMapper.Proofs.Sqlite.Operand
import RecordMapper.Proofs.Sqlite.Token
import RecordMapper.Sqlite.Engine

/-!
# How the engine reads literals

The engine reads literals as documented: a literal is cut into tokens (`IsLiteral`), read as an expression
(`Literal.reads`) and given its meaning (`Expr.Denotes`), which is a datum that the literal stands for
(`exists_isLiteral`).  Parameters hold the data that they are bound to.  So `Engine.operands` are what is documented of
operands (`Engine.documented`).
-/

namespace RecordMapper.Sqlite

open Text Decimal Pattern

/-! ### What an expression means -/

/-- With as much fuel the expression means the datum, in every place and every row. -/
def Expr.Denotes (n : Nat) (e : Expr) (d : Datum) : Prop :=
  ∀ fuel ctx notes, n ≤ fuel → notes.fault = none → (meaning fuel ctx e).run notes = .ok (.constant d, notes)

namespace Expr.Denotes

variable {n m : Nat} {e : Expr} {d : Datum} {s : String}

theorem mono (h : e.Denotes n d) (hle : n ≤ m) : e.Denotes m d :=
  fun fuel ctx notes hfuel => h fuel ctx notes (hle.trans hfuel)

private theorem settle_run {notes : Notes} (h : notes.fault = none) : Resolver.settle.run notes = .ok ((), notes) := by
  cases notes
  cases h
  rfl

theorem literal (d : Datum) : (Expr.literal d).Denotes 1 d := by
  intro fuel ctx notes hfuel hfault
  obtain ⟨fuel, rfl⟩ := Nat.exists_eq_add_of_le' hfuel
  unfold meaning
  simp only [StateT.run_bind, settle_run hfault]
  rfl

theorem number (h : numberValue s false = .ok d) : (Expr.number s).Denotes 1 d := by
  intro fuel ctx notes hfuel hfault
  obtain ⟨fuel, rfl⟩ := Nat.exists_eq_add_of_le' hfuel
  unfold meaning
  simp only [StateT.run_bind, settle_run hfault, h]
  rfl

theorem minus (h : numberValue s true = .ok d) : (Expr.sign .minus (.number s)).Denotes 1 d := by
  intro fuel ctx notes hfuel hfault
  obtain ⟨fuel, rfl⟩ := Nat.exists_eq_add_of_le' hfuel
  unfold meaning
  simp only [StateT.run_bind, settle_run hfault, h]
  rfl

/-- A plus sign changes nothing, whatever stands behind it. -/
theorem plus (h : e.Denotes n d) : (Expr.sign .plus e).Denotes (n + 1) d := by
  intro fuel ctx notes hfuel hfault
  obtain ⟨fuel, rfl⟩ := Nat.exists_eq_add_of_le' (Nat.le_of_add_left_le hfuel)
  have hinner := h fuel ctx notes (by omega) hfault
  unfold meaning
  simp only [StateT.run_bind, settle_run hfault]
  change (do
    let m ← meaning fuel ctx e
    return { eval := fun env => do return Sign.plus.apply (← m.eval env), chosen := m.chosen
             collation := if Sign.plus = .plus then m.collation else none, span := m.span } : Resolver Meaning).run
      notes = _
  simp only [StateT.run_bind, hinner]
  rfl

end Expr.Denotes

/-- A test of an expression for some data: it is sought among them, or compared with the only one. -/
inductive Expr.TestsFor (e : Expr) : List Datum → Expr → Prop where
  | one {item : Expr} {d : Datum} (h : item.Denotes 3 d) : TestsFor e [d] (.compare .eq e item)
  | several {items : List Expr} {ds : List Datum} (h : List.Forall₂ (Denotes 2) items ds) :
    TestsFor e ds (.isIn e items)

theorem Expr.isAmong_testsFor (e : Expr) {es : List Expr} {ds : List Datum} (h : List.Forall₂ (Denotes 2) es ds) :
    e.TestsFor ds (e.isAmong es) := by
  cases h with
  | nil => exact .several .nil
  | cons hitem hrest =>
    cases hrest with
    | nil => exact .one hitem.plus
    | cons h hrest => exact .several (.cons hitem (.cons h hrest))

/-! ### The values of numbers -/

section Numbers

variable {cs : List Char}

private theorem withoutUnderscores_of_numeral (h : Matches numeralShape cs) :
    withoutUnderscores (String.ofList cs) = String.ofList cs := by
  have hfilter : cs.filter (· != '_') = cs := by
    rw [List.filter_eq_self]
    intro c hc
    have hne : c ≠ '_' := fun heq => notMem_of_numeral h rfl (by decide) (heq ▸ hc)
    simpa using hne
  rw [withoutUnderscores, String.toList_ofList, hfilter]

private theorem hexDigits?_of_numeral (h : Matches numeralShape cs) : hexDigits? (String.ofList cs) = none := by
  have hlower : 'x' ∉ cs := notMem_of_numeral h rfl (by decide)
  have hupper : 'X' ∉ cs := notMem_of_numeral h rfl (by decide)
  unfold hexDigits?
  rw [String.toList_ofList]
  split
  · rename_i x digits
    have hx : x ≠ 'x' := fun heq => hlower (by simp [heq])
    have hX : x ≠ 'X' := fun heq => hupper (by simp [heq])
    simp [hx, hX]
  · rfl

/-- Digits are an integer if it fits a word, and a double otherwise; so is a number that is not made of digits. -/
theorem numberValue_of_numeral (h : Matches numeralShape cs) (negated : Bool) :
    (∃ n, readDigits? cs = some n ∧ fitsWord (if negated then -(n : Int) else n) ∧
      numberValue (String.ofList cs) negated = .ok (.int (Int64.ofInt (if negated then -(n : Int) else n)))) ∨
    (∀ n, readDigits? cs = some n → ¬ fitsWord (if negated then -(n : Int) else n)) ∧
      ∃ x, numberValue (String.ofList cs) negated = .ok (.real x) := by
  have hne : cs ≠ [] := by
    rintro rfl
    exact absurd (shape_accepts_of_numeral h (a := []) (b := []) nofun nofun) (by decide)
  simp only [numberValue, withoutUnderscores_of_numeral h, hexDigits?_of_numeral h, String.toList_ofList]
  by_cases hall : cs.all Char.isDigit = true
  · have hread : readDigits? cs = some (value cs) := readDigits?_eq_some_iff.2 ⟨⟨hne, List.all_eq_true.1 hall⟩, rfl⟩
    rw [if_pos hall, hread]
    by_cases hfits : fitsWord (if negated then -(value cs : Int) else value cs) = true
    · rw [if_pos hfits]
      exact .inl ⟨_, rfl, hfits, rfl⟩
    · rw [if_neg hfits]
      refine .inr ⟨fun n hn => ?_, _, rfl⟩
      obtain rfl := Option.some.inj hn
      exact hfits
  · rw [if_neg hall]
    refine .inr ⟨fun n hn => ?_, _, rfl⟩
    exact absurd (List.all_eq_true.2 (readDigits?_eq_some_iff.1 hn).1.2) hall

theorem fitsWord_iff {i : Int} : fitsWord i ↔ IsWord i := by
  simp [fitsWord, IsWord]

/-- The value of a number is a datum that the number spells, perhaps with a sign in front. -/
theorem exists_numberValue {body : List Char} (negated : Bool) (hbody : Matches numeralShape body)
    (h : Matches numeralShape cs)
    (hread : readInt? cs = (readDigits? body).map fun n : Nat => if negated then -(n : Int) else n) :
    ∃ d, numberValue (String.ofList body) negated = .ok d ∧ Spells cs d := by
  rcases numberValue_of_numeral hbody negated with ⟨n, hn, hfits, hvalue⟩ | ⟨hlarge, x, hvalue⟩
  · rw [hn] at hread
    exact ⟨_, hvalue, .integer hread (fitsWord_iff.1 hfits)⟩
  · refine ⟨_, hvalue, .real h (fun i hi => ?_) x⟩
    rw [hread] at hi
    obtain ⟨n, hn, rfl⟩ := Option.map_eq_some_iff.1 hi
    exact mt fitsWord_iff.2 (hlarge n hn)

end Numbers

/-! ### Literals in a text -/

/-- Wherever a comma or a closing parenthesis follows it, the text is cut into the tokens of a literal. -/
def IsLiteral (cs : List Char) (e : Expr) : Prop :=
  ∀ start c rest, c = ',' ∨ c = ')' → ∃ ts, Literal ts e ∧ Token.CutAs start cs (c :: rest) ts

section Texts

variable {cs : List Char}

theorem isLiteral_null : IsLiteral "NULL".toList (.literal .null) := by
  intro start c rest hc
  have hname : Token.isNameChar c = false := by
    rcases hc with rfl | rfl
    · rfl
    · rfl
  exact ⟨_, .null rfl rfl, Token.cutAs_null hname⟩

/-- A string ends where its quotes do. -/
theorem eq_doubled_of_readString {cs s : List Char} (h : Dialect.sqlite.readString cs = some (s, [])) :
    cs = Dialect.doubled '\'' s ++ ['\''] := by
  fun_induction Dialect.readString .sqlite cs generalizing s with
  | case1 => cases h
  | case2 cs ih =>
    obtain ⟨⟨s, rest⟩, hs, heq⟩ := Option.map_eq_some_iff.1 h
    cases heq
    rw [ih hs]
    rfl
  | case3 cs hne =>
    cases h
    rfl
  | case4 _ _ hescape => cases hescape.2
  | case5 _ _ hescape => cases hescape.2
  | case6 c cs hquote _ ih =>
    obtain ⟨⟨s, rest⟩, hs, heq⟩ := Option.map_eq_some_iff.1 h
    cases heq
    rw [ih hs]
    simp [Dialect.doubled, hquote]

/-- A text is read back from its string. -/
theorem isLiteral_string {cs s : List Char} (h : Dialect.sqlite.readString cs = some (s, [])) :
    IsLiteral ('\'' :: cs) (.literal (.ofString (String.ofList s))) := by
  intro start c rest hc
  have hquote : (c :: rest).head? ≠ some '\'' := by
    rcases hc with rfl | rfl
    · simp
    · simp
  rw [eq_doubled_of_readString h]
  refine ⟨_, .string ?_, Token.cutAs_string s hquote⟩
  simp [Token.string?, Token.unquoted_doubled]

/-- The bytes of a blob are read from two digits each. -/
private theorem digits_of_hexBytes {cs : List Char} {bs : List UInt8} (h : hexBytes? cs = some bs) :
    (∀ c ∈ cs, Token.isHexDigit c) ∧ cs.length % 2 = 0 ∧ Parser.blobBytes (cs ++ ['\'']) = bs := by
  fun_induction hexBytes? cs generalizing bs with
  | case1 =>
    cases h
    exact ⟨by simp, rfl, rfl⟩
  | case2 => cases h
  | case3 a b cs x y bs hbs hy hx ih =>
    cases h
    obtain ⟨hdigits, heven, hbytes⟩ := ih hbs
    refine ⟨?_, ?_, ?_⟩
    · intro c hc
      simp only [List.mem_cons] at hc
      rcases hc with rfl | rfl | hc
      · exact Option.isSome_of_eq_some hx
      · exact Option.isSome_of_eq_some hy
      · exact hdigits c hc
    · simp only [List.length_cons]
      omega
    · rw [List.cons_append, List.cons_append, Parser.blobBytes, hx, hy, hbytes, Nat.mul_comm 16]
      rfl
  | case4 => cases h

/-- The bytes of a blob are read back from their digits. -/
theorem isLiteral_blob {cs : List Char} {bs : List UInt8} (h : hexBytes? cs = some bs) :
    IsLiteral ('X' :: '\'' :: (cs ++ ['\''])) (.literal (.blob bs)) := by
  intro start c rest _
  obtain ⟨hdigits, heven, hbytes⟩ := digits_of_hexBytes h
  have hdrop : Parser.blobBytes (('X' :: '\'' :: (cs ++ ['\''])).drop 2) = bs := hbytes
  have hliteral : Literal _ _ := .blob (t := ⟨.blob, 'X' :: '\'' :: (cs ++ ['\'']), start⟩) rfl
  rw [hdrop] at hliteral
  exact ⟨_, hliteral, Token.cutAs_blob hdigits heven⟩

section Numbers

variable {magnitude exponent : List Char}

private theorem exists_cutAs_number (h : Matches magnitudeShape magnitude)
    (he : Matches (optional exponentShape) exponent) {c : Char} (hc : c = ',' ∨ c = ')') (start : Nat)
    (rest : List Char) :
    ∃ t : Token, t.IsPlainNumber ∧ t.spelling = magnitude ++ exponent ∧
      Token.CutAs start (magnitude ++ exponent) (c :: rest) [t] := by
  obtain ⟨kind, hkind, hcut⟩ := Token.cutAs_number start rest h he hc
  exact ⟨_, ⟨hkind, notMem_of_numeral (numeral_of_magnitude h he) rfl (by decide)⟩, rfl, hcut⟩

theorem isLiteral_number (h : Matches magnitudeShape magnitude) (he : Matches (optional exponentShape) exponent) :
    IsLiteral (magnitude ++ exponent) (.number (String.ofList (magnitude ++ exponent))) := by
  intro start c rest hc
  obtain ⟨t, ht, hspelling, hcut⟩ := exists_cutAs_number h he hc start rest
  rw [← hspelling] at hcut ⊢
  exact ⟨[t], .number ht, hcut⟩

theorem isLiteral_plus (h : Matches magnitudeShape magnitude) (he : Matches (optional exponentShape) exponent) :
    IsLiteral ('+' :: (magnitude ++ exponent)) (.sign .plus (.number (String.ofList (magnitude ++ exponent)))) := by
  intro start c rest hc
  obtain ⟨t, ht, hspelling, hcut⟩ := exists_cutAs_number h he hc (start + 1) rest
  rw [← hspelling] at hcut ⊢
  exact ⟨[_, t], .plus rfl ht, .cons (Token.cutAs_mark (by simp)) hcut⟩

theorem isLiteral_minus (h : Matches magnitudeShape magnitude) (he : Matches (optional exponentShape) exponent) :
    IsLiteral ('-' :: (magnitude ++ exponent)) (.sign .minus (.number (String.ofList (magnitude ++ exponent)))) := by
  intro start c rest hc
  obtain ⟨t, ht, hspelling, hcut⟩ := exists_cutAs_number h he hc (start + 1) rest
  have hsign : Token.CutAs start ['-'] (magnitude ++ exponent ++ c :: rest) [⟨.mark, ['-'], start⟩] := by
    obtain ⟨d, ds, rfl, hd⟩ := Token.head_magnitude h
    have hminus : d ≠ '-' := Token.ne_of_head_magnitude hd rfl (by decide)
    have harrow : d ≠ '>' := Token.ne_of_head_magnitude hd rfl (by decide)
    exact Token.cutAs_minus (by simp [hminus]) (by simp [harrow])
  rw [← hspelling] at hcut hsign ⊢
  exact ⟨[_, t], .minus rfl ht, .cons hsign hcut⟩

/-- A number without a sign is read as an integer if it is made of digits. -/
private theorem readInt?_magnitude (h : Matches magnitudeShape magnitude) (exponent : List Char) :
    readInt? (magnitude ++ exponent) = (readDigits? (magnitude ++ exponent)).map Int.ofNat := by
  obtain ⟨c, cs, rfl, hc⟩ := Token.head_magnitude h
  have hminus : c ≠ '-' := Token.ne_of_head_magnitude hc rfl (by decide)
  have hplus : c ≠ '+' := Token.ne_of_head_magnitude hc rfl (by decide)
  rw [List.cons_append]
  unfold readInt?
  split
  · rename_i heq
    exact absurd (List.cons.inj heq).1 hminus
  · rename_i heq
    exact absurd (List.cons.inj heq).1 hplus
  · rfl

/-- A numeral is a literal of a number that it spells. -/
theorem isLiteral_numeral (h : Matches numeralShape cs) : ∃ e d, IsLiteral cs e ∧ e.Denotes 2 d ∧ Spells cs d := by
  obtain ⟨sign, magnitude, exponent, rfl, hsign, hm, he⟩ := exists_of_numeral h
  have hunsigned := numeral_of_magnitude hm he
  rcases hsign with rfl | rfl | rfl
  · rw [List.nil_append] at h ⊢
    obtain ⟨d, hvalue, hspells⟩ := exists_numberValue false hunsigned h (readInt?_magnitude hm exponent)
    exact ⟨_, d, isLiteral_number hm he, (Expr.Denotes.number hvalue).mono (by omega), hspells⟩
  · rw [List.singleton_append] at h ⊢
    obtain ⟨d, hvalue, hspells⟩ := exists_numberValue false hunsigned h rfl
    exact ⟨_, d, isLiteral_plus hm he, (Expr.Denotes.number hvalue).plus, hspells⟩
  · rw [List.singleton_append] at h ⊢
    obtain ⟨d, hvalue, hspells⟩ := exists_numberValue true hunsigned h readInt?_minus
    exact ⟨_, d, isLiteral_minus hm he, (Expr.Denotes.minus hvalue).mono (by omega), hspells⟩

end Numbers

/-- Every documented literal is a literal of a datum that it stands for. -/
theorem exists_isLiteral {d : Datum} (h : Spells cs d) : ∃ e d, IsLiteral cs e ∧ e.Denotes 2 d ∧ Spells cs d := by
  have written {d : Datum} (hlit : IsLiteral cs (.literal d)) (hspells : Spells cs d) :
      ∃ e d, IsLiteral cs e ∧ e.Denotes 2 d ∧ Spells cs d :=
    ⟨_, d, hlit, (Expr.Denotes.literal d).mono (by omega), hspells⟩
  cases h with
  | null => exact written isLiteral_null .null
  | text hread hnul => exact written (isLiteral_string hread) (.text hread hnul)
  | blob hbytes => exact written (isLiteral_blob hbytes) (.blob hbytes)
  | integer hread => exact isLiteral_numeral (numeral_of_readInt hread)
  | real hnumeral => exact isLiteral_numeral hnumeral

/-! ### Lists of literals -/

/-- Documented literals one after the other. -/
theorem exists_literals {lits : List String} (h : ∀ lit ∈ lits, ∃ d, Spells lit.toList d) :
    ∃ es ds, List.Forall₂ (fun lit e => IsLiteral lit.toList e) lits es ∧ List.Forall₂ (Expr.Denotes 2) es ds ∧
      List.Forall₂ (fun lit d => Spells lit.toList d) lits ds := by
  induction lits with
  | nil => exact ⟨[], [], .nil, .nil, .nil⟩
  | cons lit lits ih =>
    obtain ⟨d, hd⟩ := h lit (by simp)
    obtain ⟨e, d, he, hden, hspells⟩ := exists_isLiteral hd
    obtain ⟨es, ds, hes, hdens, hds⟩ := ih fun other hmem => h other (List.mem_cons_of_mem lit hmem)
    exact ⟨e :: es, d :: ds, .cons he hes, .cons hden hdens, .cons hspells hds⟩

/-- Literals between commas are cut one after the other. -/
private theorem exists_cutAs_literals {lits : List String} {es : List Expr}
    (h : List.Forall₂ (fun lit e => IsLiteral lit.toList e) lits es) (hne : lits ≠ []) (start : Nat)
    (rest : List Char) :
    ∃ ts, Literals ts es ∧ Token.CutAs start (", ".intercalate lits).toList (')' :: rest) ts := by
  -- where a literal ends depends on the character behind it: a comma, or the end of the list
  induction h generalizing start with
  | nil => exact absurd rfl hne
  | @cons lit e lits es hlit htail ih =>
    cases htail with
    | nil =>
      obtain ⟨ts, hts, hcut⟩ := hlit start ')' rest (.inr rfl)
      rw [String.intercalate_singleton]
      exact ⟨ts, .one hts, hcut⟩
    | @cons lit' e' lits es hlit' htail =>
      have htext : (", ".intercalate (lit :: lit' :: lits)).toList =
          lit.toList ++ ',' :: ' ' :: (", ".intercalate (lit' :: lits)).toList := by
        rw [String.intercalate_cons_cons]
        simp
      obtain ⟨ts, hts, hcut⟩ := hlit start ',' (' ' :: ((", ".intercalate (lit' :: lits)).toList ++ ')' :: rest))
        (.inl rfl)
      obtain ⟨us, hus, hcuts⟩ := ih (by simp) (start + lit.toList.length + 1 + 1)
      have hrest := Token.CutAs.cons (Token.cutAs_mark (c := ',') (by simp)) (Token.cutAs_space.append hcuts)
      rw [htext]
      exact ⟨_, .cons hts rfl hus, hcut.append hrest⟩

/-- Literals between parentheses are cut as the tokens of a list. -/
theorem exists_cutAs_list {lits : List String} {es : List Expr}
    (h : List.Forall₂ (fun lit e => IsLiteral lit.toList e) lits es) (hne : lits ≠ []) (start : Nat)
    (rest : List Char) :
    ∃ opening ts close, opening.mark = "(" ∧ Literals ts es ∧ close.mark = ")" ∧
      Token.CutAs start (listText lits).toList rest (opening :: (ts ++ [close])) := by
  obtain ⟨ts, hts, hcut⟩ := exists_cutAs_literals h hne (start + 1) rest
  have htext : (listText lits).toList = '(' :: ((", ".intercalate lits).toList ++ [')']) := by
    simp [listText]
  have hclosed := hcut.append (Token.cutAs_mark (c := ')') (by simp))
  rw [htext]
  exact ⟨_, ts, _, rfl, hts, rfl, .cons (Token.cutAs_mark (by simp)) hclosed⟩

end Texts

/-! ### The operands of the engine -/

namespace Engine

/-- The datum that an expression means by itself. -/
def datumOf? (e : Expr) : Option Datum :=
  match (meaning deepest { store := {} } e).run {} with
  | .ok (m, _) => (m.eval {}).toOption
  | .error _ => none

/-- What a text behind `IN` tests an expression for; none if that is not all that it says. -/
def test? (e : Expr) (text : String) : Option Expr :=
  let operator : Token := ⟨.word, "IN".toList, 0⟩
  match (Parser.tested? deepest false e "IN").run.run
      { source := text.toList, tokens := operator :: Token.scan 0 text.toList, parameters := 0, named := [] } with
  | (.ok test, c) => if c.tokens.isEmpty then test else none
  | (.error _, _) => none

/-- The data that an expression is tested for. -/
def members (text : String) : Option (List Datum) :=
  match test? (.literal .null) text with
  | some (.compare .eq _ item) => (datumOf? item).map fun d => [d]
  | some (.isIn _ items) => items.mapM datumOf?
  | _ => none

/-- The operands of the engine. -/
def operands : Operands (Option Prepared) where
  parameters stmt := (stmt.map fun p => p.program.parameters).getD 0
  held stmt i := if 1 ≤ i then ((stmt.map Prepared.data).getD []).getD (i.toNat - 1) .null else .null
  members := members
  longest := lengthLimit

/-! ### Parameters -/

theorem getD_put_self (d : Datum) (place : Nat) (data : List Datum) : (put d place data).getD place .null = d := by
  induction place generalizing data with
  | zero => rfl
  | succ place ih => exact ih data.tail

theorem getD_put_of_ne {d : Datum} {place other : Nat} (h : other ≠ place) (data : List Datum) :
    (put d place data).getD other .null = data.getD other .null := by
  induction place generalizing other data with
  | zero =>
    obtain ⟨other, rfl⟩ := Nat.exists_eq_succ_of_ne_zero h
    cases data with
    | nil => rfl
    | cons => rfl
  | succ place ih =>
    cases other with
    | zero =>
      cases data with
      | nil => rfl
      | cons => rfl
    | succ other =>
      have hrest := ih (mt (congrArg Nat.succ) h) data.tail
      cases data with
      | nil => exact hrest
      | cons => exact hrest

theorem datumOf_of_gives {b : Binding} {d : Datum} (h : b.Gives d) (hsize : b.size ≤ lengthLimit) :
    datumOf b = .ok d := by
  cases h with
  | null => rfl
  | int64 => rfl
  | double hx => rw [datumOf, Datum.ofFloat, if_neg hx]
  | @text s length _ | @blob s length _ =>
    have hlength : ¬ (length : Int) < 0 := by omega
    have hsmall : ¬ lengthLimit < (length : Int).toNat := Nat.not_lt.2 hsize
    rw [datumOf, if_neg hlength, if_neg hsmall, Int.toNat_natCast]

theorem exists_bind {stmt : Option Prepared} {i : Int} {b : Binding} {d : Datum} (hfirst : 1 ≤ i)
    (hlast : i ≤ operands.parameters stmt) (hgives : b.Gives d) (hsize : b.size ≤ lengthLimit) :
    ∃ bound, bind stmt i b = .ok bound ∧ operands.Bound stmt i d bound := by
  cases stmt with
  | none =>
    have hnone : operands.parameters none = 0 := rfl
    omega
  | some p =>
    refine ⟨some { p with data := put d (i.toNat - 1) p.data }, ?_, rfl, ?_, fun j hj => ?_⟩
    · rw [bind, if_pos ⟨hfirst, hlast⟩, datumOf_of_gives hgives hsize]
      rfl
    · simp only [operands, hfirst, if_true]
      exact getD_put_self d _ p.data
    · simp only [operands]
      split
      · exact getD_put_of_ne (by omega) p.data
      · rfl

/-! ### Members -/

theorem datumOf?_of_denotes {n : Nat} {e : Expr} {d : Datum} (h : e.Denotes n d) (hn : n ≤ deepest) :
    datumOf? e = some d := by
  rw [datumOf?, h deepest _ {} hn rfl]
  rfl

theorem mapM_datumOf? {es : List Expr} {ds : List Datum} (h : List.Forall₂ (Expr.Denotes 2) es ds) :
    es.mapM datumOf? = some ds := by
  induction h with
  | nil => rfl
  | cons hd _ ih =>
    rw [List.mapM_cons, datumOf?_of_denotes hd (by decide), ih]
    rfl

/-- Literals between parentheses are read to their end. -/
theorem test?_list {lits : List String} {es : List Expr} {e : Expr}
    (h : List.Forall₂ (fun lit e => IsLiteral lit.toList e) lits es) (hne : lits ≠ [])
    (hrow : ∀ items, e ≠ .row items) : test? e (listText lits) = some (e.isAmong es) := by
  obtain ⟨opening, ts, close, hopening, hts, hclose, hcut⟩ := exists_cutAs_list h hne 0 []
  have hscan : Token.scan 0 (listText lits).toList = opening :: (ts ++ [close]) := by
    simpa [Token.CutAs, Token.scan_nil] using hcut
  rw [test?, hscan]
  have hreads : (Parser.tested? deepest false e "IN").Reads (⟨.word, "IN".toList, 0⟩ :: opening :: (ts ++ [close])) []
      (some (e.isAmong es)) := hts.reads_test hopening hclose hrow (deepest - 6) false
  obtain ⟨finish, hrun⟩ := hreads { source := (listText lits).toList, tokens := _, parameters := 0, named := [] }
    (List.append_nil _).symm
  simp only [hrun]
  rfl

theorem members_list {lits : List String} (hne : lits ≠ []) (hlits : ∀ lit ∈ lits, ∃ d, Spells lit.toList d) :
    ∃ ds, members (listText lits) = some ds ∧ List.Forall₂ (fun lit d => Spells lit.toList d) lits ds := by
  obtain ⟨es, ds, hes, hdens, hds⟩ := exists_literals hlits
  refine ⟨ds, ?_, hds⟩
  have htests := (Expr.literal .null).isAmong_testsFor hdens
  have hrow : ∀ items, Expr.literal .null ≠ .row items := fun _ => Expr.noConfusion
  rw [members, test?_list hes hne hrow]
  generalize (Expr.literal .null).isAmong es = test at htests
  cases htests with
  | one hitem =>
    simp only [datumOf?_of_denotes hitem (by decide)]
    rfl
  | several hitems => exact mapM_datumOf? hitems

theorem documented : operands.Documented engine where
  longest_lt := by decide
  bind := exists_bind
  members hne hlits _ := members_list hne hlits

end Engine

end RecordMapper.Sqlite
