import RecordMapper.Sqlite.Grammar.Query

/-!
# Reading the members of a test

What the reader of expressions makes of the tokens of literals.  `Parser.Reads` says that a reader goes past some
tokens, stops before those after them and changes nothing else but the place; it is proved along the sequences that
readers are made of (`Reads.bind`, `Reads.look`).

* a literal is an operand, and no operator goes on with it before a comma or a parenthesis (`Literal.reads`);
* literals between commas are read one by one (`Literals.reads`);
* between parentheses behind `IN` they are what an expression is tested for (`Literals.reads_test`).
-/

namespace RecordMapper.Sqlite

namespace Token

variable {t : Token}

/-- A mark that can stand behind a member of a list. -/
def IsStop (t : Token) : Prop := t.mark = "," ∨ t.mark = ")"

theorem kind_of_mark {m : String} (h : t.mark = m) (hne : m ≠ "") : t.kind = .mark := by
  by_cases hkind : t.kind = .mark
  · exact hkind
  · exact absurd (by simpa [mark, hkind] using h.symm) hne

theorem keyword_of_mark {m : String} (h : t.mark = m) (hne : m ≠ "") : t.keyword = "" := by
  simp [keyword, kind_of_mark h hne]

theorem kind_of_string? {s : String} (h : t.string? = some s) : t.kind = .string := by
  by_cases hkind : t.kind = .string
  · exact hkind
  · simp [string?, hkind] at h

theorem IsStop.keyword (h : t.IsStop) : t.keyword = "" := by
  rcases h with h | h
  · exact keyword_of_mark h (by decide)
  · exact keyword_of_mark h (by decide)

/-- A number without underscores between its digits. -/
def IsPlainNumber (t : Token) : Prop := (t.kind = .integer ∨ t.kind = .float) ∧ '_' ∉ t.spelling

theorem misgrouped?_of_plain {cs : List Char} (h : '_' ∉ cs) : misgrouped? cs = none := by
  have hnone : ∀ i : Nat, (cs[i]? == some '_') = false := by
    intro i
    rw [beq_eq_false_iff_ne]
    exact fun hi => h (List.mem_of_getElem? hi)
  simp [misgrouped?, hnone]

end Token

/-- The tokens of a literal, and the expression that it is. -/
inductive Literal : List Token → Expr → Prop where
  | null {t : Token} (hkind : t.kind = .word) (h : t.keyword = "NULL") : Literal [t] (.literal .null)
  | string {t : Token} {s : String} (h : t.string? = some s) : Literal [t] (.literal (.ofString s))
  | blob {t : Token} (hkind : t.kind = .blob) : Literal [t] (.literal (.blob (Parser.blobBytes (t.spelling.drop 2))))
  | number {t : Token} (h : t.IsPlainNumber) : Literal [t] (.number (String.ofList t.spelling))
  | minus {sign t : Token} (hsign : sign.mark = "-") (h : t.IsPlainNumber) :
    Literal [sign, t] (.sign .minus (.number (String.ofList t.spelling)))
  | plus {sign t : Token} (hsign : sign.mark = "+") (h : t.IsPlainNumber) :
    Literal [sign, t] (.sign .plus (.number (String.ofList t.spelling)))

/-- The tokens of some literals with commas between them. -/
inductive Literals : List Token → List Expr → Prop where
  | one {ts : List Token} {e : Expr} (h : Literal ts e) : Literals ts [e]
  | cons {ts us : List Token} {comma : Token} {e : Expr} {es : List Expr} (h : Literal ts e) (hcomma : comma.mark = ",")
    (hrest : Literals us es) : Literals (ts ++ comma :: us) (e :: es)

/-- The test for some members: a single one is compared with. -/
def Expr.isAmong (e : Expr) : List Expr → Expr
  | [item] => .compare .eq e (.sign .plus item)
  | items => .isIn e items

namespace Parser

variable {α β : Type} {p : Parser α} {f : α → Parser β} {ts us after : List Token} {a : α} {b : β} {t : Token}
  {e : Expr} {es : List Expr} {fuel : Nat}

/-! ### What a reader goes past -/

/-- The reader goes past the given tokens and gives a result; all else stays as it is. -/
def Reads (p : Parser α) (ts after : List Token) (a : α) : Prop :=
  ∀ c : Cursor, c.tokens = ts ++ after → ∃ finish, p.run.run c = (.ok a, { c with tokens := after, finish })

theorem Reads.pure (a : α) : (pure a : Parser α).Reads [] after a := by
  intro c hc
  rw [List.nil_append] at hc
  subst hc
  exact ⟨c.finish, rfl⟩

theorem Reads.bind (hp : p.Reads ts (us ++ after) a) (hf : (f a).Reads us after b) :
    (p >>= f).Reads (ts ++ us) after b := by
  intro c hc
  obtain ⟨finish, hrun⟩ := hp c (by rw [hc, List.append_assoc])
  obtain ⟨finish', hrun'⟩ := hf { c with tokens := us ++ after, finish } rfl
  have hbind : (p >>= f).run.run c = match p.run.run c with
      | (.ok a, c) => (f a).run.run c
      | (.error e, c) => (.error e, c) := by
    simp only [ExceptT.run_bind, StateT.run_bind]
    rcases p.run.run c with ⟨_ | _, _⟩ <;> rfl
  refine ⟨finish', ?_⟩
  rw [hbind, hrun]
  exact hrun'

/-- Looking at what comes next goes past nothing. -/
theorem Reads.look (hp : p.Reads [] (us ++ after) a) (hf : (f a).Reads us after b) : (p >>= f).Reads us after b :=
  Reads.bind hp hf

/-- What comes at the end may look at what follows. -/
theorem Reads.last (hp : p.Reads ts after a) (hf : (f a).Reads [] after b) : (p >>= f).Reads ts after b := by
  have h := Reads.bind hp hf
  rwa [List.append_nil] at h

theorem reads_next : next?.Reads [] (t :: after) (some t) := by
  intro c hc
  cases c
  obtain rfl := hc
  exact ⟨_, rfl⟩

theorem reads_left : left.Reads [] after after.length := by
  intro c hc
  cases c
  obtain rfl := hc
  exact ⟨_, rfl⟩

theorem reads_advance : advance.Reads [t] after () := by
  intro c hc
  cases c
  obtain rfl := hc
  exact ⟨_, rfl⟩

theorem reads_mark : mark.Reads [] (t :: after) t.mark := by
  refine Reads.look reads_next ?_
  exact Reads.pure _

theorem reads_word : word.Reads [] (t :: after) t.keyword := by
  refine Reads.look reads_next ?_
  exact Reads.pure _

theorem reads_acceptMark {m : String} (h : t.mark = m) : (acceptMark m).Reads [t] after true := by
  refine Reads.look reads_mark ?_
  rw [if_pos (beq_iff_eq.2 h)]
  exact Reads.bind reads_advance (Reads.pure _)

theorem reads_acceptMark_of_ne {m : String} (h : t.mark ≠ m) : (acceptMark m).Reads [] (t :: after) false := by
  refine Reads.look reads_mark ?_
  rw [if_neg (by simpa using h)]
  exact Reads.pure _

theorem reads_expectMark {m : String} (h : t.mark = m) : (expectMark m).Reads [t] after () :=
  Reads.bind (reads_acceptMark h) (Reads.pure _)

/-! ### Operators -/

private theorem reads_tested?_none (fuel : Nat) : (tested? fuel false e "").Reads [] after none := by
  cases fuel with
  | zero => exact Reads.pure _
  | succ fuel => exact Reads.pure _

/-- No operator is a comma or a parenthesis. -/
theorem reads_binary?_none (h : t.IsStop) (fuel strength : Nat) (e : Expr) :
    (binary? fuel strength e).Reads [] (t :: after) none := by
  have hnone : (if 4 < strength then return none else tested? (fuel - 1) false e "" : Parser (Option Expr)).Reads []
      (t :: after) none := by
    split
    · exact Reads.pure _
    · exact reads_tested?_none (fuel - 1)
  cases fuel with
  | zero => exact Reads.pure _
  | succ fuel =>
    unfold binary?
    refine Reads.look reads_mark (Reads.look reads_word ?_)
    rw [h.keyword]
    rcases h with h | h
    · rw [h]
      exact hnone
    · rw [h]
      exact hnone

theorem reads_extended (h : t.IsStop) (fuel strength : Nat) (e : Expr) :
    (extended fuel strength e).Reads [] (t :: after) e := by
  cases fuel with
  | zero => exact Reads.pure _
  | succ fuel =>
    unfold extended
    refine Reads.look (reads_binary?_none h fuel strength e) ?_
    exact Reads.pure _

/-- An operand before a comma or a parenthesis is an expression. -/
theorem reads_expr (h : t.IsStop) (strength : Nat) (hoperand : (operand fuel).Reads ts (t :: after) e) :
    (expr (fuel + 1) strength).Reads ts (t :: after) e :=
  Reads.last hoperand (reads_extended h fuel strength e)

/-! ### Operands -/

theorem reads_null (hkind : t.kind = .word) (h : t.keyword = "NULL") (fuel : Nat) :
    (operand (fuel + 1)).Reads [t] after (.literal .null) := by
  unfold operand
  refine Reads.look reads_next ?_
  rcases t with ⟨kind, spelling, start⟩
  obtain rfl := hkind
  simp only [h]
  exact Reads.bind reads_advance (Reads.pure _)

theorem reads_blob (hkind : t.kind = .blob) (fuel : Nat) :
    (operand (fuel + 1)).Reads [t] after (.literal (.blob (blobBytes (t.spelling.drop 2)))) := by
  unfold operand
  refine Reads.look reads_next ?_
  rcases t with ⟨kind, spelling, start⟩
  obtain rfl := hkind
  exact Reads.bind reads_advance (Reads.pure _)

/-- A string is no name of a table where no point follows it. -/
theorem reads_string {s : String} {stop : Token} (ht : t.string? = some s) (h : stop.IsStop) (fuel : Nat) :
    (operand (fuel + 1)).Reads [t] (stop :: after) (.literal (.ofString s)) := by
  have hkind := Token.kind_of_string? ht
  have hpoint : (stop.mark == ".") = false := by
    rcases h with h | h
    · rw [h]
      decide
    · rw [h]
      decide
  have hread : (do
      advance
      if (← mark) == "." then columnAfter ⟨(t.string?).getD "", t.start⟩
      else return .literal (.ofString ((t.string?).getD "")) : Parser Expr).Reads [t] (stop :: after)
        (.literal (.ofString s)) := by
    refine Reads.bind reads_advance (Reads.look reads_mark ?_)
    rw [hpoint, ht]
    exact Reads.pure _
  unfold operand
  refine Reads.look reads_next ?_
  rcases t with ⟨kind, spelling, start⟩
  obtain rfl := hkind
  exact hread

theorem reads_number (h : t.IsPlainNumber) (fuel : Nat) :
    (operand (fuel + 1)).Reads [t] after (.number (String.ofList t.spelling)) := by
  have hnumber : (numberOf t.spelling).Reads [] after (.number (String.ofList t.spelling)) := by
    rw [numberOf, Token.misgrouped?_of_plain h.2]
    exact Reads.pure _
  unfold operand
  refine Reads.look reads_next ?_
  rcases t with ⟨kind, spelling, start⟩
  obtain ⟨rfl | rfl, -⟩ := h
  · exact Reads.bind reads_advance hnumber
  · exact Reads.bind reads_advance hnumber

private theorem reads_signed (op : Sign) (he : (expr fuel 12).Reads ts after e) :
    (do advance; return signed op (← expr fuel 12) : Parser Expr).Reads (t :: ts) after (signed op e) := by
  refine Reads.bind reads_advance (Reads.last he ?_)
  exact Reads.pure _

theorem reads_minus (hmark : t.mark = "-") (he : (expr fuel 12).Reads ts after e) :
    (operand (fuel + 1)).Reads (t :: ts) after (signed .minus e) := by
  have hkind := Token.kind_of_mark hmark (by decide)
  unfold operand
  refine Reads.look reads_next ?_
  rcases t with ⟨kind, spelling, start⟩
  obtain rfl := hkind
  simp only [hmark]
  exact reads_signed .minus he

theorem reads_plus (hmark : t.mark = "+") (he : (expr fuel 12).Reads ts after e) :
    (operand (fuel + 1)).Reads (t :: ts) after (signed .plus e) := by
  have hkind := Token.kind_of_mark hmark (by decide)
  unfold operand
  refine Reads.look reads_next ?_
  rcases t with ⟨kind, spelling, start⟩
  obtain rfl := hkind
  simp only [hmark]
  exact reads_signed .plus he

end Parser

open RecordMapper.Sqlite.Parser

variable {ts us after : List Token} {t stop close : Token} {e : Expr} {es : List Expr} {fuel : Nat}

/-- A literal before a comma or a parenthesis is read as the expression that it is. -/
theorem Literal.reads (h : Literal ts e) (hstop : stop.IsStop) (fuel strength : Nat) :
    (expr (fuel + 4) strength).Reads ts (stop :: after) e := by
  cases h with
  | null hkind h => exact reads_expr hstop strength (reads_null hkind h _)
  | string h => exact reads_expr hstop strength (reads_string h hstop _)
  | blob hkind => exact reads_expr hstop strength (reads_blob hkind _)
  | number h => exact reads_expr hstop strength (reads_number h _)
  | minus hsign h => exact reads_expr hstop strength (reads_minus hsign (reads_expr hstop 12 (reads_number h _)))
  | plus hsign h => exact reads_expr hstop strength (reads_plus hsign (reads_expr hstop 12 (reads_number h _)))

/-- A literal starts neither with the end of a list nor with a query. -/
theorem Literal.head (h : Literal ts e) :
    ∃ t us, ts = t :: us ∧ t.mark ≠ ")" ∧ queryWords.contains t.keyword = false := by
  have kind {k : TokenClass} {t : Token} (hk : t.kind = k) (hmark : k ≠ .mark) (hword : k ≠ .word) :
      t.mark ≠ ")" ∧ queryWords.contains t.keyword = false := by
    subst hk
    simp [Token.mark, Token.keyword, hmark, hword]
    decide
  have mark {m : String} {t : Token} (h : t.mark = m) (hm : m ≠ "" ∧ m ≠ ")") :
      t.mark ≠ ")" ∧ queryWords.contains t.keyword = false := by
    rw [Token.keyword_of_mark h hm.1, h]
    exact ⟨hm.2, rfl⟩
  cases h with
  | null hkind h =>
    refine ⟨_, [], rfl, ?_, by rw [h]; rfl⟩
    simp [Token.mark, hkind]
  | string h => exact ⟨_, [], rfl, kind (Token.kind_of_string? h) (by decide) (by decide)⟩
  | blob hkind => exact ⟨_, [], rfl, kind hkind (by decide) (by decide)⟩
  | number h =>
    rcases h.1 with hkind | hkind
    · exact ⟨_, [], rfl, kind hkind (by decide) (by decide)⟩
    · exact ⟨_, [], rfl, kind hkind (by decide) (by decide)⟩
  | minus hsign _ => exact ⟨_, _, rfl, mark hsign (by decide)⟩
  | plus hsign _ => exact ⟨_, _, rfl, mark hsign (by decide)⟩

namespace Literals

theorem head (h : Literals ts es) : ∃ t us, ts = t :: us ∧ t.mark ≠ ")" ∧ queryWords.contains t.keyword = false := by
  cases h with
  | one h => exact h.head
  | cons h _ _ =>
    obtain ⟨t, us, rfl, hhead⟩ := h.head
    exact ⟨t, _, rfl, hhead⟩

theorem length_le (h : Literals ts es) : es.length ≤ ts.length := by
  induction h with
  | one h =>
    obtain ⟨t, us, rfl, -⟩ := h.head
    simp
  | cons _ _ _ ih =>
    simp only [List.length_cons, List.length_append]
    omega

/-- Literals between commas are read up to the end of their list. -/
theorem reads (h : Literals ts es) (hclose : close.mark = ")") (fuel : Nat) {n : Nat} (hn : es.length ≤ n + 1) :
    (separated (expr (fuel + 4) 0) n).Reads ts (close :: after) es := by
  induction h generalizing n with
  | @one ts e h =>
    have hitem : (expr (fuel + 4) 0).Reads ts (close :: after) e := h.reads (.inr hclose) fuel 0
    cases n with
    | zero =>
      refine Reads.last hitem ?_
      exact Reads.pure _
    | succ n =>
      refine Reads.last hitem (Reads.look (reads_acceptMark_of_ne (by rw [hclose]; decide)) ?_)
      exact Reads.pure _
  | @cons ts us comma e es h hcomma hrest ih =>
    cases n with
    | zero =>
      cases hrest with
      | one => simp at hn
      | cons => simp at hn
    | succ n =>
      refine Reads.bind (h.reads (.inl hcomma) fuel 0) (Reads.bind (reads_acceptMark hcomma) (Reads.last (ih ?_) ?_))
      · simp only [List.length_cons] at hn
        omega
      · exact Reads.pure _

theorem reads_listed (h : Literals ts es) (hclose : close.mark = ")") (fuel : Nat) :
    (listed (fuel + 5)).Reads (ts ++ [close]) after es := by
  obtain ⟨t, us, rfl, hend, -⟩ := h.head
  have hlen : es.length ≤ ((t :: us ++ [close]) ++ after).length + 1 := by
    have := h.length_le
    simp only [List.length_append, List.length_cons] at this ⊢
    omega
  have hitems : (separated (expr (fuel + 4) 0) _).Reads (t :: us) (close :: after) es := h.reads hclose fuel hlen
  unfold listed
  refine Reads.look (reads_acceptMark_of_ne hend) (Reads.look reads_left ?_)
  refine Reads.bind hitems (Reads.last (reads_expectMark hclose) ?_)
  exact Reads.pure _

/-- Literals are no queries, and they are constant. -/
theorem memberOf_eq (h : Literals ts es) (hrow : ∀ items, e ≠ .row items) (negated : Bool) :
    memberOf negated e es = pure (negatedIf negated (e.isAmong es)) := by
  have single {us : List Token} {item : Expr} (h : Literal us item) :
      memberOf negated e [item] = pure (negatedIf negated (.compare .eq e (.sign .plus item))) := by
    cases e with
    | row items => exact absurd rfl (hrow items)
    | _ => cases h <;> rfl
  have several {us : List Token} {item other : Expr} {items : List Expr} (h : Literal us item) :
      memberOf negated e (item :: other :: items) = pure (negatedIf negated (.isIn e (item :: other :: items))) := by
    cases e with
    | row items => exact absurd rfl (hrow items)
    | _ => cases h <;> rfl
  cases h with
  | one h => exact single h
  | cons h _ hrest =>
    cases hrest with
    | one _ => exact several h
    | cons _ _ _ => exact several h

/-- Literals between parentheses behind `IN` are what an expression is tested for. -/
theorem reads_test (h : Literals ts es) {word opening : Token} (hopening : opening.mark = "(")
    (hclose : close.mark = ")") (hrow : ∀ items, e ≠ .row items) (fuel : Nat) (negated : Bool) :
    (tested? (fuel + 6) negated e "IN").Reads (word :: opening :: (ts ++ [close])) after
      (some (negatedIf negated (e.isAmong es))) := by
  have hlisted : (listed (fuel + 5)).Reads (ts ++ [close]) after es := h.reads_listed hclose fuel
  have hmember := h.memberOf_eq hrow negated
  obtain ⟨t, us, rfl, -, hquery⟩ := h.head
  unfold tested?
  refine Reads.bind reads_advance (Reads.bind (reads_acceptMark hopening) (Reads.look reads_word ?_))
  rw [hquery]
  refine Reads.last hlisted ?_
  rw [hmember]
  exact Reads.pure _

end Literals

end RecordMapper.Sqlite
