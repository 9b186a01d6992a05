import RecordMapper.Value.Number
import RecordMapper.Proofs.Text.Matching
import RecordMapper.Proofs.Text.Trim
import Mathlib.Data.Bool.AllAny

/-!
# Numerals

The shape of the numbers of SQL, `numeralShape`: a sign, digits of ASCII around an optional point, and an optional
exponent.  Three texts have it:

* an integer in decimal notation (`numeral_of_readInt`, as `readInt?_intDigits` reads it back);
* the plain text of a finite double (`numeral_plainText`);
* a text that reads as a number, without the blanks around it (`numeral_trim`).

Its characters are digits and marks (`all_of_numeral`), as are those of a finite double in every layout
(`all_of_finiteText`).
-/

namespace RecordMapper.Decimal

open Text Pattern

/-- Digits of ASCII, at least one. -/
def plainDigits : Pattern := .atLeastOnce (.one isAsciiDigit)

/-- Digits with at most one point among or around them. -/
def magnitudeShape : Pattern :=
  .either (.seq plainDigits (.optional (.seq (.char '.') (.many (.one isAsciiDigit))))) (.seq (.char '.') plainDigits)

/-- The power of ten after a number. -/
def exponentShape : Pattern := .inOrder [.oneOf ['e', 'E'], Number.signShape, plainDigits]

/-- A number of SQL, with its sign. -/
def numeralShape : Pattern := .inOrder [Number.signShape, magnitudeShape, .optional exponentShape]

/-! ### The parts of a numeral -/

variable {cs ds whole fraction : List Char}

theorem matches_plainDigits_iff : Matches plainDigits ds ↔ ds ≠ [] ∧ ∀ c ∈ ds, isAsciiDigit c :=
  matches_atLeastOnce_one_iff

theorem magnitude_of_digits (hne : ds ≠ []) (h : ∀ c ∈ ds, isAsciiDigit c) : Matches magnitudeShape ds := by
  have hseq := Matches.seq (matches_plainDigits_iff.2 ⟨hne, h⟩)
    (matches_optional_iff (p := .seq (.char '.') (.many (.one isAsciiDigit))).2 (.inl rfl))
  rw [List.append_nil] at hseq
  exact .left hseq

theorem magnitude_of_point (hne : whole ≠ []) (hw : ∀ c ∈ whole, isAsciiDigit c)
    (hf : ∀ c ∈ fraction, isAsciiDigit c) : Matches magnitudeShape (whole ++ '.' :: fraction) :=
  .left (.seq (matches_plainDigits_iff.2 ⟨hne, hw⟩)
    (.left (.seq (s := ['.']) (matches_char_iff.2 rfl) (matches_many_one_iff.2 hf))))

theorem magnitude_of_fraction (hne : fraction ≠ []) (hf : ∀ c ∈ fraction, isAsciiDigit c) :
    Matches magnitudeShape ('.' :: fraction) :=
  .right (.seq (s := ['.']) (matches_char_iff.2 rfl) (matches_plainDigits_iff.2 ⟨hne, hf⟩))

private theorem numeral_of_parts {sign body e : List Char} (hs : Matches Number.signShape sign)
    (hb : Matches magnitudeShape body) (he : Matches (optional exponentShape) e) :
    Matches numeralShape (sign ++ (body ++ e)) :=
  .seq hs (.seq hb he)

private theorem numeral_of_signed {sign body : List Char} (hs : Matches Number.signShape sign)
    (hb : Matches magnitudeShape body) : Matches numeralShape (sign ++ body) := by
  have h := numeral_of_parts hs hb (matches_optional_iff.2 (.inl rfl))
  rwa [List.append_nil] at h

/-- The sign in front of a number is none, or one of the two. -/
theorem matches_sign_iff : Matches Number.signShape cs ↔ cs = [] ∨ cs = ['+'] ∨ cs = ['-'] := by
  simp only [Number.signShape, matches_optional_iff, matches_oneOf_iff, List.mem_cons, List.not_mem_nil, or_false,
    exists_eq_or_imp, exists_eq_left]

private theorem sign_none : Matches Number.signShape [] := matches_sign_iff.2 (.inl rfl)

private theorem sign_plus : Matches Number.signShape ['+'] := matches_sign_iff.2 (.inr (.inl rfl))

private theorem sign_minus : Matches Number.signShape ['-'] := matches_sign_iff.2 (.inr (.inr rfl))

/-- A magnitude is digits, or digits around a point of which one side can be empty. -/
theorem exists_of_magnitude (h : Matches magnitudeShape cs) :
    ∃ whole, (∀ c ∈ whole, isAsciiDigit c) ∧ (cs = whole ∧ whole ≠ [] ∨
      ∃ fraction, (∀ c ∈ fraction, isAsciiDigit c) ∧ cs = whole ++ '.' :: fraction ∧
        (whole = [] → fraction ≠ [])) := by
  rcases matches_either_iff.1 h with h | h
  · obtain ⟨whole, p, rfl, hw, hp⟩ := matches_seq_iff.1 h
    obtain ⟨hne, hw⟩ := matches_plainDigits_iff.1 hw
    refine ⟨whole, hw, ?_⟩
    rcases matches_optional_iff.1 hp with rfl | hp
    · exact .inl ⟨List.append_nil whole, hne⟩
    · obtain ⟨point, fraction, rfl, hpoint, hf⟩ := matches_seq_iff.1 hp
      obtain rfl := matches_char_iff.1 hpoint
      exact .inr ⟨fraction, matches_many_one_iff.1 hf, rfl, fun h => absurd h hne⟩
  · obtain ⟨point, fraction, rfl, hpoint, hf⟩ := matches_seq_iff.1 h
    obtain rfl := matches_char_iff.1 hpoint
    obtain ⟨hne, hf⟩ := matches_plainDigits_iff.1 hf
    exact ⟨[], by simp, .inr ⟨fraction, hf, rfl, fun _ => hne⟩⟩

theorem exponent_of_parts {letter : Char} {sign : List Char} (hl : letter = 'e' ∨ letter = 'E')
    (hs : Matches Number.signShape sign) (hd : ds ≠ [] ∧ ∀ c ∈ ds, isAsciiDigit c) :
    Matches (optional exponentShape) (letter :: (sign ++ ds)) :=
  .left (.seq (s := [letter]) (matches_oneOf_iff.2 ⟨letter, by simpa using hl, rfl⟩)
    (.seq hs (matches_plainDigits_iff.2 hd)))

/-- An exponent that is there is a letter, perhaps a sign, and digits. -/
theorem exists_of_exponent (h : Matches (optional exponentShape) cs) :
    cs = [] ∨ ∃ letter sign ds, cs = letter :: (sign ++ ds) ∧ (letter = 'e' ∨ letter = 'E') ∧
      (sign = [] ∨ sign = ['+'] ∨ sign = ['-']) ∧ ds ≠ [] ∧ ∀ c ∈ ds, isAsciiDigit c := by
  rcases matches_optional_iff.1 h with rfl | h
  · exact .inl rfl
  · obtain ⟨mark, rest, rfl, hmark, hrest⟩ := matches_seq_iff.1 h
    obtain ⟨sign, ds, rfl, hs, hd⟩ := matches_seq_iff.1 hrest
    obtain ⟨letter, hl, rfl⟩ := matches_oneOf_iff.1 hmark
    exact .inr ⟨letter, sign, ds, rfl, by simpa using hl, matches_sign_iff.1 hs, matches_plainDigits_iff.1 hd⟩

/-- The digits of ASCII and the marks of numbers. -/
def IsNumeralChar (c : Char) : Prop := isAsciiDigit c ∨ c ∈ ['+', '-', '.', 'e', 'E']

instance (c : Char) : Decidable (IsNumeralChar c) := inferInstanceAs (Decidable (_ ∨ _))

private theorem numeralShape_over : numeralShape.Over IsNumeralChar := by
  have digit : ∀ c, isAsciiDigit c → IsNumeralChar c := fun _ => .inl
  have mark {marks : List Char} (h : marks ⊆ ['+', '-', '.', 'e', 'E']) : ∀ c, marks.contains c → IsNumeralChar c :=
    fun c hc => .inr (h (List.contains_iff_mem.1 hc))
  have sign := mark (show ['+', '-'] ⊆ _ by decide)
  have letter := mark (show ['e', 'E'] ⊆ _ by decide)
  have point : ∀ c, (c == '.') = true → IsNumeralChar c := by
    intro c hc
    exact .inr (by simp [beq_iff_eq.1 hc])
  exact ⟨⟨sign, trivial⟩, ⟨⟨⟨digit, digit⟩, ⟨point, digit⟩, trivial⟩, point, digit, digit⟩,
    ⟨letter, ⟨sign, trivial⟩, digit, digit⟩, trivial⟩

/-- A numeral is a magnitude and perhaps an exponent behind a sign. -/
theorem exists_of_numeral (h : Matches numeralShape cs) :
    ∃ sign magnitude exponent, cs = sign ++ (magnitude ++ exponent) ∧ (sign = [] ∨ sign = ['+'] ∨ sign = ['-']) ∧
      Matches magnitudeShape magnitude ∧ Matches (optional exponentShape) exponent := by
  obtain ⟨sign, rest, rfl, hs, hrest⟩ := matches_seq_iff.1 h
  obtain ⟨magnitude, exponent, rfl, hm, he⟩ := matches_seq_iff.1 hrest
  exact ⟨sign, magnitude, exponent, rfl, matches_sign_iff.1 hs, hm, he⟩

/-- Without a sign too it is a numeral. -/
theorem numeral_of_magnitude {magnitude exponent : List Char} (h : Matches magnitudeShape magnitude)
    (he : Matches (optional exponentShape) exponent) : Matches numeralShape (magnitude ++ exponent) :=
  .seq (s := []) sign_none (.seq h he)

/-- A numeral between blanks has the shape of a number. -/
theorem shape_accepts_of_numeral (h : Matches numeralShape cs) {a b : List Char} (ha : ∀ c ∈ a, isBlank c)
    (hb : ∀ c ∈ b, isBlank c) : Number.shape.accepts (a ++ (cs ++ b)) := by
  have decimal {ds : List Char} (hd : ∀ c ∈ ds, isAsciiDigit c) : ∀ c ∈ ds, isDecimalDigit c :=
    fun c hc => isDecimalDigit_of_isAsciiDigit (hd c hc)
  have digits {ds : List Char} (hne : ds ≠ []) (hd : ∀ c ∈ ds, isAsciiDigit c) : Matches Number.digitsShape ds :=
    matches_atLeastOnce_one_iff.2 ⟨hne, decimal hd⟩
  obtain ⟨sign, magnitude, exponent, rfl, hsign, hmagnitude, hexponent⟩ := exists_of_numeral h
  rw [accepts_iff_matches, List.append_assoc, List.append_assoc]
  refine .seq (matches_many_one_iff.2 ha) (.seq (matches_sign_iff.2 hsign)
    (.seq ?_ (.seq ?_ (matches_many_one_iff.2 hb))))
  · obtain ⟨whole, hw, ⟨rfl, hne⟩ | ⟨fraction, hf, rfl, hsides⟩⟩ := exists_of_magnitude hmagnitude
    · have hpoint : Matches (optional (.seq (.char '.') (.many (.one isDecimalDigit)))) [] :=
        matches_optional_iff.2 (.inl rfl)
      exact .left (matches_seq_iff.2 ⟨_, [], (List.append_nil _).symm, digits hne hw, hpoint⟩)
    · have hpoint : Matches (.char '.') ['.'] := matches_char_iff.2 rfl
      by_cases hne : whole = []
      · subst hne
        exact .right (.seq (s := ['.']) hpoint (digits (hsides rfl) hf))
      · exact .left (.seq (digits hne hw) (.left (.seq (s := ['.']) hpoint (matches_many_one_iff.2 (decimal hf)))))
  · obtain rfl | ⟨letter, sign, ds, rfl, hl, hs, hne, hd⟩ := exists_of_exponent hexponent
    · exact matches_optional_iff.2 (.inl rfl)
    · have hletter : Matches (.oneOf ['e', 'E']) [letter] := matches_oneOf_iff.2 ⟨letter, by simpa using hl, rfl⟩
      exact .left (.seq (s := [letter]) hletter (.seq (matches_sign_iff.2 hs) (digits hne hd)))

/-- A numeral is made of digits and the marks of numbers. -/
theorem all_of_numeral (h : Matches numeralShape cs) : ∀ c ∈ cs, IsNumeralChar c :=
  all_of_matches numeralShape_over h

theorem notMem_of_numeral (h : Matches numeralShape cs) {c : Char} (hdigit : isAsciiDigit c = false)
    (hmark : c ∉ ['+', '-', '.', 'e', 'E']) : c ∉ cs := by
  intro hmem
  rcases all_of_numeral h c hmem with hd | hm
  · rw [hdigit] at hd
    cases hd
  · exact hmark hm

/-! ### Integers -/

theorem isAsciiDigit_eq_isDigit (c : Char) : isAsciiDigit c = c.isDigit := rfl

theorem digits_ne_nil (n : Nat) : digits n ≠ [] := Nat.toDigits_ne_nil

theorem isAsciiDigit_of_mem_digits {n : Nat} {c : Char} (h : c ∈ digits n) : isAsciiDigit c := by
  rw [isAsciiDigit_eq_isDigit]
  exact Nat.isDigit_of_mem_toDigits (by decide) (by decide) h

theorem readDigits?_eq_some_iff {n : Nat} :
    readDigits? cs = some n ↔ (cs ≠ [] ∧ ∀ c ∈ cs, isAsciiDigit c) ∧ value cs = n := by
  simp only [readDigits?, Option.ite_none_right_eq_some, Option.some.injEq, List.all_eq_true]

theorem readDigits?_digits (n : Nat) : readDigits? (digits n) = some n :=
  readDigits?_eq_some_iff.2 ⟨⟨digits_ne_nil n, fun _ => isAsciiDigit_of_mem_digits⟩, value_digits n⟩

/-- Without a sign in front an integer is read as its digits are. -/
theorem readInt?_unsigned (h : ∀ c ∈ cs.head?, isAsciiDigit c) :
    readInt? cs = (readDigits? cs).map Int.ofNat := by
  unfold readInt?
  split
  · exact absurd (h '-' rfl) (by decide)
  · exact absurd (h '+' rfl) (by decide)
  · rfl

/-- A minus sign is read as the negative. -/
theorem readInt?_minus : readInt? ('-' :: cs) = (readDigits? cs).map fun n : Nat => -(n : Int) := by
  rw [readInt?]
  cases readDigits? cs <;> rfl

/-- An integer is read back from its digits. -/
theorem readInt?_intDigits (i : Int) : readInt? (intDigits i) = some i := by
  unfold intDigits
  split
  · rw [readInt?_minus, readDigits?_digits, Option.map_some, Option.some.injEq]
    omega
  · have hhead : ∀ c ∈ (digits i.natAbs).head?, isAsciiDigit c :=
      fun c hc => isAsciiDigit_of_mem_digits (List.mem_of_mem_head? hc)
    rw [readInt?_unsigned hhead, readDigits?_digits, Option.map_some, Option.some.injEq]
    change (i.natAbs : Int) = i
    omega

/-- What is read as an integer is a numeral. -/
theorem numeral_of_readInt {i : Int} (h : readInt? cs = some i) : Matches numeralShape cs := by
  have magnitude {ds : List Char} {f : Nat → Int} (hr : (readDigits? ds).map f = some i) :
      Matches magnitudeShape ds := by
    obtain ⟨n, hn, -⟩ := Option.map_eq_some_iff.1 hr
    obtain ⟨⟨hne, hall⟩, -⟩ := readDigits?_eq_some_iff.1 hn
    exact magnitude_of_digits hne hall
  have hsplit := h
  unfold readInt? at h
  split at h
  · rw [readInt?_minus] at hsplit
    exact numeral_of_signed sign_minus (magnitude hsplit)
  · exact numeral_of_signed sign_plus (magnitude h)
  · exact numeral_of_signed sign_none (magnitude h)

/-! ### Doubles -/

/-- Digits set around a point are a magnitude, also when there are none left. -/
private theorem magnitude_positional (s : Scientific) (h : ∀ c ∈ s.digits, isAsciiDigit c) :
    Matches magnitudeShape (s.positional false) := by
  have zeros : ∀ (n : Nat), ∀ c ∈ List.replicate n '0', isAsciiDigit c := by
    intro n c hc
    rw [List.eq_of_mem_replicate hc]
    rfl
  unfold Scientific.positional
  split
  · refine magnitude_of_point (List.cons_ne_nil '0' []) (List.forall_mem_singleton.2 rfl) fun c hc => ?_
    rcases List.mem_append.1 hc with hc | hc
    · exact zeros _ c hc
    · exact h c hc
  · rename_i hpoint
    dsimp only
    split
    · rename_i hlen
      rw [if_neg (by decide), List.append_nil]
      refine magnitude_of_digits ?_ fun c hc => ?_
      · -- without digits the point alone asks for a zero
        rw [Ne, ← List.length_eq_zero_iff, List.length_append, List.length_replicate]
        omega
      · rcases List.mem_append.1 hc with hc | hc
        · exact h c hc
        · exact zeros _ c hc
    · rename_i hlen
      refine magnitude_of_point ?_ (fun c hc => h c (List.mem_of_mem_take hc)) fun c hc => h c (List.mem_of_mem_drop hc)
      rw [Ne, ← List.length_eq_zero_iff, List.length_take]
      omega

private theorem isAsciiDigit_of_mem_shortest {r : Rounding} {tie : Tie} {c : Char} (h : c ∈ (r.shortest tie).digits) :
    isAsciiDigit c := by
  unfold Rounding.shortest at h
  dsimp only at h
  split at h
  · simp at h
  · have hmem := (List.dropWhile_sublist _).mem (List.mem_reverse.1 h)
    exact isAsciiDigit_of_mem_digits (List.mem_reverse.1 hmem)

/-- The plain text of a finite double is a numeral. -/
theorem numeral_plainText {x : Float} (h : isFinite x) : Matches numeralShape (plainText x).toList := by
  have hsign : Matches Number.signShape (if isNegative x then "-" else "").toList := by
    split
    · exact sign_minus
    · exact sign_none
  rw [plainText, if_pos h, Layout.finiteText]
  split
  · rw [String.toList_append]
    exact numeral_of_signed hsign (magnitude_of_digits (List.cons_ne_nil '0' []) (List.forall_mem_singleton.2 rfl))
  · rw [String.toList_append, String.toList_ofList]
    exact numeral_of_signed hsign (magnitude_positional _ fun c => isAsciiDigit_of_mem_shortest)

/-- Digits with zeros and a point among them. -/
private theorem all_of_positional (s : Scientific) (h : ∀ c ∈ s.digits, isAsciiDigit c) (keepsFraction : Bool) :
    ∀ c ∈ s.positional keepsFraction, IsNumeralChar c := by
  have hdigits : ∀ c ∈ s.digits, IsNumeralChar c := fun c hc => .inl (h c hc)
  have hzero : ∀ c ∈ ['.', '0'], IsNumeralChar c := List.all_iff_forall_prop.1 (by decide)
  have zeros (n : Nat) : ∀ c ∈ List.replicate n '0', IsNumeralChar c := by
    intro c hc
    rw [List.eq_of_mem_replicate hc]
    decide
  unfold Scientific.positional
  split
  · exact List.forall_mem_cons.2 ⟨by decide, List.forall_mem_cons.2 ⟨by decide,
      List.forall_mem_append.2 ⟨zeros _, hdigits⟩⟩⟩
  · dsimp only
    split
    · refine List.forall_mem_append.2 ⟨List.forall_mem_append.2 ⟨hdigits, zeros _⟩, ?_⟩
      cases keepsFraction
      · exact List.forall_mem_nil _
      · exact hzero
    · exact List.forall_mem_append.2 ⟨fun c hc => hdigits c (List.mem_of_mem_take hc),
        List.forall_mem_cons.2 ⟨by decide, fun c hc => hdigits c (List.mem_of_mem_drop hc)⟩⟩

private theorem all_of_withExponent (s : Scientific) (h : ∀ c ∈ s.digits, isAsciiDigit c) :
    ∀ c ∈ s.withExponent, IsNumeralChar c := by
  have hpower : ∀ c ∈ 'e' :: (if s.point - 1 < 0 then '-' else '+') :: digits (s.point - 1).natAbs,
      IsNumeralChar c := by
    refine List.forall_mem_cons.2 ⟨by decide, List.forall_mem_cons.2 ⟨?_, fun c hc => ?_⟩⟩
    · split
      · decide
      · decide
    · exact .inl (isAsciiDigit_of_mem_digits hc)
  unfold Scientific.withExponent
  dsimp only
  split
  · exact hpower
  · rename_i d hd
    rw [hd] at h
    exact List.forall_mem_cons.2 ⟨.inl (h d (by simp)), hpower⟩
  · rename_i d ds _ hd
    rw [hd] at h
    refine List.forall_mem_cons.2 ⟨.inl (h d (by simp)), List.forall_mem_cons.2 ⟨by decide, ?_⟩⟩
    exact List.forall_mem_append.2 ⟨fun c hc => .inl (h c (List.mem_cons_of_mem d hc)), hpower⟩

/-- In every layout a finite double is made of digits and the marks of numbers. -/
theorem all_of_finiteText (layout : Layout) (x : Float) : ∀ c ∈ (layout.finiteText x).toList, IsNumeralChar c := by
  have hsign : ∀ c ∈ (if isNegative x then "-" else "").toList, IsNumeralChar c := by
    split
    · exact List.all_iff_forall_prop.1 (by decide)
    · exact List.forall_mem_nil _
  unfold Layout.finiteText
  dsimp only
  split
  · rw [String.toList_append]
    refine List.forall_mem_append.2 ⟨hsign, ?_⟩
    split
    · exact List.all_iff_forall_prop.1 (by decide)
    · exact List.all_iff_forall_prop.1 (by decide)
  · rw [String.toList_append, String.toList_ofList]
    refine List.forall_mem_append.2 ⟨hsign, ?_⟩
    unfold Scientific.layOut
    split
    · exact all_of_positional _ (fun c => isAsciiDigit_of_mem_shortest) _
    · split
      · exact all_of_positional _ (fun c => isAsciiDigit_of_mem_shortest) _
      · exact all_of_withExponent _ fun c => isAsciiDigit_of_mem_shortest

/-! ### Texts that read as numbers -/

private theorem exponent_of_read {e : Int} (h : readExponent? cs = some e) :
    Matches (optional exponentShape) cs := by
  have ofRead {mark : Char} {sign ds : List Char} (hm : mark = 'e' ∨ mark = 'E')
      (hs : Matches Number.signShape sign) (hd : (readDigits? ds).isSome) :
      Matches (optional exponentShape) (mark :: (sign ++ ds)) := by
    obtain ⟨n, hn⟩ := Option.isSome_iff_exists.1 hd
    exact exponent_of_parts hm hs (readDigits?_eq_some_iff.1 hn).1
  unfold readExponent? at h
  split at h
  · exact matches_optional_iff.2 (.inl rfl)
  · rename_i mark ds
    split at h
    · rename_i hm
      split at h
      · rename_i ds
        refine ofRead hm sign_minus ?_
        cases hr : readDigits? ds
        · simp [hr] at h
        · rfl
      · exact ofRead hm sign_plus (by simpa using Option.isSome_of_eq_some h)
      · exact ofRead hm sign_none (by simpa using Option.isSome_of_eq_some h)
    · cases h

private theorem parts_of_readNumeral {n : Numeral} (h : readNumeral? cs = some n) :
    ∃ body e, cs = body ++ e ∧ Matches magnitudeShape body ∧ Matches (optional exponentShape) e := by
  have hdigit : ∀ ds : List Char, ∀ c ∈ ds.takeWhile isAsciiDigit, isAsciiDigit c :=
    fun ds => List.all_eq_true.1 List.all_takeWhile
  have hcs := List.takeWhile_append_dropWhile (p := isAsciiDigit) (l := cs)
  unfold readNumeral? at h
  dsimp only at h
  split at h
  · rename_i rest hrest
    rw [hrest] at hcs
    split at h
    · cases h
    · rename_i hne
      obtain ⟨e, he, -⟩ := Option.map_eq_some_iff.1 h
      refine ⟨cs.takeWhile isAsciiDigit ++ '.' :: rest.takeWhile isAsciiDigit, rest.dropWhile isAsciiDigit, ?_, ?_,
        exponent_of_read he⟩
      · rw [List.append_assoc, List.cons_append, List.takeWhile_append_dropWhile, hcs]
      · by_cases hw : cs.takeWhile isAsciiDigit = []
        · rw [hw, List.nil_append]
          exact magnitude_of_fraction (fun hf => hne ⟨hw, hf⟩) (hdigit rest)
        · exact magnitude_of_point hw (hdigit cs) (hdigit rest)
  · split at h
    · cases h
    · rename_i hne
      obtain ⟨e, he, -⟩ := Option.map_eq_some_iff.1 h
      exact ⟨_, _, hcs.symm, magnitude_of_digits hne (hdigit cs), exponent_of_read he⟩

/-- The letter that the names of the infinities and of NaN share, in both cases. -/
private def IsNameLetter (c : Char) : Prop := c.toLower = 'n'

private theorem eq_of_isNameLetter {c : Char} (h : IsNameLetter c) : c = 'n' ∨ c = 'N' := by
  unfold IsNameLetter Char.toLower at h
  split at h
  · rename_i hupper
    have hhigh : c.toNat ≤ 90 := UInt32.le_iff_toNat_le.1 hupper.2
    have hval : (c.toNat + 32) % 4294967296 = 110 := by simpa using congrArg (fun c => c.val.toNat) h
    exact .inr (Char.toNat_inj.1 (by change c.toNat = 78; omega))
  · exact .inl h

private theorem not_isNameLetter (is : Char → Bool) (h : is 'n' = false ∧ is 'N' = false) :
    ∀ c, is c → ¬ IsNameLetter c := by
  rintro c hc hletter
  rcases eq_of_isNameLetter hletter with rfl | rfl
  · exact absurd (h.1.symm.trans hc) (by decide)
  · exact absurd (h.2.symm.trans hc) (by decide)

/-- Nothing that has the shape of a number is a name. -/
private theorem shape_over : Number.shape.Over fun c => ¬ IsNameLetter c := by
  have blank := not_isNameLetter isBlank (by decide)
  have digit := not_isNameLetter isDecimalDigit (by decide)
  have sign := not_isNameLetter ['+', '-'].contains (by decide)
  have point := not_isNameLetter (· == '.') (by decide)
  have mark := not_isNameLetter ['e', 'E'].contains (by decide)
  have digits : Number.digitsShape.Over fun c => ¬ IsNameLetter c := ⟨digit, digit⟩
  exact ⟨blank, ⟨sign, trivial⟩, ⟨⟨digits, ⟨point, digit⟩, trivial⟩, point, digits⟩,
    ⟨⟨mark, ⟨sign, trivial⟩, digits⟩, trivial⟩, blank⟩

private theorem readNumeral_of_readUnsigned {x : Float} {negative : Bool} (hname : ∀ c ∈ cs, ¬ IsNameLetter c)
    (h : readUnsignedFloat? negative cs = some x) : ∃ n, readNumeral? cs = some n := by
  have noName {name : String} (hn : 'n' ∈ name.toList) : String.ofList (cs.map Char.toLower) ≠ name := by
    rintro rfl
    rw [String.toList_ofList, List.mem_map] at hn
    obtain ⟨c, hc, hlower⟩ := hn
    exact hname c hc hlower
  unfold readUnsignedFloat? at h
  split at h
  · exact ⟨_, ‹_›⟩
  · dsimp only at h
    rw [if_neg (not_or.2 ⟨noName (by decide), noName (by decide)⟩), if_neg (noName (by decide))] at h
    cases h

private theorem numeral_of_readFloat {x : Float} (hname : ∀ c ∈ cs, ¬ IsNameLetter c) (h : readFloat? cs = some x) :
    Matches numeralShape cs := by
  have unsigned {sign ds : List Char} {negative : Bool} (hs : Matches Number.signShape sign)
      (hd : ∀ c ∈ ds, ¬ IsNameLetter c) (hr : readUnsignedFloat? negative ds = some x) :
      Matches numeralShape (sign ++ ds) := by
    obtain ⟨n, hn⟩ := readNumeral_of_readUnsigned hd hr
    obtain ⟨body, e, rfl, hb, he⟩ := parts_of_readNumeral hn
    exact numeral_of_parts hs hb he
  unfold readFloat? at h
  split at h
  · exact unsigned sign_minus (fun c hc => hname c (List.mem_cons_of_mem _ hc)) h
  · exact unsigned sign_plus (fun c hc => hname c (List.mem_cons_of_mem _ hc)) h
  · exact unsigned sign_none hname h

/-- A text that has the shape of a number is, without the blanks around it, no name. -/
private theorem not_isNameLetter_trim {s : String} (h : Number.shape.accepts s.toList = true) :
    ∀ c ∈ trim s.toList, ¬ IsNameLetter c := fun c hc =>
  all_of_matches shape_over (accepts_iff_matches.1 h) c ((trim_sublist _).mem hc)

/-- A text that reads as a double reads as the double of a numeral. -/
theorem exists_numeral_of_read {s : String} {x : Float} (h : Number.read? s = some (.float x)) :
    ∃ (n : Numeral) (negative : Bool), x = n.toFloat negative := by
  have unsigned {ds : List Char} {negative : Bool} (hd : ∀ c ∈ ds, ¬ IsNameLetter c)
      (hr : readUnsignedFloat? negative ds = some x) : ∃ (n : Numeral) (negative : Bool), x = n.toFloat negative := by
    obtain ⟨n, hn⟩ := readNumeral_of_readUnsigned hd hr
    rw [readUnsignedFloat?, hn] at hr
    exact ⟨n, negative, (Option.some.inj hr).symm⟩
  unfold Number.read? at h
  split at h
  · rename_i hshape
    have hname := not_isNameLetter_trim hshape
    dsimp only at h
    split at h
    · exact nomatch h
    · obtain ⟨y, hy, hxy⟩ := Option.map_eq_some_iff.1 h
      obtain rfl := Number.float.inj hxy
      unfold readFloat? at hy
      split at hy
      · rename_i hcs
        exact unsigned (fun c hc => hname c (hcs ▸ List.mem_cons_of_mem _ hc)) hy
      · rename_i hcs
        exact unsigned (fun c hc => hname c (hcs ▸ List.mem_cons_of_mem _ hc)) hy
      · exact unsigned hname hy
  · exact nomatch h

/-- What reads as a number is a numeral between blanks. -/
theorem numeral_trim {s : String} (h : (Number.read? s).isSome) : Matches numeralShape (trim s.toList) := by
  unfold Number.read? at h
  split at h
  · rename_i hshape
    have hname := not_isNameLetter_trim hshape
    dsimp only at h
    split at h
    · rename_i n hint
      obtain ⟨i, hi, -⟩ := Option.bind_eq_some_iff.1 hint
      exact numeral_of_readInt hi
    · rw [Option.isSome_map] at h
      obtain ⟨x, hx⟩ := Option.isSome_iff_exists.1 h
      exact numeral_of_readFloat hname hx
  · cases h

end RecordMapper.Decimal
