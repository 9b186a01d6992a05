import RecordMapper.Proofs.Value.KeyText

/-!
# Texts that read as numbers

The grammar of numeric texts, with the number that each part stands for: a sign, digits of ASCII around an optional
point, an optional exponent, blanks around it all.

* each reader gives for a text of the grammar what the text spells (`SpellsMagnitude.readNumeral?`,
  `SignedNumeral.readFloat?`), and an integer is read from signed digits only (`int64?_eq_some_iff`);
* a text reads as a number exactly if it has the grammar: as an integer if it has neither point nor exponent and 64 bits
  hold its value, else as the double nearest to what it spells (`Number.read?_iff_spells`).
-/

namespace RecordMapper

open Text Pattern Decimal

/-! ### The grammar -/

/-- Digits with at most one point among or around them: the number that the digits make up, and how many of them are
behind the point. -/
inductive SpellsMagnitude : List Char → Nat → Nat → Prop where
  | whole {ds : List Char} (hd : SqlDigits ds) : SpellsMagnitude ds (value ds) 0
  | point {ds fs : List Char} (hd : SqlDigits ds) (hf : ∀ c ∈ fs, isAsciiDigit c) :
    SpellsMagnitude (ds ++ '.' :: fs) (value (ds ++ fs)) fs.length
  | fraction {fs : List Char} (hf : SqlDigits fs) : SpellsMagnitude ('.' :: fs) (value fs) fs.length

/-- An exponent, or none. -/
inductive SpellsExponent : List Char → Int → Prop where
  | none : SpellsExponent [] 0
  | power {letter : Char} {ds : List Char} {e : Int} (hl : letter = 'e' ∨ letter = 'E') (hd : SignedDigits ds e) :
    SpellsExponent (letter :: ds) e

/-- A sign or none, and whether it makes a number negative. -/
inductive SpellsSign : List Char → Bool → Prop where
  | none : SpellsSign [] false
  | plus : SpellsSign ['+'] false
  | minus : SpellsSign ['-'] true

/-- A magnitude and an exponent behind a sign, and the decimal number that they stand for. -/
inductive SignedNumeral : List Char → Bool → Numeral → Prop where
  | intro {sign magnitude exponent : List Char} {negative : Bool} {coefficient places : Nat} {e : Int}
      (hs : SpellsSign sign negative) (hm : SpellsMagnitude magnitude coefficient places)
      (he : SpellsExponent exponent e) :
    SignedNumeral (sign ++ (magnitude ++ exponent)) negative ⟨coefficient, e - places⟩

/-- The texts that spell a decimal number: a signed numeral, blanks around it. -/
def SpellsNumeral (s : String) (negative : Bool) (n : Numeral) : Prop :=
  ∃ a numeral b, s.toList = a ++ (numeral ++ b) ∧ Blanks a ∧ SignedNumeral numeral negative n ∧ Blanks b

variable {cs ds rest magnitude exponent : List Char} {negative : Bool} {n : Numeral}

/-! ### The shape of numerals -/

theorem SpellsSign.matches (h : SpellsSign cs negative) : Matches Number.signShape cs := by
  cases h with
  | none => exact matches_sign_iff.2 (.inl rfl)
  | plus => exact matches_sign_iff.2 (.inr (.inl rfl))
  | minus => exact matches_sign_iff.2 (.inr (.inr rfl))

theorem exists_spellsSign (h : cs = [] ∨ cs = ['+'] ∨ cs = ['-']) : ∃ negative, SpellsSign cs negative := by
  rcases h with rfl | rfl | rfl
  · exact ⟨_, .none⟩
  · exact ⟨_, .plus⟩
  · exact ⟨_, .minus⟩

theorem signedDigits_of_sign (hs : SpellsSign cs negative) (hd : SqlDigits ds) : ∃ i, SignedDigits (cs ++ ds) i := by
  cases hs with
  | none => exact ⟨_, .unsigned hd⟩
  | plus => exact ⟨_, .plus hd⟩
  | minus => exact ⟨_, .minus hd⟩

theorem exists_spellsMagnitude_iff :
    (∃ coefficient places, SpellsMagnitude cs coefficient places) ↔ Matches magnitudeShape cs := by
  constructor
  · rintro ⟨coefficient, places, h⟩
    cases h with
    | whole hd => exact magnitude_of_digits hd.1 hd.2
    | point hd hf => exact magnitude_of_point hd.1 hd.2 hf
    | fraction hf => exact magnitude_of_fraction hf.1 hf.2
  · intro h
    obtain ⟨whole, hw, ⟨rfl, hne⟩ | ⟨fraction, hf, rfl, hsides⟩⟩ := exists_of_magnitude h
    · exact ⟨_, _, .whole ⟨hne, hw⟩⟩
    · by_cases hne : whole = []
      · subst hne
        exact ⟨_, _, .fraction ⟨hsides rfl, hf⟩⟩
      · exact ⟨_, _, .point ⟨hne, hw⟩ hf⟩

theorem exists_spellsExponent_iff :
    (∃ e, SpellsExponent cs e) ↔ Matches (optional exponentShape) cs := by
  constructor
  · rintro ⟨e, h⟩
    cases h with
    | none => exact matches_optional_iff.2 (.inl rfl)
    | @power letter ds _ hl hd =>
      obtain ⟨sign, digits, rfl, hsign, hdigits⟩ := hd.exists_sign
      exact exponent_of_parts hl (matches_sign_iff.2 hsign) hdigits
  · intro h
    obtain rfl | ⟨letter, sign, ds, rfl, hl, hsign, hd⟩ := exists_of_exponent h
    · exact ⟨0, .none⟩
    · obtain ⟨negative, hs⟩ := exists_spellsSign hsign
      obtain ⟨e, he⟩ := signedDigits_of_sign hs hd
      exact ⟨e, .power hl he⟩

/-- The grammar and the pattern of numerals are the same. -/
theorem exists_signedNumeral_iff : (∃ negative n, SignedNumeral cs negative n) ↔ Matches numeralShape cs := by
  constructor
  · rintro ⟨negative, n, h⟩
    obtain ⟨hs, hm, he⟩ := h
    exact .seq hs.matches (.seq (exists_spellsMagnitude_iff.1 ⟨_, _, hm⟩) (exists_spellsExponent_iff.1 ⟨_, he⟩))
  · intro h
    obtain ⟨sign, magnitude, exponent, rfl, hsign, hm, he⟩ := exists_of_numeral h
    obtain ⟨negative, hs⟩ := exists_spellsSign hsign
    obtain ⟨coefficient, places, hm⟩ := exists_spellsMagnitude_iff.2 hm
    obtain ⟨e, he⟩ := exists_spellsExponent_iff.2 he
    exact ⟨_, _, .intro hs hm he⟩

/-! ### The readers -/

private theorem takeWhile_digits (hd : ∀ c ∈ ds, isAsciiDigit c) (hrest : ∀ c ∈ rest.head?, ¬ isAsciiDigit c) :
    (ds ++ rest).takeWhile isAsciiDigit = ds ∧ (ds ++ rest).dropWhile isAsciiDigit = rest := by
  rw [List.takeWhile_append_of_pos hd, List.dropWhile_append_of_pos hd]
  cases rest with
  | nil => exact ⟨List.append_nil ds, rfl⟩
  | cons c rest =>
    have hc : ¬ isAsciiDigit c := hrest c rfl
    exact ⟨by rw [List.takeWhile_cons_of_neg hc, List.append_nil], List.dropWhile_cons_of_neg hc⟩

namespace SpellsExponent

variable {e : Int}

theorem head (h : SpellsExponent exponent e) : ∀ c ∈ exponent.head?, ¬ isAsciiDigit c ∧ c ≠ '.' := by
  cases h with
  | none => exact nofun
  | power hl hd =>
    intro c hc
    obtain rfl := Option.some.inj hc
    rcases hl with rfl | rfl
    · decide
    · decide

theorem readExponent? (h : SpellsExponent exponent e) : readExponent? exponent = some e := by
  cases h with
  | none => rfl
  | @power letter ds _ hl hd =>
    have hint : Decimal.readExponent? (letter :: ds) = if letter = 'e' ∨ letter = 'E' then readInt? ds else .none := rfl
    rw [hint, if_pos hl, hd.readInt?]

end SpellsExponent

namespace SpellsMagnitude

variable {coefficient places : Nat} {e : Int}

theorem head (h : SpellsMagnitude magnitude coefficient places) :
    ∃ c rest, magnitude = c :: rest ∧ (isAsciiDigit c ∨ c = '.') := by
  have digits {ds : List Char} (hd : SqlDigits ds) : ∃ c rest, ds = c :: rest ∧ isAsciiDigit c := by
    obtain ⟨c, rest, rfl⟩ := List.exists_cons_of_ne_nil hd.1
    exact ⟨c, rest, rfl, hd.2 c List.mem_cons_self⟩
  cases h with
  | whole hd =>
    obtain ⟨c, rest, rfl, hc⟩ := digits hd
    exact ⟨c, rest, rfl, .inl hc⟩
  | point hd hf =>
    obtain ⟨c, rest, rfl, hc⟩ := digits hd
    exact ⟨c, _, rfl, .inl hc⟩
  | fraction hf => exact ⟨'.', _, rfl, .inr rfl⟩

private theorem readNumeral?_point {whole fraction : List Char} (hw : ∀ c ∈ whole, isAsciiDigit c)
    (hf : ∀ c ∈ fraction, isAsciiDigit c) (hsides : ¬ (whole = [] ∧ fraction = [])) (he : SpellsExponent exponent e) :
    readNumeral? (whole ++ '.' :: (fraction ++ exponent)) =
      some ⟨value (whole ++ fraction), e - fraction.length⟩ := by
  have hpoint : ∀ c ∈ ('.' :: (fraction ++ exponent)).head?, ¬ isAsciiDigit c := fun c hc => Option.some.inj hc ▸ by decide
  obtain ⟨htake, hdrop⟩ := takeWhile_digits hw hpoint
  obtain ⟨htake', hdrop'⟩ := takeWhile_digits hf fun c hc => (he.head c hc).1
  simp only [readNumeral?, htake, hdrop, htake', hdrop', if_neg hsides, he.readExponent?, Option.map_some]

/-- A magnitude with an exponent is read as the number that it spells. -/
theorem readNumeral? (h : SpellsMagnitude magnitude coefficient places) (he : SpellsExponent exponent e) :
    readNumeral? (magnitude ++ exponent) = some ⟨coefficient, e - places⟩ := by
  cases h with
  | whole hd =>
    obtain ⟨htake, hdrop⟩ := takeWhile_digits hd.2 fun c hc => (he.head c hc).1
    unfold Decimal.readNumeral?
    simp only [htake, hdrop]
    split
    · -- no point begins an exponent
      exact absurd rfl (he.head '.' rfl).2
    · rw [if_neg hd.1, he.readExponent?]
      simp
  | point hd hf =>
    rw [List.append_assoc, List.cons_append]
    exact readNumeral?_point hd.2 hf (fun hsides => hd.1 hsides.1) he
  | fraction hf => exact readNumeral?_point (List.forall_mem_nil _) hf.2 (fun hsides => hf.1 hsides.2) he

end SpellsMagnitude

namespace SignedNumeral

/-- A signed numeral is read as the double nearest to the number that it spells. -/
theorem readFloat? (h : SignedNumeral cs negative n) : readFloat? cs = some (n.toFloat negative) := by
  obtain @⟨sign, magnitude, exponent, _, coefficient, places, e, hs, hm, he⟩ := h
  have hread (negative : Bool) : readUnsignedFloat? negative (magnitude ++ exponent) =
      some ((Numeral.mk coefficient (e - places)).toFloat negative) := by
    rw [readUnsignedFloat?, hm.readNumeral? he]
  cases hs with
  | minus => exact hread true
  | plus => exact hread false
  | none =>
    obtain ⟨c, rest, rfl, hc⟩ := hm.head
    have hplus : c ≠ '+' := by rintro rfl; revert hc; decide
    have hminus : c ≠ '-' := by rintro rfl; revert hc; decide
    refine Eq.trans ?_ (hread false)
    simp only [List.nil_append, List.cons_append]
    unfold Decimal.readFloat?
    split
    · rename_i heq
      exact absurd (List.cons.inj heq).1 hminus
    · rename_i heq
      exact absurd (List.cons.inj heq).1 hplus
    · rfl

end SignedNumeral

theorem readInt?_eq_some_iff {i : Int} : readInt? cs = some i ↔ SignedDigits cs i := by
  refine ⟨fun h => ?_, SignedDigits.readInt?⟩
  have hunsigned := h
  unfold readInt? at h
  split at h
  · rw [readInt?_minus] at hunsigned
    obtain ⟨n, hn, rfl⟩ := Option.map_eq_some_iff.1 hunsigned
    obtain ⟨hd, rfl⟩ := readDigits?_eq_some_iff.1 hn
    exact .minus hd
  · obtain ⟨n, hn, rfl⟩ := Option.map_eq_some_iff.1 h
    obtain ⟨hd, rfl⟩ := readDigits?_eq_some_iff.1 hn
    exact .plus hd
  · obtain ⟨n, hn, rfl⟩ := Option.map_eq_some_iff.1 h
    obtain ⟨hd, rfl⟩ := readDigits?_eq_some_iff.1 hn
    exact .unsigned hd

theorem Number.int64?_eq_some_iff {i : Int64} : Number.int64? cs = some i ↔ SignedDigits cs i.toInt := by
  rw [← readInt?_eq_some_iff, Number.int64?, Option.bind_eq_some_iff]
  constructor
  · rintro ⟨j, hj, hi⟩
    obtain ⟨hfits, hi⟩ := Option.ite_none_right_eq_some.1 hi
    obtain rfl := Option.some.inj hi
    rwa [Int64.toInt_ofInt_of_le hfits.1 hfits.2]
  · intro h
    exact ⟨i.toInt, h, by rw [if_pos ⟨i.le_toInt, i.toInt_lt⟩, Int64.ofInt_toInt]⟩

/-! ### Texts that spell numbers -/

namespace Number

variable {s : String}

theorem spellsNumeral_of_read? (h : (read? s).isSome) : ∃ negative n, SpellsNumeral s negative n := by
  obtain ⟨a, b, hs, ha, hb⟩ := exists_blanks_around s.toList
  obtain ⟨negative, n, hn⟩ := exists_signedNumeral_iff.2 (numeral_trim h)
  exact ⟨negative, n, a, _, b, hs, ha, hn, hb⟩

/-- What spells a decimal number is read as the integer of 64 bits that it spells, or as a double. -/
theorem read?_of_spellsNumeral (h : SpellsNumeral s negative n) :
    (∃ i : Int64, SpellsInt s i.toInt ∧ read? s = some (.int i)) ∨ read? s = some (.float (n.toFloat negative)) := by
  obtain ⟨a, numeral, b, hs, ha, hn, hb⟩ := h
  obtain ⟨hwhole, hother⟩ := read?_between hs ha (exists_signedNumeral_iff.1 ⟨_, _, hn⟩) hb
  cases hint : int64? numeral with
  | some i => exact .inl ⟨i, ⟨a, numeral, b, hs, ha, int64?_eq_some_iff.1 hint, hb⟩, hwhole i hint⟩
  | none =>
    refine .inr ((hother hint).trans ?_)
    rw [hn.readFloat?, Option.map_some]

/-- A text is read as a number exactly if it spells a decimal number; as an integer exactly if it spells an integer of
64 bits, with neither point nor exponent; and in all other cases as the double nearest to the number that it spells. -/
theorem read?_iff_spells (s : String) :
    ((∃ x, read? s = some x) ↔ ∃ negative n, SpellsNumeral s negative n) ∧
      (∀ i : Int64, read? s = some (.int i) ↔ SpellsInt s i.toInt) ∧
      ∀ x : Float, read? s = some (.float x) ↔
        (∃ negative n, SpellsNumeral s negative n ∧ x = n.toFloat negative) ∧ ¬ ∃ i : Int64, SpellsInt s i.toInt := by
  refine ⟨⟨?_, ?_⟩, fun i => ⟨fun h => ?_, read?_of_spellsInt⟩, fun x => ⟨fun h => ⟨?_, ?_⟩, ?_⟩⟩
  · rintro ⟨x, h⟩
    exact spellsNumeral_of_read? (Option.isSome_of_eq_some h)
  · rintro ⟨negative, n, hn⟩
    obtain ⟨i, -, h⟩ | h := read?_of_spellsNumeral hn
    · exact ⟨_, h⟩
    · exact ⟨_, h⟩
  · obtain ⟨negative, n, hn⟩ := spellsNumeral_of_read? (Option.isSome_of_eq_some h)
    obtain ⟨j, hj, hint⟩ | hfloat := read?_of_spellsNumeral hn
    · obtain rfl : j = i := Number.int.inj (Option.some.inj (hint.symm.trans h))
      exact hj
    · exact nomatch hfloat.symm.trans h
  · obtain ⟨negative, n, hn⟩ := spellsNumeral_of_read? (Option.isSome_of_eq_some h)
    obtain ⟨j, -, hint⟩ | hfloat := read?_of_spellsNumeral hn
    · exact nomatch hint.symm.trans h
    · exact ⟨negative, n, hn, Number.float.inj (Option.some.inj (h.symm.trans hfloat))⟩
  · rintro ⟨i, hi⟩
    exact nomatch (read?_of_spellsInt hi).symm.trans h
  · rintro ⟨⟨negative, n, hn, rfl⟩, hnone⟩
    obtain ⟨i, hi, -⟩ | hfloat := read?_of_spellsNumeral hn
    · exact absurd ⟨i, hi⟩ hnone
    · exact hfloat

/-- Digits of other scripts have the shape of a number, and none is read from them. -/
example : shape.accepts "٣".toList = true ∧ read? "٣" = none := ⟨rfl, rfl⟩

end Number

end RecordMapper
