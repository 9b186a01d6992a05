import RecordMapper.Filter.Compile
import RecordMapper.Proofs.Decimal.Numeral

/-!
# Texts of numbers

What the patterns for the operands of membership tests stand for, in words instead of patterns.

* a number has a sign or none, digits, and a fraction of digits or none; blanks may stand around it
  (`singleShape_accepts_iff`);
* a list of numbers is such numbers with a comma between any two, in parentheses with blanks around them
  (`listShape_accepts_iff`).
-/

namespace RecordMapper

open Text Pattern

/-- Blanks, perhaps none. -/
def Blanks (cs : List Char) : Prop := ∀ c ∈ cs, isBlank c

/-- Decimal digits, at least one. -/
def Digits (cs : List Char) : Prop := cs ≠ [] ∧ ∀ c ∈ cs, isDecimalDigit c

/-- A sign, digits, and perhaps a point with more digits. -/
inductive IsNumber : List Char → Prop where
  | whole {sign ds : List Char} (hs : sign = [] ∨ sign = ['+'] ∨ sign = ['-']) (hd : Digits ds) :
      IsNumber (sign ++ ds)
  | fraction {sign ds fs : List Char} (hs : sign = [] ∨ sign = ['+'] ∨ sign = ['-']) (hd : Digits ds)
      (hf : Digits fs) : IsNumber (sign ++ (ds ++ '.' :: fs))

/-- One number with blanks around it. -/
def IsSingle (cs : List Char) : Prop :=
  ∃ a n b, cs = a ++ (n ++ b) ∧ Blanks a ∧ IsNumber n ∧ Blanks b

/-- Numbers in parentheses with commas between them. -/
def IsNumberList (cs : List Char) : Prop :=
  ∃ a items b, cs = a ++ '(' :: ([','].intercalate items ++ ')' :: b) ∧
    Blanks a ∧ items ≠ [] ∧ (∀ item ∈ items, IsSingle item) ∧ Blanks b

/-- The characters of which lists of numbers are made, at least one. -/
def LooksNumeric (s : String) : Prop :=
  s ≠ "" ∧ ∀ c ∈ s.toList, isDecimalDigit c ∨ isBlank c ∨ c ∈ ['.', ',', '(', ')', '+', '-']

namespace Filter

theorem looksNumeric_iff {s : String} : looksNumeric s ↔ LooksNumeric s := by
  simp only [looksNumeric, LooksNumeric, isNumbersChar, Bool.and_eq_true, decide_eq_true_eq, List.all_eq_true,
    Bool.or_eq_true, or_assoc, List.contains_iff_mem]

/-! ### One number -/

private theorem matches_blanks_iff {cs : List Char} : Matches Number.blanksShape cs ↔ Blanks cs :=
  matches_many_one_iff

private theorem matches_digits_iff {cs : List Char} : Matches Number.digitsShape cs ↔ Digits cs :=
  matches_atLeastOnce_one_iff

private theorem matches_number_iff {cs : List Char} : Matches numberShape cs ↔ IsNumber cs := by
  simp only [numberShape, inOrder, matches_seq_iff, matches_optional_iff, Decimal.matches_sign_iff, matches_digits_iff,
    matches_char_iff]
  constructor
  · rintro ⟨sign, _, rfl, hs, ds, fraction, rfl, hd, hf⟩
    rcases hf with rfl | ⟨_, fs, rfl, rfl, hf⟩
    · rw [List.append_nil]
      exact .whole hs hd
    · exact .fraction hs hd hf
  · intro h
    cases h with
    | @whole sign ds hs hd => exact ⟨sign, ds, rfl, hs, ds, [], by simp, hd, .inl rfl⟩
    | @fraction sign ds fs hs hd hf => exact ⟨sign, _, rfl, hs, ds, '.' :: fs, rfl, hd, .inr ⟨['.'], fs, rfl, rfl, hf⟩⟩

theorem singleShape_accepts_iff {cs : List Char} : singleShape.accepts cs ↔ IsSingle cs := by
  simp only [accepts_iff_matches, singleShape, inOrder, matches_seq_iff, matches_blanks_iff, matches_number_iff]
  constructor
  · rintro ⟨a, _, rfl, ha, n, b, rfl, hn, hb⟩
    exact ⟨a, n, b, rfl, ha, hn, hb⟩
  · rintro ⟨a, n, b, rfl, ha, hn, hb⟩
    exact ⟨a, _, rfl, ha, n, b, rfl, hn, hb⟩

/-! ### Lists of numbers -/

/-- A comma and a number, blanks before each. -/
private def furtherShape : Pattern :=
  .inOrder [Number.blanksShape, .char ',', Number.blanksShape, numberShape]

/-- What follows the first number of a list extends it to numbers with commas between them. -/
private theorem items_of_further {m : List Char} (hm : Matches (.many furtherShape) m) {a n b : List Char}
    (ha : Blanks a) (hn : IsNumber n) (hb : Blanks b) :
    ∃ items, items ≠ [] ∧ (∀ item ∈ items, IsSingle item) ∧ a ++ (n ++ (m ++ b)) = [','].intercalate items := by
  generalize hp : Pattern.many furtherShape = p at hm
  induction hm generalizing a n with
  | done => exact ⟨[a ++ (n ++ b)], by simp, by simpa using ⟨a, n, b, rfl, ha, hn, hb⟩, by simp⟩
  | @more _ t m ht _ _ ih =>
    cases hp
    simp only [furtherShape, inOrder, matches_seq_iff, matches_blanks_iff, matches_char_iff,
      matches_number_iff] at ht
    obtain ⟨c, _, rfl, hc, _, _, rfl, rfl, d, n', rfl, hd, hn'⟩ := ht
    obtain ⟨items, hne, hitems, e⟩ := ih hd hn' rfl
    refine ⟨(a ++ (n ++ c)) :: items, by simp, ?_, ?_⟩
    · intro item hi
      rcases List.mem_cons.1 hi with rfl | hi
      · exact ⟨a, n, c, rfl, ha, hn, hc⟩
      · exact hitems item hi
    · rw [List.intercalate_cons_of_ne_nil hne, ← e]
      simp
  | _ => cases hp

/-- Numbers with commas between them are a first number and what follows it. -/
private theorem further_of_items {items : List (List Char)} (hne : items ≠ [])
    (hitems : ∀ item ∈ items, IsSingle item) :
    ∃ a n m b, [','].intercalate items = a ++ (n ++ (m ++ b)) ∧ Blanks a ∧ IsNumber n ∧
      Matches (.many furtherShape) m ∧ Blanks b := by
  induction items with
  | nil => exact absurd rfl hne
  | cons item items ih =>
    obtain ⟨a, n, c, rfl, ha, hn, hc⟩ := hitems item (by simp)
    by_cases hrest : items = []
    · subst hrest
      exact ⟨a, n, [], c, by simp, ha, hn, .done, hc⟩
    · obtain ⟨d, n', m, b, e, hd, hn', hm, hb⟩ := ih hrest fun i hi => hitems i (by simp [hi])
      refine ⟨a, n, (c ++ ([','] ++ (d ++ n'))) ++ m, b, ?_, ha, hn, .more ?_ hm, hb⟩
      · rw [List.intercalate_cons_of_ne_nil hrest, e]
        simp
      · simp only [furtherShape, inOrder, matches_seq_iff, matches_blanks_iff, matches_char_iff, matches_number_iff]
        exact ⟨c, _, rfl, hc, [','], _, rfl, rfl, d, n', rfl, hd, hn'⟩

theorem listShape_accepts_iff {cs : List Char} : listShape.accepts cs ↔ IsNumberList cs := by
  have hshape : listShape = .inOrder [Number.blanksShape, .char '(', Number.blanksShape, numberShape,
    .many furtherShape, Number.blanksShape, .char ')', Number.blanksShape] := rfl
  simp only [accepts_iff_matches, hshape, inOrder, matches_seq_iff, matches_blanks_iff, matches_char_iff,
    matches_number_iff]
  constructor
  · rintro ⟨a, _, rfl, ha, _, _, rfl, rfl, c, _, rfl, hc, n, _, rfl, hn, m, _, rfl, hm, d, _, rfl, hd, _, b, rfl,
      rfl, hb⟩
    obtain ⟨items, hne, hitems, e⟩ := items_of_further hm hc hn hd
    refine ⟨a, items, b, ?_, ha, hne, hitems, hb⟩
    rw [← e]
    simp
  · rintro ⟨a, items, b, rfl, ha, hne, hitems, hb⟩
    obtain ⟨c, n, m, d, e, hc, hn, hm, hd⟩ := further_of_items hne hitems
    refine ⟨a, _, rfl, ha, ['('], _, rfl, rfl, c, _, ?_, hc, n, _, rfl, hn, m, _, rfl, hm, d, _, rfl, hd, [')'], b,
      rfl, rfl, hb⟩
    rw [e]
    simp

end Filter

end RecordMapper
