import RecordMapper.Proofs.Decimal.Numeral
import RecordMapper.Proofs.Filter.TextOperand
import RecordMapper.Proofs.Value.Alike

/-!
# Key texts of whole numbers

A whole number is held as an integer, or spelled in a text: with a sign, with zeros in front, between blanks.

* its key text is its decimal notation, however it is spelled (`Value.Spells.keyText?`);
* a text that is no number is its own key text, and never the decimal notation of one (`intText_ne_of_read?`);
* so among whole numbers and such texts, those that are alike are those with one key text (`alike_iff_keyText?_eq`).
-/

namespace RecordMapper

open Text Pattern Decimal

/-! ### Spellings of integers -/

/-- Digits of ASCII behind a sign or none, and the integer that they stand for. -/
inductive SignedDigits : List Char → Int → Prop where
  | unsigned {ds : List Char} (hd : SqlDigits ds) : SignedDigits ds (value ds)
  | plus {ds : List Char} (hd : SqlDigits ds) : SignedDigits ('+' :: ds) (value ds)
  | minus {ds : List Char} (hd : SqlDigits ds) : SignedDigits ('-' :: ds) (-(value ds : Int))

/-- The texts that spell an integer: its digits with any zeros in front, behind a sign or none, blanks around them. -/
def SpellsInt (s : String) (i : Int) : Prop :=
  ∃ a numeral b, s.toList = a ++ (numeral ++ b) ∧ Blanks a ∧ SignedDigits numeral i ∧ Blanks b

namespace SignedDigits

variable {cs : List Char} {i : Int}

theorem readInt? (h : SignedDigits cs i) : readInt? cs = some i := by
  have hread {ds : List Char} (hd : SqlDigits ds) : readDigits? ds = some (value ds) :=
    readDigits?_eq_some_iff.2 ⟨hd, rfl⟩
  cases h with
  | unsigned hd =>
    rw [readInt?_unsigned fun c hc => hd.2 c (List.mem_of_mem_head? hc), hread hd]
    rfl
  | @plus ds hd =>
    rw [Decimal.readInt?, hread hd]
    rfl
  | minus hd =>
    rw [readInt?_minus, hread hd]
    rfl

/-- Signed digits are a sign and digits. -/
theorem exists_sign (h : SignedDigits cs i) :
    ∃ sign ds, cs = sign ++ ds ∧ (sign = [] ∨ sign = ['+'] ∨ sign = ['-']) ∧ SqlDigits ds := by
  cases h with
  | unsigned hd => exact ⟨[], _, rfl, .inl rfl, hd⟩
  | plus hd => exact ⟨['+'], _, rfl, .inr (.inl rfl), hd⟩
  | minus hd => exact ⟨['-'], _, rfl, .inr (.inr rfl), hd⟩

end SignedDigits

/-! ### Numerals between blanks -/

namespace Number

variable {cs : List Char} {s : String}

theorem not_isBlank_of_numeral (h : Matches numeralShape cs) : ∀ c ∈ cs, ¬ isBlank c := by
  have hmarks : ∀ c ∈ ['+', '-', '.', 'e', 'E'], ¬ isBlank c := List.all_iff_forall_prop.1 (by decide)
  intro c hc
  rcases all_of_numeral h c hc with hdigit | hmark
  · exact not_isBlank_of_isDecimalDigit (isDecimalDigit_of_isAsciiDigit hdigit)
  · exact hmarks c hmark

/-- A text in which a numeral stands between blanks is read as the numeral is: as an integer if it can be, else as a
double. -/
theorem read?_between {a b : List Char} (hs : s.toList = a ++ (cs ++ b)) (ha : Blanks a) (h : Matches numeralShape cs)
    (hb : Blanks b) :
    (∀ i, int64? cs = some i → read? s = some (.int i)) ∧
      (int64? cs = none → read? s = (Decimal.readFloat? cs).map .float) := by
  have htrim : trim (a ++ (cs ++ b)) = cs := trim_around ha (not_isBlank_of_numeral h) hb
  have hshape : shape.accepts (a ++ (cs ++ b)) := shape_accepts_of_numeral h ha hb
  rw [read?, hs, if_pos hshape, htrim]
  exact ⟨fun i hi => by simp only [hi], fun hnone => by simp only [hnone]⟩

/-- A text that spells an integer of 64 bits is read as it. -/
theorem read?_of_spellsInt {n : Int64} (h : SpellsInt s n.toInt) : read? s = some (.int n) := by
  obtain ⟨a, numeral, b, hs, ha, hnumeral, hb⟩ := h
  have hint : int64? numeral = some n := by
    rw [int64?, hnumeral.readInt?, Option.bind_some, if_pos ⟨n.le_toInt, n.toInt_lt⟩, Int64.ofInt_toInt]
  exact (read?_between hs ha (numeral_of_readInt hnumeral.readInt?) hb).1 n hint

end Number

/-! ### Decimal notations -/

theorem signedDigits_intDigits (i : Int) : SignedDigits (intDigits i) i := by
  have hdigits : SqlDigits (digits i.natAbs) := ⟨digits_ne_nil _, fun _ => isAsciiDigit_of_mem_digits⟩
  have hvalue := value_digits i.natAbs
  unfold intDigits
  split
  · have h := SignedDigits.minus hdigits
    rwa [hvalue, show -(i.natAbs : Int) = i by omega] at h
  · have h := SignedDigits.unsigned hdigits
    rwa [hvalue, show (i.natAbs : Int) = i by omega] at h

/-- The decimal notation of an integer is one of its spellings. -/
theorem spellsInt_intText (i : Int) : SpellsInt (intText i) i := by
  refine ⟨[], intDigits i, [], ?_, List.forall_mem_nil _, signedDigits_intDigits i, List.forall_mem_nil _⟩
  rw [intText, String.toList_ofList, List.nil_append, List.append_nil]

theorem intText_inj {i j : Int} : intText i = intText j ↔ i = j := by
  refine ⟨fun h => ?_, congrArg intText⟩
  have hread := readInt?_intDigits i
  rw [String.ofList_injective h, readInt?_intDigits] at hread
  exact (Option.some.inj hread).symm

/-- The decimal notation of an integer of 64 bits is a number. -/
theorem intText_ne_of_read? {s : String} (h : Number.read? s = none) (n : Int64) : intText n.toInt ≠ s := by
  rintro rfl
  rw [Number.read?_of_spellsInt (spellsInt_intText n.toInt)] at h
  cases h

/-! ### Values that spell integers -/

namespace Value

/-- The values that spell an integer of 64 bits: the integers, and the texts in which one is spelled. -/
inductive Spells : Value → Int64 → Prop where
  | int (n : Int32) : Spells (.int n) n.toInt64
  | bigint (n : Int64) : Spells (.bigint n) n
  | text {s : String} {n : Int64} (h : SpellsInt s n.toInt) : Spells (.text s) n

/-- A value that spells an integer of 64 bits, or a text that is no number. -/
inductive IsWholeOrWord : Value → Prop where
  | whole {v : Value} {n : Int64} (h : v.Spells n) : IsWholeOrWord v
  | word {s : String} (h : Number.read? s = none) : IsWholeOrWord (.text s)

namespace Spells

variable {v : Value} {n : Int64}

theorem number? (h : v.Spells n) : v.number? = some (.int n) := by
  cases h with
  | int | bigint => rfl
  | text h => exact Number.read?_of_spellsInt h

theorem isExact (h : v.Spells n) : v.IsExact := by
  refine ⟨fun x hx => ?_, ?_⟩
  · rw [h.number?] at hx
    cases hx
  · cases h <;> rfl

/-- The key text of an integer is its decimal notation, however the integer is spelled. -/
theorem keyText? (h : v.Spells n) : v.keyText? = some (intText n.toInt) := by
  cases h with
  | int n => exact congrArg (some ∘ intText) n.toInt_toInt64.symm
  | bigint => rfl
  | text h => rw [Value.keyText?, Number.read?_of_spellsInt h]; rfl

end Spells

section Word

variable {s t : String} {v w : Value} {m n : Int64}

theorem isExact_of_read? (h : Number.read? s = none) : (Value.text s).IsExact := by
  refine ⟨fun x hx => ?_, rfl⟩
  rw [number?, h] at hx
  cases hx

/-- A text that is no number is its own key text. -/
theorem keyText?_of_read? (h : Number.read? s = none) : (Value.text s).keyText? = some s := by
  rw [keyText?, h]

/-- Values that spell integers are alike when they spell the same one. -/
theorem Spells.alike_iff (hv : v.Spells m) (hw : w.Spells n) : v.alike w = true ↔ m = n := by
  rw [alike_eq, hv.number?, hw.number?]
  exact beq_iff_eq

/-- Texts that are no numbers are alike when they are the same. -/
theorem alike_words_iff (hs : Number.read? s = none) (ht : Number.read? t = none) :
    (Value.text s).alike (.text t) = true ↔ s = t := by
  rw [alike_eq, number?, number?, hs, ht, same, beq_iff_eq]

/-- What spells an integer is alike to no text that is no number. -/
theorem Spells.not_alike_word (hv : v.Spells n) (hs : Number.read? s = none) : ¬ v.alike (.text s) = true := by
  have hword : (Value.text s).number? = none := hs
  rw [Value.alike_iff hv.isExact (isExact_of_read? hs), hv.number?, hword]
  simp

theorem Spells.not_word_alike (hv : v.Spells n) (hs : Number.read? s = none) : ¬ (Value.text s).alike v = true :=
  fun h => hv.not_alike_word hs (alike_symm (isExact_of_read? hs) hv.isExact h)

end Word

/-- Among integers, their spellings and texts that are no numbers, those are alike that have one key text. -/
theorem IsWholeOrWord.alike_iff {v w : Value} (hv : v.IsWholeOrWord) (hw : w.IsWholeOrWord) :
    v.alike w = true ↔ v.keyText? = w.keyText? := by
  cases hv with
  | @whole _ m hv =>
    cases hw with
    | @whole _ n hw => rw [hv.alike_iff hw, hv.keyText?, hw.keyText?, Option.some.injEq, intText_inj, Int64.toInt_inj]
    | word hs =>
      rw [hv.keyText?, keyText?_of_read? hs, Option.some.injEq]
      exact iff_of_false (hv.not_alike_word hs) (intText_ne_of_read? hs m)
  | word hs =>
    cases hw with
    | @whole _ n hw =>
      rw [hw.keyText?, keyText?_of_read? hs, Option.some.injEq]
      exact iff_of_false (hw.not_word_alike hs) (intText_ne_of_read? hs n).symm
    | word ht => rw [alike_words_iff hs ht, keyText?_of_read? hs, keyText?_of_read? ht, Option.some.injEq]

/-- Whole numbers, however they are spelled, and texts that are no numbers: two of them are alike exactly if they have
the same key text, so being alike is an equivalence; and the key text of a whole number is its decimal notation. -/
theorem alike_iff_keyText?_eq :
    (∀ v w : Value, v.IsWholeOrWord → w.IsWholeOrWord → (v.alike w = true ↔ v.keyText? = w.keyText?)) ∧
      Equivalence (fun v w : { v : Value // v.IsWholeOrWord } => v.1.alike w.1 = true) ∧
      ∀ (v : Value) (n : Int64), v.Spells n → v.keyText? = some (intText n.toInt) := by
  refine ⟨fun v w hv hw => hv.alike_iff hw, ⟨fun v => ?_, fun {v w} h => ?_, fun {u v w} huv hvw => ?_⟩,
    fun v n h => h.keyText?⟩
  · exact (v.2.alike_iff v.2).2 rfl
  · exact (w.2.alike_iff v.2).2 ((v.2.alike_iff w.2).1 h).symm
  · exact (u.2.alike_iff w.2).2 (((u.2.alike_iff v.2).1 huv).trans ((v.2.alike_iff w.2).1 hvw))

/-- A sign, zeros and blanks do not matter to a number, and a letter makes it a text of its own. -/
theorem alike_iff_keyText?_eq_spelled :
    (Value.text " -007\n").Spells (-7) ∧ (Value.bigint (-7)).Spells (-7) ∧ Number.read? "-7a" = none ∧
      (Value.text " -007\n").keyText? = some "-7" ∧ (Value.text " -007\n").alike (.bigint (-7)) = true ∧
      ¬ (Value.text "-7a").alike (.bigint (-7)) = true := by
  obtain ⟨hiff, -, hkey⟩ := alike_iff_keyText?_eq
  have hvalue : (-7 : Int64).toInt = -(value ['0', '0', '7'] : Int) := by decide
  have hdigits : SignedDigits ['-', '0', '0', '7'] (-7 : Int64).toInt := by
    rw [hvalue]
    exact .minus ⟨List.cons_ne_nil _ _, List.all_eq_true.1 rfl⟩
  have hspells : (Value.text " -007\n").Spells (-7) :=
    .text ⟨[' '], _, ['\n'], rfl, List.forall_mem_singleton.2 rfl, hdigits, List.forall_mem_singleton.2 rfl⟩
  have hword : Number.read? "-7a" = none := rfl
  refine ⟨hspells, .bigint (-7), hword, hkey _ _ hspells, ?_, fun h => ?_⟩
  · exact (hiff _ _ (.whole hspells) (.whole (.bigint (-7)))).2 (hkey _ _ hspells)
  · have hsame := (hiff _ _ (.word hword) (.whole (.bigint (-7)))).1 h
    exact absurd hsame (by decide)

end Value

end RecordMapper
