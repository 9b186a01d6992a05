import RecordMapper.Json.Printer
import RecordMapper.Proofs.Decimal.Numeral

/-!
# Printable texts

The text of a JSON document holds no control character (`Json.text_printable`): in strings they are escaped, and numbers
are made of digits and marks.
-/

namespace RecordMapper

open Text Decimal

/-- The characters from the space on. -/
def IsPrintable (c : Char) : Prop := 0x20 ≤ c.toNat

instance (c : Char) : Decidable (IsPrintable c) := inferInstanceAs (Decidable (0x20 ≤ c.toNat))

theorem isPrintable_of_isNumeralChar {c : Char} (h : IsNumeralChar c) : IsPrintable c := by
  have hmarks : ∀ d ∈ ['+', '-', '.', 'e', 'E'], IsPrintable d := List.all_iff_forall_prop.1 (by decide)
  rcases h with hdigit | hmark
  · simp only [isAsciiDigit, Bool.and_eq_true, decide_eq_true_eq, Char.le_def, UInt32.le_iff_toNat_le] at hdigit
    have hlow : 0x30 ≤ c.toNat := hdigit.1
    exact (by decide : 0x20 ≤ 0x30).trans hlow
  · exact hmarks c hmark

namespace Json

theorem escapeChar_printable (c : Char) : ∀ d ∈ escapeChar c, IsPrintable d := by
  have hhex : ∀ n < 16, IsPrintable (hexDigit n) := by decide
  have hfixed : ∀ d ∈ ['\\', 'u', '0', '0'], IsPrintable d := List.all_iff_forall_prop.1 (by decide)
  unfold escapeChar
  split_ifs with _ _ _ _ _ _ _ hcontrol
  -- the escapes of fixed characters
  iterate 7 exact List.all_iff_forall_prop.1 (by decide)
  · have hhigh := hhex (c.toNat / 16) (by omega)
    have hlow := hhex (c.toNat % 16) (by omega)
    exact List.forall_mem_append.2 ⟨hfixed, by simp [hhigh, hlow]⟩
  · exact List.forall_mem_singleton.2 (Nat.not_lt.1 hcontrol)

theorem quoted_printable (s : String) : ∀ c ∈ (quoted s).toList, IsPrintable c := by
  rw [quoted, String.toList_ofList, List.forall_mem_cons, List.forall_mem_append]
  refine ⟨by decide, ?_, List.forall_mem_singleton.2 (by decide)⟩
  intro c hc
  obtain ⟨d, -, hd⟩ := List.mem_flatMap.1 hc
  exact escapeChar_printable d c hd

private theorem joined_printable {texts : List String} (h : ∀ t ∈ texts, ∀ c ∈ t.toList, IsPrintable c) :
    ∀ c ∈ (",".intercalate texts).toList, IsPrintable c := by
  have hcomma : ∀ c ∈ ",".toList, IsPrintable c := List.all_iff_forall_prop.1 (by decide)
  rw [String.toList_intercalate, forall_mem_intercalate hcomma]
  exact List.forall_mem_map.2 h

theorem intText_printable (i : Int) : ∀ c ∈ (intText i).toList, IsPrintable c := by
  intro c hc
  rw [intText, String.toList_ofList] at hc
  exact isPrintable_of_isNumeralChar (all_of_numeral (numeral_of_readInt (readInt?_intDigits i)) c hc)

theorem floatText_printable (x : Float) : ∀ c ∈ (floatText x).toList, IsPrintable c := by
  unfold floatText
  split
  · exact fun c hc => isPrintable_of_isNumeralChar (all_of_finiteText Layout.json x c hc)
  · exact List.all_iff_forall_prop.1 (by decide)

mutual

/-- No control character stands in the text of a document. -/
theorem text_printable (doc : Json) : ∀ c ∈ doc.text.toList, IsPrintable c := by
  cases doc with
  | null => exact List.all_iff_forall_prop.1 (by decide)
  | bool b =>
    cases b
    · exact List.all_iff_forall_prop.1 (by decide)
    · exact List.all_iff_forall_prop.1 (by decide)
  | int i => exact intText_printable i
  | float x => exact floatText_printable x
  | str s => exact quoted_printable s
  | arr items =>
    have hitems := joined_printable (textItems_printable items)
    have hopening : ∀ c ∈ "[".toList, IsPrintable c := List.all_iff_forall_prop.1 (by decide)
    have hclosing : ∀ c ∈ "]".toList, IsPrintable c := List.all_iff_forall_prop.1 (by decide)
    simp only [text, String.toList_append, List.forall_mem_append]
    exact ⟨⟨hopening, hitems⟩, hclosing⟩
  | obj members =>
    have hmembers := joined_printable (textMembers_printable members)
    have hopening : ∀ c ∈ "\x7b".toList, IsPrintable c := List.all_iff_forall_prop.1 (by decide)
    have hclosing : ∀ c ∈ "\x7d".toList, IsPrintable c := List.all_iff_forall_prop.1 (by decide)
    simp only [text, String.toList_append, List.forall_mem_append]
    exact ⟨⟨hopening, hmembers⟩, hclosing⟩

private theorem textItems_printable (items : List Json) : ∀ t ∈ textItems items, ∀ c ∈ t.toList, IsPrintable c := by
  cases items with
  | nil => exact List.forall_mem_nil _
  | cons item items =>
    rw [textItems, List.forall_mem_cons]
    exact ⟨text_printable item, textItems_printable items⟩

private theorem textMembers_printable (members : List (String × Json)) :
    ∀ t ∈ textMembers members, ∀ c ∈ t.toList, IsPrintable c := by
  cases members with
  | nil => exact List.forall_mem_nil _
  | cons member members =>
    obtain ⟨name, doc⟩ := member
    have hcolon : ∀ c ∈ ":".toList, IsPrintable c := List.all_iff_forall_prop.1 (by decide)
    rw [textMembers, List.forall_mem_cons]
    simp only [String.toList_append, List.forall_mem_append]
    exact ⟨⟨⟨quoted_printable name, hcolon⟩, text_printable doc⟩, textMembers_printable members⟩

end

end Json

end RecordMapper
