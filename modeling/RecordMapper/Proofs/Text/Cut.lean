import RecordMapper.Text.Split
import Mathlib.Data.List.TakeWhile

/-!
# Cut texts

A text that is put together from two parts, with a mark between them that the first does not hold, is cut into these
(`splitFirst?_append`), one without the mark is not cut (`splitFirst?_eq_none_iff`); and an ending is cut off exactly
the texts that end in it (`withoutEnd?_eq_some_iff`).

A text may be cut by places as well, which are counted in bytes: the mark is found at the place where the first part
ends (`place?_append`), and between the places where two parts end stands the second one (`part?_append`).
-/

namespace RecordMapper.Text

variable {mark : Char} {cs before after rest ending : List Char}

theorem takeWhile_append_mark (h : mark ∉ before) : (before ++ mark :: after).takeWhile (· != mark) = before := by
  rw [List.takeWhile_append_of_pos fun c hc => bne_iff_ne.2 (ne_of_mem_of_not_mem hc h),
    List.takeWhile_cons_of_neg (by simp), List.append_nil]

theorem dropWhile_append_mark (h : mark ∉ before) :
    (before ++ mark :: after).dropWhile (· != mark) = mark :: after := by
  rw [List.dropWhile_append_of_pos fun c hc => bne_iff_ne.2 (ne_of_mem_of_not_mem hc h),
    List.dropWhile_cons_of_neg (by simp)]

theorem splitFirst?_append (h : mark ∉ before) : splitFirst? mark (before ++ mark :: after) = some (before, after) := by
  rw [splitFirst?, dropWhile_append_mark h, takeWhile_append_mark h]

theorem splitFirst?_eq_none_iff : splitFirst? mark cs = none ↔ mark ∉ cs := by
  constructor
  · intro h hmem
    obtain ⟨before, after, rfl, hbefore⟩ := List.eq_append_cons_of_mem hmem
    rw [splitFirst?_append hbefore] at h
    exact nomatch h
  · intro h
    have hall : cs.dropWhile (· != mark) = [] :=
      List.dropWhile_eq_nil_iff.2 fun c hc => bne_iff_ne.2 (ne_of_mem_of_not_mem hc h)
    rw [splitFirst?, hall]

theorem withoutEnd?_eq_some_iff : withoutEnd? ending cs = some rest ↔ cs = rest ++ ending := by
  constructor
  · exact append_of_withoutEnd?
  · rintro rfl
    rw [withoutEnd?, if_pos (List.isSuffixOf_iff_suffix.2 (List.suffix_append _ _)), List.length_append,
      Nat.add_sub_cancel, List.take_left]

theorem withoutEnd?_eq_none_iff : withoutEnd? ending cs = none ↔ ¬ ending <:+ cs := by
  rw [← List.isSuffixOf_iff_suffix, withoutEnd?]
  split
  case isTrue hends => exact iff_of_false (fun h => nomatch h) (not_not_intro hends)
  case isFalse hends => exact iff_of_true rfl hends

/-! ### Places in bytes -/

/-- The place of the first of a character in a text, in bytes. -/
def place? (mark : Char) (s : String) : Option Nat :=
  (s.find? mark).map fun pos => pos.offset.byteIdx

/-- What stands between two places of a text in bytes, if both are between characters, in their order. -/
def part? (s : String) (i j : Nat) : Option String := do
  return (← s.slice? (← s.pos? ⟨i⟩) (← s.pos? ⟨j⟩)).copy

section Places

variable {s a b : String}

theorem pos?_splits (h : s = a ++ b) : ∃ p : s.Pos, s.pos? ⟨a.utf8ByteSize⟩ = some p ∧ p.Splits a b := by
  have hvalid : (⟨a.utf8ByteSize⟩ : String.Pos.Raw).IsValid s :=
    String.Pos.Raw.isValid_iff_exists_append.2 ⟨a, b, h, rfl⟩
  refine ⟨s.pos _ hvalid, ?_, h, rfl⟩
  rw [String.pos?, String.Slice.pos?, dif_pos (String.Pos.Raw.isValidForSlice_eq_true_iff.2 hvalid.toSlice)]
  rfl

theorem place?_append (h : mark ∉ a.toList) : place? mark (a ++ String.singleton mark ++ b) = some a.utf8ByteSize := by
  obtain ⟨p, -, hsplits⟩ := pos?_splits (String.append_assoc : a ++ String.singleton mark ++ b = a ++ _)
  rw [place?, String.find?_char_eq_some_iff_splits.2 ⟨a, b, hsplits, h⟩]
  exact congrArg (fun off => some off.byteIdx) hsplits.offset_eq_rawEndPos

theorem place?_eq_none (h : mark ∉ s.toList) : place? mark s = none := by
  rw [place?, Option.map_eq_none_iff, Option.eq_none_iff_forall_ne_some]
  intro p hp
  obtain ⟨t, u, hsplits, -⟩ := String.find?_char_eq_some_iff_splits.1 hp
  rw [hsplits.eq_append] at h
  exact h (by simp)

theorem part?_append (a b c : String) : part? (a ++ b ++ c) a.utf8ByteSize (a ++ b).utf8ByteSize = some b := by
  obtain ⟨p, hp, hsplits⟩ := pos?_splits (String.append_assoc : a ++ b ++ c = a ++ (b ++ c))
  obtain ⟨q, hq, hsplits'⟩ := pos?_splits (rfl : a ++ b ++ c = (a ++ b) ++ c)
  obtain ⟨hle, hcopy⟩ := String.copy_slice_eq_iff_splits.2 ⟨a, c, hsplits, hsplits'⟩
  simp only [part?, hp, hq, String.slice?, dif_pos hle, hcopy, bind, pure, Option.bind]

end Places

end RecordMapper.Text
