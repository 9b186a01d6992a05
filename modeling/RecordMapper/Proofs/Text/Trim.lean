import RecordMapper.Text.Blank
import Mathlib.Data.List.TakeWhile

/-!
# Stripped and joined texts

What is left of a text without the blanks around it: nothing exactly if the text is blank (`trimmed_eq_empty_iff`), all
that stands between blanks (`trim_between`), each character that is no blank (`mem_trim_iff`), and the text itself
exactly if it neither begins nor ends with a blank (`trim_eq_self_iff`).  The characters of a joined text are those of
its items, apart from the separators (`forall_mem_intercalate`).
-/

namespace RecordMapper.Text

theorem trim_eq_nil_iff {cs : List Char} : trim cs = [] ↔ ∀ c ∈ cs, isBlank c := by
  rw [trim, trimEnd, List.reverse_eq_nil_iff, List.dropWhile_eq_nil_iff]
  constructor
  · intro h c hc
    rw [← List.takeWhile_append_dropWhile (p := isBlank) (l := cs), List.mem_append] at hc
    rcases hc with hc | hc
    · exact List.all_eq_true.1 List.all_takeWhile c hc
    · exact h c (List.mem_reverse.2 hc)
  · intro h c hc
    exact h c ((List.dropWhile_sublist _).mem (List.mem_reverse.1 hc))

theorem trim_sublist (cs : List Char) : (trim cs).Sublist cs := by
  have hend := (List.dropWhile_sublist (l := (cs.dropWhile isBlank).reverse) isBlank).reverse
  rw [List.reverse_reverse] at hend
  exact hend.trans (List.dropWhile_sublist _)

/-- Characters that are no blanks are not stripped. -/
theorem mem_trim_iff {c : Char} (hc : ¬ isBlank c) {cs : List Char} : c ∈ trim cs ↔ c ∈ cs := by
  have hdrop {cs : List Char} : c ∈ cs.dropWhile isBlank ↔ c ∈ cs := by
    refine ⟨(List.dropWhile_sublist _).mem, fun h => ?_⟩
    rw [← List.takeWhile_append_dropWhile (p := isBlank) (l := cs), List.mem_append] at h
    rcases h with h | h
    · exact absurd (List.all_eq_true.1 List.all_takeWhile c h) hc
    · exact h
  rw [trim, trimEnd, List.mem_reverse, hdrop, List.mem_reverse, hdrop]

/-- The blanks around characters that neither begin nor end with a blank are all that is stripped. -/
theorem trim_between {a cs b : List Char} (ha : ∀ c ∈ a, isBlank c) (hfirst : ∀ c ∈ cs.head?, ¬ isBlank c)
    (hlast : ∀ c ∈ cs.getLast?, ¬ isBlank c) (hb : ∀ c ∈ b, isBlank c) : trim (a ++ (cs ++ b)) = cs := by
  cases cs with
  | nil =>
    refine trim_eq_nil_iff.2 fun c hc => ?_
    exact (List.mem_append.1 hc).elim (ha c) (hb c)
  | cons first rest =>
    have hstart : (a ++ (first :: rest ++ b)).dropWhile isBlank = first :: rest ++ b := by
      rw [List.dropWhile_append_of_pos ha]
      exact List.dropWhile_cons_of_neg (hfirst first rfl)
    have hend : (b.reverse ++ (first :: rest).reverse).dropWhile isBlank = (first :: rest).reverse := by
      rw [List.dropWhile_append_of_pos fun c hc => hb c (List.mem_reverse.1 hc)]
      cases hrev : (first :: rest).reverse with
      | nil => rfl
      | cons last others =>
        refine List.dropWhile_cons_of_neg (hlast last ?_)
        rw [List.getLast?_eq_head?_reverse, hrev]
        rfl
    rw [trim, hstart, trimEnd, List.reverse_append, hend, List.reverse_reverse]

/-- Characters that are no blanks are all that is left of them with blanks around. -/
theorem trim_around {a cs b : List Char} (ha : ∀ c ∈ a, isBlank c) (hcs : ∀ c ∈ cs, ¬ isBlank c)
    (hb : ∀ c ∈ b, isBlank c) : trim (a ++ (cs ++ b)) = cs :=
  trim_between ha (fun c hc => hcs c (List.mem_of_mem_head? hc)) (fun c hc => hcs c (List.mem_of_mem_getLast? hc)) hb

/-- What is stripped from a text is blanks around it. -/
theorem exists_blanks_around (cs : List Char) :
    ∃ a b, cs = a ++ (trim cs ++ b) ∧ (∀ c ∈ a, isBlank c) ∧ ∀ c ∈ b, isBlank c := by
  have blanks (ds : List Char) : ∀ c ∈ ds.takeWhile isBlank, isBlank c := List.all_eq_true.1 List.all_takeWhile
  have hend (ds : List Char) : trimEnd ds ++ (ds.reverse.takeWhile isBlank).reverse = ds := by
    rw [trimEnd, ← List.reverse_append, List.takeWhile_append_dropWhile, List.reverse_reverse]
  refine ⟨cs.takeWhile isBlank, ((cs.dropWhile isBlank).reverse.takeWhile isBlank).reverse, ?_, blanks cs,
    fun c hc => blanks _ c (List.mem_reverse.1 hc)⟩
  rw [trim, hend, List.takeWhile_append_dropWhile]

theorem trimEnd_eq_self {cs : List Char} (h : ∀ c ∈ cs.getLast?, ¬ isBlank c) : trimEnd cs = cs := by
  rw [List.getLast?_eq_head?_reverse] at h
  rw [trimEnd, List.reverse_eq_iff]
  cases hrev : cs.reverse with
  | nil => rfl
  | cons c rest => exact List.dropWhile_cons_of_neg (h c (by rw [hrev]; rfl))

/-- A text is left as it is exactly if it neither begins nor ends with a blank. -/
theorem trim_eq_self_iff {cs : List Char} :
    trim cs = cs ↔ (∀ c ∈ cs.head?, ¬ isBlank c) ∧ ∀ c ∈ cs.getLast?, ¬ isBlank c := by
  constructor
  · refine fun h => ⟨fun c hc hblank => ?_, fun c hc hblank => ?_⟩
    · obtain ⟨rest, rfl⟩ := List.head?_eq_some_iff.1 hc
      have hshort : (trim rest).length ≤ rest.length := (trim_sublist rest).length_le
      have hsame : trim rest = c :: rest := by
        rw [trim, List.dropWhile_cons_of_pos hblank] at h
        exact h
      rw [hsame] at hshort
      exact Nat.not_succ_le_self _ hshort
    · rw [← h, trim, trimEnd, List.getLast?_reverse] at hc
      have hnot := List.head?_dropWhile_not isBlank (cs.dropWhile isBlank).reverse
      rw [hc] at hnot
      exact Bool.false_ne_true (hnot.symm.trans hblank)
  · rintro ⟨hfirst, hlast⟩
    have hstart : cs.dropWhile isBlank = cs := by
      cases cs with
      | nil => rfl
      | cons c rest => exact List.dropWhile_cons_of_neg (hfirst c rfl)
    rw [trim, hstart, trimEnd_eq_self hlast]

/-- A text is stripped to nothing exactly if it is blank. -/
theorem trimmed_eq_empty_iff {s : String} : trimmed s = "" ↔ isBlankText s := by
  rw [trimmed, ← String.toList_inj, String.toList_ofList, isBlankText, List.all_eq_true]
  exact trim_eq_nil_iff

/-- What holds of the separator holds of each character of a joined text exactly if it holds of those of its items. -/
theorem forall_mem_intercalate {P : Char → Prop} {separator : List Char} (hseparator : ∀ c ∈ separator, P c)
    {items : List (List Char)} :
    (∀ c ∈ separator.intercalate items, P c) ↔ ∀ item ∈ items, ∀ c ∈ item, P c := by
  induction items with
  | nil => simp
  | cons item items ih =>
    by_cases hrest : items = []
    · subst hrest
      simp
    · rw [List.intercalate_cons_of_ne_nil hrest, List.forall_mem_cons, ← ih, List.forall_mem_append,
        List.forall_mem_append, and_iff_left hseparator]

end RecordMapper.Text
