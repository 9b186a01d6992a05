import RecordMapper.Text.Pattern

/-!
# What the composed patterns match

`Pattern.Matches` read off its patterns: a sequence matches a text that is cut in two, a repeated class matches the
texts over that class.  The characters of a matched text belong to the classes of the pattern (`all_of_matches`).
-/

namespace RecordMapper.Text.Pattern

variable {p q : Pattern} {is : Char → Bool} {cs : List Char}

theorem matches_empty_iff : Matches .empty cs ↔ cs = [] :=
  ⟨fun h => by cases h; rfl, fun h => h ▸ .empty⟩

theorem matches_one_iff : Matches (.one is) cs ↔ ∃ c, is c ∧ cs = [c] := by
  constructor
  · intro h
    cases h with
    | one hc => exact ⟨_, hc, rfl⟩
  · rintro ⟨c, hc, rfl⟩
    exact .one hc

theorem matches_char_iff {c : Char} : Matches (char c) cs ↔ cs = [c] := by
  simp only [char, matches_one_iff, beq_iff_eq, exists_eq_left]

theorem matches_oneOf_iff {ds : List Char} : Matches (oneOf ds) cs ↔ ∃ d ∈ ds, cs = [d] := by
  simp only [oneOf, matches_one_iff, List.contains_iff_mem]

theorem matches_seq_iff : Matches (.seq p q) cs ↔ ∃ u v, cs = u ++ v ∧ Matches p u ∧ Matches q v := by
  constructor
  · intro h
    cases h with
    | seq hp hq => exact ⟨_, _, rfl, hp, hq⟩
  · rintro ⟨u, v, rfl, hp, hq⟩
    exact .seq hp hq

theorem matches_either_iff : Matches (.either p q) cs ↔ Matches p cs ∨ Matches q cs := by
  constructor
  · intro h
    cases h with
    | left hp => exact .inl hp
    | right hq => exact .inr hq
  · rintro (hp | hq)
    · exact .left hp
    · exact .right hq

theorem matches_optional_iff : Matches p.optional cs ↔ cs = [] ∨ Matches p cs := by
  rw [optional, matches_either_iff, matches_empty_iff, or_comm]

/-- A repeated class matches the texts over the class. -/
theorem matches_many_one_iff : Matches (.many (.one is)) cs ↔ ∀ c ∈ cs, is c := by
  constructor
  · intro h
    generalize hp : Pattern.many (.one is) = p at h
    induction h with
    | done => simp
    | more hc hm _ ih =>
      cases hp
      obtain ⟨c, hone, rfl⟩ := matches_one_iff.1 hc
      intro d hd
      rcases List.mem_cons.1 hd with rfl | hd
      · exact hone
      · exact ih rfl d hd
    | _ => cases hp
  · intro h
    induction cs with
    | nil => exact .done
    | cons c cs ih =>
      exact .more (s := [c]) (.one (h c (by simp))) (ih fun d hd => h d (by simp [hd]))

theorem matches_atLeastOnce_one_iff : Matches (atLeastOnce (.one is)) cs ↔ cs ≠ [] ∧ ∀ c ∈ cs, is c := by
  rw [atLeastOnce, matches_seq_iff]
  constructor
  · rintro ⟨u, v, rfl, hu, hv⟩
    obtain ⟨c, hc, rfl⟩ := matches_one_iff.1 hu
    refine ⟨by simp, fun d hd => ?_⟩
    rcases List.mem_cons.1 hd with rfl | hd
    · exact hc
    · exact matches_many_one_iff.1 hv d hd
  · rintro ⟨hne, h⟩
    cases cs with
    | nil => exact absurd rfl hne
    | cons c cs =>
      exact ⟨[c], cs, rfl, .one (h c (by simp)), matches_many_one_iff.2 fun d hd => h d (by simp [hd])⟩

/-! ### The characters of a matched text -/

/-- Every class in the pattern lies in `A`. -/
def Over (A : Char → Prop) : Pattern → Prop
  | .never | .empty => True
  | .one is => ∀ c, is c → A c
  | .seq p q | .either p q => p.Over A ∧ q.Over A
  | .many p => p.Over A

/-- A pattern matches only texts over its classes. -/
theorem all_of_matches {A : Char → Prop} (hp : p.Over A) (h : Matches p cs) : ∀ c ∈ cs, A c := by
  induction h with
  | empty | done => simp
  | one hc => simpa using hp _ hc
  | seq _ _ ih₁ ih₂ =>
    intro c hmem
    rcases List.mem_append.1 hmem with hmem | hmem
    · exact ih₁ hp.1 c hmem
    · exact ih₂ hp.2 c hmem
  | left _ ih => exact ih hp.1
  | right _ ih => exact ih hp.2
  | more _ _ ih₁ ih₂ =>
    intro c hmem
    rcases List.mem_append.1 hmem with hmem | hmem
    · exact ih₁ hp c hmem
    · exact ih₂ hp c hmem

end RecordMapper.Text.Pattern
