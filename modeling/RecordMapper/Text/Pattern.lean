/-!
# Patterns

Regular patterns over characters. `Pattern.Matches` says which texts a pattern stands for; `Pattern.accepts` decides
it by derivatives, and `accepts_iff_matches` says that it decides it rightly.
-/

namespace RecordMapper.Text

/-- A regular pattern. -/
inductive Pattern where
  /-- No text. -/
  | never
  /-- The empty text. -/
  | empty
  /-- One character of a class. -/
  | one (is : Char → Bool)
  /-- The first pattern, then the second. -/
  | seq (p q : Pattern)
  /-- Either pattern. -/
  | either (p q : Pattern)
  /-- The pattern any number of times. -/
  | many (p : Pattern)

namespace Pattern

/-- The texts that a pattern stands for. -/
inductive Matches : Pattern → List Char → Prop where
  | empty : Matches .empty []
  | one {is : Char → Bool} {c : Char} (h : is c) : Matches (.one is) [c]
  | seq {p q : Pattern} {s t : List Char} (hp : Matches p s) (hq : Matches q t) : Matches (.seq p q) (s ++ t)
  | left {p q : Pattern} {s : List Char} (h : Matches p s) : Matches (.either p q) s
  | right {p q : Pattern} {s : List Char} (h : Matches q s) : Matches (.either p q) s
  | done {p : Pattern} : Matches (.many p) []
  | more {p : Pattern} {s t : List Char} (hp : Matches p s) (hm : Matches (.many p) t) : Matches (.many p) (s ++ t)

/-- One given character. -/
def char (c : Char) : Pattern := .one (· == c)

/-- One of the given characters. -/
def oneOf (cs : List Char) : Pattern := .one cs.contains

/-- The pattern at least once. -/
def atLeastOnce (p : Pattern) : Pattern := .seq p (.many p)

/-- The pattern or nothing. -/
def optional (p : Pattern) : Pattern := .either p .empty

/-- The patterns one after the other. -/
def inOrder : List Pattern → Pattern
  | [] => .empty
  | [p] => p
  | p :: ps => .seq p (inOrder ps)

/-- Whether the empty text matches. -/
def nullable : Pattern → Bool
  | .never | .one _ => false
  | .empty | .many _ => true
  | .seq p q => p.nullable && q.nullable
  | .either p q => p.nullable || q.nullable

/-- `seq`, with the patterns that add nothing left out. -/
def andThen : Pattern → Pattern → Pattern
  | .never, _ => .never
  | .empty, q => q
  | p, q => .seq p q

/-- `either`, with the patterns that add nothing left out. -/
def orElse : Pattern → Pattern → Pattern
  | .never, q => q
  | p, .never => p
  | p, q => .either p q

/-- What may follow a first character. -/
def after (c : Char) : Pattern → Pattern
  | .never | .empty => .never
  | .one is => if is c then .empty else .never
  | .seq p q =>
    if p.nullable then ((p.after c).andThen q).orElse (q.after c) else (p.after c).andThen q
  | .either p q => (p.after c).orElse (q.after c)
  | .many p => (p.after c).andThen (.many p)

/-- Whether a list of characters matches. -/
def accepts (p : Pattern) : List Char → Bool
  | [] => p.nullable
  | c :: cs => (p.after c).accepts cs

/-! ### The decision is right -/

private theorem nullable_of_matches {p : Pattern} {s : List Char} (h : Matches p s) (hs : s = []) : p.nullable := by
  induction h with
  | empty | done => rfl
  | one => simp at hs
  | seq _ _ ihp ihq =>
    obtain ⟨rfl, rfl⟩ := List.append_eq_nil_iff.1 hs
    simp [nullable, ihp rfl, ihq rfl]
  | left _ ih | right _ ih => simp [nullable, ih hs]
  | more => rfl

private theorem matches_of_nullable : {p : Pattern} → p.nullable → Matches p []
  | .empty, _ => .empty
  | .many _, _ => .done
  | .seq _ _, h => by
    simp only [nullable, Bool.and_eq_true] at h
    exact .seq (s := []) (matches_of_nullable h.1) (matches_of_nullable h.2)
  | .either _ _, h => by
    simp only [nullable, Bool.or_eq_true] at h
    exact h.elim (fun h => .left (matches_of_nullable h)) fun h => .right (matches_of_nullable h)

theorem nullable_iff {p : Pattern} : p.nullable ↔ Matches p [] :=
  ⟨matches_of_nullable, fun h => nullable_of_matches h rfl⟩

private theorem not_matches_never {s : List Char} : ¬ Matches .never s := nofun

theorem matches_andThen {p q : Pattern} {s : List Char} : Matches (p.andThen q) s ↔ Matches (.seq p q) s := by
  cases p with
  | never => exact ⟨nofun, fun h => by cases h with | seq hp _ => cases hp⟩
  | empty =>
    exact ⟨fun h => .seq (s := []) .empty h, fun h => by cases h with | seq hp hq => cases hp; exact hq⟩
  | _ => exact Iff.rfl

theorem matches_orElse {p q : Pattern} {s : List Char} :
    Matches (p.orElse q) s ↔ Matches p s ∨ Matches q s := by
  have split : Matches (.either p q) s ↔ Matches p s ∨ Matches q s :=
    ⟨fun h => by cases h with | left h => exact .inl h | right h => exact .inr h,
      fun h => h.elim .left .right⟩
  cases p <;> cases q <;>
    first
    | exact split
    | exact ⟨.inr, fun h => h.resolve_left not_matches_never⟩
    | exact ⟨.inl, fun h => h.resolve_right not_matches_never⟩

private theorem many_cons {p : Pattern} {s : List Char} {c : Char} {cs : List Char} (h : Matches (.many p) s)
    (hs : s = c :: cs) : ∃ u v, cs = u ++ v ∧ Matches p (c :: u) ∧ Matches (.many p) v := by
  generalize hq : Pattern.many p = q at h
  induction h with
  | done => simp at hs
  | @more p' u v hp hm _ ih =>
    cases hq
    cases u with
    | nil => exact ih hs rfl
    | cons d u =>
      simp only [List.cons_append, List.cons.injEq] at hs
      obtain ⟨rfl, rfl⟩ := hs
      exact ⟨u, v, rfl, hp, hm⟩
  | _ => cases hq

theorem matches_after {p : Pattern} {c : Char} {cs : List Char} :
    Matches (p.after c) cs ↔ Matches p (c :: cs) := by
  induction p generalizing cs with
  | never | empty => exact ⟨nofun, nofun⟩
  | one is =>
    simp only [after]
    split
    · rename_i h
      exact ⟨fun hm => by cases hm; exact .one h, fun hm => by cases hm; exact .empty⟩
    · rename_i h
      exact ⟨nofun, fun hm => by cases hm with | one h' => exact absurd h' h⟩
  | either p q ihp ihq =>
    rw [after, matches_orElse, ihp, ihq]
    exact ⟨fun h => h.elim .left .right, fun h => by cases h with | left h => exact .inl h | right h => exact .inr h⟩
  | many p ih =>
    rw [after, matches_andThen]
    constructor
    · intro h
      cases h with
      | seq hp hm => exact .more (s := c :: _) (ih.1 hp) hm
    · intro h
      obtain ⟨u, v, rfl, hp, hm⟩ := many_cons h rfl
      exact .seq (ih.2 hp) hm
  | seq p q ihp ihq =>
    have first : Matches ((p.after c).andThen q) cs ↔ ∃ u v, cs = u ++ v ∧ Matches p (c :: u) ∧ Matches q v := by
      rw [matches_andThen]
      constructor
      · intro h
        cases h with
        | seq hp hq => exact ⟨_, _, rfl, ihp.1 hp, hq⟩
      · rintro ⟨u, v, rfl, hp, hq⟩
        exact .seq (ihp.2 hp) hq
    have both : Matches (.seq p q) (c :: cs) ↔
        (∃ u v, cs = u ++ v ∧ Matches p (c :: u) ∧ Matches q v) ∨ (Matches p [] ∧ Matches q (c :: cs)) := by
      constructor
      · intro h
        generalize hs : c :: cs = s at h
        cases h with
        | @seq _ _ u v hp hq =>
          cases u with
          | nil => exact .inr ⟨hp, by simpa [hs] using hq⟩
          | cons d u =>
            simp only [List.cons_append, List.cons.injEq] at hs
            obtain ⟨rfl, rfl⟩ := hs
            exact .inl ⟨u, v, rfl, hp, hq⟩
      · rintro (⟨u, v, rfl, hp, hq⟩ | ⟨hp, hq⟩)
        · exact .seq (s := c :: u) hp hq
        · exact .seq (s := []) hp hq
    rw [both, after]
    split
    · rename_i h
      rw [matches_orElse, first, ihq]
      exact or_congr Iff.rfl ⟨fun hq => ⟨nullable_iff.1 h, hq⟩, And.right⟩
    · rename_i h
      rw [first]
      exact ⟨.inl, fun h' => h'.resolve_right fun h' => h (nullable_iff.2 h'.1)⟩

/-- Derivatives decide matching. -/
theorem accepts_iff_matches {p : Pattern} {cs : List Char} : p.accepts cs ↔ Matches p cs := by
  induction cs generalizing p with
  | nil => exact nullable_iff
  | cons c cs ih => rw [accepts, ih, matches_after]

end Pattern

end RecordMapper.Text
