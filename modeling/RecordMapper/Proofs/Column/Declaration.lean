import RecordMapper.Column
import RecordMapper.Proofs.Decimal.Numeral
import RecordMapper.Proofs.Text.Cut
import RecordMapper.Proofs.Text.Trim

/-!
# Declared types

A column type is spelled by its base name, its sizes in parentheses and the word of unsigned types, in any case.

* The upper case of ASCII characters and blanks is that of ASCII (`upper_eq_map`), so a spelling is turned into its
  parts, and the type that it spells is read back (`parse_of_spelling`).
* The parts can be cut out by places in bytes as well, also of a text that spells no type: there are always parts
  between the places (`parseByPlaces?_eq`), which are in order, between characters and within the text
  (`closing?_within`).
-/

namespace RecordMapper

open Text Decimal

/-! ### Upper case -/

namespace Text

variable {c : Char} {cs : List Char}

theorem toUpper_eq_self (h : c.isLower = false) : c.toUpper = c := by
  refine dif_neg fun hrange => Bool.false_ne_true (h.symm.trans ?_)
  exact Bool.and_eq_true_iff.2 ⟨decide_eq_true hrange.1, decide_eq_true hrange.2⟩

theorem toNat_of_isLower (h : c.isLower = true) : 97 ≤ c.toNat ∧ c.toNat ≤ 122 := by
  obtain ⟨hfirst, hlast⟩ := Bool.and_eq_true_iff.1 h
  exact ⟨of_decide_eq_true hfirst, of_decide_eq_true hlast⟩

theorem isLower_of_isBlank (h : isBlank c) : c.isLower = false := by
  rw [Bool.eq_false_iff]
  intro hlower
  obtain ⟨hfirst, hlast⟩ := toNat_of_isLower hlower
  simp only [isBlank, Bool.or_eq_true, Bool.and_eq_true, decide_eq_true_eq, beq_iff_eq] at h
  omega

theorem toNat_of_isAsciiDigit (h : isAsciiDigit c) : 48 ≤ c.toNat ∧ c.toNat ≤ 57 := by
  rw [isAsciiDigit, Bool.and_eq_true, decide_eq_true_eq, decide_eq_true_eq] at h
  exact h

theorem not_isBlank_of_isAsciiDigit (h : isAsciiDigit c) : ¬ isBlank c := by
  obtain ⟨hfirst, hlast⟩ := toNat_of_isAsciiDigit h
  simp only [isBlank, Bool.or_eq_true, Bool.and_eq_true, decide_eq_true_eq, beq_iff_eq]
  omega

theorem upperChar_of_isBlank (h : isBlank c) : upperChar c = [c] := by
  have hcases : c.toNat < 0x80 ∨ c.toNat ∈ [0x85, 0xA0, 0x1680, 0x2000, 0x2001, 0x2002, 0x2003, 0x2004, 0x2005, 0x2006,
      0x2007, 0x2008, 0x2009, 0x200A, 0x2028, 0x2029, 0x202F, 0x205F, 0x3000] := by
    simp only [isBlank, Bool.or_eq_true, Bool.and_eq_true, decide_eq_true_eq, beq_iff_eq] at h
    simp only [List.mem_cons, List.not_mem_nil, or_false]
    omega
  rcases hcases with hlow | hmem
  · rw [upperChar, if_pos hlow, toUpper_eq_self (isLower_of_isBlank h)]
  · rw [← Char.ofNat_toNat c]
    generalize c.toNat = n at hmem
    revert n
    decide +kernel

/-- A character of ASCII, or a blank. -/
def IsSimple (c : Char) : Prop :=
  c.toNat < 0x80 ∨ isBlank c

theorem isSimple_of_toUpper (h : IsSimple c.toUpper) : IsSimple c := by
  cases hlower : c.isLower with
  | true => exact .inl ((toNat_of_isLower hlower).2.trans_lt (by decide))
  | false => rwa [toUpper_eq_self hlower] at h

/-- The upper case of ASCII characters and blanks is one of each. -/
theorem upper_eq_map (h : ∀ c ∈ cs, IsSimple c) : upper cs = cs.map Char.toUpper := by
  induction cs with
  | nil => rfl
  | cons c cs ih =>
    obtain ⟨hc, hcs⟩ := List.forall_mem_cons.1 h
    have hchar : upperChar c = [c.toUpper] := by
      rcases hc with hlow | hblank
      · exact if_pos hlow
      · rw [upperChar_of_isBlank hblank, toUpper_eq_self (isLower_of_isBlank hblank)]
    rw [upper, List.flatMap_cons, hchar, List.map_cons]
    exact congrArg _ (ih hcs)

end Text

namespace SqlType

/-! ### Spellings -/

/-- A base name: of ASCII characters, none of them a small letter or an opening parenthesis, neither beginning nor
ending with a blank, and not ending with the word of unsigned types. -/
structure IsBaseName (base : List Char) : Prop where
  ne_nil : base ≠ []
  upper : ∀ c ∈ base, c.toNat < 0x80 ∧ c.isLower = false
  unopened : '(' ∉ base
  trimmed : trim base = base
  unending : ¬ unsignedEnding <:+ base

/-- A number with blanks around it. -/
inductive SpellsNumber (n : Nat) : List Char → Prop where
  | padded {a b : List Char} (ha : ∀ c ∈ a, isBlank c) (hb : ∀ c ∈ b, isBlank c) : SpellsNumber n (a ++ (digits n ++ b))

/-- What stands in the parentheses of a type: a length, or a precision and a scale, of 32 bits each. -/
inductive SpellsSizes : Option Nat → Option Nat → Option Nat → List Char → Prop where
  | length {n : Nat} {cs : List Char} (hn : n < UInt32.size) (hcs : SpellsNumber n cs) :
    SpellsSizes (some n) none none cs
  | precision {p s : Nat} {ps ss : List Char} (hp : p < UInt32.size) (hs : s < UInt32.size) (hps : SpellsNumber p ps)
    (hss : SpellsNumber s ss) : SpellsSizes none (some p) (some s) (ps ++ ',' :: ss)

/-- What follows the base name: nothing, or sizes in parentheses after blanks. -/
inductive SpellsSuffix : Option Nat → Option Nat → Option Nat → List Char → Prop where
  | none : SpellsSuffix none none none []
  | sized {length precision scale : Option Nat} {gap sizes : List Char} (hgap : ∀ c ∈ gap, isBlank c)
    (hsizes : SpellsSizes length precision scale sizes) :
    SpellsSuffix length precision scale (gap ++ '(' :: (sizes ++ [')']))

/-- A text that spells a type in some case: the base name, the sizes, and the word of unsigned types. -/
structure IsSpelling (t : SqlType) (text : List Char) : Prop where
  base : IsBaseName t.base.toList
  parts : ∃ suffix, SpellsSuffix t.length t.precision t.scale suffix ∧
    text.map Char.toUpper = t.base.toList ++ suffix ++ if t.unsigned then unsignedEnding else []

section Read

variable {n : Nat} {cs : List Char}

/-- A number is digits and blanks. -/
theorem SpellsNumber.blank_or_digit (h : SpellsNumber n cs) : ∀ c ∈ cs, isBlank c ∨ isAsciiDigit c := by
  obtain ⟨ha, hb⟩ := h
  intro c hc
  rcases List.mem_append.1 hc with hc | hc
  · exact .inl (ha c hc)
  · rcases List.mem_append.1 hc with hc | hc
    · exact .inr (isAsciiDigit_of_mem_digits hc)
    · exact .inl (hb c hc)

theorem SpellsNumber.not_mem (h : SpellsNumber n cs) {c : Char} (hblank : isBlank c = false)
    (hdigit : isAsciiDigit c = false) : c ∉ cs := by
  intro hc
  rcases h.blank_or_digit c hc with h | h
  · exact Bool.false_ne_true (hblank.symm.trans h)
  · exact Bool.false_ne_true (hdigit.symm.trans h)

theorem SpellsNumber.isSimple (h : SpellsNumber n cs) : ∀ c ∈ cs, IsSimple c := by
  intro c hc
  rcases h.blank_or_digit c hc with hblank | hdigit
  · exact .inr hblank
  · exact .inl ((toNat_of_isAsciiDigit hdigit).2.trans_lt (by decide))

theorem size?_of_spells (h : SpellsNumber n cs) (hn : n < UInt32.size) : size? cs = some n := by
  obtain ⟨ha, hb⟩ := h
  have hdigit : ∀ c ∈ digits n, ¬ isBlank c := fun c hc => not_isBlank_of_isAsciiDigit (isAsciiDigit_of_mem_digits hc)
  have hread : readNat? (digits n) = some n := by
    unfold readNat?
    split
    case h_1 ds hplus =>
      exact absurd (isAsciiDigit_of_mem_digits (hplus ▸ List.mem_cons_self)) (by decide : ¬ isAsciiDigit '+' = true)
    case h_2 => exact readDigits?_digits n
  rw [size?, trim_around ha hdigit hb, hread]
  exact Option.filter_some_pos (decide_eq_true hn)

/-! ### Reading a spelling -/

variable {length precision scale : Option Nat} {base sizes suffix : List Char}

theorem SpellsSizes.isSimple (h : SpellsSizes length precision scale sizes) : ∀ c ∈ sizes, IsSimple c := by
  cases h with
  | length hn hcs => exact hcs.isSimple
  | precision hp hs hps hss =>
    rw [List.forall_mem_append, List.forall_mem_cons]
    exact ⟨hps.isSimple, .inl (by decide), hss.isSimple⟩

theorem SpellsSizes.unclosed (h : SpellsSizes length precision scale sizes) : ')' ∉ sizes := by
  cases h with
  | length hn hcs => exact hcs.not_mem (by decide) (by decide)
  | precision hp hs hps hss =>
    rw [List.mem_append, List.mem_cons, not_or, not_or]
    exact ⟨hps.not_mem (by decide) (by decide), by decide, hss.not_mem (by decide) (by decide)⟩

theorem SpellsSuffix.isSimple (h : SpellsSuffix length precision scale suffix) : ∀ c ∈ suffix, IsSimple c := by
  cases h with
  | none => exact fun c hc => nomatch hc
  | sized hgap hsizes =>
    rw [List.forall_mem_append, List.forall_mem_cons, List.forall_mem_append, List.forall_mem_singleton]
    exact ⟨fun c hc => .inr (hgap c hc), .inl (by decide), hsizes.isSimple, .inl (by decide)⟩

/-- The body ends with the base name or a parenthesis. -/
theorem SpellsSuffix.eq_nil_or_closed (h : SpellsSuffix length precision scale suffix) :
    suffix = [] ∨ ∃ front, suffix = front ++ [')'] := by
  cases h with
  | none => exact .inl rfl
  | sized hgap hsizes => exact .inr ⟨_, by rw [← List.cons_append, ← List.append_assoc]⟩

theorem ofBody_of_spells (hbase : IsBaseName base) (hsuffix : SpellsSuffix length precision scale suffix)
    (unsigned : Bool) :
    ofBody (base ++ suffix) unsigned = { base := String.ofList base, length, precision, scale, unsigned } := by
  cases hsuffix with
  | none => rw [List.append_nil, ofBody, splitFirst?_eq_none_iff.2 hbase.unopened]
  | @sized _ _ _ gap sizes hgap hsizes =>
    have hopen : '(' ∉ base ++ gap := by
      rw [List.mem_append, not_or]
      exact ⟨hbase.unopened, fun hmem => absurd (hgap _ hmem) (by decide)⟩
    obtain ⟨hfirst, hlast⟩ := trim_eq_self_iff.1 hbase.trimmed
    have htrim : trim (base ++ gap) = base := by
      have hbetween := trim_between (fun c hc => nomatch (hc : c ∈ [])) hfirst hlast hgap
      rwa [List.nil_append] at hbetween
    rw [← List.append_assoc, ofBody, splitFirst?_append hopen]
    dsimp only
    rw [takeWhile_append_mark hsizes.unclosed, htrim]
    cases hsizes with
    | length hn hcs => rw [splitFirst?_eq_none_iff.2 (hcs.not_mem (by decide) (by decide)), size?_of_spells hcs hn]
    | precision hp hs hps hss =>
      rw [splitFirst?_append (hps.not_mem (by decide) (by decide))]
      dsimp only
      rw [size?_of_spells hps hp, size?_of_spells hss hs]

theorem getLast?_unsignedEnding : unsignedEnding.getLast? = some 'D' := rfl

theorem isSimple_of_mem_unsignedEnding {c : Char} (h : c ∈ unsignedEnding) : IsSimple c := by
  have hall : unsignedEnding.all (fun c => decide (c.toNat < 0x80)) = true := rfl
  exact .inl (of_decide_eq_true (List.all_eq_true.1 hall c h))

/-- The body neither ends with a blank nor with the word of unsigned types. -/
theorem body_ends (hbase : IsBaseName base) (hsuffix : SpellsSuffix length precision scale suffix) :
    (∀ c ∈ (base ++ suffix).getLast?, ¬ isBlank c) ∧ ¬ unsignedEnding <:+ base ++ suffix := by
  rcases hsuffix.eq_nil_or_closed with rfl | ⟨front, rfl⟩
  · rw [List.append_nil]
    exact ⟨(trim_eq_self_iff.1 hbase.trimmed).2, hbase.unending⟩
  · rw [← List.append_assoc]
    constructor
    · intro c hc
      rw [List.getLast?_concat] at hc
      obtain rfl := Option.some.inj hc
      decide
    · rintro ⟨front', hends⟩
      have hlast := congrArg List.getLast? hends
      rw [List.getLast?_append, getLast?_unsignedEnding, Option.some_or, List.getLast?_concat] at hlast
      exact absurd (Option.some.inj hlast) (by decide)

end Read

theorem isBlank_toUpper {c : Char} (h : isBlank c) : isBlank c.toUpper := by
  rwa [toUpper_eq_self (isLower_of_isBlank h)]

section Spelling

variable {t : SqlType} {text : List Char} (h : IsSpelling t text)

include h

theorem IsSpelling.isSimple : ∀ c ∈ text, IsSimple c := by
  obtain ⟨hbase, suffix, hsuffix, htext⟩ := h
  have hupper : ∀ c ∈ text.map Char.toUpper, IsSimple c := by
    rw [htext, List.forall_mem_append, List.forall_mem_append]
    refine ⟨⟨fun c hc => .inl (hbase.upper c hc).1, hsuffix.isSimple⟩, ?_⟩
    cases t.unsigned with
    | true => exact fun c hc => isSimple_of_mem_unsignedEnding hc
    | false => exact fun c hc => nomatch hc
  exact fun c hc => isSimple_of_toUpper (hupper _ (List.mem_map_of_mem hc))

theorem IsSpelling.head : ∀ c ∈ text.head?, ¬ isBlank c := by
  obtain ⟨hbase, suffix, -, htext⟩ := h
  intro c hc hblank
  have hheads := congrArg List.head? htext
  have hbegins := List.head?_eq_some_head hbase.ne_nil
  rw [List.head?_map, hc, List.append_assoc, List.head?_append, hbegins, Option.some_or] at hheads
  exact (trim_eq_self_iff.1 hbase.trimmed).1 _ (hbegins.trans hheads.symm) (isBlank_toUpper hblank)

theorem IsSpelling.last : ∀ c ∈ text.getLast?, ¬ isBlank c := by
  obtain ⟨hbase, suffix, hsuffix, htext⟩ := h
  intro c hc hblank
  have hlasts := congrArg List.getLast? htext
  rw [List.getLast?_map, hc] at hlasts
  cases hunsigned : t.unsigned with
  | true =>
    rw [hunsigned, if_pos rfl, List.getLast?_append, getLast?_unsignedEnding, Option.some_or] at hlasts
    have hd : c.toUpper = 'D' := Option.some.inj hlasts
    exact absurd (hd ▸ isBlank_toUpper hblank) (by decide : ¬ isBlank 'D' = true)
  | false =>
    rw [hunsigned, if_neg Bool.false_ne_true, List.append_nil] at hlasts
    exact (body_ends hbase hsuffix).1 _ hlasts.symm (isBlank_toUpper hblank)

/-- A type is read back from each of its spellings, whatever blanks are around it. -/
theorem parse_of_spelling {a b : List Char} (ha : ∀ c ∈ a, isBlank c) (hb : ∀ c ∈ b, isBlank c) :
    parse (String.ofList (a ++ (text ++ b))) = t := by
  rw [parse, String.toList_ofList, trim_between ha h.head h.last hb, upper_eq_map h.isSimple]
  obtain ⟨hbase, suffix, hsuffix, htext⟩ := h
  obtain ⟨hend, hunending⟩ := body_ends hbase hsuffix
  rw [htext]
  cases hunsigned : t.unsigned with
  | true =>
    rw [if_pos rfl, withoutEnd?_eq_some_iff.2 rfl]
    dsimp only
    rw [trimEnd_eq_self hend, ofBody_of_spells hbase hsuffix, String.ofList_toList, ← hunsigned]
  | false =>
    rw [if_neg Bool.false_ne_true, List.append_nil, withoutEnd?_eq_none_iff.2 hunending]
    dsimp only
    rw [ofBody_of_spells hbase hsuffix, String.ofList_toList, ← hunsigned]

end Spelling

/-! ### Reading by places -/

/-- The body of a declaration: in upper case, without the blanks around it and the word of unsigned types; and whether
there is this word. -/
def bodyOf (declared : String) : String × Bool :=
  let cs := upper (trim declared.toList)
  match withoutEnd? unsignedEnding cs with
  | some body => (String.ofList (trimEnd body), true)
  | none => (String.ofList cs, false)

/-- The place where the sizes end that are opened at a place: that of the next closing parenthesis, or the end. -/
def closing? (body : String) (opening : Nat) : Option Nat := do
  let rest ← part? body opening body.utf8ByteSize
  return match place? ')' rest with
    | some i => opening + i
    | none => body.utf8ByteSize

/-- Reads a declaration by the parts between places of its body, if there are these parts. -/
def parseByPlaces? (declared : String) : Option SqlType :=
  let (body, unsigned) := bodyOf declared
  match place? '(' body with
  | none => some { base := body, unsigned }
  | some opening => do
    let base := trimmed (← part? body 0 opening)
    let sizes ← part? body (opening + 1) (← closing? body opening)
    return match splitFirst? ',' sizes.toList with
      | some (precision, scale) => { base, precision := size? precision, scale := size? scale, unsigned }
      | none => { base, length := size? sizes.toList, unsigned }

theorem parse_eq_ofBody (declared : String) :
    parse declared = ofBody (bodyOf declared).1.toList (bodyOf declared).2 := by
  unfold parse bodyOf
  dsimp only
  cases withoutEnd? unsignedEnding (upper (trim declared.toList)) with
  | none => exact congrArg (ofBody · false) String.toList_ofList.symm
  | some body => exact congrArg (ofBody · true) String.toList_ofList.symm

/-- A body with an opening parenthesis: what stands before it, what stands after it up to a closing one, and the
rest. -/
structure IsOpened (body before sizes rest : String) : Prop where
  body_eq : body = before ++ String.singleton '(' ++ sizes ++ rest
  unopened : '(' ∉ before.toList
  unclosed : ')' ∉ sizes.toList
  rest_eq : rest = "" ∨ ∃ after, rest = String.singleton ')' ++ after

theorem exists_isOpened {body : String} (h : '(' ∈ body.toList) :
    ∃ before sizes rest, IsOpened body before sizes rest := by
  obtain ⟨before, after, hbody, hbefore⟩ := List.eq_append_cons_of_mem h
  by_cases hclose : ')' ∈ after
  · obtain ⟨sizes, last, rfl, hsizes⟩ := List.eq_append_cons_of_mem hclose
    refine ⟨.ofList before, .ofList sizes, String.singleton ')' ++ .ofList last, ?_, ?_, ?_, .inr ⟨_, rfl⟩⟩
    · rw [← String.toList_inj, hbody]
      simp
    · rwa [String.toList_ofList]
    · rwa [String.toList_ofList]
  · refine ⟨.ofList before, .ofList after, "", ?_, ?_, ?_, .inl rfl⟩
    · rw [← String.toList_inj, hbody]
      simp
    · rwa [String.toList_ofList]
    · rwa [String.toList_ofList]

namespace IsOpened

variable {body before sizes rest : String} (h : IsOpened body before sizes rest)
include h

theorem place : place? '(' body = some before.utf8ByteSize := by
  rw [h.body_eq, String.append_assoc]
  exact place?_append h.unopened

theorem part_before : part? body 0 before.utf8ByteSize = some before := by
  have happend := part?_append "" before (String.singleton '(' ++ sizes ++ rest)
  rwa [String.empty_append, ← String.append_assoc, ← String.append_assoc, ← h.body_eq] at happend

theorem part_sizes :
    part? body (before.utf8ByteSize + 1) (before ++ String.singleton '(' ++ sizes).utf8ByteSize = some sizes := by
  have happend := part?_append (before ++ String.singleton '(') sizes rest
  rwa [← h.body_eq, String.utf8ByteSize_append] at happend

theorem closing : closing? body before.utf8ByteSize = some (before ++ String.singleton '(' ++ sizes).utf8ByteSize := by
  have hpart : part? body before.utf8ByteSize body.utf8ByteSize = some (String.singleton '(' ++ sizes ++ rest) := by
    have happend := part?_append before (String.singleton '(' ++ sizes ++ rest) ""
    rwa [String.append_empty, ← String.append_assoc, ← String.append_assoc, ← h.body_eq] at happend
  have hunclosed : ')' ∉ (String.singleton '(' ++ sizes).toList := by
    rw [String.toList_append, List.mem_append, not_or]
    exact ⟨by simp, h.unclosed⟩
  have hplace : (match place? ')' (String.singleton '(' ++ sizes ++ rest) with
      | some i => before.utf8ByteSize + i
      | none => body.utf8ByteSize) = (before ++ String.singleton '(' ++ sizes).utf8ByteSize := by
    rcases h.rest_eq with rfl | ⟨after, rfl⟩
    · rw [String.append_empty, place?_eq_none hunclosed, h.body_eq, String.append_empty]
    · rw [← String.append_assoc, place?_append hunclosed]
      dsimp only
      rw [String.append_assoc, ← String.utf8ByteSize_append]
  rw [closing?, hpart]
  exact congrArg some hplace

theorem ofBody_eq (unsigned : Bool) :
    ofBody body.toList unsigned =
      match splitFirst? ',' sizes.toList with
      | some (precision, scale) =>
        { base := trimmed before, precision := size? precision, scale := size? scale, unsigned }
      | none => { base := trimmed before, length := size? sizes.toList, unsigned } := by
  have hbody : body.toList = before.toList ++ '(' :: (sizes.toList ++ rest.toList) := by
    rw [h.body_eq]
    simp
  have hsizes : (sizes.toList ++ rest.toList).takeWhile (· != ')') = sizes.toList := by
    rcases h.rest_eq with rfl | ⟨after, rfl⟩
    · rw [String.toList_empty, List.append_nil, List.takeWhile_eq_self_iff]
      exact fun c hc => bne_iff_ne.2 (ne_of_mem_of_not_mem hc h.unclosed)
    · rw [String.toList_append, String.toList_singleton]
      exact takeWhile_append_mark h.unclosed
  rw [hbody, ofBody, splitFirst?_append h.unopened]
  dsimp only
  rw [hsizes]
  rfl

end IsOpened

/-- A declaration is read by places as it is read by characters. -/
theorem parseByPlaces?_eq (declared : String) : parseByPlaces? declared = some (parse declared) := by
  rw [parse_eq_ofBody, parseByPlaces?]
  obtain ⟨body, unsigned⟩ := bodyOf declared
  dsimp only
  by_cases hopen : '(' ∈ body.toList
  · obtain ⟨before, sizes, rest, h⟩ := exists_isOpened hopen
    rw [h.place, h.ofBody_eq]
    simp only [h.part_before, h.closing, h.part_sizes, bind, pure, Option.bind]
  · rw [place?_eq_none hopen, ofBody, splitFirst?_eq_none_iff.2 hopen, String.ofList_toList]

/-- The sizes that are opened at a place stand behind it, between characters, and within the body. -/
theorem closing?_within {body : String} {opening : Nat} (h : place? '(' body = some opening) :
    ∃ closing, closing? body opening = some closing ∧ opening + 1 ≤ closing ∧ closing ≤ body.utf8ByteSize ∧
      (⟨opening + 1⟩ : String.Pos.Raw).IsValid body ∧ (⟨closing⟩ : String.Pos.Raw).IsValid body := by
  have hopen : '(' ∈ body.toList := by
    by_contra hnone
    rw [place?_eq_none hnone] at h
    exact nomatch h
  obtain ⟨before, sizes, rest, hparts⟩ := exists_isOpened hopen
  obtain rfl : before.utf8ByteSize = opening := Option.some.inj (hparts.place.symm.trans h)
  have hopened : (before ++ String.singleton '(').utf8ByteSize = before.utf8ByteSize + 1 := String.utf8ByteSize_append
  have hsized : (before ++ String.singleton '(' ++ sizes).utf8ByteSize =
      before.utf8ByteSize + 1 + sizes.utf8ByteSize := by
    rw [String.utf8ByteSize_append, hopened]
  have hbody : body.utf8ByteSize = before.utf8ByteSize + 1 + sizes.utf8ByteSize + rest.utf8ByteSize := by
    rw [hparts.body_eq, String.utf8ByteSize_append, hsized]
  refine ⟨_, hparts.closing, by omega, by omega, ?_, ?_⟩
  · exact String.Pos.Raw.isValid_iff_exists_append.2 ⟨before ++ String.singleton '(', sizes ++ rest,
      by rw [hparts.body_eq, String.append_assoc], congrArg String.Pos.Raw.mk hopened.symm⟩
  · exact String.Pos.Raw.isValid_iff_exists_append.2 ⟨_, rest, hparts.body_eq, rfl⟩

/--
Reading a declaration gives back the type that it spells, in any case and with any blanks around it.  And whatever is
read, it is read by places in bytes as it is by characters: where there is an opening parenthesis, the sizes begin
right behind it and end no later than the body, both between characters.
-/
theorem parse_inverts_spelling :
    (∀ (t : SqlType) (a text b : List Char), IsSpelling t text → (∀ c ∈ a, isBlank c) → (∀ c ∈ b, isBlank c) →
        parse (String.ofList (a ++ (text ++ b))) = t) ∧
      ∀ declared, parseByPlaces? declared = some (parse declared) ∧
        ∀ opening, place? '(' (bodyOf declared).1 = some opening →
          ∃ closing, closing? (bodyOf declared).1 opening = some closing ∧
            opening + 1 ≤ closing ∧ closing ≤ (bodyOf declared).1.utf8ByteSize ∧
            (⟨opening + 1⟩ : String.Pos.Raw).IsValid (bodyOf declared).1 ∧
            (⟨closing⟩ : String.Pos.Raw).IsValid (bodyOf declared).1 :=
  ⟨fun _ _ _ _ h ha hb => parse_of_spelling h ha hb,
    fun declared => ⟨parseByPlaces?_eq declared, fun _ h => closing?_within h⟩⟩

namespace IsSpelling.Example

/-- The type of a price. -/
def price : SqlType :=
  { base := "DECIMAL", precision := some 10, scale := some 2, unsigned := true }

/-- A spelling of it in mixed case, with blanks before the parenthesis and around a number. -/
def text : List Char := "Decimal ( 10 ,2) unsigned".toList

end IsSpelling.Example

open IsSpelling.Example in
/-- A spelling of the type of a price is read back from between blanks. -/
theorem parse_inverts_spelling_price :
    IsSpelling price text ∧ parse (String.ofList ("\t ".toList ++ (text ++ "\n".toList))) = price := by
  have hname : IsBaseName price.base.toList :=
    ⟨by decide, by simp [price], by decide, by decide, by decide⟩
  have hblank : ∀ c ∈ " ".toList, isBlank c := List.all_eq_true.1 rfl
  have hnone : ∀ c ∈ ([] : List Char), isBlank c := List.all_eq_true.1 rfl
  have hsizes : SpellsSizes price.length price.precision price.scale
      (" ".toList ++ (digits 10 ++ " ".toList) ++ ',' :: ([] ++ (digits 2 ++ []))) :=
    .precision (by decide) (by decide) (.padded hblank hblank) (.padded hnone hnone)
  have hspelling : IsSpelling price text :=
    ⟨hname, _, @SpellsSuffix.sized _ _ _ " ".toList _ hblank hsizes, by decide⟩
  exact ⟨hspelling, parse_inverts_spelling.1 _ _ _ _ hspelling (List.all_eq_true.1 rfl) (List.all_eq_true.1 rfl)⟩

end SqlType

end RecordMapper
