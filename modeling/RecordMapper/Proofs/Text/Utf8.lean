import Mathlib.Algebra.Group.Nat.Defs
import RecordMapper.Text.Utf8

/-!
# Bytes and the texts that they are read as

* one character is read from its own bytes and no others (`reads_iff`, `parts_char`, `exists_rest_of_parts`), so the
  bytes without malformed parts are those of texts (`parts_eq_map_some_iff`);
* a text is read back from its bytes (`readLossy_write`), but malformed parts are all read alike: the bytes that no
  others are read like are those of the texts without replacement characters (`readLossy_unique_iff`).
-/

namespace RecordMapper.Text.Utf8

/-! ### The bytes of a character -/

/-- Bytes that a begun character ends with, and the number of the character. -/
inductive Pending.Finishes : Pending → List UInt8 → Nat → Prop where
  | last {bits low high : Nat} {b : UInt8} (hb : low ≤ b.toNat ∧ b.toNat ≤ high) :
    Finishes ⟨bits, low, high, 0⟩ [b] (bits * 0x40 + (b.toNat - 0x80))
  | next {bits low high more n : Nat} {b : UInt8} {bs : List UInt8} (hb : low ≤ b.toNat ∧ b.toNat ≤ high)
      (h : Finishes ⟨bits * 0x40 + (b.toNat - 0x80), 0x80, 0xBF, more⟩ bs n) :
    Finishes ⟨bits, low, high, more + 1⟩ (b :: bs) n

/-- Bytes that are read as one character, and its number. -/
inductive Reads : List UInt8 → Nat → Prop where
  | single {b : UInt8} (hb : b.toNat < 0x80) : Reads [b] b.toNat
  | several {b : UInt8} {p : Pending} {bs : List UInt8} {n : Nat} (hb : start b.toNat = .wait p)
      (h : p.Finishes bs n) : Reads (b :: bs) n

/-- The lowest bits of a number, six to a byte. -/
def trailing : Nat → Nat → List UInt8
  | 0, _ => []
  | k + 1, n => .ofNat (n / 0x40 ^ k % 0x40 + 0x80) :: trailing k n

variable {b bits low high more n : Nat} {bs rest : List UInt8}

private theorem toNat_trailing (m : Nat) : (UInt8.ofNat (m % 0x40 + 0x80)).toNat = m % 0x40 + 0x80 := by
  rw [UInt8.toNat_ofNat']
  omega

/-- A character ends with the lowest bits of its number, of which the others have been read. -/
theorem Pending.finishes_iff (hlow : 0x80 ≤ low) (hhigh : high ≤ 0xBF) :
    (Pending.mk bits low high more).Finishes bs n ↔ bs = trailing (more + 1) n ∧ n / 0x40 ^ (more + 1) = bits ∧
      low ≤ n / 0x40 ^ more % 0x40 + 0x80 ∧ n / 0x40 ^ more % 0x40 + 0x80 ≤ high := by
  have byte {b : UInt8} {m : Nat} (h : b.toNat = m % 0x40 + 0x80) : UInt8.ofNat (m % 0x40 + 0x80) = b := by
    rw [← h, UInt8.ofNat_toNat]
  induction more generalizing bits low high bs with
  | zero =>
    simp only [trailing, Nat.pow_zero, Nat.div_one, Nat.zero_add, Nat.pow_one]
    constructor
    · intro h
      cases h with
      | @last _ _ _ b hb =>
        rw [byte (b := b) (by omega)]
        exact ⟨rfl, by omega, by omega, by omega⟩
    · rintro ⟨rfl, rfl, hl, hh⟩
      have h : Finishes ⟨n / 0x40, low, high, 0⟩ [.ofNat (n % 0x40 + 0x80)] _ :=
        .last (by rw [toNat_trailing]; exact ⟨hl, hh⟩)
      rwa [toNat_trailing, Nat.add_sub_cancel, Nat.div_add_mod'] at h
  | succ more ih =>
    have hdiv : n / 0x40 ^ (more + 1 + 1) = n / 0x40 ^ (more + 1) / 0x40 := by
      rw [Nat.pow_succ _ (more + 1), Nat.div_div_eq_div_mul]
    constructor
    · intro h
      cases h with
      | @next _ _ _ _ _ b bs hb h =>
        obtain ⟨rfl, hbits, -⟩ := (ih (by omega) (by omega)).1 h
        rw [hdiv]
        exact ⟨congrArg (· :: _) (byte (by omega)).symm, by omega, by omega, by omega⟩
    · rintro ⟨rfl, rfl, hl, hh⟩
      refine .next (by rw [toNat_trailing]; exact ⟨hl, hh⟩) ((ih (by omega) (by omega)).2 ⟨rfl, ?_, ?_⟩)
      · rw [toNat_trailing, hdiv]
        omega
      · omega

/-! ### The start of a character -/

theorem start_one (h : b < 0x80) : start b = .done (some (Char.ofNat b)) := if_pos h

theorem start_two (h : 0xC2 ≤ b ∧ b < 0xE0) : start b = .wait ⟨b - 0xC0, 0x80, 0xBF, 0⟩ := by
  rw [start, if_neg (by omega), if_neg (by omega), if_pos h.2]

/-- The second of three bytes keeps to numbers that need three, the surrogates apart. -/
theorem start_three (h : 0xE0 ≤ b ∧ b < 0xF0) :
    ∃ low high, start b = .wait ⟨b - 0xE0, low, high, 1⟩ ∧ 0x80 ≤ low ∧ high ≤ 0xBF ∧
      ∀ m, m / 0x40 = b - 0xE0 →
        (low ≤ m % 0x40 + 0x80 ∧ m % 0x40 + 0x80 ≤ high ↔ 0x20 ≤ m ∧ (m < 0x360 ∨ 0x380 ≤ m)) := by
  unfold start
  rw [if_neg (by omega), if_neg (by omega), if_neg (by omega)]
  split
  · subst b
    exact ⟨_, _, rfl, by decide, by decide, fun m hm => by omega⟩
  · split
    · subst b
      exact ⟨_, _, rfl, by decide, by decide, fun m hm => by omega⟩
    · rw [if_pos h.2]
      exact ⟨_, _, rfl, by decide, by decide, fun m hm => by omega⟩

/-- The second of four bytes keeps to numbers that need four, up to the last one. -/
theorem start_four (h : 0xF0 ≤ b ∧ b < 0xF5) :
    ∃ low high, start b = .wait ⟨b - 0xF0, low, high, 2⟩ ∧ 0x80 ≤ low ∧ high ≤ 0xBF ∧
      ∀ m, m / 0x40 = b - 0xF0 → (low ≤ m % 0x40 + 0x80 ∧ m % 0x40 + 0x80 ≤ high ↔ 0x10 ≤ m ∧ m < 0x110) := by
  unfold start
  rw [if_neg (by omega), if_neg (by omega), if_neg (by omega), if_neg (by omega), if_neg (by omega), if_neg (by omega)]
  split
  · subst b
    exact ⟨_, _, rfl, by decide, by decide, fun m hm => by omega⟩
  · split
    · exact ⟨_, _, rfl, by decide, by decide, fun m hm => by omega⟩
    · obtain rfl : b = 0xF4 := by omega
      exact ⟨_, _, rfl, by decide, by decide, fun m hm => by omega⟩

theorem start_malformed (h : 0x80 ≤ b ∧ b < 0xC2 ∨ 0xF5 ≤ b) : start b = .done none := by
  unfold start
  rw [if_neg (by omega)]
  rcases h with h | h
  · rw [if_pos h.2]
  · repeat rw [if_neg (by omega)]

theorem lead_cases (b : Nat) :
    b < 0x80 ∨ 0xC2 ≤ b ∧ b < 0xE0 ∨ 0xE0 ≤ b ∧ b < 0xF0 ∨ 0xF0 ≤ b ∧ b < 0xF5 ∨ 0x80 ≤ b ∧ b < 0xC2 ∨ 0xF5 ≤ b := by
  omega

theorem lead_of_wait {p : Pending} (h : start b = .wait p) :
    0xC2 ≤ b ∧ b < 0xE0 ∨ 0xE0 ≤ b ∧ b < 0xF0 ∨ 0xF0 ≤ b ∧ b < 0xF5 := by
  rcases lead_cases b with hone | htwo | hthree | hfour | hmalformed
  · exact nomatch (start_one hone).symm.trans h
  · exact .inl htwo
  · exact .inr (.inl hthree)
  · exact .inr (.inr hfour)
  · exact nomatch (start_malformed hmalformed).symm.trans h

theorem lt_of_done {c : Char} (h : start b = .done (some c)) : b < 0x80 := by
  rcases lead_cases b with hone | htwo | hthree | hfour | hmalformed
  · exact hone
  · exact nomatch (start_two htwo).symm.trans h
  · obtain ⟨_, _, hstart, -⟩ := start_three hthree
    exact nomatch hstart.symm.trans h
  · obtain ⟨_, _, hstart, -⟩ := start_four hfour
    exact nomatch hstart.symm.trans h
  · exact nomatch (start_malformed hmalformed).symm.trans h

/-! ### Reading characters -/

/-- The bytes of the character with a number: the highest bits in the first byte, six in each of the others. -/
def encoded (n : Nat) : List UInt8 :=
  if n ≤ 0x7F then [.ofNat n]
  else if n ≤ 0x7FF then .ofNat (n / 0x40 + 0xC0) :: trailing 1 n
  else if n ≤ 0xFFFF then .ofNat (n / 0x1000 + 0xE0) :: trailing 2 n
  else .ofNat (n / 0x40000 + 0xF0) :: trailing 3 n

theorem utf8EncodeChar_eq (c : Char) : String.utf8EncodeChar c = encoded c.toNat := by
  have hvalid : c.val.toNat < 0x110000 := by
    rcases c.valid with h | h
    · exact Nat.lt_trans h (by decide)
    · exact h.2
  rw [show c.toNat = c.val.toNat from rfl]
  simp only [String.utf8EncodeChar, encoded, trailing, Nat.pow_zero, Nat.div_one, Nat.pow_one, Nat.reducePow]
  generalize c.val.toNat = n at hvalid ⊢
  by_cases h₁ : n ≤ 0x7F
  · rw [if_pos h₁, if_pos h₁]
  · rw [if_neg h₁, if_neg h₁]
    by_cases h₂ : n ≤ 0x7FF
    · rw [if_pos h₂, if_pos h₂, Nat.mod_eq_of_lt (a := n / 64) (b := 0x20) (by omega)]
    · rw [if_neg h₂, if_neg h₂]
      by_cases h₃ : n ≤ 0xFFFF
      · rw [if_pos h₃, if_pos h₃, Nat.mod_eq_of_lt (a := n / 4096) (b := 0x10) (by omega)]
      · rw [if_neg h₃, if_neg h₃, Nat.mod_eq_of_lt (a := n / 262144) (b := 0x08) (by omega)]

/-- Bytes are read as one character exactly if they are the bytes of its number. -/
theorem reads_iff : Reads bs n ↔ n.isValidChar ∧ bs = encoded n := by
  have hdiv : n / 0x40 ^ 2 = n / 0x1000 := rfl
  have hdiv' : n / 0x40 ^ 3 = n / 0x40000 := rfl
  constructor
  · intro h
    have byte {b : UInt8} {m : Nat} (h : b.toNat = m) : b = .ofNat m := by rw [← h, UInt8.ofNat_toNat]
    unfold encoded Nat.isValidChar
    cases h with
    | @single b hb =>
      rw [if_pos (by omega)]
      exact ⟨.inl (by omega), congrArg (· :: []) (byte rfl)⟩
    | @several b p bs _ hb h =>
      rcases lead_of_wait hb with hlead | hlead | hlead
      · obtain rfl := Start.wait.inj (hb.symm.trans (start_two hlead))
        obtain ⟨rfl, hbits, -⟩ := (Pending.finishes_iff (by omega) (by omega)).1 h
        rw [if_neg (by omega), if_pos (by omega)]
        exact ⟨.inl (by omega), congrArg (· :: _) (byte (by omega))⟩
      · obtain ⟨low, high, hstart, hlow, hhigh, hrange⟩ := start_three hlead
        obtain rfl := Start.wait.inj (hb.symm.trans hstart)
        obtain ⟨rfl, hbits, hnext⟩ := (Pending.finishes_iff hlow hhigh).1 h
        have hm := (hrange _ (by omega)).1 hnext
        rw [if_neg (by omega), if_neg (by omega), if_pos (by omega)]
        exact ⟨by omega, congrArg (· :: _) (byte (by omega))⟩
      · obtain ⟨low, high, hstart, hlow, hhigh, hrange⟩ := start_four hlead
        obtain rfl := Start.wait.inj (hb.symm.trans hstart)
        obtain ⟨rfl, hbits, hnext⟩ := (Pending.finishes_iff hlow hhigh).1 h
        have hm := (hrange _ (by omega)).1 hnext
        rw [if_neg (by omega), if_neg (by omega), if_neg (by omega)]
        exact ⟨by omega, congrArg (· :: _) (byte (by omega))⟩
  · rintro ⟨hvalid, rfl⟩
    have byte {m : Nat} (h : m < 0x100) : (UInt8.ofNat m).toNat = m := UInt8.toNat_ofNat_of_lt h
    unfold Nat.isValidChar at hvalid
    unfold encoded
    split
    · have h := Reads.single (b := .ofNat n) (by rw [byte (by omega)]; omega)
      rwa [byte (by omega)] at h
    · split
      · refine .several (by rw [byte (by omega)]; exact start_two (by omega)) ?_
        exact (Pending.finishes_iff (by omega) (by omega)).2 ⟨rfl, by omega, by omega⟩
      · split
        · obtain ⟨low, high, hstart, hlow, hhigh, hrange⟩ := start_three (b := n / 0x1000 + 0xE0) (by omega)
          refine .several (by rw [byte (by omega)]; exact hstart) ((Pending.finishes_iff hlow hhigh).2 ⟨rfl, ?_, ?_⟩)
          · omega
          · exact (hrange _ (by omega)).2 (by omega)
        · obtain ⟨low, high, hstart, hlow, hhigh, hrange⟩ := start_four (b := n / 0x40000 + 0xF0) (by omega)
          refine .several (by rw [byte (by omega)]; exact hstart) ((Pending.finishes_iff hlow hhigh).2 ⟨rfl, ?_, ?_⟩)
          · omega
          · exact (hrange _ (by omega)).2 (by omega)

/-! ### Reading bytes -/

variable {own : List UInt8} {c : Char} {ps : List (Option Char)}

theorem partsFrom_finished {p : Pending} (h : p.Finishes own n) (rest : List UInt8) :
    partsFrom (some p) (own ++ rest) = some (Char.ofNat n) :: partsFrom none rest := by
  induction h with
  | last hb =>
    rw [List.singleton_append, partsFrom, if_pos hb]
    rfl
  | next hb _ ih =>
    rw [List.cons_append, partsFrom, if_pos hb]
    exact ih

theorem exists_finished {p : Pending} (h : partsFrom (some p) bs = some c :: ps) :
    ∃ own n rest, bs = own ++ rest ∧ p.Finishes own n ∧ c = Char.ofNat n ∧ partsFrom none rest = ps := by
  induction bs generalizing p with
  | nil => exact nomatch h
  | cons b bs ih =>
    obtain ⟨bits, low, high, more⟩ := p
    rw [partsFrom] at h
    split at h
    · rename_i hb
      cases more with
      | zero =>
        obtain ⟨hc, hps⟩ := List.cons.inj h
        exact ⟨[b], _, bs, rfl, .last hb, (Option.some.inj hc).symm, hps⟩
      | succ more =>
        obtain ⟨own, n, rest, rfl, hown, hc, hps⟩ := ih h
        exact ⟨b :: own, n, rest, rfl, .next hb hown, hc, hps⟩
    · -- the byte ends the character as a malformed part
      split at h
      · exact nomatch h
      · exact nomatch h

theorem parts_of_reads (h : Reads own n) (rest : List UInt8) :
    parts (own ++ rest) = some (Char.ofNat n) :: parts rest := by
  cases h with
  | @single b hb =>
    rw [List.singleton_append, parts, partsFrom, start_one hb]
    rfl
  | several hb h =>
    rw [List.cons_append, parts, partsFrom, hb]
    exact partsFrom_finished h rest

theorem exists_reads_of_parts (h : parts bs = some c :: ps) :
    ∃ own n rest, bs = own ++ rest ∧ Reads own n ∧ c = Char.ofNat n ∧ parts rest = ps := by
  cases bs with
  | nil => exact nomatch h
  | cons b bs =>
    rw [parts, partsFrom] at h
    split at h
    · rename_i part hstart
      obtain ⟨rfl, hps⟩ := List.cons.inj h
      have hb := lt_of_done hstart
      have hc : c = Char.ofNat b.toNat := Option.some.inj (Start.done.inj (hstart.symm.trans (start_one hb)))
      exact ⟨[b], _, bs, rfl, .single hb, hc, hps⟩
    · rename_i p hstart
      obtain ⟨own, n, rest, rfl, hown, hc, hps⟩ := exists_finished h
      exact ⟨b :: own, n, rest, rfl, .several hstart hown, hc, hps⟩

/-- The bytes of a character are read as it, whatever follows. -/
theorem parts_char (c : Char) (rest : List UInt8) :
    parts (String.utf8EncodeChar c ++ rest) = some c :: parts rest := by
  have hreads : Reads (String.utf8EncodeChar c) c.toNat := reads_iff.2 ⟨c.valid, utf8EncodeChar_eq c⟩
  rw [parts_of_reads hreads, Char.ofNat_toNat]

/-- Only its bytes are read as a character. -/
theorem exists_rest_of_parts (h : parts bs = some c :: ps) :
    ∃ rest, bs = String.utf8EncodeChar c ++ rest ∧ parts rest = ps := by
  obtain ⟨own, n, rest, rfl, hown, rfl, hps⟩ := exists_reads_of_parts h
  obtain ⟨hvalid, rfl⟩ := reads_iff.1 hown
  have hnumber : (Char.ofNat n).toNat = n := by
    rw [Char.ofNat, dif_pos hvalid]
    rfl
  exact ⟨rest, by rw [utf8EncodeChar_eq, hnumber], hps⟩

/-! ### Reading texts -/

/-- The bytes of a text. -/
def WellFormed (bs : List UInt8) : Prop := ∃ s, bs = write s

theorem partsFrom_some_ne_nil (p : Pending) (bs : List UInt8) : partsFrom (some p) bs ≠ [] := by
  induction bs generalizing p with
  | nil => exact List.cons_ne_nil _ _
  | cons b bs ih =>
    rw [partsFrom]
    split
    · split
      · exact List.cons_ne_nil _ _
      · exact ih _
    · split
      · exact List.cons_ne_nil _ _
      · exact List.cons_ne_nil _ _

theorem parts_eq_nil_iff : parts bs = [] ↔ bs = [] := by
  refine ⟨fun h => ?_, fun h => h ▸ rfl⟩
  cases bs with
  | nil => rfl
  | cons b bs =>
    rw [parts, partsFrom] at h
    split at h
    · cases h
    · exact absurd h (partsFrom_some_ne_nil _ _)

theorem parts_append (cs : List Char) (rest : List UInt8) :
    parts (cs.flatMap String.utf8EncodeChar ++ rest) = cs.map some ++ parts rest := by
  induction cs with
  | nil => rfl
  | cons c cs ih => rw [List.flatMap_cons, List.append_assoc, parts_char, ih, List.map_cons, List.cons_append]

/-- The bytes that are read without malformed parts are those of the characters read. -/
theorem parts_eq_map_some_iff {cs : List Char} : parts bs = cs.map some ↔ bs = cs.flatMap String.utf8EncodeChar := by
  constructor
  · intro h
    induction cs generalizing bs with
    | nil => exact parts_eq_nil_iff.1 h
    | cons c cs ih =>
      obtain ⟨rest, rfl, hrest⟩ := exists_rest_of_parts h
      rw [ih hrest, List.flatMap_cons]
  · rintro rfl
    have h := parts_append cs []
    rwa [List.append_nil, show parts [] = [] from rfl, List.append_nil] at h

/-- A text is read from its bytes. -/
theorem readLossy_write (s : String) : readLossy (write s) = s := by
  have hparts : parts (write s) = s.toList.map some := parts_eq_map_some_iff.2 rfl
  rw [readLossy, hparts, List.map_map]
  exact (congrArg String.ofList (List.map_id _)).trans String.ofList_toList

theorem WellFormed.eq_of_readLossy {a b : List UInt8} (ha : WellFormed a) (hb : WellFormed b)
    (h : readLossy a = readLossy b) : a = b := by
  obtain ⟨s, rfl⟩ := ha
  obtain ⟨t, rfl⟩ := hb
  rw [readLossy_write, readLossy_write] at h
  rw [h]

/-- A text without replacement characters is read from its bytes only. -/
theorem eq_write_of_readLossy {s : String} (h : readLossy bs = s) (hs : '\uFFFD' ∉ s.toList) : bs = write s := by
  have hparts : parts bs = s.toList.map some := by
    rw [← h, readLossy, String.toList_ofList, List.map_map]
    rw [← h, readLossy, String.toList_ofList] at hs
    refine ((List.map_congr_left fun part hpart => ?_).trans (List.map_id _)).symm
    cases part with
    | none => exact absurd (List.mem_map.2 ⟨none, hpart, rfl⟩) hs
    | some c => rfl
  exact parts_eq_map_some_iff.1 hparts

theorem readLossy_malformed (s : String) (bs : List UInt8) :
    (readLossy (write s ++ 0xFF :: bs)).toList = s.toList ++ '\uFFFD' :: (readLossy bs).toList := by
  have hbyte : parts (0xFF :: bs) = none :: parts bs := rfl
  rw [readLossy, write, parts_append, hbyte, String.toList_ofList, List.map_append, List.map_map, List.map_cons,
    readLossy, String.toList_ofList]
  exact congrArg (· ++ _) (List.map_id _)

/-- The bytes that no others are read like are those of the texts without replacement characters. -/
theorem readLossy_unique_iff {a : List UInt8} :
    (∀ b, readLossy b = readLossy a → b = a) ↔ ∃ s, a = write s ∧ '\uFFFD' ∉ s.toList := by
  constructor
  · intro h
    have ha := h _ (readLossy_write (readLossy a))
    refine ⟨readLossy a, ha.symm, fun hmem => ?_⟩
    -- a malformed byte in the place of the replacement character is read like it
    obtain ⟨before, after, hsplit⟩ := List.append_of_mem hmem
    have hread : readLossy (write (.ofList before) ++ 0xFF :: write (.ofList after)) = readLossy a := by
      rw [← String.toList_inj, readLossy_malformed, readLossy_write, String.toList_ofList, String.toList_ofList, hsplit]
    have hbytes := (h _ hread).trans ha.symm
    rw [write, write, write, hsplit, String.toList_ofList, String.toList_ofList, List.flatMap_append,
      List.flatMap_cons, List.append_cancel_left_eq] at hbytes
    have hlength := congrArg List.length hbytes
    rw [List.length_cons, List.length_append] at hlength
    have hthree : (String.utf8EncodeChar '\uFFFD').length = 3 := rfl
    omega
  · rintro ⟨s, rfl, hs⟩ b hb
    rw [readLossy_write] at hb
    exact eq_write_of_readLossy hb hs

end RecordMapper.Text.Utf8
