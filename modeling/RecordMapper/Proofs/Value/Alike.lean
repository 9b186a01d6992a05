import Mathlib.Data.List.Perm.Subperm
import RecordMapper.Value.Basic

/-!
# The equality of change tracking

Values are compared in three layers: doubles, documents, values.  Each layer is symmetric and transitive.

* a double equals itself unless it is a NaN, and a document equals itself if it is proper: the names of its members
  are distinct and its numbers finite (`Json.same_self`);
* `alike` is an equivalence on values without a floating-point reading (`alike_self`, `alike_symm`, `alike_trans`).
  With doubles it is not transitive, as two integers may be nearest to the same one.
-/

namespace RecordMapper

/-! ### Doubles -/

namespace Decimal

section

open Float.Model

/-! A double is compared by its kind, then by its sign, then by its magnitude. -/

variable {s : UnpackedFloat.Sign} {a b : UnpackedFloat}

private theorem compare_infinity_iff : (UnpackedFloat.infinity s).compare b = some .eq ↔ b = .infinity s := by
  rcases b with s' | _ | s' | ⟨s', m', e', hm'⟩
  · cases s <;> cases s'
    · exact iff_of_true rfl rfl
    · exact iff_of_false (by rintro ⟨⟩) (by rintro ⟨⟩)
    · exact iff_of_false (by rintro ⟨⟩) (by rintro ⟨⟩)
    · exact iff_of_true rfl rfl
  · cases s <;> exact iff_of_false (by rintro ⟨⟩) (by rintro ⟨⟩)
  · cases s <;> exact iff_of_false (by rintro ⟨⟩) (by rintro ⟨⟩)
  · cases s <;> exact iff_of_false (by rintro ⟨⟩) (by rintro ⟨⟩)

private theorem compare_zero_iff : (UnpackedFloat.zero s).compare b = some .eq ↔ ∃ s', b = .zero s' := by
  rcases b with s' | _ | s' | ⟨s', m', e', hm'⟩
  · cases s' <;> exact iff_of_false (by rintro ⟨⟩) (by rintro ⟨_, ⟨⟩⟩)
  · exact iff_of_false (by rintro ⟨⟩) (by rintro ⟨_, ⟨⟩⟩)
  · exact iff_of_true rfl ⟨s', rfl⟩
  · cases s' <;> exact iff_of_false (by rintro ⟨⟩) (by rintro ⟨_, ⟨⟩⟩)

private theorem compare_finite_iff {m : Nat} {e : Int} {hm : 0 < m} :
    (UnpackedFloat.finite s m e hm).compare b = some .eq ↔ b = .finite s m e hm := by
  rcases b with s' | _ | s' | ⟨s', m', e', hm'⟩
  · cases s' <;> exact iff_of_false (by rintro ⟨⟩) (by rintro ⟨⟩)
  · exact iff_of_false (by rintro ⟨⟩) (by rintro ⟨⟩)
  · cases s <;> exact iff_of_false (by rintro ⟨⟩) (by rintro ⟨⟩)
  · rw [UnpackedFloat.finite.injEq]
    cases s <;> cases s'
    · show some ((compare e e').then (compare m m')).swap = some .eq ↔ _
      simp [and_comm, @eq_comm _ m', @eq_comm _ e']
    · exact iff_of_false (by rintro ⟨⟩) (by rintro ⟨⟨⟩, -⟩)
    · exact iff_of_false (by rintro ⟨⟩) (by rintro ⟨⟨⟩, -⟩)
    · show some ((compare e e').then (compare m m')) = some .eq ↔ _
      simp [and_comm, @eq_comm _ m', @eq_comm _ e']

private theorem compare_eq_iff :
    a.compare b = some .eq ↔ a ≠ .notANumber ∧ (b = a ∨ ∃ s s', a = .zero s ∧ b = .zero s') := by
  rcases a with s | _ | s | ⟨s, m, e, hm⟩
  · rw [compare_infinity_iff]
    refine ⟨fun h => ⟨UnpackedFloat.noConfusion, .inl h⟩, ?_⟩
    rintro ⟨-, h | ⟨_, _, h, -⟩⟩
    · exact h
    · cases h
  · exact iff_of_false (by rintro ⟨⟩) (fun h => h.1 rfl)
  · rw [compare_zero_iff]
    refine ⟨fun ⟨s', h⟩ => ⟨UnpackedFloat.noConfusion, .inr ⟨s, s', rfl, h⟩⟩, ?_⟩
    rintro ⟨-, h | ⟨_, s', -, h⟩⟩
    · exact ⟨s, h⟩
    · exact ⟨s', h⟩
  · rw [compare_finite_iff]
    refine ⟨fun h => ⟨UnpackedFloat.noConfusion, .inl h⟩, ?_⟩
    rintro ⟨-, h | ⟨_, _, h, -⟩⟩
    · exact h
    · cases h

/-- Doubles are equal when they are the same, or both a zero, and no NaN. -/
private theorem beq_iff_unpack {x y : Float} :
    (x == y) = true ↔ x.toModel.unpack ≠ .notANumber ∧
      (y.toModel.unpack = x.toModel.unpack ∨ ∃ s s', x.toModel.unpack = .zero s ∧ y.toModel.unpack = .zero s') := by
  change (x.toModel.unpack.compare y.toModel.unpack == some .eq) = true ↔ _
  rw [beq_iff_eq, compare_eq_iff]

end

theorem beq_symm {x y : Float} (h : (x == y) = true) : (y == x) = true := by
  rw [beq_iff_unpack] at h ⊢
  obtain ⟨hx, h | ⟨s, s', hxzero, hyzero⟩⟩ := h
  · rw [h]
    exact ⟨hx, .inl rfl⟩
  · rw [hxzero, hyzero]
    exact ⟨Float.Model.UnpackedFloat.noConfusion, .inr ⟨s', s, rfl, rfl⟩⟩

theorem beq_trans {x y z : Float} (hxy : (x == y) = true) (hyz : (y == z) = true) : (x == z) = true := by
  rw [beq_iff_unpack] at hxy hyz ⊢
  obtain ⟨hx, h | ⟨s, s', hxzero, hyzero⟩⟩ := hxy
  · rw [h] at hyz
    exact hyz
  · refine ⟨hx, .inr ?_⟩
    rcases hyz.2 with h | ⟨_, s'', -, hzzero⟩
    · exact ⟨s, s', hxzero, h.trans hyzero⟩
    · exact ⟨s, s'', hxzero, hzzero⟩

open Float.Model in
/-- A NaN has only ones in its exponent, and some in its mantissa. -/
private theorem unpack_eq_notANumber_iff {spec : Format} {b : BitVec spec.numBits} :
    UnpackedFloat.unpack spec b = .notANumber ↔
      UnpackedFloat.unpackExponent b = -1#_ ∧ UnpackedFloat.unpackMantissa b ≠ 0#_ := by
  -- kinds are told apart by the exponent, and then by the mantissa
  delta UnpackedFloat.unpack
  by_cases hones : UnpackedFloat.unpackExponent b = -1#_
  · rw [if_pos hones]
    by_cases hzero : UnpackedFloat.unpackMantissa b = 0#_
    · rw [if_pos hzero]
      exact iff_of_false (by simp) (fun h => h.2 hzero)
    · rw [if_neg hzero]
      exact iff_of_true rfl ⟨hones, hzero⟩
  · rw [if_neg hones]
    refine iff_of_false (fun h => ?_) (fun h => hones h.1)
    by_cases hnone : UnpackedFloat.unpackExponent b = 0#_
    · rw [if_pos hnone] at h
      by_cases hzero : UnpackedFloat.unpackMantissa b = 0#_
      · rw [dif_pos hzero] at h
        cases h
      · rw [dif_neg hzero] at h
        cases h
    · rw [if_neg hnone] at h
      cases h

open Float.Model in
/-- What is unpacked as a NaN, without its sign, is more than infinity. -/
theorem unpack_toBitVec_eq_notANumber_iff {u : UInt64} :
    UnpackedFloat.unpack Format.binary64 u.toBitVec = .notANumber ↔ Binary64.infinityBits < u.toNat % twoTo 63 := by
  have hexponent : @UnpackedFloat.unpackExponent Format.binary64 u.toBitVec = -1#_ ↔
      u.toNat / 2 ^ 52 % 2 ^ 11 = 2047 := by
    rw [← BitVec.toNat_inj, UnpackedFloat.unpackExponent, BitVec.toNat_cast, BitVec.extractLsb_toNat,
      Nat.shiftRight_eq_div_pow]
    rfl
  have hmantissa : @UnpackedFloat.unpackMantissa Format.binary64 u.toBitVec = 0#_ ↔ u.toNat % 2 ^ 52 = 0 := by
    rw [← BitVec.toNat_inj, UnpackedFloat.unpackMantissa, BitVec.toNat_cast, BitVec.extractLsb_toNat,
      Nat.shiftRight_zero]
    rfl
  have hinfinity : Binary64.infinityBits = 2047 * 2 ^ 52 := rfl
  have hsign : twoTo 63 = 2 ^ 63 := rfl
  rw [unpack_eq_notANumber_iff, hexponent, ne_eq, hmantissa, hinfinity, hsign]
  omega

open Float.Model in
/-- What is packed is unpacked as a NaN only if it was one. -/
theorem unpack_pack_ne_notANumber {spec : Format} {u : UnpackedFloat} (h : u ≠ .notANumber) :
    UnpackedFloat.unpack spec (UnpackedFloat.pack spec u) ≠ .notANumber := by
  rw [ne_eq, unpack_eq_notANumber_iff]
  fun_cases UnpackedFloat.pack spec u with
  | case1 => exact absurd rfl h
  | case2 s | case4 s => simp [UnpackedFloat.packedInfinity]
  | case3 s => simp [UnpackedFloat.packedZero]
  | case5 s m e hm bits biased hbig hnormal =>
    rintro ⟨hones, -⟩
    have hlt : biased < 2 ^ spec.exponentBits - 1 := by omega
    rw [UnpackedFloat.unpackExponent_packComponents, ← BitVec.toNat_inj, BitVec.toNat_ofNat,
      Nat.mod_eq_of_lt (by omega), BitVec.neg_one_eq_allOnes, BitVec.toNat_allOnes] at hones
    omega
  | case6 s m e hm bits biased hbig hsubnormal => simp [Nat.pos_iff_ne_zero.1 spec.he]

/-- A double equals itself, unless it is a NaN. -/
theorem beq_self_iff {x : Float} : (x == x) = true ↔ isNaN x = false := by
  have hnan : isNaN x = true ↔ x.toModel.unpack = .notANumber :=
    decide_eq_true_iff.trans unpack_toBitVec_eq_notANumber_iff.symm
  rw [← Bool.not_eq_true, hnan, beq_iff_unpack]
  exact ⟨fun h => h.1, fun h => ⟨h, .inl rfl⟩⟩

theorem isNaN_of_isFinite {x : Float} (h : isFinite x = true) : isNaN x = false := by
  rw [isFinite, decide_eq_true_eq] at h
  rw [isNaN, decide_eq_false_iff_not]
  omega

end Decimal

/-! ### Documents -/

theorem Entries.lookup_eq_find? {α β : Type} [DecidableEq α] (k : α) (es : List (α × β)) :
    es.lookup k = find? k es := by
  induction es with
  | nil => rfl
  | cons e es ih =>
    rw [List.lookup_cons, find?, ih]
    by_cases h : e.1 = k
    · simp [h]
    · rw [if_neg h, beq_false_of_ne (Ne.symm h)]

namespace Json

mutual

/-- Whether the members of every object have distinct names and every number is finite, as in any document read. -/
def isProper : Json → Bool
  | .float x => Decimal.isFinite x
  | .arr items => areProper items
  | .obj members => decide (members.map Prod.fst).Nodup && areProperMembers members
  | .null | .bool _ | .int _ | .str _ => true

/-- Whether all items are proper. -/
def areProper : List Json → Bool
  | [] => true
  | item :: items => isProper item && areProper items

/-- Whether the documents of all members are proper. -/
def areProperMembers : List (String × Json) → Bool
  | [] => true
  | (_, doc) :: members => isProper doc && areProperMembers members

end

theorem areProperMembers_iff {members : List (String × Json)} :
    areProperMembers members = true ↔ ∀ e ∈ members, e.2.isProper = true := by
  induction members with
  | nil => simp [areProperMembers]
  | cons e es ih => simp [areProperMembers, ih]

theorem sameMembers_iff {as bs : List (String × Json)} :
    sameMembers as bs = true ↔ ∀ e ∈ as, ∃ b, Entries.find? e.1 bs = some b ∧ same e.2 b = true := by
  induction as with
  | nil => simp [sameMembers]
  | cons e es ih =>
    rw [sameMembers, Bool.and_eq_true, ih, List.forall_mem_cons, Entries.lookup_eq_find?]
    cases Entries.find? e.1 bs <;> simp

mutual

theorem same_self {a : Json} (h : a.isProper = true) : same a a = true := by
  match a with
  | .null => rfl
  | .bool b => simp [same]
  | .int i => simp [same]
  | .str s => simp [same]
  | .float x =>
    rw [isProper] at h
    rw [same]
    exact Decimal.beq_self_iff.2 (Decimal.isNaN_of_isFinite h)
  | .arr items =>
    rw [isProper] at h
    rw [same]
    exact sameItems_self h
  | .obj members =>
    rw [isProper, Bool.and_eq_true, decide_eq_true_eq] at h
    rw [same, beq_self_eq_true, Bool.true_and, sameMembers_iff]
    intro e he
    exact ⟨e.2, (Entries.find?_eq_some_iff h.1).2 he, sameMembers_self h.2 e he⟩

theorem sameItems_self {items : List Json} (h : areProper items = true) : sameItems items items = true := by
  match items with
  | [] => rfl
  | item :: items =>
    rw [areProper, Bool.and_eq_true] at h
    rw [sameItems, same_self h.1, sameItems_self h.2]
    rfl

theorem sameMembers_self {members : List (String × Json)} (h : areProperMembers members = true) :
    ∀ e ∈ members, same e.2 e.2 = true := by
  match members with
  | [] => simp
  | (name, doc) :: members =>
    rw [areProperMembers, Bool.and_eq_true] at h
    rw [List.forall_mem_cons]
    exact ⟨same_self h.1, sameMembers_self h.2⟩

end

mutual

theorem same_trans {a b c : Json} (hab : same a b = true) (hbc : same b c = true) : same a c = true := by
  match a, b, c with
  | .null, .null, .null => rfl
  | .bool _, .bool _, .bool _ => simp_all [same]
  | .int _, .int _, .int _ => simp_all [same]
  | .str _, .str _, .str _ => simp_all [same]
  | .float _, .float _, .float _ =>
    rw [same] at hab hbc ⊢
    exact Decimal.beq_trans hab hbc
  | .arr _, .arr _, .arr _ =>
    rw [same] at hab hbc ⊢
    exact sameItems_trans hab hbc
  | .obj _, .obj _, .obj _ =>
    rw [same, Bool.and_eq_true, beq_iff_eq] at hab hbc ⊢
    exact ⟨hab.1.trans hbc.1, sameMembers_trans hab.2 hbc.2⟩

theorem sameItems_trans {as bs cs : List Json} (hab : sameItems as bs = true) (hbc : sameItems bs cs = true) :
    sameItems as cs = true := by
  match as, bs, cs with
  | [], [], [] => rfl
  | _ :: _, _ :: _, _ :: _ =>
    rw [sameItems, Bool.and_eq_true] at hab hbc ⊢
    exact ⟨same_trans hab.1 hbc.1, sameItems_trans hab.2 hbc.2⟩

theorem sameMembers_trans {as bs cs : List (String × Json)} (hab : sameMembers as bs = true)
    (hbc : sameMembers bs cs = true) : sameMembers as cs = true := by
  match as with
  | [] => rfl
  | (name, a) :: as =>
    rw [sameMembers_iff, List.forall_mem_cons, ← sameMembers_iff] at hab
    obtain ⟨⟨b, hb, hsame⟩, hab⟩ := hab
    obtain ⟨c, hc, hsame'⟩ := sameMembers_iff.1 hbc _ (Entries.mem_of_find? hb)
    have hrest := sameMembers_trans hab hbc
    rw [sameMembers_iff] at hrest ⊢
    rw [List.forall_mem_cons]
    exact ⟨⟨c, hc, same_trans hsame hsame'⟩, hrest⟩

end

mutual

theorem same_symm {a b : Json} (ha : a.isProper = true) (hb : b.isProper = true) (h : same a b = true) :
    same b a = true := by
  match a, b with
  | .null, .null => rfl
  | .bool _, .bool _ => simp_all [same]
  | .int _, .int _ => simp_all [same]
  | .str _, .str _ => simp_all [same]
  | .float _, .float _ =>
    rw [same] at h ⊢
    exact Decimal.beq_symm h
  | .arr _, .arr _ =>
    rw [isProper] at ha hb
    rw [same] at h ⊢
    exact sameItems_symm ha hb h
  | .obj as, .obj bs =>
    rw [isProper, Bool.and_eq_true, decide_eq_true_eq] at ha hb
    rw [same, Bool.and_eq_true, beq_iff_eq] at h ⊢
    obtain ⟨hlength, hmembers⟩ := h
    have hback := sameMembers_symm ha.2 hb hmembers
    refine ⟨hlength.symm, sameMembers_iff.2 fun f hf => ?_⟩
    -- as many distinct names, and all of them there: the names are the same
    have hnames : as.map Prod.fst ⊆ bs.map Prod.fst := by
      intro name hname
      obtain ⟨e, he, rfl⟩ := List.mem_map.1 hname
      obtain ⟨b, hfind, -⟩ := hback e he
      exact List.mem_map.2 ⟨_, Entries.mem_of_find? hfind, rfl⟩
    have hperm : (as.map Prod.fst).Perm (bs.map Prod.fst) :=
      (ha.1.subperm hnames).perm_of_length_le (by simp [hlength])
    obtain ⟨e, he, hef⟩ := List.mem_map.1 (hperm.mem_iff.2 (List.mem_map_of_mem hf))
    obtain ⟨b, hfind, hsame⟩ := hback e he
    rw [hef, (Entries.find?_eq_some_iff hb.1).2 hf] at hfind
    obtain rfl := Option.some.inj hfind
    exact ⟨e.2, hef ▸ (Entries.find?_eq_some_iff ha.1).2 he, hsame⟩

theorem sameItems_symm {as bs : List Json} (ha : areProper as = true) (hb : areProper bs = true)
    (h : sameItems as bs = true) : sameItems bs as = true := by
  match as, bs with
  | [], [] => rfl
  | _ :: _, _ :: _ =>
    rw [areProper, Bool.and_eq_true] at ha hb
    rw [sameItems, Bool.and_eq_true] at h ⊢
    exact ⟨same_symm ha.1 hb.1 h.1, sameItems_symm ha.2 hb.2 h.2⟩

theorem sameMembers_symm {as bs : List (String × Json)} (ha : areProperMembers as = true)
    (hb : (bs.map Prod.fst).Nodup ∧ areProperMembers bs = true) (h : sameMembers as bs = true) :
    ∀ e ∈ as, ∃ b, Entries.find? e.1 bs = some b ∧ same b e.2 = true := by
  match as with
  | [] => simp
  | (name, a) :: as =>
    rw [areProperMembers, Bool.and_eq_true] at ha
    rw [sameMembers_iff, List.forall_mem_cons, ← sameMembers_iff] at h
    obtain ⟨⟨b, hfind, hsame⟩, hrest⟩ := h
    have hproper := areProperMembers_iff.1 hb.2 _ (Entries.mem_of_find? hfind)
    rw [List.forall_mem_cons]
    exact ⟨⟨b, hfind, same_symm ha.1 hproper hsame⟩, sameMembers_symm ha.2 hb hrest⟩

end

end Json

/-! ### Values -/

namespace Value

mutual

/-- Whether all documents in a value are proper. -/
def isProper : Value → Bool
  | .json doc => doc.isProper
  | .array items => areProper items
  | .null | .bool _ | .int _ | .bigint _ | .double _ | .decimal _ | .text _ | .bytes _ | .default => true

/-- Whether all documents in some values are proper. -/
def areProper : List Value → Bool
  | [] => true
  | item :: items => isProper item && areProper items

end

mutual

theorem same_trans {a b c : Value} (hab : same a b = true) (hbc : same b c = true) : same a c = true := by
  match a, b, c with
  | .null, .null, .null => rfl
  | .default, .default, .default => rfl
  | .bool _, .bool _, .bool _ => simp_all [same]
  | .int _, .int _, .int _ => simp_all [same]
  | .bigint _, .bigint _, .bigint _ => simp_all [same]
  | .decimal _, .decimal _, .decimal _ => simp_all [same]
  | .text _, .text _, .text _ => simp_all [same]
  | .bytes _, .bytes _, .bytes _ => simp_all [same]
  | .double _, .double _, .double _ =>
    rw [same] at hab hbc ⊢
    exact Decimal.beq_trans hab hbc
  | .json _, .json _, .json _ =>
    rw [same] at hab hbc ⊢
    exact Json.same_trans hab hbc
  | .array _, .array _, .array _ =>
    rw [same] at hab hbc ⊢
    exact sameItems_trans hab hbc

theorem sameItems_trans {as bs cs : List Value} (hab : sameItems as bs = true) (hbc : sameItems bs cs = true) :
    sameItems as cs = true := by
  match as, bs, cs with
  | [], [], [] => rfl
  | _ :: _, _ :: _, _ :: _ =>
    rw [sameItems, Bool.and_eq_true] at hab hbc ⊢
    exact ⟨same_trans hab.1 hbc.1, sameItems_trans hab.2 hbc.2⟩

end

mutual

theorem same_symm {a b : Value} (ha : a.isProper = true) (hb : b.isProper = true) (h : same a b = true) :
    same b a = true := by
  match a, b with
  | .null, .null => rfl
  | .default, .default => rfl
  | .bool _, .bool _ => simp_all [same]
  | .int _, .int _ => simp_all [same]
  | .bigint _, .bigint _ => simp_all [same]
  | .decimal _, .decimal _ => simp_all [same]
  | .text _, .text _ => simp_all [same]
  | .bytes _, .bytes _ => simp_all [same]
  | .double _, .double _ =>
    rw [same] at h ⊢
    exact Decimal.beq_symm h
  | .json _, .json _ =>
    rw [isProper] at ha hb
    rw [same] at h ⊢
    exact Json.same_symm ha hb h
  | .array _, .array _ =>
    rw [isProper] at ha hb
    rw [same] at h ⊢
    exact sameItems_symm ha hb h

theorem sameItems_symm {as bs : List Value} (ha : areProper as = true) (hb : areProper bs = true)
    (h : sameItems as bs = true) : sameItems bs as = true := by
  match as, bs with
  | [], [] => rfl
  | _ :: _, _ :: _ =>
    rw [areProper, Bool.and_eq_true] at ha hb
    rw [sameItems, Bool.and_eq_true] at h ⊢
    exact ⟨same_symm ha.1 hb.1 h.1, sameItems_symm ha.2 hb.2 h.2⟩

end

/-! ### Values without a floating-point reading -/

/-- The numeric reading of the value, if it has one, is an integer, and its documents are proper. -/
structure IsExact (v : Value) : Prop where
  number : ∀ x, v.number? ≠ some (.float x)
  proper : v.isProper = true

/-- Equal values have the same reading. -/
theorem number?_eq_of_same {a b : Value} (ha : a.IsExact) (h : same a b = true) : a.number? = b.number? := by
  match a, b with
  | .null, .null | .default, .default | .bool _, .bool _ | .bytes _, .bytes _ | .json _, .json _
  | .array _, .array _ => rfl
  | .int _, .int _ | .bigint _, .bigint _ | .decimal _, .decimal _ | .text _, .text _ => simp_all [same]
  | .double x, .double _ => exact absurd rfl (ha.number x)

/-- Values that cannot be doubles are compared by their readings, or as they are. -/
theorem alike_eq {a b : Value} :
    a.alike b = match a.number?, b.number? with
      | some m, some n => m.equals n
      | _, _ => same a b := by
  unfold alike
  split
  · rfl
  · cases b <;> simp_all [same, number?]
  · cases a <;> simp_all [same, number?]
  · rfl

/-- Values without a floating-point reading are alike when they spell one integer, or are the same. -/
theorem alike_iff {a b : Value} (ha : a.IsExact) (hb : b.IsExact) :
    a.alike b = true ↔
      (∃ n, a.number? = some (.int n) ∧ b.number? = some (.int n)) ∨
        a.number? = none ∧ b.number? = none ∧ same a b = true := by
  rw [alike_eq]
  cases hma : a.number? with
  | none =>
    cases hnb : b.number? with
    | none => simp
    | some n =>
      constructor
      · intro h
        have := number?_eq_of_same ha h
        simp_all
      · simp
  | some m =>
    cases hnb : b.number? with
    | none =>
      constructor
      · intro h
        have := number?_eq_of_same ha h
        simp_all
      · simp
    | some n =>
      cases m with
      | float x => exact absurd hma (ha.number x)
      | int m =>
        cases n with
        | float x => exact absurd hnb (hb.number x)
        | int n =>
          have hequals : (Number.int m).equals (.int n) = true ↔ m = n := beq_iff_eq
          simp [hequals, eq_comm (a := n)]

theorem alike_symm {a b : Value} (ha : a.IsExact) (hb : b.IsExact) (h : a.alike b = true) : b.alike a = true := by
  rw [alike_iff ha hb] at h
  rw [alike_iff hb ha]
  rcases h with ⟨n, hna, hnb⟩ | ⟨hna, hnb, h⟩
  · exact .inl ⟨n, hnb, hna⟩
  · exact .inr ⟨hnb, hna, same_symm ha.proper hb.proper h⟩

theorem alike_trans {a b c : Value} (ha : a.IsExact) (hb : b.IsExact) (hc : c.IsExact) (hab : a.alike b = true)
    (hbc : b.alike c = true) : a.alike c = true := by
  rw [alike_iff ha hb] at hab
  rw [alike_iff hb hc] at hbc
  rw [alike_iff ha hc]
  rcases hab with ⟨m, hma, hmb⟩ | ⟨hna, hnb, hab⟩
  · rcases hbc with ⟨n, hnb, hnc⟩ | ⟨hnb, -, -⟩
    · have hmn : m = n := by simpa [hmb] using hnb
      exact .inl ⟨m, hma, hmn ▸ hnc⟩
    · simp [hmb] at hnb
  · rcases hbc with ⟨n, hn, -⟩ | ⟨-, hnc, hbc⟩
    · simp [hnb] at hn
    · exact .inr ⟨hna, hnc, same_trans hab hbc⟩

/-- A value that a column can hold is alike to itself. -/
theorem alike_self {v : Value} (h : v.IsExact) (hscalar : v.isScalar = true) : v.alike v = true := by
  rw [alike_iff h h]
  cases hv : v.number? with
  | some n =>
    cases n with
    | float x => exact absurd hv (h.number x)
    | int n => exact .inl ⟨n, rfl, rfl⟩
  | none =>
    refine .inr ⟨rfl, rfl, ?_⟩
    cases v with
    | double x => cases hv
    | array _ | default => cases hscalar
    | json doc =>
      rw [same]
      exact Json.same_self (by simpa [isProper] using h.proper)
    | null | bool _ | int _ | bigint _ | decimal _ | text _ | bytes _ => simp [same]

end Value

end RecordMapper
