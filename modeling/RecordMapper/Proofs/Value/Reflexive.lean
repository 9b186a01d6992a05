import RecordMapper.Proofs.Decimal.Numeral
import RecordMapper.Proofs.Value.Alike

/-!
# Values that are alike to themselves

A NaN equals nothing, not even itself, so a value with a NaN in it always differs from its snapshot.  No other value
does (`Value.alike_self_of_withoutNaN`), not even a text that reads as a double: what such a text spells is never a NaN
(`Number.isNaN_of_read?`).
-/

namespace RecordMapper

/-! ### Doubles -/

namespace Decimal

/-- A double whose bits, without the sign, are at most those of infinity is no NaN. -/
private theorem isNaN_ofBits {u : UInt64} (h : u.toNat % twoTo 63 ≤ Binary64.infinityBits) :
    isNaN (Float.ofBits u) = false := by
  have hu : Float.Model.UnpackedFloat.unpack .binary64 u.toBitVec ≠ .notANumber :=
    fun hnan => Nat.not_lt.2 h (unpack_toBitVec_eq_notANumber_iff.1 hnan)
  rw [isNaN, decide_eq_false_iff_not]
  exact fun hlt => unpack_pack_ne_notANumber hu (unpack_toBitVec_eq_notANumber_iff.2 hlt)

theorem isNaN_ofMagnitudeBits {negative : Bool} {b : Nat} (h : b ≤ Binary64.infinityBits) :
    isNaN (ofMagnitudeBits negative b) = false := by
  have hinfinity : Binary64.infinityBits = 2047 * 2 ^ 52 := rfl
  have hsign : twoTo 63 = 2 ^ 63 := rfl
  refine isNaN_ofBits ?_
  rw [UInt64.toNat_ofNat', hsign]
  cases negative
  · rw [if_neg Bool.false_ne_true]
    omega
  · rw [if_pos rfl]
    omega

/-- The double nearest to a decimal number is a number. -/
theorem isNaN_ofDecimal (negative : Bool) (coefficient : Nat) (exponent : Int) :
    isNaN (ofDecimal negative coefficient exponent) = false := by
  have hnearest (num den : Nat) : Binary64.nearestBits num den ≤ Binary64.infinityBits := Nat.min_le_left ..
  unfold ofDecimal
  refine isNaN_ofMagnitudeBits ?_
  split
  · exact Nat.zero_le _
  · split
    · exact Nat.le_refl _
    · split <;> exact hnearest ..

end Decimal

/-- A text never reads as a NaN. -/
theorem Number.isNaN_of_read? {s : String} {x : Float} (h : Number.read? s = some (.float x)) :
    Decimal.isNaN x = false := by
  obtain ⟨n, negative, rfl⟩ := Decimal.exists_numeral_of_read h
  exact Decimal.isNaN_ofDecimal negative n.coefficient n.exponent

/-! ### Values -/

namespace Value

mutual

/-- Whether there is no NaN in a value, and the documents in it are proper. -/
def withoutNaN : Value → Bool
  | .double x => !Decimal.isNaN x
  | .json doc => doc.isProper
  | .array items => allWithoutNaN items
  | .null | .bool _ | .int _ | .bigint _ | .decimal _ | .text _ | .bytes _ | .default => true

/-- Whether there is no NaN in any of some values. -/
def allWithoutNaN : List Value → Bool
  | [] => true
  | item :: items => withoutNaN item && allWithoutNaN items

end

mutual

theorem same_self {v : Value} (h : v.withoutNaN = true) : same v v = true := by
  match v with
  | .null | .default => rfl
  | .bool _ | .int _ | .bigint _ | .decimal _ | .text _ | .bytes _ => simp [same]
  | .double x =>
    rw [withoutNaN, Bool.not_eq_true'] at h
    rw [same]
    exact Decimal.beq_self_iff.2 h
  | .json doc =>
    rw [withoutNaN] at h
    rw [same]
    exact Json.same_self h
  | .array items =>
    rw [withoutNaN] at h
    rw [same]
    exact sameItems_self h

theorem sameItems_self {items : List Value} (h : allWithoutNaN items = true) : sameItems items items = true := by
  match items with
  | [] => rfl
  | item :: items =>
    rw [allWithoutNaN, Bool.and_eq_true] at h
    rw [sameItems, same_self h.1, sameItems_self h.2]
    rfl

end

/-- The reading of a value without NaN equals itself. -/
theorem equals_self_of_number? {v : Value} (h : v.withoutNaN = true) {n : Number} (hn : v.number? = some n) :
    n.equals n = true := by
  have hread {s : String} (hs : Number.read? s = some n) : n.equals n = true := by
    cases n with
    | int n => exact beq_self_eq_true n
    | float x => exact Decimal.beq_self_iff.2 (Number.isNaN_of_read? hs)
  cases v with
  | null | bool _ | bytes _ | json _ | array _ | default => exact nomatch hn
  | int i =>
    obtain rfl := Option.some.inj hn
    exact beq_self_eq_true i.toInt64
  | bigint i =>
    obtain rfl := Option.some.inj hn
    exact beq_self_eq_true i
  | double x =>
    obtain rfl := Option.some.inj hn
    rw [withoutNaN, Bool.not_eq_true'] at h
    exact Decimal.beq_self_iff.2 h
  | decimal s | text s => exact hread hn

/-- A value without NaN is alike to itself. -/
theorem alike_self_of_withoutNaN {v : Value} (h : v.withoutNaN = true) : v.alike v = true := by
  rw [alike_eq]
  cases hn : v.number? with
  | none => exact same_self h
  | some n => exact equals_self_of_number? h hn

end Value

end RecordMapper
