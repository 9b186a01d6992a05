import RecordMapper.Decimal.Power

/-!
# Binary floating point, exactly

A positive double is `mantissa · 2 ^ exponent` in units of `2 ^ -1074`, and its bits are that mantissa and exponent
packed side by side. `nearest` rounds a quotient of natural numbers to a double, a half going to the even neighbour;
`ofDecimal` is the double nearest to a decimal number.
-/

namespace RecordMapper.Decimal

/-- A positive finite double: `mantissa · 2 ^ exponent` units of `2 ^ -1074`. -/
structure Binary64 where
  mantissa : Nat
  exponent : Nat
  deriving DecidableEq, Repr

namespace Binary64

/-- The bits of positive infinity. -/
def infinityBits : Nat := 2047 * twoTo 52

/-- The bits of a double below infinity, the sign being positive. -/
def bits (x : Binary64) : Nat :=
  x.exponent * twoTo 52 + x.mantissa

/-- The double that bits below `infinityBits` stand for. -/
def ofBits (b : Nat) : Binary64 :=
  if b < twoTo 52 then ⟨b, 0⟩ else ⟨b % twoTo 52 + twoTo 52, b / twoTo 52 - 1⟩

/-- The quotient rounded to a whole number, a half going to the even neighbour. -/
def divNearest (num den : Nat) : Nat :=
  let q := num / den
  let r := num % den
  if 2 * r < den then q
  else if den < 2 * r then q + 1
  else if q % 2 = 0 then q else q + 1

/-- The bits of the double nearest to `num / den`: a mantissa of 53 bits, or fewer at the lowest exponent. -/
def nearestBits (num den : Nat) : Nat :=
  let units := num * twoTo 1074
  let exponent := Nat.log2 (units / den) - 52
  min infinityBits (exponent * twoTo 52 + divNearest units (den * twoTo exponent))

end Binary64

/-- The double with the given bits, negated if asked. -/
def ofMagnitudeBits (negative : Bool) (b : Nat) : Float :=
  Float.ofBits (UInt64.ofNat (if negative then b + twoTo 63 else b))

/-- The sign bit of a double. -/
def isNegative (x : Float) : Bool :=
  twoTo 63 ≤ x.toBits.toNat

/-- The bits of a double without its sign. -/
def magnitudeBits (x : Float) : Nat :=
  x.toBits.toNat % twoTo 63

/-- Neither an infinity nor a NaN. -/
def isFinite (x : Float) : Bool :=
  magnitudeBits x < Binary64.infinityBits

/-- A NaN. -/
def isNaN (x : Float) : Bool :=
  Binary64.infinityBits < magnitudeBits x

/-- The number of decimal digits of a number, none for zero. -/
def digitCount (n : Nat) : Nat :=
  if n = 0 then 0 else (Nat.toDigits 10 n).length

/--
The double nearest to `± coefficient · 10 ^ exponent`. Numbers past `10 ^ 310` are infinite and those below `10 ^ -330`
are zero, so a power of ten is only formed where it is small.
-/
def ofDecimal (negative : Bool) (coefficient : Nat) (exponent : Int) : Float :=
  let scale := exponent + digitCount coefficient
  ofMagnitudeBits negative <|
    if coefficient = 0 ∨ scale < -330 then 0
    else if 310 < scale then Binary64.infinityBits
    else if 0 ≤ exponent then Binary64.nearestBits (coefficient * tenTo exponent.toNat) 1
    else Binary64.nearestBits coefficient (tenTo (-exponent).toNat)

/-- The double nearest to an integer. -/
def ofInt (i : Int) : Float :=
  ofMagnitudeBits (i < 0) (Binary64.nearestBits i.natAbs 1)

/-- The whole number that a finite double stands for, if it has no fraction. -/
def wholeNumber? (x : Float) : Option Int :=
  if isFinite x then
    let b := Binary64.ofBits (magnitudeBits x)
    let units := b.mantissa * twoTo b.exponent
    if units % twoTo 1074 = 0 then
      let n : Int := units / twoTo 1074
      some (if isNegative x then -n else n)
    else none
  else none

/-- The whole number next to a finite double on the side of zero. -/
def truncated (x : Float) : Int :=
  let b := Binary64.ofBits (magnitudeBits x)
  let n : Int := b.mantissa * twoTo b.exponent / twoTo 1074
  if isNegative x then -n else n

end RecordMapper.Decimal
