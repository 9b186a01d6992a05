import RecordMapper.Decimal.Binary64
import RecordMapper.Decimal.Integer

/-!
# Pairs of doubles

A number of some thirty digits as the sum of two doubles, the second one much smaller than the first. Between decimal
notation and doubles a number is scaled in such a pair by powers of ten. The result is nearly always the nearest double,
and where it is not, it is the one that SQLite reads.
-/

namespace RecordMapper.Sqlite

open Decimal

/-- The sum of a double and a much smaller one. -/
structure DoublePair where
  high : Float
  low : Float

namespace DoublePair

/-- The upper half of the digits of a double. -/
def upperHalf (x : Float) : Float := Float.ofBits (x.toBits &&& 0xfffffffffc000000)

/-- The product of two pairs, without the product of their lower parts. -/
def mul (x y : DoublePair) : DoublePair :=
  let hx := upperHalf x.high
  let tx := x.high - hx
  let hy := upperHalf y.high
  let ty := y.high - hy
  let p := hx * hy
  let q := hx * ty + tx * hy
  let c := p + q
  let cc := x.high * y.low + x.low * y.high + (p - c + q + tx * ty)
  let high := c + cc
  { high, low := c - high + cc }

/-- `10 ^ 100`. -/
def tenTo100 : DoublePair := ⟨1.0e+100, -1.5902891109759918046e+83⟩

/-- `10 ^ 10`. -/
def tenTo10 : DoublePair := ⟨1.0e+10, 0.0⟩

/-- `10`. -/
def tenTo1 : DoublePair := ⟨1.0e+01, 0.0⟩

/-- `10 ^ -100`. -/
def tenToMinus100 : DoublePair := ⟨1.0e-100, -1.99918998026028836196e-117⟩

/-- `10 ^ -10`. -/
def tenToMinus10 : DoublePair := ⟨1.0e-10, -3.6432197315497741579e-27⟩

/-- `10 ^ -1`. -/
def tenToMinus1 : DoublePair := ⟨1.0e-01, -5.5511151231257827021e-18⟩

/-- A pair multiplied by the same factor some times. -/
def times (factor : DoublePair) (n : Nat) (x : DoublePair) : DoublePair :=
  n.repeat (fun x => x.mul factor) x

/-- A pair scaled by a power of ten, in steps of hundreds, tens and ones. -/
def scaled (x : DoublePair) (exponent : Int) : DoublePair :=
  let n := exponent.natAbs
  let inSteps (hundred ten one : DoublePair) : DoublePair :=
    times one (n % 10) (times ten (n % 100 / 10) (times hundred (n / 100) x))
  if exponent < 0 then inSteps tenToMinus100 tenToMinus10 tenToMinus1 else inSteps tenTo100 tenTo10 tenTo1

/-- A number of 64 bits. -/
def ofNat (n : Nat) : DoublePair :=
  let high := ofInt n
  { high, low := if high ≤ 18446744073709549568.0 then ofInt (n - truncated high) else 0.0 }

/-- The pair as one double; what is too large is infinite. -/
def toFloat (x : DoublePair) : Float :=
  let sum := x.high + x.low
  if isNaN sum then ofMagnitudeBits false Binary64.infinityBits else sum

/-- The whole number next to the pair, both parts being cut off. -/
def truncate (x : DoublePair) : Nat :=
  (truncated x.high + truncated x.low).toNat

end DoublePair

/-! ### From decimal notation -/

/-- The largest significand that has room for one more digit in 64 bits. -/
def fullSignificand : Nat := 0xFFFFFFFFFFFFFFF6 / 10

/-- The largest significand that is multiplied by ten before it is scaled. -/
def wideSignificand : Nat := 0xFFFFFFFFFFFFF800 / 10

/-- A significand and a number of powers of ten, brought closer to each other; the fuel is the number of steps. -/
def balanced : Nat → Nat → Int → Nat × Int
  | 0, s, e => (s, e)
  | fuel + 1, s, e =>
    if 0 < e ∧ s < wideSignificand then balanced fuel (s * 10) (e - 1)
    else if e < 0 ∧ s % 10 = 0 then balanced fuel (s / 10) (e + 1)
    else (s, e)

/-- The double that a significand of 64 bits and an exponent of ten are read as. -/
def doubleOf (significand : Nat) (exponent : Int) : Float :=
  if significand = 0 then 0.0
  else
    let (s, e) := balanced 20 significand exponent
    ((DoublePair.ofNat s).scaled e).toFloat

/-- The significand of the digits of a whole number, and how many digits do not fit it. -/
def wholeSignificand : Nat → List Nat → Nat × Nat
  | s, [] => (s, 0)
  | s, d :: ds =>
    let s := s * 10 + d
    if fullSignificand ≤ s then (s, ds.length) else wholeSignificand s ds

/-- The significand with the digits of a fraction behind it, and how many digits found room. -/
def fractionSignificand (s : Nat) (ds : List Nat) : Nat × Nat :=
  ds.foldl (fun (s, n) d => if s < fullSignificand then (s * 10 + d, n + 1) else (s, n)) (s, 0)

/-- The value of the digits of an exponent; all large ones are much the same. -/
def exponentValue (ds : List Nat) : Nat :=
  ds.foldl (fun e d => if e < 10000 then e * 10 + d else 10000) 0

/-- The double that a decimal numeral is read as. -/
def readDouble (whole fraction : List Nat) (exponent : Int) : Float :=
  let (s, beyond) := wholeSignificand 0 whole
  let (s, places) := fractionSignificand s fraction
  doubleOf s (exponent + beyond - places)

/-! ### To decimal notation -/

/-- The digits of a positive number and the place of the point among them. -/
structure DecimalDigits where
  digits : List Nat
  point : Int
  deriving Repr

namespace DecimalDigits

/-- Scales a pair down while it is above a bound, and counts the powers of ten. -/
def lowered (factor : DoublePair) (power : Int) (bound : Float) : Nat → DoublePair → Int → DoublePair × Int
  | 0, x, e => (x, e)
  | fuel + 1, x, e => if x.high > bound then lowered factor power bound fuel (x.mul factor) (e + power) else (x, e)

/-- Scales a pair up while it is below a bound, and counts the powers of ten. -/
def raised (factor : DoublePair) (power : Int) (bound : Float) : Nat → DoublePair → Int → DoublePair × Int
  | 0, x, e => (x, e)
  | fuel + 1, x, e => if x.high < bound then raised factor power bound fuel (x.mul factor) (e - power) else (x, e)

/-- All digits, up to nineteen, that a positive finite double is written with. -/
def ofFloat (x : Float) : DecimalDigits :=
  let x : DoublePair := ⟨x, 0.0⟩
  let (x, e) :=
    if x.high > 9.223372036854774784e+18 then
      let (x, e) := lowered DoublePair.tenToMinus100 100 9.223372036854774784e+118 4 x 0
      let (x, e) := lowered DoublePair.tenToMinus10 10 9.223372036854774784e+28 12 x e
      lowered DoublePair.tenToMinus1 1 9.223372036854774784e+18 12 x e
    else
      let (x, e) := raised DoublePair.tenTo100 100 9.223372036854774784e-83 5 x 0
      let (x, e) := raised DoublePair.tenTo10 10 9.223372036854774784e+07 12 x e
      raised DoublePair.tenTo1 1 9.22337203685477478e+17 12 x e
  let ds := Decimal.digits x.truncate
  { digits := ds.map Text.digitValue, point := ds.length + e }

/-- The digits cut to a number of them, a half going up. -/
def cutTo (d : DecimalDigits) (n : Nat) : DecimalDigits :=
  let kept := d.digits.take n
  if 5 ≤ d.digits.getD n 0 then
    let up := (Decimal.digits (kept.foldl (fun m k => m * 10 + k) 0 + 1)).map Text.digitValue
    if up.length ≤ n then { d with digits := List.replicate (n - up.length) 0 ++ up }
    else { digits := up, point := d.point + 1 }
  else { d with digits := kept }

/-- The digits without zeros at the end. -/
def trimmed (d : DecimalDigits) : DecimalDigits :=
  { d with digits := (d.digits.reverse.dropWhile (· == 0)).reverse }

/-- The digits rounded to a number of significant ones. -/
def significant (d : DecimalDigits) (n : Nat) : DecimalDigits :=
  (if n < d.digits.length then d.cutTo n else d).trimmed

/-- The digits rounded to a number of places after the point. -/
def places (d : DecimalDigits) (n : Nat) : DecimalDigits :=
  let count := d.point + n
  let (count, d) : Int × DecimalDigits :=
    if count = 0 ∧ 5 ≤ d.digits.headD 0 then (1, { digits := 0 :: d.digits, point := d.point + 1 }) else (count, d)
  (if 0 < count ∧ count < d.digits.length then d.cutTo count.toNat else d).trimmed

/-- The digit at a place, counted from the first one; zero before and behind the digits. -/
def digitAt (d : DecimalDigits) (i : Int) : Nat :=
  if i < 0 then 0 else d.digits.getD i.toNat 0

/-- The digits before the point, and some places after it. -/
def positional (d : DecimalDigits) (places : Nat) : List Nat × List Nat :=
  let whole := if d.point ≤ 0 then [0] else (List.range d.point.toNat).map fun (i : Nat) => d.digitAt i
  (whole, (List.range places).map fun (i : Nat) => d.digitAt (d.point + i))

end DecimalDigits

end RecordMapper.Sqlite
