import RecordMapper.Decimal.Binary64

/-!
# The shortest digits of a double

The reals that round to a positive double form an interval around it, its ends included when the mantissa is even.
`shortest` is a decimal in that interval with as few digits as possible, and of those with that many digits the one
nearest to the double. All comparisons are between natural numbers.
-/

namespace RecordMapper.Decimal

/-- Which decimal is taken when two are equally near. -/
inductive Tie where
  /-- The larger one. -/
  | up
  /-- The one with an even last digit. -/
  | even
  deriving DecidableEq, Repr

/-- The number `0.d₁d₂… · 10 ^ point`, its last digit not being zero. -/
structure Scientific where
  digits : List Char
  point : Int
  deriving DecidableEq, Repr

/--
The reals that round to a double, as multiples of `2 ^ -1076`: the double itself, the ends of the interval, and
whether the ends belong to it.
-/
structure Rounding where
  value : Nat
  low : Nat
  high : Nat
  closed : Bool
  deriving DecidableEq, Repr

/-- The interval of a double; below a power of two the neighbour is half as far. -/
def Binary64.rounding (x : Binary64) : Rounding :=
  let unit := twoTo x.exponent
  let below := if x.mantissa = twoTo 52 ∧ 0 < x.exponent then unit else 2 * unit
  { value := 4 * x.mantissa * unit
    low := 4 * x.mantissa * unit - below
    high := 4 * x.mantissa * unit + 2 * unit
    closed := x.mantissa % 2 = 0 }

namespace Rounding

/-- The multiples of `2 ^ -1076` in one. -/
def scale : Nat := twoTo 1076

/-- The number of digits before the decimal point, or less the zeros after it:
`10 ^ (point - 1) ≤ value < 10 ^ point`. -/
def point (r : Rounding) : Int :=
  if scale ≤ r.value then digitCount (r.value / scale)
  else 1 - (digitCount ((scale + r.value - 1) / r.value - 1) : Int)

/-- Whether `candidate · den` lies in the interval scaled by `factor`. -/
def admits (r : Rounding) (factor den candidate : Nat) : Bool :=
  if r.closed then r.low * factor ≤ candidate * den && candidate * den ≤ r.high * factor
  else r.low * factor < candidate * den && candidate * den < r.high * factor

/-- A multiple of `10 ^ (point - n)` in the interval, if there is one: of the two next to the double, the nearer. -/
def onGrid? (r : Rounding) (tie : Tie) (n : Nat) : Option Nat :=
  let step := r.point - n
  let factor := tenTo (-step).toNat
  let den := scale * tenTo step.toNat
  let below := r.value * factor / den
  let rest := r.value * factor % den
  match r.admits factor den below, r.admits factor den (below + 1) with
  | true, false => some below
  | false, true => some (below + 1)
  | false, false => none
  | true, true =>
    if 2 * rest < den then some below
    else if den < 2 * rest then some (below + 1)
    else match tie with
      | .up => some (below + 1)
      | .even => some (if below % 2 = 0 then below else below + 1)

/-- The first grid of 1, 2, … 17 digits that meets the interval, and its point there. -/
def shortest (r : Rounding) (tie : Tie) : Scientific :=
  let found := (List.range' 1 17).findSome? fun n => (r.onGrid? tie n).map fun c => (n, c)
  match found with
  | none => ⟨[], 0⟩
  | some (n, c) =>
    let ds := Nat.toDigits 10 c
    ⟨(ds.reverse.dropWhile (· == '0')).reverse, r.point + (ds.length - n : Int)⟩

end Rounding

/-- The shortest digits of a positive double. -/
def Binary64.shortest (x : Binary64) (tie : Tie) : Scientific :=
  x.rounding.shortest tie

end RecordMapper.Decimal
