import RecordMapper.Decimal.Shortest
import RecordMapper.Decimal.Integer

/-!
# The text of a double

A `Layout` says how the shortest digits of a double are set: from which exponents on they are written with `e`,
and whether a whole number keeps its fraction. Values shown in SQL and in keys use `Layout.plain`, JSON uses
`Layout.json`.
-/

namespace RecordMapper.Decimal

/-- The decisions of a format for doubles. -/
structure Layout where
  tie : Tie
  /-- Whether `.0` is kept at whole numbers. -/
  keepsFraction : Bool
  /-- The exponents of scientific notation that are still written without it; `none` if all are. -/
  positional : Option (Int × Int)
  deriving Repr

/-- Never an exponent and no fraction at whole numbers. -/
def Layout.plain : Layout :=
  { tie := .up, keepsFraction := false, positional := none }

/-- From `10 ^ 16` on and below `10 ^ -5` with an exponent, and always a fraction without one. -/
def Layout.json : Layout :=
  { tie := .even, keepsFraction := true, positional := some (-5, 15) }

namespace Scientific

/-- Digits around a decimal point, zeros filling the places up to it. -/
def positional (s : Scientific) (keepsFraction : Bool) : List Char :=
  if s.point ≤ 0 then '0' :: '.' :: (List.replicate (-s.point).toNat '0' ++ s.digits)
  else
    let n := s.point.toNat
    if s.digits.length ≤ n then
      s.digits ++ List.replicate (n - s.digits.length) '0' ++ (if keepsFraction then ['.', '0'] else [])
    else s.digits.take n ++ '.' :: s.digits.drop n

/-- One digit, the rest as its fraction, and the exponent with its sign. -/
def withExponent (s : Scientific) : List Char :=
  let e := s.point - 1
  let power := 'e' :: (if e < 0 then '-' else '+') :: Decimal.digits e.natAbs
  match s.digits with
  | [] => power
  | [d] => d :: power
  | d :: ds => d :: '.' :: (ds ++ power)

/-- The digits set as the layout asks. -/
def layOut (s : Scientific) (layout : Layout) : List Char :=
  match layout.positional with
  | none => s.positional layout.keepsFraction
  | some (low, high) =>
    if low ≤ s.point - 1 ∧ s.point - 1 ≤ high then s.positional layout.keepsFraction else s.withExponent

end Scientific

/-- The text of a finite double. -/
def Layout.finiteText (layout : Layout) (x : Float) : String :=
  let b := magnitudeBits x
  let sign := if isNegative x then "-" else ""
  if b = 0 then sign ++ (if layout.keepsFraction then "0.0" else "0")
  else sign ++ String.ofList (((Binary64.ofBits b).shortest layout.tie).layOut layout)

/-- The plain text of any double. -/
def plainText (x : Float) : String :=
  if isFinite x then Layout.plain.finiteText x
  else if isNaN x then "NaN"
  else if isNegative x then "-inf"
  else "inf"

end RecordMapper.Decimal
