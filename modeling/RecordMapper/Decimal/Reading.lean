import RecordMapper.Decimal.Binary64
import RecordMapper.Decimal.Integer

/-!
# Reading doubles

A decimal numeral has digits with at most one point among or around them, and perhaps an exponent. Its double is the
nearest one; the names of the infinities and of NaN are read as well, in any case.
-/

namespace RecordMapper.Decimal

open RecordMapper.Text

/-- A decimal numeral `coefficient · 10 ^ exponent`. -/
structure Numeral where
  coefficient : Nat
  exponent : Int
  deriving DecidableEq, Repr

/-- Reads an exponent: `e` or `E`, an optional sign, digits. Nothing at all is the exponent 0. -/
def readExponent? : List Char → Option Int
  | [] => some 0
  | e :: cs =>
    if e = 'e' ∨ e = 'E' then
      match cs with
      | '-' :: ds => (readDigits? ds).map fun n => -(n : Int)
      | '+' :: ds => (readDigits? ds).map Int.ofNat
      | ds => (readDigits? ds).map Int.ofNat
    else none

/-- Reads a numeral without sign. -/
def readNumeral? (cs : List Char) : Option Numeral :=
  let whole := cs.takeWhile isAsciiDigit
  match cs.dropWhile isAsciiDigit with
  | '.' :: rest =>
    let fraction := rest.takeWhile isAsciiDigit
    if whole = [] ∧ fraction = [] then none
    else
      (readExponent? (rest.dropWhile isAsciiDigit)).map fun e =>
        ⟨value (whole ++ fraction), e - fraction.length⟩
  | rest => if whole = [] then none else (readExponent? rest).map fun e => ⟨value whole, e⟩

/-- The double nearest to a numeral. -/
def Numeral.toFloat (n : Numeral) (negative : Bool) : Float :=
  ofDecimal negative n.coefficient n.exponent

/-- The bits of the NaN that texts stand for. -/
def nanBits : Nat := 0x7FF8000000000000

/-- Reads a double without sign. -/
def readUnsignedFloat? (negative : Bool) (cs : List Char) : Option Float :=
  match readNumeral? cs with
  | some n => some (n.toFloat negative)
  | none =>
    let word := String.ofList (cs.map Char.toLower)
    if word = "inf" ∨ word = "infinity" then some (ofMagnitudeBits negative Binary64.infinityBits)
    else if word = "nan" then some (ofMagnitudeBits negative nanBits)
    else none

/-- Reads a double: an optional sign, then a numeral or a name. -/
def readFloat? : List Char → Option Float
  | '-' :: cs => readUnsignedFloat? true cs
  | '+' :: cs => readUnsignedFloat? false cs
  | cs => readUnsignedFloat? false cs

end RecordMapper.Decimal
