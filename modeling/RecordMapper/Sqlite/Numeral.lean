import RecordMapper.Decimal.Reading
import RecordMapper.Sqlite.Datum
import RecordMapper.Sqlite.DoublePair

/-!
# Numbers in texts

What number a text starts with, and how far it goes: a text can be a number as a whole, up to blanks around it, or in
its first part only. Doubles are written with fifteen digits at most, or with all digits that there are.
-/

namespace RecordMapper.Sqlite

open Decimal Text

/-- The blanks around numbers. -/
def isSpace (c : Char) : Bool :=
  c == ' ' || ('\t' ≤ c && c ≤ '\r')

/-- Bytes as the characters of the same numbers; all of a numeral is ASCII. -/
def asciiChars (s : Bytes) : List Char :=
  s.map fun b => Char.ofNat b.toNat

/-- How much of a text is a number. -/
inductive Extent where
  /-- Nothing that looks like more than an integer. -/
  | none
  /-- The first part, with a point or an exponent. -/
  | leading
  /-- The whole text, digits only. -/
  | integer
  /-- The whole text, with a point or an exponent. -/
  | real
  deriving DecidableEq, Repr

/-- The number at the start of a text. -/
structure Numeral where
  negative : Bool
  whole : List Char
  fraction : List Char
  exponent : Int
  extent : Extent
  /-- Whether only blanks follow the digits before the point. -/
  endsAfterWhole : Bool

namespace Numeral

/-- The sign at the start of a text. -/
def sign : List Char → Bool × List Char
  | '-' :: cs => (true, cs)
  | '+' :: cs => (false, cs)
  | cs => (false, cs)

/-- The exponent at the start of a text: whether its letter is there, its value if it has digits, and the rest. -/
def exponentOf (cs : List Char) : Bool × Option Int × List Char :=
  match cs with
  | e :: cs =>
    if e = 'e' ∨ e = 'E' then
      let (negative, ds) := sign cs
      let digits := ds.takeWhile isAsciiDigit
      let n : Int := exponentValue (digits.map digitValue)
      (true, if digits = [] then Option.none else some (if negative then -n else n), ds.dropWhile isAsciiDigit)
    else (false, Option.none, e :: cs)
  | [] => (false, Option.none, [])

/-- The number that a text starts with. -/
def ofChars (cs : List Char) : Numeral :=
  let (negative, cs) := sign (cs.dropWhile isSpace)
  let whole := cs.takeWhile isAsciiDigit
  let afterWhole := cs.dropWhile isAsciiDigit
  let point := afterWhole.head? = some '.'
  let cs := if point then afterWhole.drop 1 else afterWhole
  let fraction := if point then cs.takeWhile isAsciiDigit else []
  let (letter, exponent, rest) := exponentOf (if point then cs.dropWhile isAsciiDigit else cs)
  let well := !letter || exponent.isSome
  let some := !(whole.isEmpty && fraction.isEmpty)
  { negative, whole, fraction
    exponent := exponent.getD 0
    extent :=
      if rest.all isSpace && some && well then if point || letter then .real else .integer
      else if some && (point && letter || (point || letter) && well) then .leading
      else .none
    endsAfterWhole := afterWhole.all isSpace }

/-- The double that the number is read as, zero if there is none. -/
def toFloat (n : Numeral) : Float :=
  let x := readDouble (n.whole.map digitValue) (n.fraction.map digitValue) n.exponent
  if n.negative then -x else x

/-- The integer before the point, zero if there is none. -/
def toInt (n : Numeral) : Int :=
  let i : Int := Decimal.value n.whole
  if n.negative then -i else i

end Numeral

/-- Whether an integer fits a word of 64 bits. -/
def fitsWord (i : Int) : Bool :=
  -0x8000000000000000 ≤ i && i < 0x8000000000000000

/-- The nearest integer of 64 bits. -/
def clamped (i : Int) : Int64 :=
  Int64.ofInt (max (-0x8000000000000000) (min 0x7FFFFFFFFFFFFFFF i))

/-- A double cut to an integer. -/
def clampedReal (x : Float) : Int64 :=
  if isFinite x then clamped (truncated x)
  else if isNegative x then Int64.minValue else Int64.maxValue

/-- The integer that a double is, unless it is the first or the last one. -/
def exactInt? (x : Float) : Option Int64 :=
  let n := clampedReal x
  if compareIntReal n x == .eq && n != Int64.minValue && n != Int64.maxValue then some n else none

/-- The number that a whole text is; one without a fraction is an integer if it fits. -/
def wholeNumber? (s : Bytes) : Option Datum :=
  let n := Numeral.ofChars (asciiChars s)
  match n.extent with
  | .integer => some (if fitsWord n.toInt then .int (Int64.ofInt n.toInt) else .real n.toFloat)
  | .real => some (.real n.toFloat)
  | _ => none

/-- The number that a text starts with, as arithmetic takes it. -/
def leadingNumber (s : Bytes) : Datum :=
  let n := Numeral.ofChars (asciiChars s)
  match n.extent with
  | .real | .leading => .real n.toFloat
  | _ => if fitsWord n.toInt then .int (Int64.ofInt n.toInt) else .real n.toFloat

/-- The integer that a text starts with. -/
def leadingInt (s : Bytes) : Int64 :=
  clamped (Numeral.ofChars (asciiChars s)).toInt

/-- The double that a text starts with. -/
def leadingReal (s : Bytes) : Float :=
  (Numeral.ofChars (asciiChars s)).toFloat

/-! ### Writing -/

/-- Digits as characters. -/
def digitChars (ds : List Nat) : List Char :=
  ds.map fun d => Char.ofNat ('0'.toNat + d)

/-- The digits of a fraction without zeros at the end, one at least. -/
def fractionChars (ds : List Nat) : List Char :=
  match (ds.reverse.dropWhile (· == 0)).reverse with
  | [] => ['0']
  | ds => digitChars ds

/-- A number with one digit before the point and an exponent of two digits or more. -/
def DecimalDigits.scientific (d : DecimalDigits) : List Char :=
  let e := d.point - 1
  let power := Decimal.digits e.natAbs
  digitChars (d.digits.take 1) ++ '.' :: fractionChars (d.digits.drop 1) ++ 'e' :: (if e < 0 then '-' else '+') ::
    (if power.length < 2 then '0' :: power else power)

/-- A number with a point among or in front of its digits, and at most some places after it. -/
def DecimalDigits.plain (d : DecimalDigits) (places : Nat) : List Char :=
  let (whole, fraction) := d.positional places
  digitChars whole ++ '.' :: fractionChars fraction

/-- The text of a double in a notation for positive finite ones. -/
def signedText (x : Float) (write : DecimalDigits → List Char) : String :=
  let mark := if x < 0 then "-" else ""
  if !isFinite x then mark ++ "Inf"
  else if magnitudeBits x = 0 then "0.0"
  else mark ++ String.ofList (write (DecimalDigits.ofFloat x.abs))

/-- The text of a double: fifteen digits without zeros at the end, with an exponent from `10 ^ 15` on and below
`10 ^ -4`. -/
def realText (x : Float) : String :=
  signedText x fun d =>
    let d := d.significant 15
    if d.point < -3 ∨ 15 < d.point then d.scientific else d.plain (15 - d.point).toNat

/-- The text of a double with all digits that there are. -/
def longRealText (x : Float) : String :=
  signedText x DecimalDigits.scientific

/-- The text of a number; texts and blobs as their bytes, nothing for `NULL`. -/
def Datum.bytes : Datum → Bytes
  | .null => []
  | .int n => Utf8.write (intText n.toInt)
  | .real x => Utf8.write (realText x)
  | .text s | .blob s => s

end RecordMapper.Sqlite
