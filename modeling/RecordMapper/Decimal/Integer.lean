import RecordMapper.Text.Digit

/-!
# Integers in decimal notation

The digits of a natural number and the number that digits stand for, each the inverse of the other on canonical
digits, and the reading of a whole text as an integer: an optional sign and at least one digit.
-/

namespace RecordMapper.Decimal

open RecordMapper.Text

/-- The decimal digits of a number, without leading zeros. -/
def digits (n : Nat) : List Char :=
  Nat.toDigits 10 n

/-- The number that a list of digits stands for, leading zeros allowed. -/
def value (ds : List Char) : Nat :=
  Nat.ofDigitChars 10 ds 0

/-- A natural number in decimal notation. -/
def natText (n : Nat) : String :=
  String.ofList (digits n)

/-- The digits of an integer, with a minus sign when it is negative. -/
def intDigits (i : Int) : List Char :=
  if i < 0 then '-' :: digits i.natAbs else digits i.natAbs

/-- An integer in decimal notation. -/
def intText (i : Int) : String :=
  String.ofList (intDigits i)

/-- The number that a non-empty list of ASCII digits stands for. -/
def readDigits? (cs : List Char) : Option Nat :=
  if cs ≠ [] ∧ cs.all isAsciiDigit then some (value cs) else none

/-- Reads a natural number; a plus sign may stand in front. -/
def readNat? : List Char → Option Nat
  | '+' :: cs => readDigits? cs
  | cs => readDigits? cs

/-- Reads an integer: an optional sign, then digits. -/
def readInt? : List Char → Option Int
  | '-' :: cs => (readDigits? cs).map fun n => -(n : Int)
  | '+' :: cs => (readDigits? cs).map Int.ofNat
  | cs => (readDigits? cs).map Int.ofNat

theorem value_digits (n : Nat) : value (digits n) = n :=
  Nat.ofDigitChars_toDigits (by decide) (by decide)

end RecordMapper.Decimal
