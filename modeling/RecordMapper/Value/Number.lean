import RecordMapper.Text.Blank
import RecordMapper.Text.Pattern
import RecordMapper.Decimal.Layout
import RecordMapper.Decimal.Reading

/-!
# Numeric readings

Text that looks like a number is read as one: an integer of 64 bits when it has neither point nor exponent and fits,
else a double. `Number.read?` first asks for the shape, in which any decimal digit of Unicode may stand, and then
reads the numeral, for which digits of ASCII are needed.
-/

namespace RecordMapper

open Text Decimal

/-- The numeric reading of a value. -/
inductive Number where
  | int (n : Int64)
  | float (x : Float)
  deriving Repr

namespace Number

/-- One sign or none. -/
def signShape : Pattern := .optional (.oneOf ['+', '-'])

/-- Decimal digits, at least one. -/
def digitsShape : Pattern := .atLeastOnce (.one isDecimalDigit)

/-- Any blanks. -/
def blanksShape : Pattern := .many (.one isBlank)

/-- The shape of numeric text: blanks, a sign, digits around an optional point, an optional exponent, blanks. -/
def shape : Pattern :=
  .inOrder [blanksShape, signShape,
    .either
      (.seq digitsShape (.optional (.seq (.char '.') (.many (.one isDecimalDigit)))))
      (.seq (.char '.') digitsShape),
    .optional (.inOrder [.oneOf ['e', 'E'], signShape, digitsShape]),
    blanksShape]

/-- The integer of 64 bits that a text spells. -/
def int64? (cs : List Char) : Option Int64 :=
  (readInt? cs).bind fun i => if -0x8000000000000000 ≤ i ∧ i < 0x8000000000000000 then some (Int64.ofInt i) else none

/-- The number that a text spells, if it has the shape of one. -/
def read? (s : String) : Option Number :=
  if shape.accepts s.toList then
    let cs := trim s.toList
    match int64? cs with
    | some n => some (.int n)
    | none => (readFloat? cs).map .float
  else none

/-- The number as a double. -/
def toFloat : Number → Float
  | .int n => ofInt n.toInt
  | .float x => x

/-- Doubles below this in magnitude are shown as integers when they are whole. -/
def wholeLimit : Int := 9000000000000000

/-- The text under which equal numbers meet: whole numbers have no fraction. -/
def normalText : Number → String
  | .int n => intText n.toInt
  | .float x =>
    match wholeNumber? x with
    | some i => if -wholeLimit < i ∧ i < wholeLimit then intText i else plainText x
    | none => plainText x

/-- Equality of numbers: exact between integers, else as doubles. -/
def equals : Number → Number → Bool
  | .int a, .int b => a == b
  | a, b => a.toFloat == b.toFloat

end Number

end RecordMapper
