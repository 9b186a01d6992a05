import RecordMapper.Sqlite.Numeral

/-!
# Affinities

The declared type of a column only inclines it towards a storage class: it has an affinity, by which values are
converted when they are stored and when they are compared. A conversion is made only where nothing is lost.
-/

namespace RecordMapper.Sqlite

open Decimal

/-- What a column inclines to. -/
inductive Affinity where
  | blob
  | text
  | numeric
  | integer
  | real
  deriving DecidableEq, Repr, Inhabited

namespace Affinity

/-- The affinity of a declared type: what counts is which words its name contains. -/
def ofType (declared : String) : Affinity :=
  let t := folded declared
  let has (word : String) : Bool := (t.splitOn word).length > 1
  if t.isEmpty then .blob
  else if has "int" then .integer
  else if has "char" || has "clob" || has "text" then .text
  else if has "blob" then .blob
  else if has "real" || has "floa" || has "doub" then .real
  else .numeric

/-- Affinities to numbers. -/
def isNumeric : Affinity → Bool
  | .numeric | .integer | .real => true
  | .blob | .text => false

/-- A number without a fraction as an integer, if it is one. -/
def asInteger : Datum → Datum
  | .real x => match exactInt? x with
    | some n => .int n
    | none => .real x
  | d => d

/-- A datum turned to a number where it spells one. -/
def toNumber : Datum → Datum
  | .text s => (wholeNumber? s).getD (.text s)
  | d => d

/-- A datum as a column of the affinity stores it. -/
def store : Affinity → Datum → Datum
  | .blob, d => d
  | .text, d => match d with
    | .int _ | .real _ => .text d.bytes
    | d => d
  | .numeric, d | .integer, d => asInteger (toNumber d)
  | .real, d => match asInteger (toNumber d) with
    | .int n => .real (ofInt n.toInt)
    | d => d

/-- The affinity that two sides are compared under, if any. -/
def ofComparison : Option Affinity → Option Affinity → Option Affinity
  | some a, some b => if a.isNumeric || b.isNumeric then some .numeric else some .blob
  | some a, none | none, some a => some a
  | none, none => none

/-- Both sides of a comparison, converted: under an affinity to text only if one of them is a text. -/
def converted (affinity : Option Affinity) (a b : Datum) : Datum × Datum :=
  match affinity with
  | some .text =>
    match a, b with
    | .text _, _ | _, .text _ => (store .text a, store .text b)
    | _, _ => (a, b)
  | some .numeric | some .integer | some .real => (toNumber a, toNumber b)
  | _ => (a, b)

/-- A value converted by a cast; of a text, a double becomes an integer only below `2 ^ 51`. -/
def cast : Affinity → Datum → Datum
  | _, .null => .null
  | .blob, d => .blob d.bytes
  | .text, d => .text d.bytes
  | .integer, d => match d with
    | .int n => .int n
    | .real x => .int (clampedReal x)
    | d => .int (leadingInt d.bytes)
  | .real, d => match d with
    | .int n => .real (ofInt n.toInt)
    | .real x => .real x
    | d => Datum.ofFloat (leadingReal d.bytes)
  | .numeric, d => match d with
    | .int n => .int n
    | .real x => .real x
    | d => match leadingNumber d.bytes with
      | .real x => match asInteger (.real x) with
        | .int n => if n.toInt.natAbs < twoTo 51 then .int n else .real x
        | d => d
      | d => d

end Affinity

end RecordMapper.Sqlite
