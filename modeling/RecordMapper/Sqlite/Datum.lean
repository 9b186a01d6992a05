import RecordMapper.Decimal.Binary64
import RecordMapper.Text.Utf8

/-!
# Data of a SQLite database

The five storage classes and their order: `NULL` first, then numbers by size, texts by a collation, blobs byte by byte.
Integers and doubles are compared exactly, as the numbers that they stand for. Texts are kept as bytes, since a cast can
make a text of any bytes.
-/

namespace RecordMapper.Sqlite

open Decimal Text

/-- A sequence of bytes. -/
abbrev Bytes := List UInt8

/-- A value in a cell. -/
inductive Datum where
  | null
  | int (n : Int64)
  | real (x : Float)
  | text (s : Bytes)
  | blob (s : Bytes)
  deriving Inhabited, Repr

/-- How texts are compared. -/
inductive Collation where
  /-- Byte by byte. -/
  | binary
  /-- Without the case of ASCII letters. -/
  | nocase
  /-- Without blanks at the end. -/
  | rtrim
  /-- One of a name that means none. -/
  | unknown (name : String)
  deriving DecidableEq, Repr, Inhabited

/-- The lower case of an ASCII letter. -/
def lowerByte (b : UInt8) : UInt8 :=
  if 65 ≤ b && b ≤ 90 then b + 32 else b

/-- The upper case of an ASCII letter. -/
def upperByte (b : UInt8) : UInt8 :=
  if 97 ≤ b && b ≤ 122 then b - 32 else b

/-- Names are the same without the case of ASCII letters. -/
def folded (s : String) : String :=
  s.map Char.toLower

/-- The order of byte sequences. -/
def compareBytes : Bytes → Bytes → Ordering
  | [], [] => .eq
  | [], _ :: _ => .lt
  | _ :: _, [] => .gt
  | a :: as, b :: bs => (compare a b).then (compareBytes as bs)

namespace Collation

/-- The collation of a name. -/
def ofName (s : String) : Collation :=
  match folded s with
  | "binary" => .binary
  | "nocase" => .nocase
  | "rtrim" => .rtrim
  | _ => .unknown s

/-- What the collation looks at. -/
def key : Collation → Bytes → Bytes
  | .binary, s | .unknown _, s => s
  | .nocase, s => s.map lowerByte
  | .rtrim, s => (s.reverse.dropWhile (· == 32)).reverse

/-- The order of texts. -/
def order (c : Collation) (a b : Bytes) : Ordering :=
  compareBytes (c.key a) (c.key b)

end Collation

/-- The order of an integer and a double that is no NaN. -/
def compareIntReal (n : Int64) (x : Float) : Ordering :=
  if isFinite x then
    let b := Binary64.ofBits (magnitudeBits x)
    let units : Int := b.mantissa * twoTo b.exponent
    compare (n.toInt * twoTo 1074) (if isNegative x then -units else units)
  else if isNegative x then .gt else .lt

/-- The order of doubles that are no NaN. -/
def compareReals (x y : Float) : Ordering :=
  if x < y then .lt else if y < x then .gt else .eq

namespace Datum

/-- The text of a string. -/
def ofString (s : String) : Datum := .text (Utf8.write s)

/-- A truth value. -/
def ofBool (b : Bool) : Datum := .int (if b then 1 else 0)

/-- A double; NaN is no datum. -/
def ofFloat (x : Float) : Datum := if isNaN x then .null else .real x

/-- Whether the datum is `NULL`. -/
def isNull : Datum → Bool
  | .null => true
  | _ => false

/-- The name of the storage class. -/
def className : Datum → String
  | .null => "null"
  | .int _ => "integer"
  | .real _ => "real"
  | .text _ => "text"
  | .blob _ => "blob"

/-- The order of data. -/
def order (c : Collation) : Datum → Datum → Ordering
  | .null, .null => .eq
  | .null, _ => .lt
  | _, .null => .gt
  | .int a, .int b => compare a b
  | .int a, .real b => compareIntReal a b
  | .real a, .int b => (compareIntReal b a).swap
  | .real a, .real b => compareReals a b
  | .int _, _ | .real _, _ => .lt
  | _, .int _ | _, .real _ => .gt
  | .text a, .text b => c.order a b
  | .text _, .blob _ => .lt
  | .blob _, .text _ => .gt
  | .blob a, .blob b => compareBytes a b

/-- The order of lists of data, each with the collation of its place. -/
def orderAll : List Collation → List Datum → List Datum → Ordering
  | c :: cs, a :: as, b :: bs => (a.order c b).then (orderAll cs as bs)
  | _, _, _ => .eq

end Datum

end RecordMapper.Sqlite
