import RecordMapper.Json.Printer
import RecordMapper.Text.Utf8
import RecordMapper.Value.Number
import RecordMapper.OrderedMap

/-!
# SQL values

The values that rows hold, that statements bind and that conditions compare with. A value is read as another type only
where nothing is lost by it; `alike` is the equality of change tracking and `keyText?` the text under which values act
as keys.
-/

namespace RecordMapper

open Text Decimal

/-- A dynamically typed SQL value. -/
inductive Value where
  | null
  | bool (b : Bool)
  | int (n : Int32)
  | bigint (n : Int64)
  | double (x : Float)
  /-- A decimal number of any precision, as it is spelled. -/
  | decimal (s : String)
  | text (s : String)
  | bytes (bs : List UInt8)
  | json (doc : Json)
  /-- A list of values, the operand of a membership test. -/
  | array (items : List Value)
  /-- The keyword `DEFAULT`. -/
  | default
  deriving Inhabited, Repr

namespace Value

/-- Whether the value is `NULL`. -/
def isNull : Value → Bool
  | .null => true
  | _ => false

/-- `NULL` or the empty text: no key at all. -/
def isBlank : Value → Bool
  | .null => true
  | .text s => s = ""
  | _ => false

/-- Whether the value can be bound to a single column. -/
def isScalar : Value → Bool
  | .array _ | .default => false
  | _ => true

/-- The name of the value's type. -/
def typeName : Value → String
  | .null => "NULL"
  | .bool _ => "BOOLEAN"
  | .int _ => "INTEGER"
  | .bigint _ => "BIGINT"
  | .double _ => "DOUBLE"
  | .decimal _ => "DECIMAL"
  | .text _ => "TEXT"
  | .bytes _ => "BLOB"
  | .json _ => "JSON"
  | .array _ => "ARRAY"
  | .default => "DEFAULT"

/-! ### Readings -/

/-- The value as a truth value; integers are true unless they are zero. -/
def bool? : Value → Option Bool
  | .bool b => some b
  | .int n => some (n != 0)
  | .bigint n => some (n != 0)
  | _ => none

/-- The value as an integer. -/
def int64? : Value → Option Int64
  | .int n => some n.toInt64
  | .bigint n => some n
  | .bool b => some (if b then 1 else 0)
  | _ => none

/-- The value as a double. -/
def float? : Value → Option Float
  | .double x => some x
  | .int n => some (ofInt n.toInt)
  | .bigint n => some (ofInt n.toInt)
  | .decimal s => readFloat? s.toList
  | _ => none

/-- The value as a text. -/
def string? : Value → Option String
  | .text s | .decimal s => some s
  | _ => none

/-- The numeric reading: of numbers, and of texts and decimals that spell one. -/
def number? : Value → Option Number
  | .int n => some (.int n.toInt64)
  | .bigint n => some (.int n)
  | .double x => some (.float x)
  | .text s | .decimal s => Number.read? s
  | _ => none

/-! ### Equalities and keys -/

mutual

/-- Equality of values of the same type; doubles are compared as numbers. -/
def same : Value → Value → Bool
  | .null, .null | .default, .default => true
  | .bool a, .bool b => a == b
  | .int a, .int b => a == b
  | .bigint a, .bigint b => a == b
  | .double a, .double b => a == b
  | .decimal a, .decimal b | .text a, .text b => a == b
  | .bytes a, .bytes b => a == b
  | .json a, .json b => a == b
  | .array as, .array bs => sameItems as bs
  | _, _ => false

/-- Equality of lists of values. -/
def sameItems : List Value → List Value → Bool
  | [], [] => true
  | a :: as, b :: bs => same a b && sameItems as bs
  | _, _ => false

end

instance : BEq Value := ⟨same⟩

/--
The equality of change tracking: `NULL` is alike to `NULL` only, two values with a numeric reading are alike when the
numbers are equal, and all others when they are the same.
-/
def alike : Value → Value → Bool
  | .null, .null => true
  | .null, _ | _, .null => false
  | a, b =>
    match a.number?, b.number? with
    | some m, some n => m.equals n
    | _, _ => a == b

/-- The text of a truth value where a number is asked for. -/
def flagText (b : Bool) : String :=
  if b then "1" else "0"

/-- The text under which values meet as keys; `none` for values that cannot be keys. -/
def keyText? : Value → Option String
  | .null | .array _ | .default => none
  | .bool b => some (flagText b)
  | .int n => some (intText n.toInt)
  | .bigint n => some (intText n.toInt)
  | .double x => some (Number.float x).normalText
  | .text s | .decimal s =>
    some (match Number.read? s with
      | some n => n.normalText
      | none => s)
  | .bytes bs => some (Utf8.readLossy bs)
  | .json doc => some doc.text

/-! ### Texts -/

/-- The value as a literal without quotes; `none` for values that need quoting or have no single literal. -/
def literal? : Value → Option String
  | .null => some "NULL"
  | .bool b => some (flagText b)
  | .int n => some (intText n.toInt)
  | .bigint n => some (intText n.toInt)
  | .double x => if isFinite x then some (plainText x) else none
  | .decimal s => if (Number.read? s).isSome then some (trimmed s) else none
  | .default => some "DEFAULT"
  | .text _ | .bytes _ | .json _ | .array _ => none

mutual

/-- The value as people read it. -/
def display : Value → String
  | .null => "NULL"
  | .bool b => if b then "true" else "false"
  | .int n => intText n.toInt
  | .bigint n => intText n.toInt
  | .double x => plainText x
  | .decimal s | .text s => s
  | .bytes bs => "<" ++ natText bs.length ++ " bytes>"
  | .json doc => doc.text
  | .array items => "[" ++ ", ".intercalate (displayItems items) ++ "]"
  | .default => "DEFAULT"

/-- The items of an array as people read them. -/
def displayItems : List Value → List String
  | [] => []
  | item :: items => display item :: displayItems items

end

instance : ToString Value := ⟨display⟩

/-! ### JSON -/

mutual

/-- The value of a document: an array becomes an array of values, an object stays a document. -/
def ofJson : Json → Value
  | .null => .null
  | .bool b => .bool b
  | .int i => if Json.fitsInt64 i then .bigint (Int64.ofInt i) else .double (ofInt i)
  | .float x => .double x
  | .str s => .text s
  | .arr items => .array (ofJsonItems items)
  | .obj members => .json (.obj members)

/-- The values of a list of documents. -/
def ofJsonItems : List Json → List Value
  | [] => []
  | item :: items => ofJson item :: ofJsonItems items

end

mutual

/-- The document of a value; what JSON has no form for becomes `null`. -/
def toJson : Value → Json
  | .null | .default => .null
  | .bool b => .bool b
  | .int n => .int n.toInt
  | .bigint n => .int n.toInt
  | .double x => if isFinite x then .float x else .null
  | .decimal s | .text s => .str s
  | .bytes bs => .str (Utf8.readLossy bs)
  | .json doc => doc
  | .array items => .arr (toJsonItems items)

/-- The documents of a list of values. -/
def toJsonItems : List Value → List Json
  | [] => []
  | item :: items => toJson item :: toJsonItems items

end

end Value

/-- The columns of a row, or of a record, with their values. -/
abbrev Assignments := OrderedMap String Value

end RecordMapper
