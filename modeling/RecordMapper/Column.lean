import RecordMapper.Json.Basic
import RecordMapper.Text.Blank
import RecordMapper.Text.Split
import RecordMapper.Text.Upper
import RecordMapper.Decimal.Integer

/-!
# Columns

A column as the database declares it. Its type is read from the declared text: a base name in upper case, a size or a
precision and scale in parentheses, and the word `UNSIGNED` at the end.
-/

namespace RecordMapper

open Text Decimal

/-- A declared column type, taken apart. -/
structure SqlType where
  base : String := ""
  length : Option Nat := none
  precision : Option Nat := none
  scale : Option Nat := none
  unsigned : Bool := false
  deriving DecidableEq, Repr, Inhabited

namespace SqlType

/-- The word at the end of an unsigned type. -/
def unsignedEnding : List Char := " UNSIGNED".toList

/-- A size: a number below `2 ^ 32`, blanks around it. -/
def size? (cs : List Char) : Option Nat :=
  (readNat? (trim cs)).filter (· < 0x100000000)

/-- The type of a body without its sign word. -/
def ofBody (body : List Char) (unsigned : Bool) : SqlType :=
  match splitFirst? '(' body with
  | none => { base := String.ofList body, unsigned }
  | some (base, rest) =>
    let sizes := rest.takeWhile (· != ')')
    let base := String.ofList (trim base)
    match splitFirst? ',' sizes with
    | some (precision, scale) => { base, precision := size? precision, scale := size? scale, unsigned }
    | none => { base, length := size? sizes, unsigned }

/-- The type that a declaration spells. -/
def parse (declared : String) : SqlType :=
  let cs := upper (trim declared.toList)
  match withoutEnd? unsignedEnding cs with
  | some body => ofBody (trimEnd body) true
  | none => ofBody cs false

/-- Types of texts. -/
def isText (t : SqlType) : Bool :=
  ["VARCHAR", "CHAR", "TEXT", "CLOB", "NVARCHAR", "NCHAR", "NTEXT"].contains t.base

/-- Types of whole numbers. -/
def isInteger (t : SqlType) : Bool :=
  ["INT", "INTEGER", "BIGINT", "SMALLINT", "TINYINT", "MEDIUMINT"].contains t.base

/-- Types of numbers. -/
def isNumeric (t : SqlType) : Bool :=
  t.isInteger || ["DECIMAL", "NUMERIC", "FLOAT", "DOUBLE", "REAL", "DOUBLE PRECISION"].contains t.base

end SqlType

/-- A column of a table. -/
structure Column where
  name : String
  /-- The type as it is declared. -/
  declared : String
  type : SqlType
  nullable : Bool := true
  /-- The default expression as the database reports it. -/
  defaultText : Option String := none
  autoincrement : Bool := false
  primaryKey : Bool := false
  deriving DecidableEq, Repr, Inhabited

namespace Column

/-- A column with nothing but a name and a declared type. -/
def ofDeclaration (name declared : String) : Column :=
  { name, declared, type := SqlType.parse declared }

/-- The column as a primary key, which is never `NULL`. -/
def asPrimaryKey (c : Column) (autoincrement : Bool) : Column :=
  { c with primaryKey := true, autoincrement, nullable := false }

/-- The column without `NULL`. -/
def asNotNull (c : Column) : Column :=
  { c with nullable := false }

/-- The column with a default. -/
def withDefault (c : Column) (text : String) : Column :=
  { c with defaultText := some text }

/-! ### Stored form -/

private def optional {α : Type} (f : α → Json) : Option α → Json
  | none => .null
  | some a => f a

/-- The document of a type. -/
def typeToJson (t : SqlType) : Json :=
  .obj [("base_type", .str t.base), ("length", optional (.int ·) t.length),
    ("precision", optional (.int ·) t.precision), ("scale", optional (.int ·) t.scale),
    ("unsigned", .bool t.unsigned)]

/-- The document of a column. -/
def toJson (c : Column) : Json :=
  .obj [("name", .str c.name), ("sql_type", .str c.declared), ("parsed_type", typeToJson c.type),
    ("nullable", .bool c.nullable), ("default", optional .str c.defaultText),
    ("autoincrement", .bool c.autoincrement), ("primary_key", .bool c.primaryKey)]

private def boolOf? : Json → Option Bool
  | .bool b => some b
  | _ => none

private def sizeOf? : Json → Option (Option Nat)
  | .null => some none
  | .int i => if 0 ≤ i ∧ i < 0x100000000 then some (some i.toNat) else none
  | _ => none

private def textOrNull? : Json → Option (Option String)
  | .null => some none
  | .str s => some (some s)
  | _ => none

/-- The type of a document. -/
def typeOfJson? (doc : Json) : Option SqlType := do
  return { base := ← (← doc.member? "base_type").text?
           length := ← sizeOf? (← doc.member? "length")
           precision := ← sizeOf? (← doc.member? "precision")
           scale := ← sizeOf? (← doc.member? "scale")
           unsigned := ← boolOf? (← doc.member? "unsigned") }

/-- The column of a document. -/
def ofJson? (doc : Json) : Option Column := do
  return { name := ← (← doc.member? "name").text?
           declared := ← (← doc.member? "sql_type").text?
           type := ← typeOfJson? (← doc.member? "parsed_type")
           nullable := ← boolOf? (← doc.member? "nullable")
           defaultText := ← textOrNull? (← doc.member? "default")
           autoincrement := ← boolOf? (← doc.member? "autoincrement")
           primaryKey := ← boolOf? (← doc.member? "primary_key") }

end Column

end RecordMapper
