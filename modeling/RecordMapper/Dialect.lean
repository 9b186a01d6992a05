import RecordMapper.Value.Basic

/-!
# Dialects

The three dialects of SQL differ in how parameters are numbered, in how identifiers and texts are quoted and in how
blobs are written. A quote inside a quoted text is written twice; MySQL reads backslashes in texts as escapes, so there
they are doubled as well.
-/

namespace RecordMapper

open Text Decimal

/-- A dialect of SQL. -/
inductive Dialect where
  | postgres
  | sqlite
  | mysql
  deriving DecidableEq, Repr, Inhabited

namespace Dialect

/-- The dialect's name in configurations. -/
def name : Dialect → String
  | .postgres => "postgres"
  | .sqlite => "sqlite"
  | .mysql => "mysql"

/-- All dialects. -/
def all : List Dialect := [.postgres, .sqlite, .mysql]

/-- The dialect of a name. -/
def ofName? (s : String) : Option Dialect :=
  all.find? (·.name == s)

/-- The placeholder of the parameter with the given number, counted from 1. -/
def placeholder (d : Dialect) (index : Nat) : String :=
  match d with
  | .postgres => "$" ++ natText index
  | .sqlite => "?" ++ natText index
  | .mysql => "?"

/-- Writes every occurrence of one character twice. -/
def doubled (q : Char) (cs : List Char) : List Char :=
  cs.flatMap fun c => if c = q then [q, q] else [c]

/-- The mark around identifiers. -/
def identifierMark : Dialect → Char
  | .postgres | .sqlite => '"'
  | .mysql => '`'

/-- An identifier between its marks. -/
def quoteIdentifier (d : Dialect) (name : String) : String :=
  String.ofList (d.identifierMark :: (doubled d.identifierMark name.toList ++ [d.identifierMark]))

/-- The characters of a text as they stand between quotes. -/
def escaped (d : Dialect) (cs : List Char) : List Char :=
  match d with
  | .mysql => doubled '\'' (doubled '\\' cs)
  | .postgres | .sqlite => doubled '\'' cs

/-- A text as a literal. -/
def quoteText (d : Dialect) (s : String) : String :=
  String.ofList ('\'' :: (d.escaped s.toList ++ ['\'']))

/-- Two hexadecimal digits for each byte, in upper case. -/
def hexDigits (bs : List UInt8) : List Char :=
  bs.flatMap fun b => [hexDigit (b.toNat / 16), hexDigit (b.toNat % 16)].map Char.toUpper

/-- A blob as a literal. -/
def quoteBytes (d : Dialect) (bs : List UInt8) : String :=
  match d with
  | .postgres => "'\\x" ++ String.ofList (hexDigits bs) ++ "'"
  | .sqlite | .mysql => "X'" ++ String.ofList (hexDigits bs) ++ "'"

mutual

/-- Any value as a literal; an array becomes its members one after the other, and what has no literal is `NULL`. -/
def quoteLiteral (d : Dialect) (v : Value) : String :=
  match v with
  | .text s => d.quoteText s
  | .decimal s => if (Number.read? s).isSome then trimmed s else d.quoteText s
  | .bytes bs => d.quoteBytes bs
  | .json doc => d.quoteText doc.text
  | .array items => ", ".intercalate (d.quoteItems items)
  | .null | .bool _ | .int _ | .bigint _ | .double _ | .default => v.literal?.getD "NULL"

/-- The literals of a list of values. -/
def quoteItems (d : Dialect) (items : List Value) : List String :=
  match items with
  | [] => []
  | item :: items => d.quoteLiteral item :: d.quoteItems items

end

end Dialect

end RecordMapper
