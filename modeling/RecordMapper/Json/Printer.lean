import RecordMapper.Json.Basic
import RecordMapper.Text.Digit
import RecordMapper.Decimal.Layout

/-!
# JSON texts

The compact text of a document: no blanks, members in their order, and only the escapes that JSON demands.
-/

namespace RecordMapper.Json

open RecordMapper.Text RecordMapper.Decimal

/-- One character inside a string. -/
def escapeChar (c : Char) : List Char :=
  if c = '"' then ['\\', '"']
  else if c = '\\' then ['\\', '\\']
  else if c = '\n' then ['\\', 'n']
  else if c = '\r' then ['\\', 'r']
  else if c = '\t' then ['\\', 't']
  else if c = '\x08' then ['\\', 'b']
  else if c = '\x0c' then ['\\', 'f']
  else if c.toNat < 0x20 then ['\\', 'u', '0', '0', hexDigit (c.toNat / 16), hexDigit (c.toNat % 16)]
  else [c]

/-- A string between quotes. -/
def quoted (s : String) : String :=
  String.ofList ('"' :: (s.toList.flatMap escapeChar ++ ['"']))

/-- The text of a number that is a double. -/
def floatText (x : Float) : String :=
  if isFinite x then Layout.json.finiteText x else "null"

mutual

/-- The text of a document. -/
def text : Json → String
  | .null => "null"
  | .bool b => if b then "true" else "false"
  | .int i => intText i
  | .float x => floatText x
  | .str s => quoted s
  | .arr items => "[" ++ ",".intercalate (textItems items) ++ "]"
  | .obj members => "\x7b" ++ ",".intercalate (textMembers members) ++ "\x7d"

/-- The texts of the items of an array. -/
def textItems : List Json → List String
  | [] => []
  | item :: items => text item :: textItems items

/-- The texts of the members of an object. -/
def textMembers : List (String × Json) → List String
  | [] => []
  | (name, doc) :: members => (quoted name ++ ":" ++ text doc) :: textMembers members

end

end RecordMapper.Json
