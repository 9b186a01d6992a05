import RecordMapper.Sqlite.Failure
import RecordMapper.Sqlite.Syntax
import RecordMapper.Sqlite.Token

/-!
# Reading statements token by token

A cursor stands before the next token of a statement and counts the parameters met so far. Reading never goes back, so
the token at which it fails is the first one that no statement admits there. What a definition has said before that token
is kept in an outline, since its mistakes count before those of the rest. Many keywords are names as well wherever they
mean nothing else.
-/

namespace RecordMapper.Sqlite

/-- The keywords that are never names. -/
def reservedWords : List String :=
  ["ADD", "ALL", "ALTER", "AND", "AS", "AUTOINCREMENT", "BETWEEN", "CASE", "CHECK", "COLLATE", "COMMIT", "CONSTRAINT",
    "CREATE", "DEFAULT", "DEFERRABLE", "DELETE", "DISTINCT", "DROP", "ELSE", "ESCAPE", "EXCEPT", "EXISTS", "FOREIGN",
    "FROM", "GROUP", "HAVING", "IN", "INDEX", "INSERT", "INTERSECT", "INTO", "IS", "ISNULL", "JOIN", "LIMIT", "NOT",
    "NOTHING", "NOTNULL", "NULL", "ON", "OR", "ORDER", "PRIMARY", "REFERENCES", "RETURNING", "SELECT", "SET", "TABLE",
    "THEN", "TO", "TRANSACTION", "UNION", "UNIQUE", "UPDATE", "USING", "VALUES", "WHEN", "WHERE"]

/-- The keywords of joins, which are names where no join can stand. -/
def joinWords : List String := ["CROSS", "FULL", "INNER", "LEFT", "NATURAL", "OUTER", "RIGHT"]

/-- Where reading a statement has got to. -/
structure Cursor where
  /-- The text that the positions of tokens are in. -/
  source : List Char
  tokens : List Token
  /-- Where the last token that was read ends. -/
  finish : Nat := 0
  /-- The highest number of a parameter so far. -/
  parameters : Nat
  /-- The numbers of named parameters. -/
  named : List (List Char × Nat)
  /-- The definition that is being read. -/
  outline : Option Outline := none
  /-- The number of tokens that were left at each step of the outline, the last step first; the start of the definition
  comes last. -/
  marks : List Nat := []
  /-- Where the columns of the table end that is being defined. -/
  columnsEnd : Option Nat := none
  /-- Whether everything is kept as it is written, and nothing left out that is certain. -/
  isVerbatim : Bool := false

/-- A reader of a part of a statement. -/
abbrev Parser (α : Type) := ExceptT Failure (StateM Cursor) α

namespace Token

/-- The keyword that a word is, in upper case. -/
def keyword (t : Token) : String :=
  if t.kind = .word then String.ofList (t.spelling.map Char.toUpper) else ""

/-- The name that a token stands for, if it can be one. -/
def name? (t : Token) : Option String :=
  match t.kind with
  | .word => if reservedWords.contains t.keyword then none else some (String.ofList t.spelling)
  | .quoted => some (String.ofList (unquoted '"' (t.spelling.drop 1)))
  | .bracketed => match t.spelling with
    | '[' :: cs => some (String.ofList (cs.take (cs.length - 1)))
    | _ => some (String.ofList (unquoted '`' (t.spelling.drop 1)))
  | _ => none

/-- The text of a string. -/
def string? (t : Token) : Option String :=
  if t.kind = .string then some (String.ofList (unquoted '\'' (t.spelling.drop 1))) else none

/-- The mark that a token is. -/
def mark (t : Token) : String :=
  if t.kind = .mark then String.ofList t.spelling else ""

end Token

namespace Parser

variable {α : Type}

/-- The failure of a token that cannot stand where it does. -/
def refusal : Option Token → Failure
  | none => .general "incomplete input"
  | some t =>
    let text := String.ofList t.spelling
    if t.kind = .invalid then .general ("unrecognized token: \"" ++ text ++ "\"")
    else .general ("near \"" ++ text ++ "\": syntax error")

/-- Fails for another reason than the next token. -/
def failWith (message : String) : Parser α := throw (.general message)

/-- The next token. -/
def next? : Parser (Option Token) := return (← get).tokens.head?

/-- Refuses the next token. -/
def refuse : Parser α := do throw (refusal (← next?))

/-- Goes past the next token. -/
def advance : Parser Unit := modify fun c =>
  match c.tokens with
  | t :: ts => { c with tokens := ts, finish := t.start + t.spelling.length }
  | [] => c

/-- The next token as a keyword, the empty text if it is none. -/
def word : Parser String := return ((← next?).map Token.keyword).getD ""

/-- The next token but one as a keyword. -/
def wordAfter : Parser String := return ((← get).tokens[1]?.map Token.keyword).getD ""

/-- The next token as a mark, the empty text if it is none. -/
def mark : Parser String := return ((← next?).map Token.mark).getD ""

/-- The next token but one as a mark. -/
def markAfter : Parser String := return ((← get).tokens[1]?.map Token.mark).getD ""

/-- Goes past a keyword if it is next. -/
def acceptWord (w : String) : Parser Bool := do
  if (← word) == w then advance; return true
  else return false

/-- Goes past a keyword that has to be next. -/
def expectWord (w : String) : Parser Unit := do
  unless ← acceptWord w do refuse

/-- Goes past a mark if it is next. -/
def acceptMark (m : String) : Parser Bool := do
  if (← mark) == m then advance; return true
  else return false

/-- Goes past a sign of equality if it is next. -/
def acceptEqual : Parser Bool := do
  if ← acceptMark "=" then return true else acceptMark "=="

/-- Goes past a mark that has to be next. -/
def expectMark (m : String) : Parser Unit := do
  unless ← acceptMark m do refuse

/-- The next token as it is written. -/
def spelling : Parser String := return ((← next?).map fun t => String.ofList t.spelling).getD ""

/-- Where the next token stands. -/
def position : Parser Nat := do
  let c ← get
  return (c.tokens.head?.map Token.start).getD c.source.length

/-- A name without strings. -/
def plainName : Parser String := do
  match (← next?).bind Token.name? with
  | some n => advance; return n
  | none => refuse

/-- A name; a string may stand for one. -/
def name : Parser String := do
  match (← next?).bind Token.string? with
  | some s => advance; return s
  | none => plainName

/-- A name with its place. -/
def ident : Parser Ident := do
  let place ← position
  return ⟨← name, place⟩

/-- Whether the next word, after a closing parenthesis, says which rows a function is about. -/
def startsScope : Parser Bool := do
  let c ← get
  let isClosed := (c.source.drop (c.finish - 1)).head? = some ')'
  let (isOpen, isName) := match c.tokens[1]? with
    | some t => (t.mark == "(", t.name?.isSome || t.string?.isSome)
    | none => (false, false)
  match ← word with
  | "FILTER" => return isClosed && isOpen
  | "OVER" => return isClosed && (isOpen || isName)
  | _ => return false

/-- A name that is no keyword of a join, if one is next; a string may stand for it. -/
def asName? : Parser (Option String) := do
  match ← next? with
  | none => return none
  | some t =>
    match t.string?, t.name? with
    | some s, _ => advance; return some s
    | none, some n =>
      if joinWords.contains t.keyword || t.keyword == "INDEXED" || (← startsScope) then return none
      else advance; return some n
    | none, none => return none

/-- A name, perhaps with a schema in front. -/
def objectName : Parser ObjectName := do
  let n ← ident
  if ← acceptMark "." then
    let m ← ident
    return ⟨some n.text, m.text, m.place⟩
  else return ⟨none, n.text, n.place⟩

/-- A name in a schema that has to be there; the name of one that is not is kept as it is written. -/
def placedName : Parser ObjectName := do
  let written ← spelling
  let n ← objectName
  match n.schema.map folded with
  | none | some "main" | some "temp" => return n
  | some _ => return { n with schema := some written }

/-- Things separated by commas; the fuel bounds the number of those after the first. -/
def separated (item : Parser α) : Nat → Parser (List α)
  | 0 => return [← item]
  | fuel + 1 => do
    let x ← item
    if ← acceptMark "," then return x :: (← separated item fuel)
    else return [x]

/-- The number of tokens that are left, a bound for all that can follow. -/
def left : Parser Nat := return (← get).tokens.length

/-- Things separated by commas, at least one. -/
def list (item : Parser α) : Parser (List α) := do separated item (← left)

/-- Things separated by commas between parentheses. -/
def parenthesized (item : Parser α) : Parser (List α) := do
  expectMark "("
  let xs ← list item
  expectMark ")"
  return xs

/-- The names of columns between parentheses. What only a key can say about a column is refused. -/
def columnNames : Parser (List Ident) :=
  parenthesized do
    let written ← spelling
    let n ← ident
    let collated ← acceptWord "COLLATE"
    if collated then
      let _ ← name
    let ordered ← if ← acceptWord "ASC" then pure true else acceptWord "DESC"
    if (collated || ordered) && [",", ")"].contains (← mark) then
      failWith ("syntax error after column name \"" ++ written ++ "\"")
    return n

/-- Where the last token that was read ends. -/
def finish : Parser Nat := return (← get).finish

/-- The text between two positions. -/
def textFrom (start stop : Nat) : Parser String :=
  return String.ofList (((← get).source.drop start).take (stop - start))

/-- The text between two positions, without blanks around it. -/
def textBetween (start stop : Nat) : Parser String := do
  let cs := (((← get).source.drop start).take (stop - start)).dropWhile isSpace
  return String.ofList (cs.reverse.dropWhile isSpace).reverse

/-- Starts the outline of a definition. -/
def opened (o : Outline) : Parser Unit :=
  modify fun c => { c with outline := some o, marks := [c.tokens.length] }

/-- A step of a definition has been read. -/
def done (step : TableStep) : Parser Unit :=
  modify fun c =>
    { c with
      outline := c.outline.map fun o => { o with steps := o.steps ++ [step] }
      marks := c.tokens.length :: c.marks }

/-- The columns of a table have ended at a position. -/
def columnsEndAt (place : Nat) : Parser Unit := modify fun c => { c with columnsEnd := some place }

/-- The steps of the definition so far. -/
def steps : Parser (List TableStep) := return ((← get).outline.map Outline.steps).getD []

/-- The number of the next parameter. -/
def parameter (spelling : List Char) : Parser Nat := do
  let c ← get
  match spelling with
  | ['?'] =>
    set { c with parameters := c.parameters + 1 }
    return c.parameters + 1
  | '?' :: digits =>
    let n := Decimal.value digits
    if n = 0 ∨ 32766 < n then failWith "variable number must be between ?1 and ?32766"
    set { c with parameters := max c.parameters n }
    return n
  | name =>
    match c.named.lookup name with
    | some n => return n
    | none =>
      set { c with parameters := c.parameters + 1, named := (name, c.parameters + 1) :: c.named }
      return c.parameters + 1

end Parser

end RecordMapper.Sqlite
