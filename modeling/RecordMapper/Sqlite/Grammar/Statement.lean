import RecordMapper.Sqlite.Grammar.Query

/-!
# Reading statements

The definitions of tables, indexes and views, the changes of rows, transactions and settings. A text holds statements
separated by semicolons; they are read one at a time, so that a mistake in one does not keep those before it from being
run.
-/

namespace RecordMapper.Sqlite.Parser

/-! ### Constraints -/

/-- What is done about a conflict, as it is named. -/
def conflictName : Parser OnConflict := do
  match ← word with
  | "ABORT" => advance; return .abort
  | "ROLLBACK" => advance; return .rollback
  | "FAIL" => advance; return .fail
  | "IGNORE" => advance; return .ignore
  | "REPLACE" => advance; return .replace
  | _ => refuse

/-- What is done when a constraint is broken, if that is said. -/
def onConflict : Parser (Option OnConflict) := do
  if ← acceptWord "ON" then
    expectWord "CONFLICT"
    return some (← conflictName)
  else return none

/-- What becomes of rows that refer to others. -/
def foreignAction : Parser ForeignAction := do
  match ← word with
  | "SET" =>
    advance
    if ← acceptWord "NULL" then return .setNull
    expectWord "DEFAULT"
    return .setDefault
  | "CASCADE" => advance; return .cascade
  | "RESTRICT" => advance; return .restrict
  | _ =>
    expectWord "NO"
    expectWord "ACTION"
    return .noAction

/-- The actions of a foreign key. -/
def foreignActions : Nat → ForeignKey → Parser ForeignKey
  | 0, key => return key
  | fuel + 1, key => do
    if ← acceptWord "MATCH" then
      let _ ← name
      foreignActions fuel key
    else if (← word) == "ON" then
      advance
      match ← word with
      | "DELETE" => advance; foreignActions fuel { key with onDelete := ← foreignAction }
      | "UPDATE" => advance; foreignActions fuel { key with onUpdate := ← foreignAction }
      | "INSERT" =>
        advance
        let _ ← foreignAction
        foreignActions fuel key
      | _ => refuse
    else return key

/-- When a foreign key is checked, the word `DEFERRABLE` being next, perhaps negated. -/
def deferral : Parser Bool := do
  let not ← acceptWord "NOT"
  expectWord "DEFERRABLE"
  if ← acceptWord "INITIALLY" then
    if ← acceptWord "DEFERRED" then return !not
    expectWord "IMMEDIATE"
    return false
  else return false

/-- The table and the columns that a foreign key refers to, and its actions. -/
def references (columns : List Ident) : Parser ForeignKey := do
  let table ← ident
  let parentColumns ← if (← mark) == "(" then columnNames else pure []
  foreignActions (← left) { columns, table, parentColumns }

/-- An expression between parentheses, and the text between them. -/
def enclosed : Parser (Expr × String) := do
  expectMark "("
  let start ← finish
  let e ← expression
  let stop ← position
  expectMark ")"
  return (e, ← textBetween start stop)

/-- A condition between parentheses, with the text that its failure quotes. -/
def check (label : Option String) : Parser Check := do
  let (e, text) ← enclosed
  return ⟨e, label.getD (Token.dequoted text)⟩

/-- A part of a key. -/
def keyPart (t : OrderTerm) : KeyPart :=
  match t.expr with
  | .collate e c => ⟨e, some c, t.descending, t.nullsFirst⟩
  | e => ⟨e, none, t.descending, t.nullsFirst⟩

/-- The parts of a key. -/
def keyParts : Parser (List KeyPart) := do
  return (← parenthesized (do orderTerm (← fuel))).map keyPart

/-- The value of a default, and its spelling. -/
def defaultValue : Parser ColumnConstraint := do
  if (← mark) == "(" then
    let (e, text) ← enclosed
    return .default e text
  let start ← position
  let sign : Option Sign ← if ← acceptMark "-" then pure (some .minus)
    else if ← acceptMark "+" then pure (some .plus)
    else pure none
  let e ← term sign
  return .default e (← textFrom start (← finish))
where
  /-- A literal, or a name that stands for a text. -/
  term (sign : Option Sign) : Parser Expr := do
    match ← next? with
    | none => refuse
    | some t =>
      let literal := [TokenClass.integer, .float, .grouped, .blob, .string].contains t.kind || t.keyword == "NULL" ||
        timeWords.contains t.keyword
      if literal then
        let e ← operand (← fuel)
        return (sign.map fun op => Expr.sign op e).getD e
      else if sign.isSome then refuse
      else
        let n ← plainName
        match t.kind, folded n with
        | .word, "true" => return .literal (.int 1)
        | .word, "false" => return .literal (.int 0)
        | _, _ => return .literal (.ofString n)

/-- The constraints of a column, with the name that was given to the next one. -/
def columnConstraints : Nat → Option String → Parser Unit
  | 0, _ => return
  | fuel + 1, label => do
    let go (c : ColumnConstraint) : Parser Unit := do
      done (.columnConstraint c)
      columnConstraints fuel label
    match ← word with
    | "CONSTRAINT" =>
      advance
      let n ← name
      columnConstraints fuel (some n)
    | "DEFAULT" => advance; go (← defaultValue)
    | "NULL" =>
      advance
      let _ ← onConflict
      go .nullable
    | "NOT" =>
      if (← wordAfter) == "DEFERRABLE" then go (.deferral (← deferral))
      else
        advance
        expectWord "NULL"
        go (.notNull (← onConflict))
    | "PRIMARY" =>
      advance
      expectWord "KEY"
      let descending ← acceptWord "DESC"
      unless descending do
        let _ ← acceptWord "ASC"
      let c ← onConflict
      go (.primaryKey descending c (← acceptWord "AUTOINCREMENT"))
    | "UNIQUE" => advance; go (.unique (← onConflict))
    | "CHECK" => advance; go (.check (← check label))
    | "REFERENCES" => advance; go (.foreign (← references []))
    | "DEFERRABLE" => go (.deferral (← deferral))
    | "COLLATE" => advance; go (.collate (← name))
    | _ => return

/-- A column of a table. -/
def columnDefinition : Parser Unit := do
  let n ← ident
  let type ← typeName
  done (.column n type)
  columnConstraints (← left) none

/-! ### Tables, indexes and views -/

/-- Whether a constraint of a table is next. -/
def startsTableConstraint : Parser Bool :=
  return ["CONSTRAINT", "PRIMARY", "UNIQUE", "CHECK", "FOREIGN"].contains (← word)

/-- The constraints of a table; the commas between them can be left out. -/
def tableConstraints : Nat → Option String → Parser Unit
  | 0, _ => return
  | fuel + 1, label => do
    let go (c : TableConstraint) : Parser Unit := do
      done (.tableConstraint c)
      tableConstraints fuel label
    match ← word with
    | "CONSTRAINT" =>
      advance
      let n ← name
      tableConstraints fuel (some n)
    | "PRIMARY" =>
      advance
      expectWord "KEY"
      expectMark "("
      let terms ← list (do orderTerm (← Parser.fuel))
      let auto ← acceptWord "AUTOINCREMENT"
      expectMark ")"
      go (.primaryKey (terms.map keyPart) auto (← onConflict))
    | "UNIQUE" =>
      advance
      let parts ← keyParts
      go (.unique parts (← onConflict))
    | "CHECK" =>
      advance
      let c ← check label
      let _ ← onConflict
      go (.check c)
    | "FOREIGN" =>
      advance
      expectWord "KEY"
      let columns ← columnNames
      expectWord "REFERENCES"
      let key ← references columns
      let deferrable := (← word) == "DEFERRABLE" || ((← word) == "NOT" && (← wordAfter) == "DEFERRABLE")
      let deferred ← if deferrable then deferral else pure false
      go (.foreign { key with deferred })
    | _ =>
      if ← acceptMark "," then
        if ← startsTableConstraint then tableConstraints fuel none else refuse
      else return

/-- The columns of a table, then its constraints. -/
def tableColumns : Nat → Parser Unit
  | 0 => refuse
  | fuel + 1 => do
    columnDefinition
    let stop ← position
    if ← acceptMark "," then
      unless ← startsTableConstraint do return ← tableColumns fuel
      columnsEndAt stop
      tableConstraints (← left) none
    else columnsEndAt stop

/-- An option of a table, which counts as it is written. One that is not known is reported if the list of options may go
on or end after it. -/
def tableOption : Parser String := do
  let negated ← acceptWord "WITHOUT"
  let written ← spelling
  let _ ← name
  match negated, folded written with
  | true, "rowid" => return "without rowid"
  | false, "strict" => return "strict"
  | _, _ =>
    match ← next? with
    | none => pure ()
    | some t => if t.mark != "," && t.mark != ";" then refuse
    failWith ("unknown table option: " ++ written)

/-- The options after the columns of a table; there can be a comma in front of them. -/
def tableOptions : Parser (List String) := do
  let isName := ((← next?).map fun t => t.name?.isSome || t.string?.isSome).getD false
  let isOption := isName || (← word) == "WITHOUT"
  if isOption || (← acceptMark ",") then list tableOption else return []

/-- What a table is made of, and where its definition ends. -/
def tableBody : Parser (TableBody × Nat) := do
  if ← acceptWord "AS" then return (.query (← select), ← position)
  expectMark "("
  tableColumns (← left)
  expectMark ")"
  let stop ← finish
  let options ← tableOptions
  let stop ← if options.isEmpty then pure stop else position
  return (.columns (← steps) options, stop)

/-- The words `IF NOT EXISTS`, if they are next. -/
def ifNotExists : Parser Bool := do
  let lenient ← acceptWord "IF"
  if lenient then
    expectWord "NOT"
    expectWord "EXISTS"
  return lenient

/-- The words `IF EXISTS`, if they are next. -/
def ifExists : Parser Bool := do
  let lenient ← acceptWord "IF"
  if lenient then expectWord "EXISTS"
  return lenient

/-- The condition of a `WHERE`, if there is one. -/
def filter : Parser (Option Expr) := do
  if ← acceptWord "WHERE" then return some (← expression) else return none

/-- A statement that creates something. -/
def create : Parser Statement := do
  let temporary ← if ← acceptWord "TEMP" then pure true else acceptWord "TEMPORARY"
  match ← word with
  | "TABLE" =>
    advance
    let lenient ← ifNotExists
    let n ← placedName
    opened { creates := true, temporary, ifNotExists := lenient, name := n }
    let (body, stop) ← tableBody
    return .createTable temporary lenient n body (← textFrom n.place stop)
  | "VIEW" =>
    advance
    let lenient ← ifNotExists
    let n ← placedName
    let columns ← if (← mark) == "(" then columnNames else pure []
    expectWord "AS"
    let q ← select
    return .createView temporary lenient n (columns.map Ident.text) q (← textBetween n.place (← position))
  | w =>
    if temporary then refuse
    let unique := w == "UNIQUE"
    if unique then advance
    expectWord "INDEX"
    let lenient ← ifNotExists
    let n ← placedName
    expectWord "ON"
    let table ← ident
    let parts ← keyParts
    let condition ← filter
    return .createIndex unique lenient n table parts condition (← textFrom n.place (← position))

/-- A statement that drops something. -/
def drop : Parser Statement := do
  let kind : ObjectKind ← match ← word with
    | "TABLE" => pure .table
    | "VIEW" => pure .view
    | "INDEX" => pure .index
    | _ => refuse
  advance
  let lenient ← ifExists
  return .drop kind lenient (← objectName)

/-- A statement that changes the definition of a table. -/
def alter : Parser Statement := do
  expectWord "TABLE"
  let table ← objectName
  match ← word with
  | "RENAME" =>
    advance
    if ← acceptWord "TO" then return .alter table (.rename (← name))
    let _ ← acceptWord "COLUMN"
    let written ← spelling
    let column ← name
    expectWord "TO"
    let quoted := ((← next?).map fun t => t.kind != .word).getD false
    return .alter table (.renameColumn column written (← name) quoted)
  | "DROP" =>
    advance
    let _ ← acceptWord "COLUMN"
    let written ← spelling
    return .alter table (.dropColumn (← name) written)
  | _ =>
    opened { creates := false, name := table }
    expectWord "ADD"
    let _ ← acceptWord "COLUMN"
    let start ← position
    columnDefinition
    return .alter table (.addColumn (← steps) (← textBetween start (← position)))

/-! ### Rows -/

/-- A table that is changed, with another name for it if it has one. -/
def target : Parser (ObjectName × Option String) := do
  let n ← objectName
  if ← acceptWord "AS" then return (n, some (← name))
  return (n, none)

/-- An insertion, after its first words. -/
def insertion (conflict : Option OnConflict) : Parser Statement := do
  expectWord "INTO"
  let (table, asName) ← target
  let columns ← if (← mark) == "(" then parenthesized name else pure []
  if ← acceptWord "DEFAULT" then
    expectWord "VALUES"
    return .insert conflict table asName columns .defaults
  return .insert conflict table asName columns (.query (← select))

/-- New values of an update: of one column, or of several columns that are given together. -/
def assignment : Parser Assignment := do
  let columns ← if (← mark) == "(" then parenthesized name else do pure [← name]
  unless ← acceptEqual do refuse
  return ⟨columns, ← expression⟩

/-- What is done about conflicts, after `OR`. -/
def orConflict : Parser (Option OnConflict) := do
  if ← acceptWord "OR" then return some (← conflictName) else return none

/-! ### Transactions and settings -/

/-- The word `TRANSACTION`, perhaps with a name. -/
def transactionWords : Parser Unit := do
  if ← acceptWord "TRANSACTION" then
    match ← next? with
    | some t => if (t.string?.isSome || t.name?.isSome) && t.keyword != "TO" then advance
    | none => pure ()

/-- The value of a setting: a name, a keyword or a number, as it is written. -/
def settingValue : Parser String := do
  let negative ← acceptMark "-"
  let signed ← if negative then pure true else acceptMark "+"
  match ← next? with
  | none => refuse
  | some t =>
    if t.kind = .integer || t.kind = .float then
      advance
      return (if negative then "-" else "") ++ String.ofList t.spelling
    else if signed then refuse
    else if ["ON", "DELETE", "DEFAULT"].contains t.keyword then
      advance
      return String.ofList t.spelling
    else name

/-- A setting, perhaps with a value. -/
def pragma : Parser Statement := do
  let n ← placedName
  if ← acceptEqual then return .pragma n.schema n.name (some (← settingValue))
  if ← acceptMark "(" then
    let v ← settingValue
    expectMark ")"
    return .pragma n.schema n.name (some v)
  return .pragma n.schema n.name none

/-- A change of rows. -/
def rowChange : Parser Statement := do
  match ← word with
  | "INSERT" => advance; insertion (← orConflict)
  | "REPLACE" => advance; insertion (some .replace)
  | "UPDATE" =>
    advance
    let conflict ← orConflict
    let (table, asName) ← target
    let index ← indexHint
    expectWord "SET"
    let changes ← list assignment
    return .update conflict table asName index changes (← filter)
  | _ =>
    expectWord "DELETE"
    expectWord "FROM"
    let (table, asName) ← target
    let index ← indexHint
    return .delete table asName index (← filter)

/-- A statement. -/
def statement : Parser Statement := do
  match ← word with
  | "SELECT" | "VALUES" => return .select (← select)
  | "WITH" =>
    let common ← commonTables (← fuel)
    if queryWords.contains (← word) then
      let q ← select
      return .select { q with common }
    return .within common (← rowChange)
  | "INSERT" | "REPLACE" | "UPDATE" | "DELETE" => rowChange
  | "CREATE" => advance; create
  | "DROP" => advance; drop
  | "ALTER" => advance; alter
  | "BEGIN" =>
    advance
    let writing ← match ← word with
      | "DEFERRED" => advance; pure false
      | "IMMEDIATE" | "EXCLUSIVE" => advance; pure true
      | _ => pure false
    transactionWords
    return .begin writing
  | "COMMIT" | "END" => advance; transactionWords; return .commit
  | "ROLLBACK" =>
    advance
    transactionWords
    if ← acceptWord "TO" then
      let _ ← acceptWord "SAVEPOINT"
      return .rollbackTo (← name)
    return .rollback
  | "SAVEPOINT" => advance; return .savepoint (← name)
  | "RELEASE" =>
    advance
    let _ ← acceptWord "SAVEPOINT"
    return .release (← name)
  | "PRAGMA" => advance; pragma
  | _ => refuse

end Parser

/-- A statement, the number of its parameters, and the tokens after it. -/
structure Prepared where
  statement : Statement
  parameters : Nat
  /-- Where the columns end, if the statement defines a table by them. -/
  columnsEnd : Option Nat
  rest : List Token

/-- What the start of a list of tokens is read as. -/
inductive Reading where
  /-- There are only semicolons. -/
  | nothing
  | statement (p : Prepared)
  /-- No statement starts like that; what a definition says before the place of the failure counts all the same. -/
  | broken (failure : Failure) (outline : Option Outline)

/-- The part of the outline of a definition that was complete before the token at which reading failed. -/
def Cursor.completed (c : Cursor) : Option Outline :=
  match c.marks.countP fun left => c.tokens.length < left with
  | 0 => none
  | n + 1 => c.outline.map fun o => { o with steps := o.steps.take n }

/-- Reads the first statement of a list of tokens, perhaps keeping everything as it is written. -/
def Reading.ofTokens (source : List Char) (tokens : List Token) (isVerbatim : Bool) : Reading :=
  match tokens.dropWhile (·.mark == ";") with
  | [] => .nothing
  | tokens =>
    let reader : Parser Prepared := do
      let s ← Parser.statement
      if (← Parser.next?).isSome then Parser.expectMark ";"
      let c ← get
      return { statement := s, parameters := c.parameters, columnsEnd := c.columnsEnd, rest := c.tokens }
    match reader.run.run { source, tokens, parameters := 0, named := [], isVerbatim } with
    | (.ok p, _) => .statement p
    | (.error f, c) => .broken f c.completed

end RecordMapper.Sqlite
