import RecordMapper.Sqlite.Grammar.Statement
import RecordMapper.Sqlite.Query

/-!
# Tables from their definitions

A definition is read column by column, then constraint by constraint; the first mistake in that order is the one that is
reported. A primary key of one column that is declared as `INTEGER` is another name for the row id.
-/

namespace RecordMapper.Sqlite

/-- The standard types, which are reported in upper case, with what they incline to. -/
def standardTypes : List (String × Affinity) :=
  [("ANY", .numeric), ("BLOB", .blob), ("INT", .integer), ("INTEGER", .integer), ("REAL", .real), ("TEXT", .text)]

/-- A text without the quotes around it, if it has no other quotes. -/
def withoutQuotes (text : String) : String :=
  let isQuote (c : Char) : Bool := ['"', '\'', '`', '['].contains c
  match text.toList with
  | q :: cs =>
    let inner := cs.dropLast
    if isQuote q && !cs.isEmpty && !inner.any isQuote then String.ofList inner else text
  | [] => text

/-- A type as it is reported, and what it inclines to. -/
def declaredType (written : String) : String × Affinity :=
  let plain := if 3 ≤ written.length then withoutQuotes written else written
  match standardTypes.find? fun t => sameName t.1 plain with
  | some t => t
  | none =>
    let type := Token.dequoted plain
    (type, Affinity.ofType type)

/-- The failure of a column that is not there. -/
def noSuchColumn (name : String) : Failure := .general ("no such column: " ++ name)

/-- A name in quotes, as messages show it. -/
def inQuotes (name : String) : String := "\"" ++ name ++ "\""

/-- The failure of a key that says where `NULL` comes. -/
def noNullOrder (first : Bool) : Failure :=
  .general ("unsupported use of NULLS " ++ if first then "FIRST" else "LAST")

/-- Refuses keys that say where `NULL` comes. -/
def checkNullOrder (parts : List KeyPart) : Except Failure Unit :=
  match parts.findSome? KeyPart.nullsFirst with
  | some first => .error (noNullOrder first)
  | none => .ok ()

namespace Stored

/-- A change of the field at a place. -/
def modifyField (t : Stored) (i : Nat) (f : Field → Field) : Stored :=
  { t with fields := t.fields.modify i f }

/-- The collation of a column. -/
def collationOf (t : Stored) (i : Nat) : Collation := ((t.fields[i]?).map Field.collation).getD .binary

/-- The column that a part of a key names; a string stands for a name. -/
def columnOf? (t : Stored) : Expr → Option Nat
  | .column ⟨[], n, _⟩ => t.fieldIndex? n.text
  | .literal (.text s) => t.fieldIndex? (Text.Utf8.readLossy s)
  | _ => none

/-- Looks up what a part of a key orders rows by, with its collation. -/
def keyTerm (t : Stored) (store : Store) (schema : SchemaName) (part : KeyPart) : Resolver (KeyTerm × Collation) := do
  let e := match part.expr with
    | .literal (.text s) => Expr.named (Text.Utf8.readLossy s)
    | e => e
  let _ ← t.resolve store schema .indexTerm e
  let own := t.columnOf? e
  let collation ← match part.collation with
    | some c => collationNamed c
    | none => pure ((own.map t.collationOf).getD .binary)
  return ((own.map KeyTerm.column).getD (.expr e), collation)

/-- The columns of a key that a constraint declares, with their collations. -/
def keyColumns (t : Stored) (store : Store) (schema : SchemaName) (parts : List KeyPart) :
    Except Failure (List (Nat × Collation)) := do
  checkNullOrder parts
  parts.mapM fun p => do
    match ← (t.keyTerm store schema p).finish with
    | ((.column i, c), _) => return (i, c)
    | ((.expr _, _), _) => throw (.general "expressions prohibited in PRIMARY KEY and UNIQUE constraints")

/-- A table with one more index that a constraint asks for, what is done about equal keys being said or not. Of indexes
that are alike only one is kept. -/
def addConstraintIndex (t : Stored) (columns : List (Nat × Collation)) (conflict : Option OnConflict)
    (isPrimary : Bool) : Except Failure Stored := do
  let terms := columns.map fun (i, c) => (KeyTerm.column i, c)
  match t.indexes.find? fun i => !i.isExplicit && i.columns? == some columns with
  | some like =>
    if like.isSettled && conflict.isSome && like.unique != conflict then
      throw (.general "conflicting ON CONFLICT clauses specified")
    let merged : Index :=
      { like with
        isPrimary := like.isPrimary || isPrimary
        unique := if like.isSettled then like.unique else some (conflict.getD .abort)
        isSettled := like.isSettled || conflict.isSome }
    return { t with indexes := t.indexes.map fun i => if i.name == like.name then merged else i }
  | none =>
    let name := "sqlite_autoindex_" ++ t.name ++ "_" ++ Decimal.natText (t.indexes.length + 1)
    let index : Index :=
      { name, terms, unique := some (conflict.getD .abort), isSettled := conflict.isSome, isPrimary }
    return { t with indexes := index :: t.indexes }

/-- A table with a primary key of some parts, or of one column alone. -/
def addPrimaryKey (t : Stored) (store : Store) (schema : SchemaName) (parts : List KeyPart)
    (conflict : Option OnConflict) (descending autoincrement : Bool) : Except Failure Stored := do
  let named := parts.map fun p => t.columnOf? p.expr
  if t.hasPrimaryKey then
    throw (.general ("table " ++ inQuotes t.name ++ " has more than one primary key"))
  let placed := named.zipIdx.foldl (fun (t : Stored) (i, place) =>
    match i with
    | some i => t.modifyField i fun f => { f with keyPlace := if f.keyPlace = 0 then place + 1 else f.keyPlace }
    | none => t) { t with hasPrimaryKey := true }
  let rowIdField : Option Nat := match named with
    | [some i] => if !descending && ((t.fields[i]?).map Field.type) == some "INTEGER" then some i else none
    | _ => none
  if rowIdField.isSome then
    checkNullOrder parts
    return { placed with rowIdField, rowIdConflict := conflict.getD .abort, autoincrement }
  if autoincrement then throw (.general "AUTOINCREMENT is only allowed on an INTEGER PRIMARY KEY")
  placed.addConstraintIndex (← t.keyColumns store schema parts) conflict true

/-- A table with a reference to another one. -/
def addForeignKey (t : Stored) (key : ForeignKey) : Except Failure Stored := do
  match key.columns.find? fun c => (t.fieldIndex? c.text).isNone with
  | some c => throw (.general ("unknown column " ++ inQuotes c.text ++ " in foreign key definition"))
  | none => return { t with foreignKeys := key :: t.foreignKeys }

/-- A constraint of the last column. -/
def addColumnConstraint (t : Stored) (store : Store) (schema : SchemaName) (c : ColumnConstraint) :
    Except Failure Stored := do
  let i := t.fields.length - 1
  let name := ((t.fields[i]?).map Field.name).getD ""
  let column := (i, t.collationOf i)
  match c with
  | .primaryKey descending conflict autoincrement =>
    t.addPrimaryKey store schema [⟨.named name, none, false, none⟩] conflict descending autoincrement
  | .unique conflict =>
    (t.modifyField i fun f => { f with isUnique := true }).addConstraintIndex [column] conflict false
  | .notNull conflict => return t.modifyField i fun f => { f with notNull := some (conflict.getD .abort) }
  | .default e spelling =>
    if !e.isConstant true false then throw (.general ("default value of column [" ++ name ++ "] is not constant"))
    return t.modifyField i fun f => { f with default := some (e, spelling) }
  | .check c => return { t with checks := t.checks ++ [c] }
  | .collate c =>
    let c ← collationNamed c
    let recollated := t.modifyField i fun f => { f with collation := c }
    let changed (x : Index) : Index :=
      if (x.columns?.map fun cs => cs.map (·.1)) == some [i] then { x with terms := [(.column i, c)] } else x
    return { recollated with indexes := recollated.indexes.map changed }
  | .foreign key =>
    if 1 < key.parentColumns.length then
      throw (.general ("foreign key on " ++ name ++ " should reference only one column of table " ++ key.table.text))
    t.addForeignKey { key with columns := [⟨name, 0⟩] }
  | .deferral deferred =>
    match t.foreignKeys with
    | key :: keys => return { t with foreignKeys := { key with deferred } :: keys }
    | [] => return t
  | .nullable => return t

/-- A table with one more column. -/
def addColumn (t : Stored) (name written : String) : Except Failure Stored := do
  if 2000 ≤ t.fields.length then throw (.general ("too many columns on " ++ t.name))
  if (t.fieldIndex? name).isSome then throw (.general ("duplicate column name: " ++ name))
  let (type, affinity) := declaredType written
  return { t with fields := t.fields ++ [{ name, type, affinity }] }

/-- A table with one more constraint. -/
def addConstraint (t : Stored) (store : Store) (schema : SchemaName) : TableConstraint → Except Failure Stored
  | .primaryKey parts autoincrement conflict => t.addPrimaryKey store schema parts conflict false autoincrement
  | .unique parts conflict => do t.addConstraintIndex (← t.keyColumns store schema parts) conflict false
  | .check c => return { t with checks := t.checks ++ [c] }
  | .foreign key => do
    if !key.parentColumns.isEmpty && key.parentColumns.length ≠ key.columns.length then
      throw (.general "number of columns in foreign key does not match the number of columns in the referenced table")
    t.addForeignKey key

/-- A table after a step of its definition. -/
def addStep (store : Store) (schema : SchemaName) (t : Stored) : TableStep → Except Failure Stored
  | .column n type => t.addColumn n.text type
  | .columnConstraint c => t.addColumnConstraint store schema c
  | .tableConstraint c => t.addConstraint store schema c

/-- A table whose columns hold values of their types only. -/
def asStrict (t : Stored) : Except Failure Stored := do
  let fields ← t.fields.zipIdx.mapM fun (f, i) => do
    if f.type.isEmpty then throw (.general ("missing datatype for " ++ t.name ++ "." ++ f.name))
    if (standardTypes.lookup f.type).isNone then
      throw (.general ("unknown datatype for " ++ t.name ++ "." ++ f.name ++ ": " ++ inQuotes f.type))
    let notNull := if 0 < f.keyPlace && t.rowIdField != some i then f.notNull.or (some .abort) else f.notNull
    return { f with notNull, affinity := if f.type == "ANY" then .blob else f.affinity }
  return { t with fields, strict := true }

/-- A table that is ordered by its primary key. -/
def asWithoutRowId (t : Stored) : Except Failure Stored := do
  if t.autoincrement then throw (.general "AUTOINCREMENT not allowed on WITHOUT ROWID tables")
  if !t.hasPrimaryKey then throw (.general ("PRIMARY KEY missing on table " ++ t.name))
  let keyed ← match t.rowIdField with
    | some i => do
      pure { ← t.addConstraintIndex [(i, t.collationOf i)] (some t.rowIdConflict) true with rowIdField := none }
    | none => pure t
  let notNull (f : Field) : Field :=
    if 0 < f.keyPlace then { f with notNull := f.notNull.or (some .abort) } else f
  return { keyed with withoutRowId := true, fields := keyed.fields.map notNull }

/-- The table of a definition. -/
def ofDefinition (store : Store) (schema : SchemaName) (name : String) (steps : List TableStep)
    (options : List String) : Except Failure Stored := do
  let t ← steps.foldlM (addStep store schema) { name, fields := [] }
  let t ← if options.contains "strict" then t.asStrict else pure t
  let t ← if options.contains "without rowid" then t.asWithoutRowId else pure t
  for c in t.checks do
    let _ ← (t.resolve store schema .check c.condition).run {}
  return t

/-- The type of a column that is made from a column of a result. -/
def typeOfAffinity : Option Affinity → String
  | some .text => "TEXT"
  | some .numeric => "NUM"
  | some .integer => "INT"
  | some .real => "REAL"
  | some .blob | none => ""

/-- The table, still without rows, of a query. -/
def ofColumns (name : String) (columns : List OutColumn) : Stored :=
  let field (c : OutColumn) : Field :=
    let type := typeOfAffinity c.affinity
    { name := c.name, type, affinity := Affinity.ofType type }
  { name, fields := (distinctNames columns).map field }

end Stored

/-! ### Texts of definitions -/

/-- The keywords that can be names as well. -/
def softWords : List String :=
  ["ABORT", "ACTION", "AFTER", "ALWAYS", "ANALYZE", "ASC", "ATTACH", "BEFORE", "BEGIN", "BY", "CASCADE", "CAST", "COLUMN",
    "CONFLICT", "CURRENT", "CURRENT_DATE", "CURRENT_TIME", "CURRENT_TIMESTAMP", "DATABASE", "DEFERRED", "DESC", "DETACH",
    "DO", "EACH", "END", "EXCLUDE", "EXCLUSIVE", "EXPLAIN", "FAIL", "FILTER", "FIRST", "FOLLOWING", "FOR", "GENERATED",
    "GLOB", "GROUPS", "IF", "IGNORE", "IMMEDIATE", "INDEXED", "INITIALLY", "INSTEAD", "KEY", "LAST", "LIKE", "MATCH",
    "MATERIALIZED", "NO", "NULLS", "OF", "OFFSET", "OTHERS", "OVER", "PARTITION", "PLAN", "PRAGMA", "PRECEDING", "QUERY",
    "RAISE", "RANGE", "RECURSIVE", "REGEXP", "REINDEX", "RELEASE", "RENAME", "REPLACE", "RESTRICT", "ROLLBACK", "ROW",
    "ROWS", "SAVEPOINT", "TEMP", "TEMPORARY", "TIES", "TRIGGER", "UNBOUNDED", "VACUUM", "VIEW", "VIRTUAL", "WINDOW",
    "WITH", "WITHOUT"]

/-- A name as a definition writes it: in quotes unless it is a plain word. -/
def definedName (name : String) : String :=
  let cs := name.toList
  let isPlain (c : Char) : Bool := c.isAlphanum || c = '_'
  let word := String.ofList (cs.map Char.toUpper)
  let isKeyword := reservedWords.contains word || joinWords.contains word || softWords.contains word
  let quoted := cs.isEmpty || (cs.headD 'a').isDigit || cs.any (fun c => !isPlain c) || isKeyword
  if quoted then String.ofList ('"' :: (cs.flatMap fun c => if c = '"' then ['"', '"'] else [c]) ++ ['"']) else name

/-- The text of the definition of a table that is made of a query; a long one takes a line for each column. -/
def Stored.definitionText (t : Stored) : String :=
  let length (name : String) : Nat :=
    name.utf8ByteSize + (name.toList.filter (· = '"')).length + 2
  let size := t.fields.foldl (fun n f => n + length f.name + 5) (length t.name)
  let (first, next, last) := if size < 50 then ("", ",", ")") else ("\n  ", ",\n  ", "\n)")
  let column (f : Field) : String := definedName f.name ++ (if f.type.isEmpty then "" else " " ++ f.type)
  "CREATE TABLE " ++ definedName t.name ++ "(" ++ first ++ next.intercalate (t.fields.map column) ++ last

/-! ### Names of new objects -/

/-- A name that no object may be given. -/
def isReserved (name : String) : Bool := (folded name).startsWith "sqlite_"

/-- Refuses a name that no object may be given. -/
def checkName (name : String) : Except Failure Unit :=
  if isReserved name then .error (.general ("object name reserved for internal use: " ++ name)) else .ok ()

/-- The failure of an object that is there already. -/
def alreadyExists (kind name : String) : Failure := .general (kind ++ " " ++ name ++ " already exists")

/-- The failure of a schema that is not there. -/
def unknownDatabase (name : String) : Failure := .general ("unknown database " ++ name)

/-- The schema that a new table or view goes to. -/
def newSchema (temporary : Bool) (n : ObjectName) : Except Failure SchemaName := do
  match n.schema.map folded with
  | none => return if temporary then .temp else .main
  | some "temp" => return .temp
  | some "main" => if temporary then throw (.general "temporary table name must be unqualified") else return .main
  | some _ => throw (unknownDatabase (n.schema.getD ""))

/-- Whether a new table or view may have its name, given as it is written too; if not, whether that is no mistake. -/
def isFree (store : Store) (schema : SchemaName) (lenient : Bool) (name written : String) : Except Failure Bool := do
  checkName name
  let contents := store.schema schema
  let found := ((contents.table? name).map fun _ => "table").or ((contents.view? name).map fun _ => "view")
  match found with
  | some kind => if lenient then return false else throw (alreadyExists kind written)
  | none =>
    if (contents.indexed? name).isSome then throw (.general ("there is already an index named " ++ name))
    return true

end RecordMapper.Sqlite
