import RecordMapper.Driver.Basic
import RecordMapper.Sqlite.Library
import RecordMapper.Text.Quoted

/-!
# Connections

A connection is a database of a library with a flag of its own that says whether a transaction is open. The flag is read
before a transaction is opened or closed, and is set by the database afterwards; statements that open or close one do not
touch it. Each failure is an error that carries the text it came from. `Connection.driver` is what the mapper asks a
database for.
-/

namespace RecordMapper.Sqlite

/-- The value that a datum is read as: integers take the smaller type if they fit it. -/
def valueOf : Datum → Value
  | .null => .null
  | .int n => if -0x80000000 ≤ n.toInt ∧ n.toInt < 0x80000000 then .int n.toInt32 else .bigint n
  | .real x => .double x
  | .text s => .text (Text.Utf8.readLossy s)
  | .blob s => .bytes s

/-- Refuses a text with a character that ends it early. -/
def checkText (sql : String) : Except Error Unit :=
  if sql.contains '\x00' then .error (.query .sqlGrammar "SQL contains null byte" (some sql) none) else .ok ()

theorem checkText_eq_ok_iff {sql : String} : checkText sql = .ok () ↔ '\x00' ∉ sql.toList := by
  simp [checkText, String.contains_char_eq]

namespace Library

variable {δ σ : Type} (lib : Library δ σ)

/-! ### Statements -/

/-- Binds a value. One without a form is refused as one of a wrong type. -/
def bindValue (stmt : σ) (i : Int) (v : Value) : Except Refusal σ :=
  match bindingOf? v with
  | some b => lib.bind stmt i b
  | none => .error ⟨Refusal.mismatchCode, none⟩

/-- The error of a value that cannot be bound, at a place from 0. -/
def unbound (sql : String) (place : Nat) (v : Value) (r : Refusal) : Error :=
  let message := if r.code = Refusal.mismatchCode then v.typeName ++ " has no bindable form" else r.told
  .query .database ("Failed to bind parameter " ++ Decimal.natText (place + 1) ++ ": " ++ message) (some sql) none

/-- Binds values from a place on. A statement with one that cannot be bound is given up. -/
def bindAll (sql : String) (place : Nat) (values : List Value) (stmt : σ) (db : δ) : Except Error σ × δ :=
  match values with
  | [] => (.ok stmt, db)
  | v :: values => match lib.bindValue stmt (cInt (place + 1)) v with
    | .error r => (.error (unbound sql place v r), lib.finalize stmt db)
    | .ok stmt => bindAll sql (place + 1) values stmt db

/-- The first statement of a text with its parameters bound. -/
def prepared (sql : String) (binds : List Value) (db : δ) : Except Error σ × δ :=
  match checkText sql with
  | .error e => (.error e, db)
  | .ok () => match lib.prepare sql (cInt sql.utf8ByteSize) db with
    | (.error r, db) => (.error (r.toError r.told sql), db)
    | (.ok stmt, db) => lib.bindAll sql 0 binds stmt db

/-- The columns of a statement; one without a name is named by its place. -/
def columnsOf (stmt : σ) : List String :=
  (lib.columnNames stmt).zipIdx.map fun (name, i) => name.getD ("col" ++ Decimal.natText i)

/-- A row of a statement with the given columns. -/
def rowOf (names : List String) (data : List Datum) : Row :=
  { names, values := names.zipIdx.map fun (_, i) => valueOf (data.getD i .null) }

/-- Runs a statement to its end and gives its rows. -/
def query (sql : String) (binds : List Value) (db : δ) : Except Error (List Row) × δ :=
  match lib.prepared sql binds db with
  | (.error e, db) => (.error e, db)
  | (.ok stmt, db) => match (lib.steps stmt db).all [] with
    | (.error r, db) => (.error (r.toError r.told sql), lib.finalize stmt db)
    | (.ok rows, db) => (.ok (rows.map (rowOf (lib.columnsOf stmt))), lib.finalize stmt db)

/-- Runs one step of a statement and gives the number of rows that the last change of rows changed. -/
def execute (sql : String) (binds : List Value) (db : δ) : Except Error Nat × δ :=
  match lib.prepared sql binds db with
  | (.error e, db) => (.error e, db)
  | (.ok stmt, db) => match (lib.steps stmt db).first with
    | (.error r, db) => (.error (r.toError r.told sql), lib.finalize stmt db)
    | (.ok (), db) => (.ok (lib.changes db), lib.finalize stmt db)

/-- Runs all statements of a text, up to the first that fails. -/
def executeRaw (sql : String) (db : δ) : Except Error Unit × δ :=
  match checkText sql with
  | .error e => (.error e, db)
  | .ok () => match lib.exec sql db with
    | (.error r, db) => (.error (r.toError r.described sql), db)
    | (.ok (), db) => (.ok (), db)

end Library

/-- An open database of a library. -/
structure Connection (δ : Type) where
  path : String
  db : δ
  /-- Whether a transaction is open, as far as the connection knows. -/
  inTransaction : Bool := false

namespace Connection

variable {δ σ α : Type} (lib : Library δ σ)

/-- Opens a database. -/
def ofConfig (c : Config) : Except Error (Connection δ) :=
  let refused (message : String) : Error := .connection .connect message none
  if c.path.contains '\x00' then .error (refused "Invalid path: contains null byte")
  else match lib.openDatabase c.path (OpenFlag.withDefault c.flags) with
    | .error r => .error (refused ("Failed to open database: " ++ r.described))
    | .ok db => .ok { path := c.path, db := if 0 < c.busyTimeout then lib.setTimeout (cInt c.busyTimeout) db else db }

/-- A call on the database alone. -/
def onDatabase (call : δ → Except Error α × δ) : Action (Connection δ) α := fun c =>
  let (result, db) := call c.db
  (result, { c with db })

/-- Runs a statement and gives its rows. -/
def query (sql : String) (binds : List Value) : Action (Connection δ) (List Row) :=
  onDatabase (lib.query sql binds)

/-- Runs a statement and gives the number of rows that the last change of rows changed. -/
def execute (sql : String) (binds : List Value) : Action (Connection δ) Nat :=
  onDatabase (lib.execute sql binds)

/-- Runs all statements of a text, up to the first that fails. -/
def executeRaw (sql : String) : Action (Connection δ) Unit :=
  onDatabase (lib.executeRaw sql)

/-! ### Transactions -/

/-- Opens or closes a transaction by a statement; `expected` is whether one has to be open. -/
def transition (sql : String) (expected : Bool) : Action (Connection δ) Unit := fun c =>
  if c.inTransaction ≠ expected then
    let refused : Error := if expected then .transaction .notActive "Not in a transaction"
      else .transaction .alreadyActive "Already in a transaction"
    (.error refused, c)
  else
    let (result, db) := lib.executeRaw sql c.db
    (result, { c with db, inTransaction := !lib.isAutocommit db })

/-- Opens a transaction. -/
def begin : Action (Connection δ) Unit := transition lib "BEGIN" false

/-- Keeps what the transaction did. -/
def commit : Action (Connection δ) Unit := transition lib "COMMIT" true

/-- Undoes what the transaction did. -/
def rollback : Action (Connection δ) Unit := transition lib "ROLLBACK" true

/-! ### Columns -/

/-- A column of a row that describes it; the only column of a primary key counts upwards by itself if its type is
`INTEGER`. -/
def columnOf (soleKey : Bool) (r : Row) : Except Error Column := do
  let name ← r.read .string "name"
  let type ← r.read (Reader.optional .string) "type"
  let notNull ← r.read .int64 "notnull"
  let key ← r.read .int64 "pk"
  let c := Column.ofDeclaration name (type.getD "")
  let c := if 0 < key then c.asPrimaryKey (soleKey && folded c.declared == "integer") else c
  let c := if notNull = 0 then c else c.asNotNull
  match (r.get? "dflt_value").filter fun v => !v.isNull with
  | some v => return c.withDefault v.display
  | none => return c

/-- The columns of a table; none if there is no such table. -/
def columns (table : String) : Action (Connection δ) (List Column) := do
  let rows ← query lib ("PRAGMA table_info(" ++ Dialect.sqlite.quoteIdentifier table ++ ")") []
  let isKey (r : Row) : Bool := match r.read .int64 "pk" with
    | .ok n => 0 < n
    | .error _ => false
  (rows.mapM (columnOf ((rows.filter isKey).length = 1)) : Except Error (List Column))

/-- A text that shows the connection. -/
def describe (c : Connection δ) : String :=
  "SqliteConnection \x7b path: " ++ Text.quoted c.path ++ ", in_transaction: " ++
    (if c.inTransaction then "true" else "false") ++ " \x7d"

/-- The connection as the database of a mapper. There are no sequences: the row id of the last insert is its key. -/
def driver : Driver (Connection δ) where
  dialect := .sqlite
  query := query lib
  execute := execute lib
  lastInsertId _ := return .bigint (lib.lastRowId (← get).db)
  begin := begin lib
  commit := commit lib
  rollback := rollback lib
  inTransaction := Connection.inTransaction
  columns := columns lib

end Connection

end RecordMapper.Sqlite
