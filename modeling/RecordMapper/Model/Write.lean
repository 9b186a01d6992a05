import RecordMapper.Model.Query

/-!
# Writing tables

The inserts, updates and deletes of a model. Only columns of the table are written, and only values that a column can
hold; this is checked before any statement is sent. Rows that write the same columns share one statement of a bulk
insert, and the keys that the database made up are counted from the one it reports.
-/

namespace RecordMapper.Model

open Decimal

variable {σ : Type}

/-! ### What is written -/

/-- The values of columns among some entries, or the first value that cannot be written. -/
def writable (m : Model) : List (String × Value) → Except Error (List (String × Value))
  | [] => .ok []
  | (col, v) :: entries =>
    if m.hasColumn col then
      if v.isScalar then (m.writable entries).map ((col, v) :: ·)
      else .error (.unsupportedValue col v.typeName)
    else m.writable entries

/-- Placeholders for some parameters after `bound` others. -/
def placeholders (d : Dialect) (bound count : Nat) : String :=
  ", ".intercalate ((List.range' (bound + 1) count).map d.placeholder)

/-- The insert of a row of defaults. -/
def insertDefaults (m : Model) : Sql :=
  { text := "INSERT INTO " ++ m.tableName ++ " DEFAULT VALUES", binds := [] }

/-- The tuples of parameters for rows of values. -/
def tuples (d : Dialect) (bound : Nat) : List (List Value) → List String
  | [] => []
  | row :: rows => ("(" ++ placeholders d bound row.length ++ ")") :: tuples d (bound + row.length) rows

/-- The insert of rows of values into some columns. -/
def insertRows (m : Model) (d : Dialect) (cols : List String) (rows : List (List Value)) : Sql :=
  { text := "INSERT INTO " ++ m.tableName ++ " (" ++ ", ".intercalate cols ++ ") VALUES " ++
      ", ".intercalate (tuples d 0 rows)
    binds := rows.flatten }

/-- The insert of one row. -/
def insertOne (m : Model) (d : Dialect) (pairs : List (String × Value)) : Sql :=
  if pairs.isEmpty then m.insertDefaults
  else m.insertRows d (pairs.map Prod.fst) [pairs.map Prod.snd]

/-- Sends a statement that gives no rows. -/
def send (d : Driver σ) (sql : Sql) : Operation σ Nat :=
  Database.call (d.execute sql.text sql.binds)

/-! ### Generated keys -/

/-- The sequence behind the primary column, where the dialect has sequences. -/
def sequence? (m : Model) (d : Dialect) : Option String :=
  match d with
  | .postgres => some (m.tableName ++ "_" ++ m.primaryCol ++ "_seq")
  | .sqlite | .mysql => none

/-- The key that the database reports for the last insert. -/
def reportedKey (d : Driver σ) (m : Model) : Operation σ Value :=
  Database.call (d.lastInsertId (m.sequence? d.dialect))

/-- The integer of 64 bits nearest to an integer. -/
def clamped (i : Int) : Int :=
  max (-0x8000000000000000) (min i 0x7FFFFFFFFFFFFFFF)

/-- The keys of `count` rows of one statement: MySQL reports the first of them, the others the last. -/
def keysFrom (d : Dialect) (reported : Value) (count : Nat) : List Value :=
  match reported.int64? with
  | none => List.replicate count .null
  | some n =>
    let first := match d with
      | .mysql => n.toInt
      | .postgres | .sqlite => clamped (n.toInt - (count - 1 : Nat))
    (List.range count).map fun (i : Nat) => .bigint (Int64.ofInt (clamped (first + i)))

/-- The keys of the last statement, which wrote `count` rows. -/
def generatedKeys (d : Driver σ) (m : Model) (count : Nat) : Operation σ (List Value) := do
  return keysFrom d.dialect (← m.reportedKey d) count

/-! ### Inserts -/

/-- The fetch of the row with a primary key. -/
def fetchOfKey (m : Model) (key : Value) : Fetch :=
  first { filter := Filter.and [] (.test { col := m.primaryCol, op := .eq, operand := some key }) }

/-- The row as it was written, with its key: what stands in for a row that is not found again. -/
def writtenRow (m : Model) (data : Assignments) (key : Value) : Assignments :=
  (data.filter fun col _ => m.hasColumn col).insert m.primaryCol key

/-- The key that a row brings along. -/
def ownKey? (m : Model) (data : Assignments) : Option Value :=
  (data.get? m.primaryCol).filter fun v => !v.isBlank

/-- Inserts one row and gives it as it is stored. -/
def insert (d : Driver σ) (m : Model) (data : Assignments) : Operation σ Assignments := do
  let pairs ← Database.result (m.writable data.toList)
  let _ ← send d (m.insertOne d.dialect pairs)
  let key ← match m.ownKey? data with
    | some key => pure key
    | none => m.reportedKey d
  match ← m.fetchRows d (m.fetchOfKey key) with
  | stored :: _ => return stored
  | [] => return m.writtenRow data key

/-- What a row writes in a bulk insert: all but a blank primary key. -/
def bulkPairs (m : Model) (data : Assignments) : Except Error (List (String × Value)) :=
  (m.writable data.toList).map fun pairs => pairs.filter fun e => e.1 ≠ m.primaryCol || !e.2.isBlank

/-- Rows that write the same columns: the columns, and each row's place among all rows with its values. -/
abbrev Batch := List String × List (Nat × List Value)

/-- Adds a row to the batch of its columns. -/
def addToBatches (place : Nat) (pairs : List (String × Value)) (batches : List Batch) : List Batch :=
  let cols := pairs.map Prod.fst
  let rows := (Entries.find? cols batches).getD []
  Entries.put cols (rows ++ [(place, pairs.map Prod.snd)]) batches

/-- The batches of rows, in the order of their first rows. -/
def batchesFrom (place : Nat) (batches : List Batch) : List (List (String × Value)) → List Batch
  | [] => batches
  | row :: rows => batchesFrom (place + 1) (addToBatches place row batches) rows

/-- Puts keys at the places of their rows. -/
def setKeys (keys : List Value) (places : List (Nat × Value)) : List Value :=
  places.foldl (fun keys e => keys.set e.1 e.2) keys

/-- Inserts rows of defaults, one statement each. -/
def insertEmpty (d : Driver σ) (m : Model) (keys : List Value) : List (Nat × List Value) → Operation σ (List Value)
  | [] => pure keys
  | (place, _) :: rows => do
    let _ ← send d m.insertDefaults
    let generated ← m.generatedKeys d 1
    m.insertEmpty d (keys.set place (generated.getLast?.getD .null)) rows

/-- Inserts a batch and puts the keys of its rows in their places. -/
def insertBatch (d : Driver σ) (m : Model) (keys : List Value) (batch : Batch) : Operation σ (List Value) :=
  let (cols, rows) := batch
  if cols.isEmpty then m.insertEmpty d keys rows
  else do
    let _ ← send d (m.insertRows d.dialect cols (rows.map Prod.snd))
    match cols.idxOf? m.primaryCol with
    | some i => return setKeys keys (rows.map fun row => (row.1, row.2[i]?.getD .null))
    | none =>
      let generated ← m.generatedKeys d rows.length
      return setKeys keys ((rows.map Prod.fst).zip generated)

/-- Inserts rows, one statement for each list of columns, and gives their keys in the order of the rows. -/
def insertMany (d : Driver σ) (m : Model) (rows : List Assignments) : Operation σ (List Value) := do
  let pairs ← Database.result (rows.mapM m.bulkPairs)
  (batchesFrom 0 [] pairs).foldlM (m.insertBatch d) (List.replicate rows.length .null)

/-! ### Updates and deletes -/

/-- The assignments of an update. -/
def setText (d : Dialect) (cols : List String) : String :=
  ", ".intercalate (cols.zipIdx.map fun e => e.1 ++ " = " ++ d.placeholder (e.2 + 1))

/-- The condition of an update or a delete; nothing if there is nothing to match. -/
def matchClause (q : Quoter) (values : Assignments) (bound : Nat) : Except FilterFault Sql :=
  if values.isEmpty then .ok { text := "", binds := [] }
  else ((Filter.matching values).compile q bound).map fun sql => { sql with text := " WHERE " ++ sql.text }

/-- The update of the rows that hold the given values. -/
def updateSql (m : Model) (q : Quoter) (pairs : List (String × Value)) (values : Assignments) :
    Except FilterFault Sql :=
  (matchClause q values pairs.length).map fun clause =>
    { text := "UPDATE " ++ m.tableName ++ " SET " ++ setText q.dialect (pairs.map Prod.fst) ++ clause.text
      binds := pairs.map Prod.snd ++ clause.binds }

/-- Sends a statement that may be faulty. -/
def sendChecked (d : Driver σ) (sql : Except FilterFault Sql) : Operation σ Nat :=
  match sql with
  | .ok sql => send d sql
  | .error fault => throw fault.toError

/-- Updates the rows that hold the given values; sends nothing if there is no column to write. -/
def updateMatching (d : Driver σ) (m : Model) (changes values : Assignments) : Operation σ (Option Nat) := do
  let pairs ← Database.result (m.writable changes.toList)
  if pairs.isEmpty then return none
  return some (← sendChecked d (m.updateSql d.quoter pairs values))

/-- The delete of the rows that hold the given values. -/
def deleteSql (m : Model) (q : Quoter) (values : Assignments) : Except FilterFault Sql :=
  ((Filter.matching values).compile q 0).map fun sql =>
    { sql with text := "DELETE FROM " ++ m.tableName ++ " WHERE " ++ sql.text }

/-- Deletes the rows that hold the given values; sends nothing if there are none. -/
def deleteMatching (d : Driver σ) (m : Model) (values : Assignments) : Operation σ (Option Nat) :=
  if values.isEmpty then pure none
  else do return some (← sendChecked d (m.deleteSql d.quoter values))

end RecordMapper.Model
