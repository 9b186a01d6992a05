import RecordMapper.Database.Basic
import RecordMapper.Fetch.Select

/-!
# Reading tables

The fetches of a model that give plain data: rows, one column, pairs, a single value. Relations are not loaded here.
-/

namespace RecordMapper.Model

variable {σ : Type}

/-- The rows of a query. -/
def runQuery (d : Driver σ) (s : Select) : Operation σ (List Row) :=
  match s.sql d.quoter with
  | .ok sql => Database.call (d.query sql.text sql.binds)
  | .error fault => throw fault.toError

/-- The rows of a fetch as the driver gives them. -/
def select (d : Driver σ) (m : Model) (f : Fetch) : Operation σ (List Row) :=
  runQuery d { table := m.tableName, fetch := f }

/-- The rows of a fetch as maps. -/
def fetchRows (d : Driver σ) (m : Model) (f : Fetch) : Operation σ (List Assignments) := do
  return (← m.select d f).map Row.toMap

/-- The fetch of the first row only. -/
def first (f : Fetch) : Fetch := { f with limit := some 1 }

/-- The values of the one selected column. -/
def fetchColumn (d : Driver σ) (m : Model) (f : Fetch) : Operation σ (List Value) :=
  if f.cols.length = 1 then do
    return (← m.select d f).filterMap fun row => row.values.head?
  else throw (.columnSelection "fetch_col needs exactly one column in 'cols'" f.cols)

/-- The pairs of rows: the key of the first value with the second value. -/
def pairsOf (rows : List Row) : List (String × Value) :=
  rows.filterMap fun row =>
    match row.values with
    | k :: v :: _ => some (k.keyText?.getD "", v)
    | _ => none

/-- The first selected column with the second; the last row of a key decides. -/
def fetchPairs (d : Driver σ) (m : Model) (f : Fetch) : Operation σ Assignments :=
  if f.cols.length = 2 then do
    return .ofList (pairsOf (← m.select d f))
  else throw (.columnSelection "fetch_pairs needs exactly two columns in 'cols'" f.cols)

/-- The first value of the first row. -/
def fetchValue (d : Driver σ) (m : Model) (f : Fetch) : Operation σ (Option Value) := do
  return (← m.select d (first f)).head?.bind fun row => row.values.head?

end RecordMapper.Model
