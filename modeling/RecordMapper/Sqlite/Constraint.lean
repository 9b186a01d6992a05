import RecordMapper.Sqlite.Change

/-!
# Constraints

A row that enters a table is checked before anything is changed: no `NULL` where none may be, then the conditions of the
table, the row id, the types of a strict table, and the keys that rows do not share; the conditions look at the values as
the columns convert them. What breaks a constraint stops the statement, is left out, or replaces the rows in its way.
-/

namespace RecordMapper.Sqlite.Change

/-! ### Values that fit -/

/-- The type names of data in tables whose columns hold values of their types only. -/
def strictName : Datum → String
  | .null => "NULL"
  | .int _ => "INT"
  | .real _ => "REAL"
  | .text _ => "TEXT"
  | .blob _ => "BLOB"

/-- Whether a column of such a table can hold a value. -/
def admits (type : String) : Datum → Bool
  | .null => true
  | .int _ => type == "INT" || type == "INTEGER" || type == "ANY"
  | .real _ => type == "REAL" || type == "ANY"
  | .text _ => type == "TEXT" || type == "ANY"
  | .blob _ => type == "BLOB" || type == "ANY"

/-- The default of a column. -/
def defaultOf (f : Field) : Change Datum := do
  match f.default with
  | none => return .null
  | some (e, _) => attempt ((← attempt e.defaultMeaning).eval (← env))

/-- The value of a column, the default standing in for a `NULL` that has to be replaced; none if the row is left out. -/
def filled (t : Stored) (conflict : Option OnConflict) (f : Field) (d : Datum) : Change (Option Datum) := do
  match if d.isNull then f.notNull else none with
  | none => return some d
  | some declared =>
    let refused := Failure.constraint ("NOT NULL constraint failed: " ++ t.name ++ "." ++ f.name)
    match conflict.getD declared with
    | .ignore => return none
    | .replace =>
      let value ← defaultOf f
      if value.isNull then halt refused .abort else return some value
    | action => halt refused action

/-- A row without any `NULL` where none may be; none if it is left out. A column that is another name for the row id holds
it. -/
def withoutNulls (t : Stored) (conflict : Option OnConflict) (rowId : Int64) (row : Tuple) : Change (Option Tuple) := do
  let mut done : Tuple := []
  for ((f, d), i) in (t.fields.zip row).zipIdx do
    if t.rowIdField = some i then done := .int rowId :: done
    else
      match ← filled t conflict f d with
      | none => return none
      | some d => done := d :: done
  return some done.reverse

/-- A row as the columns store it; in a strict table every value has to be of the type of its column. -/
def converted (t : Stored) (row : Tuple) : Change Tuple :=
  (t.fields.zip row).zipIdx.mapM fun ((f, d), i) => do
    let d := f.affinity.store d
    if t.strict && t.rowIdField != some i && !admits f.type d then
      halt (.constraint ("cannot store " ++ strictName d ++ " value in " ++ f.type ++ " column " ++ t.name ++ "." ++
        f.name)) .abort
    return d

/-- Whether the conditions of a table hold of a row; if not, it is left out. -/
def meetsChecks (target : Target) (t : Stored) (conflict : Option OnConflict) (rowId : Int64) (row : Tuple) :
    Change Bool := do
  let env ← env
  for c in t.checks do
    let m ← attempt (t.meaningIn env.store target.schema .check c.condition)
    let d ← attempt (m.eval (env.within (.int rowId :: row)))
    if d.truth? == some false then
      let refused := Failure.constraint ("CHECK constraint failed: " ++ c.label)
      match conflict.getD .abort with
      | .ignore => return false
      | .replace => halt refused .abort
      | action => halt refused action
  return true

/-! ### Keys -/

/-- The rows that share a key with a new one, and what is done about them. -/
structure Rivals where
  rows : List Int64
  action : OnConflict
  failure : Failure

/-- The failure of a key that is not unique. -/
def notUnique (t : Stored) (columns : List String) : Failure :=
  .constraint ("UNIQUE constraint failed: " ++ ", ".intercalate (columns.map fun c => t.name ++ "." ++ c))

/-- The failure of an index whose keys are not unique. -/
def Index.notUnique (i : Index) (t : Stored) : Failure :=
  match i.columns? with
  | some columns => Change.notUnique t (columns.map fun c => ((t.fields[c.1]?).map Field.name).getD "")
  | none =>
    let quoted := i.name.toList.flatMap fun c => if c = '\'' then ['\'', '\''] else [c]
    .constraint ("UNIQUE constraint failed: index '" ++ String.ofList quoted ++ "'")

/-- The key of a row in an index, which may say that the row has none. -/
def keyIn (target : Target) (t : Stored) (i : Index) : Change (Int64 × Tuple → Except Failure (Option (List Datum))) := do
  let env ← env
  let filter ← attempt (i.filter.mapM (t.meaningIn env.store target.schema .indexFilter))
  let terms ← attempt (i.terms.mapM fun (term, _) => match term with
    | .column place => return Sum.inl place
    | .expr e => return Sum.inr (← t.meaningIn env.store target.schema .indexTerm e))
  return fun (rowId, row) => do
    let inside := env.within (.int rowId :: row)
    let covers ← match filter with
      | some m => m.holds inside
      | none => pure true
    if !covers then return none
    terms.mapM fun term => match term with
      | .inl place => return row.getD place .null
      | .inr m => m.eval inside

/-- The rows in the way of a new one by its row id. A row is never in the way of itself. -/
def rivalsByRowId (t : Stored) (conflict : Option OnConflict) (own : Option Int64) (rowId : Int64) : Rivals :=
  { rows := if t.withoutRowId then [] else (t.rows.filter fun r => own != some r.1 && r.1 == rowId).map (·.1)
    action := conflict.getD t.rowIdConflict
    failure := notUnique t [(t.rowIdName?).getD "rowid"] }

/-- The rows in the way of a new one, index by index. -/
def rivalsByIndex (target : Target) (t : Stored) (conflict : Option OnConflict) (own : Option Int64) (rowId : Int64)
    (row : Tuple) : Change (List Rivals) := do
  let others := t.rows.filter fun r => own != some r.1
  t.indexes.filterMapM fun i => do
    match i.unique with
    | none => return none
    | some declared =>
      let keyOf ← keyIn target t i
      let cs := i.terms.map (·.2)
      let rows ← match ← attempt (keyOf (rowId, row)) with
        | none => pure []
        | some key =>
          if key.any Datum.isNull then pure []
          else attempt (others.filterM fun r => do
            return ((← keyOf r).map fun k => Datum.orderAll cs k key == .eq).getD false)
      return some
        { rows := rows.map (·.1), action := conflict.getD declared, failure := Index.notUnique i t : Rivals }

/-- The rows that have to be deleted for a new one; none if the new one is left out. Keys that replace come last. -/
def cleared (found : List Rivals) : Change (Option (List Int64)) := do
  for r in found do
    if !r.rows.isEmpty then
      match r.action with
      | .replace => pure ()
      | .ignore => return none
      | action => halt r.failure action
  return some (found.flatMap fun r => r.rows).eraseDups

/-- A new row as it is stored, with the rows that have to be deleted for it; none if it is left out. -/
def admitted (target : Target) (t : Stored) (conflict : Option OnConflict) (own : Option Int64) (rowId : Int64)
    (row : Tuple) : Change (Option (Tuple × List Int64)) := do
  match ← withoutNulls t conflict rowId row with
  | none => return none
  | some row =>
    let early := !t.checks.isEmpty
    let row ← if early then converted t row else pure row
    if !(← meetsChecks target t conflict rowId row) then return none
    match ← cleared [rivalsByRowId t conflict own rowId] with
    | none => return none
    | some byRowId =>
      let row ← if early then pure row else converted t row
      match ← cleared (← rivalsByIndex target t conflict own rowId row) with
      | none => return none
      | some byIndex => return some (row, (byRowId ++ byIndex).eraseDups)

end RecordMapper.Sqlite.Change
