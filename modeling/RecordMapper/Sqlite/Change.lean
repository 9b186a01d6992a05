import RecordMapper.Sqlite.Reference

/-!
# Changes of rows

A statement that changes rows works on the store step by step. Broken references are only counted, since a later change
may mend them.
-/

namespace RecordMapper.Sqlite

/-- Why a statement stops, and what becomes of what it has done. -/
structure Halt where
  failure : Failure
  action : OnConflict

/-- A table by its place. -/
structure Target where
  schema : SchemaName
  table : String

/-- The highest row id that a table has given out, as it is remembered: the row that remembers it, if there is one, and
what it holds. -/
structure Counter where
  row : Option (Int64 × Datum)
  highest : Int64

/-- What a statement works on, and what it has done so far. -/
structure Work where
  store : Store
  /-- What expressions are evaluated in, but for the store. -/
  base : Env
  /-- Whether foreign keys count. -/
  keepsReferences : Bool
  lastRowId : Int64
  /-- The number of rows that the statement itself has changed. -/
  changed : Nat := 0
  /-- The number of broken references that have to be mended by the end of the statement. -/
  immediate : Int := 0
  /-- The number of broken references that have to be mended by the end of the transaction. -/
  deferred : Int := 0
  /-- The counter of the table that rows are inserted into, if it has one. -/
  counter : Option Counter := none

/-- A step of a statement that changes rows. -/
abbrev Change (α : Type) := ExceptT Halt (StateM Work) α

namespace Change

/-- Stops the statement. -/
def halt {α : Type} (failure : Failure) (action : OnConflict) : Change α := throw ⟨failure, action⟩

/-- A step whose failure undoes the statement. -/
def attempt {α : Type} : Except Failure α → Change α
  | .ok a => pure a
  | .error f => halt f .abort

/-- What expressions are evaluated in now. -/
def env : Change Env := do
  let w ← get
  return { w.base with store := w.store, tally := { w.base.tally with lastRowId := w.lastRowId } }

/-- A step for each row, as the rows are found. -/
def forEachRow {α : Type} (act : α → Change Unit) : Rows α → Change Unit
  | .done => pure ()
  | .failed f => halt f .abort
  | .next row rest => do
    act row
    forEachRow act (rest ())

/-- A step for each row of a source that depends on what the steps do: every row is the next one of what the source gives
by then. There are no more rows than the source gives at first. -/
def forEachRowAgain {α : Type} (act : α → Change Unit) (source : Env → Rows α) : Change Unit := do
  for i in List.range ((source (← env)).count + 1) do
    match (source (← env)).drop i with
    | .done => return
    | .failed f => halt f .abort
    | .next row _ => act row

/-- The table of a place. -/
def stored (target : Target) : Change Stored := do
  match ((← get).store.schema target.schema).table? target.table with
  | some t => return t
  | none => halt (noSuchTable ⟨none, target.table, 0⟩) .abort

/-- Changes a table. -/
def modifyTable (target : Target) (f : Stored → Stored) : Change Unit := do
  let t ← stored target
  modify fun w => { w with store := w.store.putTable target.schema (f t) }

/-- The failure of a broken reference. -/
def brokenReference : Failure := .constraint "FOREIGN KEY constraint failed"

/-! ### Counting references -/

/-- Counts broken references. -/
def breakReferences (deferred : Bool) (n : Nat) : Change Unit :=
  modify fun w =>
    if deferred then { w with deferred := w.deferred + n } else { w with immediate := w.immediate + n }

/-- Counts mended references, if any are broken. -/
def mendReferences (deferred : Bool) (n : Nat) : Change Unit :=
  modify fun w =>
    if deferred then { w with deferred := if 0 < w.deferred then w.deferred - n else w.deferred }
    else { w with immediate := if 0 < w.immediate then w.immediate - n else w.immediate }

/-- Whether the values of a row refer to a row of the parent, or to nothing. -/
def isKept (values : List Datum) (parent : Stored) (k : ParentKey) (rows : List (Int64 × Tuple)) : Bool :=
  values.any Datum.isNull || rows.any fun row => k.isMeant parent values (k.ofRow row)

/-- Counts what happens to references when a row is about to leave a table. -/
def leave (target : Target) (row : Int64 × Tuple) (changed : Option (List Nat)) : Change Unit := do
  if !(← get).keepsReferences then return
  let t ← stored target
  let contents := (← get).store.schema target.schema
  for key in t.foreignKeys do
    if t.changesChild key changed || sameName key.table.text t.name then
      match key.parentIn contents target.schema t with
      | .ok (parent, k) =>
        if !isKept (key.valuesIn t row.2) parent k parent.rows then mendReferences key.deferred 1
      | .error _ => pure ()
  for (child, key) in contents.references t.name do
    if t.changesParent key changed then
      match key.parentKey? t with
      | some k =>
        let referring := key.referring child t k (k.ofRow row)
        let others := referring.filter fun r => !(sameName child.name t.name && r.1 == row.1)
        breakReferences key.deferred others.length
      | none => pure ()

/-- Counts what happens to references when a row is about to enter a table. A single new row that refers to nothing
stops the statement at once. -/
def enter (target : Target) (row : Int64 × Tuple) (changed : Option (List Nat)) (single : Bool) : Change Unit := do
  if !(← get).keepsReferences then return
  let t ← stored target
  let contents := (← get).store.schema target.schema
  for key in t.foreignKeys do
    if t.changesChild key changed || sameName key.table.text t.name then
      match key.parentIn contents target.schema t with
      | .ok (parent, k) =>
        let rows := if sameName parent.name t.name then row :: parent.rows else parent.rows
        if !isKept (key.valuesIn t row.2) parent k rows then
          if single && !key.deferred then halt brokenReference .abort
          breakReferences key.deferred 1
      | .error _ => pure ()
  for (child, key) in contents.references t.name do
    if t.changesParent key changed && !(single && !key.deferred) then
      match key.parentKey? t with
      | some k => mendReferences key.deferred (key.referring child t k (k.ofRow row)).length
      | none => pure ()

end Change

end RecordMapper.Sqlite
