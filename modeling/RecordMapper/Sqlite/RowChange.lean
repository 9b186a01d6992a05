import RecordMapper.Sqlite.Constraint

/-!
# Rows that enter and leave

Rows are inserted, changed and deleted one by one. How rows follow a change of what they refer to is decided by the foreign
key, to a depth that is bounded. A table whose row ids are never used again remembers the highest one in a table of its own.
-/

namespace RecordMapper.Sqlite.Change

/-- A bound for the depth to which rows follow others: each step down takes two. -/
def followLimit : Nat := 2000

/-- The failure of rows that follow others too deeply. -/
def tooDeep : Failure := .general "too many levels of trigger recursion"

mutual

/-- Deletes a row, and lets those that refer to it follow. -/
def deleteRow : Nat → Target → Int64 → Change Unit
  | 0, _, _ => halt tooDeep .abort
  | fuel + 1, target, rowId => do
    let t ← stored target
    match t.rows.find? fun r => r.1 == rowId with
    | none => return
    | some row =>
      leave target row none
      modifyTable target fun t => t.removeRows fun r => r.1 == rowId
      follow fuel target t row none

/-- Gives a row new values in some columns, perhaps under another row id, and lets those that refer to it follow. Says
whether it was done. -/
def updateRow : Nat → Target → Option OnConflict → Int64 → Int64 → List (Nat × Datum) → Change Bool
  | 0, _, _, _, _, _ => halt tooDeep .abort
  | fuel + 1, target, conflict, rowId, newId, values => do
    let t ← stored target
    match t.rows.find? fun r => r.1 == rowId with
    | none => return false
    | some old =>
      let changed := values.map (·.1) ++ (if newId == rowId then [] else t.rowIdField.toList)
      let row := values.foldl (fun (row : Tuple) v => row.set v.1 v.2) old.2
      match ← admitted target t conflict (some rowId) newId row with
      | none => return false
      | some (row, inTheWay) =>
        for r in inTheWay do deleteRow fuel target r
        leave target old (some changed)
        modifyTable target fun t => t.removeRows fun r => r.1 == rowId
        enter target (newId, row) (some changed) false
        modifyTable target fun t => t.insertRow newId row
        follow fuel target t old (some (newId, row))
        return true

/-- Lets the rows that referred to a row, in the table as it was, follow its deletion or its change. -/
def follow : Nat → Target → Stored → Int64 × Tuple → Option (Int64 × Tuple) → Change Unit
  | 0, _, _, _, _ => halt tooDeep .abort
  | fuel + 1, target, t, old, new => do
    if !(← get).keepsReferences then return
    for (child, key) in ((← get).store.schema target.schema).references t.name do
      match key.parentKey? t with
      | none => pure ()
      | some k =>
        let wasKey := k.ofRow old
        let isKey := new.map k.ofRow
        if (isKey.map fun v => Datum.orderAll (v.map fun _ => .binary) v wasKey == .eq) != some true then
          let there : Target := ⟨target.schema, child.name⟩
          let child ← stored there
          let rows := key.referring child t k wasKey
          let give (values : List Datum) : Change Unit := do
            for r in rows do
              let _ ← updateRow fuel there none r.1 r.1 ((key.places child).zip values)
          match if new.isSome then key.onUpdate else key.onDelete with
          | .noAction => pure ()
          | .restrict => if !rows.isEmpty then halt brokenReference .abort
          | .setNull => give ((key.places child).map fun _ => .null)
          | .setDefault => give (← ((key.places child).filterMap fun i => child.fields[i]?).mapM defaultOf)
          | .cascade =>
            match isKey with
            | some values => give values
            | none => for r in rows do deleteRow fuel there r.1

end

/-! ### Row ids -/

/-- The table that remembers the highest row ids of others. -/
def counterTable : String := "sqlite_sequence"

/-- Starts to count the row ids of a table, if they are never used again. -/
def startCounter (target : Target) : Change Unit := do
  let t ← stored target
  if t.autoincrement then
    let rows := ((((← get).store.schema target.schema).table? counterTable).map Stored.rows).getD []
    let isOwn (r : Int64 × Tuple) : Bool := (r.2.headD .null).order .binary (.ofString t.name) == .eq
    let row : Option (Int64 × Datum) := (rows.find? isOwn).map fun r => (r.1, r.2.getD 1 .null)
    let highest : Datum := (row.map fun r => r.2).getD .null
    modify fun w => { w with counter := some { row, highest := highest.toInt64 } }

/-- Remembers the highest row id, if it is a new one. -/
def stopCounter (target : Target) : Change Unit := do
  let there : Target := ⟨target.schema, counterTable⟩
  match (← get).counter with
  | none => pure ()
  | some c =>
    let values : Tuple := [.ofString target.table, .int c.highest]
    match c.row with
    | some (id, was) =>
      if (was.order .binary (.int c.highest)) == .lt then
        modifyTable there fun t => (t.removeRows fun r => r.1 == id).insertRow id values
    | none =>
      modifyTable there fun t =>
        t.insertRow (Int64.ofInt ((t.rows.getLast?.map fun r => r.1.toInt + 1).getD 1)) values

/-- The row id of a new row: the one asked for, or the next one. -/
def newRowId (t : Stored) (wanted : Datum) : Change Int64 := do
  if t.withoutRowId then return Int64.ofInt (t.highest + 1)
  let counter := (← get).counter
  let count (n : Int64) : Change Int64 := do
    modify fun w => { w with counter := counter.map fun c => { c with highest := max c.highest n } }
    return n
  match Affinity.store .integer wanted with
  | .int n => count n
  | .null =>
    let last := (t.rows.getLast?.map fun r => r.1.toInt + 1).getD 1
    match counter with
    | some c =>
      let next := max last (c.highest.toInt + 1)
      if fitsWord next then count (Int64.ofInt next) else halt ⟨.full, "database or disk is full"⟩ .abort
    | none =>
      if fitsWord last then return Int64.ofInt last
      let used (n : Nat) : Bool := t.rows.any fun r => r.1 == Int64.ofNat n
      let free := ((List.range (t.rows.length + 1)).map (· + 1)).find? fun n => !used n
      return Int64.ofNat (free.getD 1)
  | _ => halt .mismatch .abort

/-- Inserts a row under a row id, which is chosen if it is `NULL`. -/
def insertRow (target : Target) (conflict : Option OnConflict) (single : Bool) (wanted : Datum) (row : Tuple) :
    Change Unit := do
  let t ← stored target
  let rowId ← newRowId t wanted
  match ← admitted target t conflict none rowId row with
  | none => return
  | some (row, inTheWay) =>
    for r in inTheWay do deleteRow followLimit target r
    enter target (rowId, row) none single
    modifyTable target fun t => t.insertRow rowId row
    modify fun w =>
      { w with changed := w.changed + 1, lastRowId := if t.withoutRowId then w.lastRowId else rowId }

/-- Counts one more changed row. -/
def countRow : Change Unit := modify fun w => { w with changed := w.changed + 1 }

end RecordMapper.Sqlite.Change
