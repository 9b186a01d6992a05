import RecordMapper.Model.Write
import RecordMapper.Record.Loading

/-!
# Saving and deleting records

A record that is new, or has no key, is inserted and takes over the row as it is stored; any other writes the columns
that differ from its snapshot, to the row of the snapshot's key. A failed save keeps what was merged into the record and
nothing else, and a failed save in a transaction not even that.
-/

namespace RecordMapper

/-- What a save did. -/
inductive SaveOutcome where
  | inserted
  | updated
  | nothingToSave
  deriving DecidableEq, Repr

namespace Record

variable {σ : Type}

/-! ### Reading -/

/-- The error of a name that means nothing to a record. -/
def noProperty (r : Record) (name : String) : Error :=
  .missing .property name (some r.model.tableName)

/-- What a name means, or the error that it means nothing. -/
def found (r : Record) (name : String) : Except Error Property :=
  match r.lookup name with
  | some p => .ok p
  | none => .error (r.noProperty name)

/--
What a name means to a record, in full: a column without a value is filled with `NULL`, and a relation is loaded, once
the record holds any data.
-/
def get (d : Driver σ) (r : Record) (name : String) : StateM (Database σ) (Except Error Property × Record) :=
  if r.holds name then pure (r.found name, r)
  else if r.model.hasColumn name then
    let r := { r with data := r.data.insert name .null }
    pure (r.found name, r)
  else
    match r.model.relation? name with
    | none => pure (r.found name, r)
    | some relation =>
      if r.data.isEmpty then pure (r.found name, r)
      else fun db =>
        match relation.load d name [r] none db with
        | (.error e, db) => ((.error e, r), db)
        | (.ok loaded, db) =>
          let r := loaded.headD r
          ((r.found name, r), db)

/-! ### Updates and deletes of one row -/

/-- The key under which the record's row is stored: the snapshot's, or the current one if the snapshot has none. -/
def storedKey? (r : Record) : Option Value :=
  let keyed (values : Assignments) := (values.get? r.model.primaryCol).filter fun v => !v.isBlank
  keyed r.initial <|> keyed r.data

/-- The columns whose values differ from the snapshot. -/
def changes (r : Record) : Assignments :=
  r.data.filter fun col _ => r.model.hasColumn col && r.isChanged col

/-- The map of one value. -/
def only (col : String) (v : Value) : Assignments :=
  (∅ : Assignments).insert col v

/-- Writes the changes of a record to its row in a table; the number of rows changed. -/
def writeChanges (d : Driver σ) (m : Model) (r : Record) : Operation σ Nat :=
  let changes := r.data.filter fun col _ => m.hasColumn col && r.isChanged col
  if changes.isEmpty then pure 0
  else
    match { r with model := m }.storedKey? with
    | none => pure 0
    | some key => do return (← m.updateMatching d changes (only m.primaryCol key)).getD 0

/-- Deletes the row of a record from a table; the number of rows deleted. -/
def deleteRow (d : Driver σ) (m : Model) (r : Record) : Operation σ Nat :=
  match { r with model := m }.storedKey? with
  | none => pure 0
  | some key => do return (← m.deleteMatching d (only m.primaryCol key)).getD 0

/-! ### Saving -/

/-- Whether the record belongs to no stored row: it is new, or has no key. -/
def isUnstored (r : Record) : Bool :=
  r.isNew || r.primaryKey.isBlank

/-- Inserts the record, and takes over the row as it is stored. -/
def insertSelf (d : Driver σ) (r : Record) : StateM (Database σ) (Except Error SaveOutcome × Record) := fun db =>
  match r.model.insert d r.data db with
  | (.ok stored, db) => ((.ok .inserted, r.adopt stored), db)
  | (.error e, db) => ((.error e, r), db)

/-- Writes the changes of the record, and takes its data as the snapshot. -/
def updateSelf (d : Driver σ) (r : Record) : StateM (Database σ) (Except Error SaveOutcome × Record) := fun db =>
  match r.writeChanges d r.model db with
  | (.ok _, db) => ((.ok .updated, r.snapshot), db)
  | (.error e, db) => ((.error e, r), db)

/-- Saves the record as it is. -/
def saveSelf (d : Driver σ) (r : Record) : StateM (Database σ) (Except Error SaveOutcome × Record) :=
  if r.data.isEmpty then pure (.ok .nothingToSave, r)
  else if r.isUnstored then r.insertSelf d
  else if r.changes.isEmpty then pure (.ok .nothingToSave, r)
  else r.updateSelf d

/-- Saves the record, after placing the values of a map. -/
def save (d : Driver σ) (r : Record) (values : Option Assignments) :
    StateM (Database σ) (Except Error SaveOutcome × Record) :=
  match values with
  | some values => (r.merge values).saveSelf d
  | none => r.saveSelf d

/-- The error of a save in a transaction while one is open. -/
def nestedSave (r : Record) : Error :=
  .transaction .nestedNotSupported ("cannot save a '" ++ r.model.tableName ++ "' record inside an open transaction")

/-- The record with the data that it had before. -/
def restored (r before : Record) : Record :=
  { r with data := before.data, initial := before.initial, scratch := before.scratch, isNew := before.isNew }

/-- Saves, then commits. -/
def saveAndCommit (d : Driver σ) (r : Record) (values : Option Assignments) :
    StateM (Database σ) (Except Error SaveOutcome × Record) := fun db =>
  match r.save d values db with
  | ((.error e, r), db) => ((.error e, r), db)
  | ((.ok outcome, r), db) =>
    match Database.call d.commit db with
    | (.ok _, db) => ((.ok outcome, r), db)
    | (.error e, db) => ((.error e, r), db)

/-- Saves the record in a transaction of its own; a failure is rolled back and leaves the record as it was. -/
def saveInTransaction (d : Driver σ) (r : Record) (values : Option Assignments) :
    StateM (Database σ) (Except Error SaveOutcome × Record) :=
  fun db =>
    if d.inTransaction db.store then ((.error r.nestedSave, r), db)
    else
      match Database.call d.begin db with
      | (.error e, db) => ((.error e, r), db)
      | (.ok _, db) =>
        match r.saveAndCommit d values db with
        | ((.ok outcome, r), db) => ((.ok outcome, r), db)
        | ((.error e, failed), db) =>
          let (_, db) := Database.call d.rollback db
          ((.error e, failed.restored r), db)

/-- Deletes the record's row; on success the record may drop all its data. -/
def delete (d : Driver σ) (r : Record) (clear : Bool) : StateM (Database σ) (Except Error Nat × Record) := fun db =>
  match r.deleteRow d r.model db with
  | (.error e, db) => ((.error e, r), db)
  | (.ok n, db) => ((.ok n, if 0 < n ∧ clear then r.cleared else r), db)

/-! ### Records of either access -/

/-- Refuses to change a read-only record. -/
def ensureWritable (r : Record) : Except Error Unit :=
  match r.access with
  | .writable => .ok ()
  | .readOnly => .error r.readOnlyError

/-- Saves the record, unless it is read-only. -/
def trySave (d : Driver σ) (r : Record) : StateM (Database σ) (Except Error SaveOutcome × Record) :=
  match r.access with
  | .writable => r.save d none
  | .readOnly => pure (.error r.readOnlyError, r)

/-- Deletes the record's row, unless the record is read-only. -/
def tryDelete (d : Driver σ) (r : Record) (clear : Bool) : StateM (Database σ) (Except Error Nat × Record) :=
  match r.access with
  | .writable => r.delete d clear
  | .readOnly => pure (.error r.readOnlyError, r)

end Record

end RecordMapper
