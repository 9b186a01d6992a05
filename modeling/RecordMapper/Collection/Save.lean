import RecordMapper.Collection.Basic
import RecordMapper.Record.Save

/-!
# Saving and deleting collections

Every member is saved or deleted on its own, and the keys of those that failed are reported; one failure does not stop
the others. New members can be inserted together, in which case their rows are read back with one query. A collection
with a read-only member is refused as a whole.
-/

namespace RecordMapper

/-- What came of an operation on all members. -/
inductive BulkOutcome where
  | allSucceeded
  | failed (keys : List MemberKey)
  deriving DecidableEq, Repr

/-- The outcome with the given failures. -/
def BulkOutcome.ofFailures (keys : List MemberKey) : BulkOutcome :=
  if keys.isEmpty then .allSucceeded else .failed keys

namespace Collection

variable {σ : Type}

/-- Refuses an action if there is a read-only member. -/
def ensureWritable (c : Collection) (action : String) : Except Error Unit :=
  match c.members.find? fun e => e.2.access = .readOnly with
  | some (key, _) =>
    .error (.unsupportedOperation
      ("cannot " ++ action ++ " a collection holding read-only record '" ++ key.text ++ "'"))
  | none => .ok ()

/-- Refuses new members of another table. -/
def ensureOneTable (c : Collection) : Except Error Unit :=
  match c.members.find? fun e => e.2.isNew && e.2.model.tableName ≠ c.model.tableName with
  | some (key, r) =>
    .error (.capability .tableMismatch
      ("record '" ++ key.text ++ "' belongs to '" ++ r.model.tableName ++ "', not '" ++ c.model.tableName ++ "'"))
  | none => .ok ()

/-- What a pass over the members leaves: the members, and the keys of those that failed. -/
structure Pass where
  members : List (MemberKey × Record)
  failed : List MemberKey

/-- Saves the members in order, up to one that is read-only; with `grouped`, new ones are passed over. -/
def trySaveMembers (d : Driver σ) (grouped : Bool) :
    List (MemberKey × Record) → StateM (Database σ) (Except Error Unit × Pass)
  | [] => pure (.ok (), ⟨[], []⟩)
  | (key, r) :: members =>
    match r.ensureWritable with
    | .error e => pure (.error e, ⟨(key, r) :: members, []⟩)
    | .ok _ => do
      if grouped && r.isNew then
        let (result, pass) ← trySaveMembers d grouped members
        return (result, { pass with members := (key, r) :: pass.members })
      else
        let (saved, r) ← r.save d none
        let (result, pass) ← trySaveMembers d grouped members
        return (result, ⟨(key, r) :: pass.members, match saved with
          | .ok _ => pass.failed
          | .error _ => key :: pass.failed⟩)

/-- The members that a grouped insert writes: the new ones that hold data. -/
def toInsert (c : Collection) : List (MemberKey × Record) :=
  c.members.filter fun e => e.2.isNew && !e.2.data.isEmpty

/-- The fetch of the rows with the given keys. -/
def fetchOfKeys (m : Model) (keys : List Value) : Fetch :=
  { filter := Filter.and [] (.test { col := m.primaryCol, op := .isIn, operand := some (.array keys) }) }

/-- Reads back the rows with the given keys, under the texts of their keys; none if they cannot be read. -/
def readBack (d : Driver σ) (m : Model) (keys : List Value) : StateM (Database σ) (List (String × Assignments)) :=
  let known := keys.filter fun v => !v.isBlank
  if known.isEmpty then pure []
  else fun db =>
    match m.fetchRows d (fetchOfKeys m known) db with
    | (.ok rows, db) =>
      (Entries.ofList (rows.filterMap fun row =>
        ((row.get? m.primaryCol).bind Value.keyText?).map fun k => (k, row)), db)
    | (.error _, db) => ([], db)

/-- The collection after an insert of members under the generated keys, and the members whose key is not known; a
read-only member is not changed. -/
def tryAdoptInserted (c : Collection) (stored : List (String × Assignments)) :
    List (MemberKey × Value) → Except Error (List MemberKey) × Collection
  | [] => (.ok [], c)
  | (key, generated) :: inserted =>
    match c.get? key with
    | none => c.tryAdoptInserted stored inserted
    | some r =>
      match r.ensureWritable with
      | .error e => (.error e, c)
      | .ok _ =>
        match generated.keyText? with
        | none =>
          let (unknown, c) := c.tryAdoptInserted stored inserted
          (unknown.map (key :: ·), c)
        | some k =>
          let row := (Entries.find? k stored).getD (r.data.insert c.model.primaryCol generated)
          (c.replace key (r.adopt row)).tryAdoptInserted (Entries.erase k stored) inserted

/-- Inserts the new members together; the keys of those that failed. -/
def tryInsertNew (d : Driver σ) (c : Collection) :
    StateM (Database σ) (Except Error (List MemberKey) × Collection) :=
  let new := c.toInsert
  if new.isEmpty then pure (.ok [], c)
  else fun db =>
    match c.model.insertMany d (new.map fun e => e.2.data) db with
    | (.error _, db) => ((.ok (new.map Prod.fst), c), db)
    | (.ok keys, db) =>
      let (stored, db) := readBack d c.model keys db
      (c.tryAdoptInserted stored ((new.map Prod.fst).zip keys), db)

/-- Saves all members; with `grouped`, the new ones are inserted together. -/
def saveAll (d : Driver σ) (c : Collection) (grouped : Bool) :
    StateM (Database σ) (Except Error BulkOutcome × Collection) :=
  match c.ensureWritable "save" with
  | .error e => pure (.error e, c)
  | .ok _ =>
    match if grouped then c.ensureOneTable else .ok () with
    | .error e => pure (.error e, c)
    | .ok _ => do
      let (result, pass) ← trySaveMembers d grouped c.members
      let c := { c with members := pass.members }
      match result with
      | .error e => return (.error e, c)
      | .ok _ =>
        let (failed, c) ← if grouped then c.tryInsertNew d else pure (.ok [], c)
        return (failed.map fun failed => .ofFailures (pass.failed ++ failed), c)

/-- Deletes the rows of the members in order, up to one that is read-only; what is left are those not deleted. -/
def deleteMembers (d : Driver σ) : List (MemberKey × Record) → StateM (Database σ) (Except Error Pass)
  | [] => pure (.ok ⟨[], []⟩)
  | (key, r) :: members =>
    match r.ensureWritable with
    | .error e => pure (.error e)
    | .ok _ => do
      let (deleted, r) ← r.delete d false
      let pass ← deleteMembers d members
      return pass.map fun pass => match deleted with
        | .ok (_ + 1) => pass
        | .ok 0 | .error _ => ⟨(key, r) :: pass.members, key :: pass.failed⟩

/-- Deletes the rows of all members; the deleted ones leave the collection. -/
def deleteAll (d : Driver σ) (c : Collection) : StateM (Database σ) (Except Error BulkOutcome × Collection) :=
  match c.ensureWritable "delete" with
  | .error e => pure (.error e, c)
  | .ok _ => do
    match ← deleteMembers d c.members with
    | .error e => return (.error e, c)
    | .ok pass => return (.ok (.ofFailures pass.failed), { c with members := pass.members })

end Collection

end RecordMapper
