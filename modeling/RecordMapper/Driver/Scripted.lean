import RecordMapper.Driver.Basic

/-!
# Scripted drivers

Answers that are laid down in advance. `Driver.scripted` takes its answers from a script, and goes to the driver under it
for whatever the script says nothing about; `Driver.idle` is one to put there, a database that holds nothing.
-/

namespace RecordMapper

/-- Answers laid down in advance, each list in the order in which it is used up. -/
structure Script where
  rows : List (Except Error (List Row)) := []
  counts : List (Except Error Nat) := []
  ids : List (Except Error Value) := []
  /-- The key that is reported when no other is laid down. -/
  standingId : Option Value := none
  beginFailures : List Error := []
  commitFailures : List Error := []
  rollbackFailures : List Error := []
  /-- The columns of tables, or the error of asking for them. -/
  tables : OrderedMap String (Except Error (List Column)) := {}

namespace Script

/-- Lays down the rows of one more query. -/
def giveRows (s : Script) (rows : Except Error (List Row)) : Script := { s with rows := s.rows ++ [rows] }

/-- Lays down one more number of changed rows. -/
def giveCount (s : Script) (n : Except Error Nat) : Script := { s with counts := s.counts ++ [n] }

/-- Lays down one more key. -/
def giveId (s : Script) (id : Except Error Value) : Script := { s with ids := s.ids ++ [id] }

/-- Lets opening a transaction fail once more. -/
def failBegin (s : Script) (e : Error) : Script := { s with beginFailures := s.beginFailures ++ [e] }

/-- Lets keeping a transaction fail once more. -/
def failCommit (s : Script) (e : Error) : Script := { s with commitFailures := s.commitFailures ++ [e] }

/-- Lets undoing a transaction fail once more. -/
def failRollback (s : Script) (e : Error) : Script := { s with rollbackFailures := s.rollbackFailures ++ [e] }

end Script

namespace Driver

variable {σ : Type}

/-- Goes to the driver underneath. -/
def passOn {α : Type} (act : Action σ α) : Action (Script × σ) α := fun (script, s) =>
  let (result, s) := act.run s
  (result, (script, s))

/-- A driver of a dialect that answers from a script first. -/
def scripted (dialect : Dialect) (d : Driver σ) : Driver (Script × σ) where
  dialect := dialect
  query sql binds := fun (script, s) =>
    match script.rows with
    | result :: rows => (result, ({ script with rows }, s))
    | [] => passOn (d.query sql binds) (script, s)
  execute sql binds := fun (script, s) =>
    match script.counts with
    | result :: counts => (result, ({ script with counts }, s))
    | [] => passOn (d.execute sql binds) (script, s)
  lastInsertId sequence := fun (script, s) =>
    match script.ids, script.standingId with
    | result :: ids, _ => (result, ({ script with ids }, s))
    | [], some id => (.ok id, (script, s))
    | [], none => passOn (d.lastInsertId sequence) (script, s)
  begin := fun (script, s) =>
    match script.beginFailures with
    | e :: es => (.error e, ({ script with beginFailures := es }, s))
    | [] => passOn d.begin (script, s)
  commit := fun (script, s) =>
    match script.commitFailures with
    | e :: es => (.error e, ({ script with commitFailures := es }, s))
    | [] => passOn d.commit (script, s)
  rollback := fun (script, s) =>
    match script.rollbackFailures with
    | e :: es => (.error e, ({ script with rollbackFailures := es }, s))
    | [] => passOn d.rollback (script, s)
  inTransaction s := d.inTransaction s.2
  columns table := fun (script, s) =>
    match script.tables.get? table with
    | some result => (result, (script, s))
    | none => passOn (d.columns table) (script, s)

/-- A database that holds nothing: no rows, one row changed, and a transaction that is open or not. -/
def idle (dialect : Dialect) : Driver Bool where
  dialect := dialect
  query _ _ := pure []
  execute _ _ := pure 1
  lastInsertId _ := pure .null
  begin := fun isOpen =>
    if isOpen then (.error (.transaction .alreadyActive "transaction already open"), isOpen) else (.ok (), true)
  commit := fun _ => (.ok (), false)
  rollback := fun _ => (.ok (), false)
  inTransaction isOpen := isOpen
  columns _ := pure []

end Driver

end RecordMapper
