import RecordMapper.Driver.Basic

/-!
# Recording calls

`Driver.logged` answers as the driver under it and keeps the calls it was given, in order. What a database can notice
of an operation is the log of its calls.
-/

namespace RecordMapper

/-- A call of a driver. -/
inductive Call where
  | query (sql : String) (binds : List Value)
  | execute (sql : String) (binds : List Value)
  | lastInsertId (sequence : Option String)
  | begin
  | commit
  | rollback
  | columns (table : String)
  deriving Repr

namespace Driver

variable {σ : Type} {α : Type}

/-- A call of the driver underneath, entered in the log first. -/
def record (call : Call) (act : Action σ α) : Action (List Call × σ) α := fun (log, s) =>
  let (result, s) := act.run s
  (result, (log ++ [call], s))

/-- A driver that keeps a log. -/
def logged (d : Driver σ) : Driver (List Call × σ) where
  dialect := d.dialect
  quote := d.quote
  query sql binds := record (.query sql binds) (d.query sql binds)
  execute sql binds := record (.execute sql binds) (d.execute sql binds)
  lastInsertId sequence := record (.lastInsertId sequence) (d.lastInsertId sequence)
  begin := record .begin d.begin
  commit := record .commit d.commit
  rollback := record .rollback d.rollback
  inTransaction s := d.inTransaction s.2
  columns table := record (.columns table) (d.columns table)

end Driver

end RecordMapper
