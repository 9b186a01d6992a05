import RecordMapper.Sqlite.Alteration
import RecordMapper.Sqlite.Setting

/-!
# Preparing statements

The program of a statement. A statement that no grammar admits can have said enough before the place where it breaks: the
mistakes in the part of a definition that was complete count before that.
-/

namespace RecordMapper.Sqlite.Program

/-- The program of a statement with a number of parameters. -/
def ofStatement (store : Store) (settings : Settings) (parameters : Nat) (common : List CommonTable) :
    Statement → Except Failure Program
  | .select q => do
    let o ← q.outputIn store
    return { columns := o.columns.map OutColumn.name, effect := .rows o.rows }
  | .insert conflict n asName columns source =>
    let source := match source with
      | .query q => .query { q with common := q.common ++ common }
      | .defaults => .defaults
    insert store settings conflict n asName columns source
  | .update conflict n asName index changes filter =>
    update store settings common conflict n asName index changes filter
  | .delete n asName index filter => delete store settings common n asName index filter
  | .within common s => ofStatement store settings parameters common s
  | .createTable temporary lenient n body text => createTable store temporary lenient n body text
  | .createIndex unique lenient n t parts filter text => createIndex store unique lenient n t.text parts filter text
  | .createView temporary lenient n columns query text =>
    createView store parameters temporary lenient n columns query text
  | .drop kind lenient n => drop store settings kind lenient n
  | .alter n change => alter store settings n change
  | .begin writing => return { effect := .begin writing }
  | .commit => return { effect := .commit }
  | .rollback => return { effect := .rollback }
  | .savepoint name => return { effect := .savepoint name }
  | .release name => return { effect := .release name }
  | .rollbackTo name => return { effect := .rollbackTo name }
  | .pragma schema name value => pragma store settings schema name value

/-- Finds the mistakes in the start of a definition. -/
def checkOutline (store : Store) (o : Outline) : Except Failure Unit := do
  if o.creates then
    let schema ← newSchema o.temporary o.name
    if ← isFree store schema o.ifNotExists o.name.name o.name.name then
      let _ ← o.steps.foldlM (Stored.addStep store schema) { name := o.name.name, fields := [] }
  else
    let (schema, t) ← widened store o.name
    let _ ← o.steps.foldlM (Stored.addStep store schema) (Stored.draft t)

/-- The program of the statement that some tokens start with, and the tokens after it; nothing if there is none. -/
def ofTokens (store : Store) (settings : Settings) (source : List Char) (tokens : List Token) :
    Except Failure (Option (Program × List Token)) := do
  match Reading.ofTokens source tokens false with
  | .nothing => return none
  | .broken f outline =>
    match outline with
    | some o => checkOutline store o
    | none => pure ()
    throw f
  | .statement read =>
    if heightLimit < read.statement.height.highest then throw tooHigh
    let p ← ofStatement store settings read.parameters [] read.statement
    return some ({ p with parameters := read.parameters }, read.rest)

end RecordMapper.Sqlite.Program
