import RecordMapper.Collection.Basic

/-!
# Fetching records

The fetches of a model that load relations: collections of records, one record, or plain rows with what belongs to them.
-/

namespace RecordMapper.Model

variable {σ : Type}

/-- The records of a fetch, with the relations that it asks for. -/
def fetchRecords (d : Driver σ) (m : Model) (access : Access) (f : Fetch) : Operation σ Collection := do
  let rows ← m.fetchRows d f
  let c := Collection.ofRows m access rows
  if f.relations.isEmpty then return c
  fun db =>
    match c.eagerLoad d f.relations db with
    | ((.ok _, c), db) => (.ok c, db)
    | ((.error e, _), db) => (.error e, db)

/-- The first record of a fetch. -/
def fetchOne (d : Driver σ) (m : Model) (access : Access) (f : Fetch) : Operation σ (Option Record) := do
  return (← m.fetchRecords d access (first f)).records.head?

/-- Loads relations onto plain rows. -/
def loadRelations (d : Driver σ) (m : Model) (rows : List PlainRow) : List String → Operation σ (List PlainRow)
  | [] => pure rows
  | name :: names => do
    let rows ← m.loadRelation d rows name none
    m.loadRelations d rows names

/-- The rows of a fetch, with the relations that it asks for. -/
def fetchPlain (d : Driver σ) (m : Model) (f : Fetch) : Operation σ (List PlainRow) := do
  let rows ← m.fetchRows d f
  m.loadRelations d (rows.map fun data => { data }) f.relations

end RecordMapper.Model
