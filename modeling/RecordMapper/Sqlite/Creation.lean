import RecordMapper.Sqlite.Definition
import RecordMapper.Sqlite.Program

/-!
# Objects that come and go

Tables, views and indexes are created and dropped. A new object takes the next place in the catalog, and a page if it has
rows of its own; the page of a dropped one is free for another.
-/

namespace RecordMapper.Sqlite

namespace Schema

/-- A schema with a new table in it, and with the indexes that its constraints ask for. The primary key of a table without
row ids is the table itself. -/
def adopt (s : Schema) (t : Stored) (text : String) : Schema :=
  let rank := s.nextRank
  let (page, s) := s.takePage
  let placed (state : Schema × Nat × List Index) (i : Index) : Schema × Nat × List Index :=
    let (s, last, done) := state
    if t.withoutRowId && i.isPrimary then (s, last, i :: done)
    else
      let (page, s) := s.takePage
      (s, last + 1, { i with entry := { rank := last + 1, page } } :: done)
  let (s, _, indexes) := t.indexes.reverse.foldl placed (s, rank, [])
  s.putTable { t with indexes, entry := { rank, page, text := some text } }

/-- A schema with the table that remembers the highest row ids of others. -/
def withCounters (s : Schema) : Schema :=
  if (s.table? Change.counterTable).isSome then s
  else
    let field (name : String) : Field := { name, type := "", affinity := .blob }
    s.adopt { name := Change.counterTable, fields := [field "name", field "seq"] }
      ("CREATE TABLE " ++ Change.counterTable ++ "(name,seq)")

/-- A schema without a table and what belongs to it. -/
def discard (s : Schema) (t : Stored) : Schema :=
  let pages := t.entry.page :: (t.indexes.filter fun i => 0 < i.entry.rank).map fun i => i.entry.page
  let forgotten (c : Stored) : Stored :=
    if sameName c.name Change.counterTable then
      c.removeRows fun r => (r.2.headD .null).order .binary (.ofString t.name) == .eq
    else c
  let tables := (s.tables.filter fun u => !sameName u.name t.name).map forgotten
  ({ s with tables } : Schema).releasePages pages

end Schema

namespace Change

/-- Changes a schema. -/
def modifySchema (schema : SchemaName) (f : Schema → Schema) : Change Unit :=
  modify fun w => { w with store := w.store.withSchema schema (f (w.store.schema schema)) }

end Change

namespace Program

/-- The first token of the text of a definition, which is the name as it is written. -/
def writtenName (text : String) : String :=
  ((Token.scan 0 text.toList).head?.map fun t => String.ofList t.spelling).getD ""

/-- A new table. -/
def createTable (store : Store) (temporary lenient : Bool) (n : ObjectName) (body : TableBody) (text : String) :
    Except Failure Program := do
  let schema ← newSchema temporary n
  if !(← isFree store schema lenient n.name (writtenName text)) then return nothing
  match body with
  | .columns steps options =>
    let t ← Stored.ofDefinition store schema n.name steps options
    return ofDefinition schema (Change.modifySchema schema fun s =>
      let s := s.adopt t ("CREATE TABLE " ++ text)
      if t.autoincrement then s.withCounters else s)
  | .query q =>
    let o ← q.outputIn store
    let t := Stored.ofColumns n.name o.columns
    return ofDefinition schema do
      let rows ← Change.attempt (o.rows (← Change.env)).toList
      let stored := rows.map fun row => (t.fields.zip row).map fun (f, d) => f.affinity.store d
      let full := stored.zipIdx.foldl (fun (t : Stored) (row, i) => t.insertRow (Int64.ofNat (i + 1)) row) t
      Change.modifySchema schema fun s => s.adopt full t.definitionText

/-- A new view. -/
def createView (store : Store) (parameters : Nat) (temporary lenient : Bool) (n : ObjectName) (columns : List String)
    (query : Select) (text : String) : Except Failure Program := do
  if 0 < parameters then throw (.general "parameters are not allowed in views")
  let schema ← newSchema temporary n
  if !(← isFree store schema lenient n.name (writtenName text)) then return nothing
  if schema = .main then
    match (query.schemas deepest).find? fun s => folded s != "main" with
    | some s => throw (.general ("view " ++ writtenName text ++ " cannot reference objects in database " ++ s))
    | none => pure ()
  return ofDefinition schema (Change.modifySchema schema fun s =>
    let entry : Entry := { rank := s.nextRank, text := some ("CREATE VIEW " ++ text) }
    { s with views := s.views ++ [{ name := n.name, columns, query, entry }] })

/-- The terms of an index and the condition on its rows. A mistake in the first term counts before one in the
condition. -/
def indexTerms (store : Store) (schema : SchemaName) (t : Stored) (parts : List KeyPart) (filter : Option Expr) :
    Resolver (List (KeyTerm × Collation)) := do
  let first ← (parts.take 1).mapM (t.keyTerm store schema)
  let _ ← filter.mapM (t.resolve store schema .indexFilter)
  return first ++ (← (parts.drop 1).mapM (t.keyTerm store schema))

/-- A new index. -/
def createIndex (store : Store) (unique lenient : Bool) (n : ObjectName) (table : String) (parts : List KeyPart)
    (filter : Option Expr) (text : String) : Except Failure Program := do
  checkNullOrder parts
  let forTemp := (n.schema.map folded) == some "temp"
  let owner : ObjectName := ⟨if forTemp then none else n.schema, table, 0⟩
  if (Store.searched n.schema).isEmpty then throw (unknownDatabase (n.schema.getD ""))
  let notTemp (name : String) : Failure := .general ("cannot create a TEMP index on non-TEMP table " ++ inQuotes name)
  let (schema, t) ← match store.table? owner, store.view? owner with
    | some (s, t), _ => if forTemp && s = .main then throw (notTemp t.name) else pure (s, t)
    | none, some (s, v) =>
      if forTemp && s = .main then throw (notTemp v.name) else throw (.general "views may not be indexed")
    | none, none => throw (noSuchTable (if forTemp then owner else { owner with schema := some "main" }))
  if isReserved t.name then throw (.general ("table " ++ t.name ++ " may not be indexed"))
  checkName n.name
  let contents := store.schema schema
  if (contents.table? n.name).isSome || (contents.view? n.name).isSome then
    throw (.general ("there is already a table named " ++ n.name))
  if (contents.indexed? n.name).isSome then
    if lenient then return nothing else throw (alreadyExists "index" n.name)
  if 2000 < parts.length then throw (.general "too many columns in index")
  let (terms, _) ← (indexTerms store schema t parts filter).finish
  let index : Index :=
    { name := n.name, terms, unique := if unique then some .abort else none, isExplicit := true, filter }
  let target : Target := ⟨schema, t.name⟩
  return ofDefinition schema do
    let t ← Change.stored target
    let keyOf ← Change.keyIn target t index
    let keys ← Change.attempt (t.rows.filterMapM keyOf)
    let keys := keys.filter fun key => !key.any Datum.isNull
    let same (a b : Tuple) : Bool := Datum.orderAll (terms.map (·.2)) a b == .eq
    if unique && (withoutRepeats same keys).length < keys.length then
      Change.halt (Change.Index.notUnique index t) .abort
    Change.modifySchema schema fun s =>
      let rank := s.nextRank
      let (page, s) := s.takePage
      let text := "CREATE " ++ (if unique then "UNIQUE INDEX " else "INDEX ") ++ text
      s.putTable { t with indexes := { index with entry := { rank, page, text := some text } } :: t.indexes }

/-- Whether references can depend on the rows of a table that is dropped. -/
def matters (contents : Schema) (t : Stored) : Bool :=
  !(contents.references t.name).isEmpty || t.foreignKeys.any ForeignKey.deferred

/-- Deletes all rows of a table that is about to be dropped. A table that nothing refers to keeps them if no broken
reference waits to be mended. -/
def emptied (target : Target) : Change Unit := do
  let w ← get
  let t ← Change.stored target
  if !((w.store.schema target.schema).references t.name).isEmpty || 0 < w.deferred then
    for row in t.rows do
      if (← Change.stored target).rows.any fun r => r.1 == row.1 then
        Change.deleteRow Change.followLimit target row.1
        Change.countRow
    if 0 < (← get).immediate then Change.halt Change.brokenReference .abort

/-- Drops an object. -/
def drop (store : Store) (settings : Settings) (kind : ObjectKind) (lenient : Bool) (n : ObjectName) :
    Except Failure Program := do
  let protect (t : Stored) : Except Failure Unit :=
    if isReserved t.name then .error (.general ("table " ++ t.name ++ " may not be dropped")) else .ok ()
  match kind, store.table? n, store.view? n with
  | .table, some (schema, t), _ =>
    protect t
    let counts := settings.foreignKeys && matters (store.schema schema) t
    return { effect := .change { schema, counts } do
      if counts then emptied ⟨schema, t.name⟩
      Change.modifySchema schema fun s => s.discard t }
  | .table, none, some (_, v) => throw (.general ("use DROP VIEW to delete view " ++ v.name))
  | .table, none, none => if lenient then return nothing else throw (noSuchTable n)
  | .view, some (_, t), _ =>
    protect t
    throw (.general ("use DROP TABLE to delete table " ++ t.name))
  | .view, none, some (schema, v) =>
    return ofDefinition schema (Change.modifySchema schema fun s =>
      { s with views := s.views.filter fun u => !sameName u.name v.name })
  | .view, none, none => if lenient then return nothing else throw (.general ("no such view: " ++ n.text))
  | .index, _, _ =>
    let found := (Store.searched n.schema).findSome? fun s => ((store.schema s).indexed? n.name).map fun t => (s, t)
    match found with
    | none => if lenient then return nothing else throw (.general ("no such index: " ++ n.text))
    | some (schema, t) =>
      if t.indexes.any fun i => sameName i.name n.name && !i.isExplicit then
        throw (.general "index associated with UNIQUE or PRIMARY KEY constraint cannot be dropped")
      return ofDefinition schema (Change.modifySchema schema fun s =>
        let (gone, kept) := t.indexes.partition fun i => sameName i.name n.name
        (s.putTable { t with indexes := kept }).releasePages (gone.map fun i => i.entry.page))

end Program

end RecordMapper.Sqlite
