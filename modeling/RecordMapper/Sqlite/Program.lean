import RecordMapper.Sqlite.Breakage
import RecordMapper.Sqlite.RowChange

/-!
# Prepared statements

A statement is prepared against the objects that there are: names are looked up, and mistakes are found that no value of
a parameter can mend. What remains is what the statement does when it is run. Here are the statements that insert, change
and delete rows.
-/

namespace RecordMapper.Sqlite

/-- The settings of a connection that statements can change. -/
structure Settings where
  /-- Whether foreign keys count. -/
  foreignKeys : Bool := true
  /-- Whether nothing may be written. -/
  queryOnly : Bool := false

/-- What is known about a change before it is made. -/
structure ChangePlan where
  schema : SchemaName
  /-- Whether the changed rows are counted. -/
  counts : Bool := false
  /-- Whether a failure inside a transaction undoes what the statement has done before it. -/
  undoes : Bool := true

/-- What a prepared statement does. -/
inductive Effect where
  | rows (run : Env → Rows Tuple)
  | change (plan : ChangePlan) (act : Change Unit)
  | begin (writing : Bool)
  | commit
  | rollback
  | savepoint (name : String)
  | release (name : String)
  | rollbackTo (name : String)
  | configure (f : Settings → Settings)
  | nothing

/-- A statement that is ready to be run. -/
structure Program where
  parameters : Nat := 0
  columns : List String := []
  effect : Effect

/-- The name with its schema, as it was written. -/
def ObjectName.text (n : ObjectName) : String :=
  (match n.schema with | some s => s ++ "." | none => "") ++ n.name

/-- The table of a name, which has to be one that rows can be changed in; an index that has to be used has to be there. -/
def Store.changeable (store : Store) (n : ObjectName) (index : Option String) : Except Failure (SchemaName × Stored) := do
  let find (indexes : List Index) : Except Failure Unit :=
    match index with
    | some i => if indexes.any fun x => sameName x.name i then .ok () else .error (noSuchIndex i)
    | none => .ok ()
  match store.table? n, store.view? n with
  | some (s, t), _ =>
    find t.indexes
    if t.isCatalog then throw (.general ("table " ++ t.name ++ " may not be modified"))
    return (s, t)
  | none, some (_, v) =>
    find []
    throw (.general ("cannot modify " ++ v.name ++ " because it is a view"))
  | none, none => throw (noSuchTable n)

namespace Program

/-- A program that gives fixed rows. -/
def ofRows (columns : List String) (rows : List Tuple) : Program :=
  { columns, effect := .rows fun _ => .ofList rows }

/-- A program that changes the objects of a schema. -/
def ofDefinition (schema : SchemaName) (act : Change Unit) : Program :=
  { effect := .change { schema } act }

/-- A program that does nothing. -/
def nothing : Program := { effect := .nothing }

/-! ### Names -/

/-- What a change of rows of a table looks names up in. -/
def contextOf (store : Store) (schema : SchemaName) (t : Stored) (asName : Option String) (common : List CommonTable) :
    Context :=
  { store, scopes := [t.scope schema asName], common }

/-- Looks up names where functions of groups have no meaning. -/
def resolveAlone {α : Type} (r : Resolver α) : Resolver α := do
  let (a, found) ← Resolver.inScope r
  Resolver.misuse found
  return a

/-- Looks up the names of an expression about a row. -/
def resolveIn (ctx : Context) (e : Expr) : Resolver Meaning :=
  resolveAlone (ctx.wholly e fun ctx => meaning deepest ctx e)

/-- Looks up the values of columns that are given together. -/
def resolveValues (ctx : Context) (a : Assignment) : Resolver (List Meaning) := do
  let mismatched (found : Nat) : Failure :=
    .general (Decimal.natText a.columns.length ++ " columns assigned " ++ Decimal.natText found ++ " values")
  match a.columns, a.value with
  | [_], e => return [← resolveIn ctx e]
  | cs, .row es =>
    if es.length ≠ cs.length then throw (mismatched es.length)
    es.mapM (resolveIn ctx)
  | cs, .scalar q =>
    let ms ← resolveAlone (ctx.wholly a.value fun ctx => vector deepest ctx (.scalar q))
    if ms.length ≠ cs.length then Resolver.postpone (mismatched ms.length)
    return ms
  | _, _ => throw (mismatched 1)

/-! ### Insertions -/

/-- Whether a source of new rows is written as a single row. -/
def isSingle : InsertSource → Bool
  | .defaults => true
  | .query q => match q.first, q.rest with
    | .values [_], [] => true
    | _, _ => false

/-- The place of a column in a table; nothing stands for the row id. -/
def placeOf (t : Stored) (name : String) (missing : Failure) : Except Failure (Option Nat) :=
  match t.fieldIndex? name with
  | some i => .ok (some i)
  | none =>
    if !t.withoutRowId && Stored.rowIdNames.contains (folded name) then .ok none else .error missing

/-- Whether an insertion may have to delete rows that are in its way. -/
def mayReplace (t : Stored) (conflict : Option OnConflict) (givesRowId : Bool) : Bool :=
  let replaces (declared : OnConflict) : Bool := conflict.getD declared == .replace
  (givesRowId && !t.withoutRowId && replaces t.rowIdConflict) ||
    t.indexes.any fun i => (i.unique.map replaces).getD false

/-- The rows of a source. -/
structure NewRows where
  rows : Env → Rows Tuple
  /-- Whether they come from the table itself. -/
  readsItself : Bool := false
  /-- Whether they depend on the last row id that was given out. -/
  asksRowId : Bool := false

/-- Refuses a number of values that is not that of the columns. -/
def checkGiven (t : Stored) (written : String) (columns : List String) (given : Nat) : Except Failure Unit := do
  if columns.isEmpty then
    if given ≠ t.fields.length then
      throw (.general ("table " ++ written ++ " has " ++ Decimal.natText t.fields.length ++ " columns but " ++
        Decimal.natText given ++ " values were supplied"))
  else if given ≠ columns.length then
    throw (.general (Decimal.natText given ++ " values for " ++ Decimal.natText columns.length ++ " columns"))

/-- The rows of a source, the number of their values being checked. -/
def newRows (store : Store) (schema : SchemaName) (t : Stored) (written : String) (columns : List String) :
    InsertSource → Except Failure NewRows
  | .defaults => do
    if !columns.isEmpty then checkGiven t written columns 0
    return { rows := fun _ => .ofList [[]] }
  | .query q => do
    match q.first, q.rest with
    | .values [row], [] =>
      let values : Resolver (List Meaning) := row.mapM (resolveIn { store, common := q.common })
      let checked : Resolver (List Meaning) := do
        let ms ← values
        checkGiven t written columns ms.length
        return ms
      let (ms, _) ← checked.finish
      return { rows := fun env => (Rows.ofList [()]).map fun () => Meaning.evalAll ms env }
    | _, _ =>
      let (o, notes) ← (q.resolve store).finish
      checkGiven t written columns o.columns.length
      return { rows := o.rows
               readsItself := notes.sources.any fun s => s.1 = schema && sameName s.2 t.name
               asksRowId := notes.asksRowId }

/-- An insertion. -/
def insert (store : Store) (settings : Settings) (conflict : Option OnConflict) (n : ObjectName)
    (asName : Option String) (columns : List String) (source : InsertSource) : Except Failure Program := do
  let (schema, t) ← store.changeable n none
  let written := asName.getD n.text
  let places ← columns.mapM fun c =>
    placeOf t c (.general ("table " ++ written ++ " has no column named " ++ c))
  let places := match source with
    | .defaults => []
    | .query _ => if columns.isEmpty then (List.range t.fields.length).map some else places
  let new ← newRows store schema t written columns source
  for (f, i) in t.fields.zipIdx do
    if !places.contains (some i) then
      let _ ← f.default.mapM fun d => d.1.defaultMeaning
  let givesRowId := places.any fun p => p.isNone || p == t.rowIdField
  let replaces := mayReplace t conflict givesRowId
  let single := isSingle source && !replaces
  let contents := store.schema schema
  if settings.foreignKeys then t.checkReferences contents schema none single
  let target : Target := ⟨schema, t.name⟩
  let follows := replaces && t.followersAbort (contents.tables.length + 1) contents none
  let undoes := !single && (t.constraintsAbort conflict none givesRowId ||
    (settings.foreignKeys && (t.referencesAbort none || follows)))
  let insertOne (row : Tuple) : Change Unit := do
    let given (place : Option Nat) : Option Datum := (places.findIdx? (· == place)).bind fun j => row[j]?
    let values ← t.fields.zipIdx.mapM fun (f, i) =>
      match given (some i) with
      | some d => pure d
      | none => Change.defaultOf f
    let wanted := match given none, t.rowIdField with
      | some d, _ => d
      | none, some i => (given (some i)).getD .null
      | none, none => .null
    Change.insertRow target conflict single wanted values
  return { effect := .change { schema, counts := true, undoes } do
    Change.startCounter target
    let found := new.rows (← Change.env)
    if new.readsItself then Change.forEachRow insertOne (.ofList (← Change.attempt found.toList))
    else if new.asksRowId then Change.forEachRowAgain insertOne new.rows
    else Change.forEachRow insertOne found
    Change.stopCounter target }

/-! ### Changes and deletions -/

/-- A step for every row of a table that a condition holds of. The rows are found first, unless the condition is about
nothing but the row itself and no other table follows. -/
def forMatching (target : Target) (filter : Conditions) (oneByOne : Bool) (act : Int64 → Change Unit) : Change Unit := do
  let env ← Change.env
  let rows := filter.select env (fun r => .int r.1 :: r.2) (.ofList (← Change.stored target).rows)
  let rows ← if oneByOne then pure rows else Rows.ofList <$> Change.attempt rows.toList
  let actIfThere (r : Int64 × Tuple) : Change Unit := do
    if (← Change.stored target).rows.any fun s => s.1 == r.1 then act r.1
  Change.forEachRow actIfThere rows

/-- Whether rows can be changed one by one as they are found. -/
def isOneByOne (contents : Schema) (settings : Settings) (t : Stored) (filter : Option Expr) : Bool :=
  let follows := settings.foreignKeys && (!t.foreignKeys.isEmpty || !(contents.references t.name).isEmpty)
  !follows && ((filter.map Expr.queries).getD []).isEmpty

/-- An update. -/
def update (store : Store) (settings : Settings) (common : List CommonTable) (conflict : Option OnConflict)
    (n : ObjectName) (asName index : Option String) (changes : List Assignment) (filter : Option Expr) :
    Except Failure Program := do
  let (schema, t) ← store.changeable n index
  let ctx := contextOf store schema t asName common
  let resolved : Resolver (List (Option Nat × Meaning) × Conditions) := do
    if 2000 < changes.length then throw (.general "too many columns in set list")
    let assigned ← changes.mapM fun a => do
      let ms ← resolveValues ctx a
      let places ← a.columns.mapM fun c => placeOf t c (noSuchColumn c)
      return places.zip ms
    return (assigned.flatten, ← resolveAlone (conditions deepest ctx filter))
  let ((assigned, conditions), _) ← resolved.finish
  let isRowId (place : Option Nat) : Bool := place.isNone || place == t.rowIdField
  let movesRow := assigned.any fun a => isRowId a.1
  let changed := assigned.filterMap (·.1) ++ (if movesRow then t.rowIdField.toList else [])
  let contents := store.schema schema
  let replaces := mayReplace (t.touched changed) conflict movesRow
  if settings.foreignKeys then
    t.checkReferences contents schema (some changed) false
    if replaces then t.checkReferences contents schema none false
  let target : Target := ⟨schema, t.name⟩
  let follows (changed : Option (List Nat)) : Bool := t.followersAbort (contents.tables.length + 1) contents changed
  let undoes := t.constraintsAbort conflict (some changed) movesRow ||
    (settings.foreignKeys && (t.referencesAbort (some changed) || follows (some changed) || (replaces && follows none)))
  let oneByOne := isOneByOne contents settings t filter && !movesRow && !replaces
  return { effect := .change { schema, counts := true, undoes } do
    forMatching target conditions oneByOne fun rowId => do
      match (← Change.stored target).rows.find? fun r => r.1 == rowId with
      | none => pure ()
      | some row =>
        let env := (← Change.env).within (.int row.1 :: row.2)
        let values ← Change.attempt (assigned.mapM fun (place, m) => do return (place, ← m.eval env))
        let newId ← match (values.filter fun v => isRowId v.1).getLast? with
          | none => pure rowId
          | some (_, d) => match Affinity.store .integer d with
            | .int i => pure i
            | _ => Change.halt .mismatch .abort
        let others := values.filterMap fun (place, d) => if isRowId place then none else place.map fun i => (i, d)
        if ← Change.updateRow Change.followLimit target conflict rowId newId others then Change.countRow }

/-- A deletion. -/
def delete (store : Store) (settings : Settings) (common : List CommonTable) (n : ObjectName)
    (asName index : Option String) (filter : Option Expr) : Except Failure Program := do
  let (schema, t) ← store.changeable n index
  let ctx := contextOf store schema t asName common
  let (conditions, _) ← (resolveAlone (conditions deepest ctx filter)).finish
  let contents := store.schema schema
  if settings.foreignKeys then t.checkReferences contents schema none false
  let target : Target := ⟨schema, t.name⟩
  let undoes := settings.foreignKeys && t.followersAbort (contents.tables.length + 1) contents none
  let oneByOne := isOneByOne contents settings t filter
  return { effect := .change { schema, counts := true, undoes } do
    forMatching target conditions oneByOne fun rowId => do
      Change.deleteRow Change.followLimit target rowId
      Change.countRow }

end Program

end RecordMapper.Sqlite
