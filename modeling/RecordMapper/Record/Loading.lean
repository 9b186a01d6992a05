import RecordMapper.Model.Query
import RecordMapper.Record.Basic

/-!
# Loading relations

A relation is loaded onto any number of parents with one query: for all of their keys at once, each key asked for once.
Every parent then holds the rows whose key has the text of its own key, in the order of the result; a relation to one
row holds the first of them. Parents without a key hold nothing, and where no parent has one no query is sent.
-/

namespace RecordMapper

variable {σ α : Type}

/-- What related rows can be attached to. -/
class Parent (α : Type) where
  /-- The value of a column that rows are matched with. -/
  keyValue : α → String → Option Value
  attach : α → String → Related → α

instance : Parent Record where
  keyValue r col := r.data.get? col
  attach r name related := r.attach name related

instance : Parent PlainRow where
  keyValue r col := r.data.get? col
  attach r name related := { r with related := Entries.put name related r.related }

namespace Collection

/-- A collection without members. -/
def empty (m : Model) (access : Access) : Collection :=
  { model := m, access, members := [], nextIndex := 0 }

/-- The largest index. -/
def maxIndex : Nat := 0xFFFFFFFFFFFFFFFF

/-- Adds a record under the next index. -/
def push (c : Collection) (r : Record) : Collection :=
  { c with
    members := Entries.put (.index c.nextIndex) r c.members
    nextIndex := min (c.nextIndex + 1) maxIndex }

/-- The collection of rows, under their positions. -/
def ofRows (m : Model) (access : Access) (rows : List Assignments) : Collection :=
  rows.foldl (fun c row => c.push (.ofRow m access row)) (empty m access)

end Collection

namespace Relation

/-! ### The query -/

/-- The name under which the parents' key comes back from a table in between. -/
def parentKeyName : String := "__parent_key"

/-- The error of a relation through a table that is not declared. -/
def noLinkTable (r : Relation) : Error :=
  .config ("relation '" ++ r.name ++ "' has no join table") none

/-- The table in between, for the kind of relation that has one. -/
def through (r : Relation) : Except Error (Option LinkTable) :=
  match r.kind with
  | .hasManyThrough =>
    match r.link with
    | some link => .ok (some link)
    | none => .error r.noLinkTable
  | .belongsTo | .hasOne | .hasMany => .ok none

/-- The column that is compared with the parents' keys. -/
def matchedCol (r : Relation) (link : Option LinkTable) : String :=
  match link with
  | some link => link.table ++ "." ++ link.parentCol
  | none => r.foreignTable ++ "." ++ r.foreignCol

/-- The test for the parents' keys: equality with one, membership for several. -/
def keyTest (r : Relation) (link : Option LinkTable) (keys : List Value) : Condition :=
  match keys with
  | [key] => .test { col := r.matchedCol link, op := .eq, operand := some key }
  | keys => .test { col := r.matchedCol link, op := .isIn, operand := some (.array keys) }

/-- The conditions of the query: the test for the keys and the relation's own conditions as a group. -/
def queryFilter (r : Relation) (link : Option LinkTable) (keys : List Value) : Filter :=
  let keyed : Filter := Filter.and [] (r.keyTest link keys)
  if r.constraints.filter.isEmpty then keyed else keyed.and (.group r.constraints.filter)

/-- The columns of the query; the parents' key comes along from a table in between. -/
def queryCols (r : Relation) (link : Option LinkTable) : List String :=
  match link with
  | none => r.constraints.cols
  | some link =>
    (if r.constraints.cols.isEmpty then [r.foreignTable ++ ".*"] else r.constraints.cols) ++
      [link.table ++ "." ++ link.parentCol ++ " AS " ++ parentKeyName]

/-- The join with a table in between. -/
def queryJoins (r : Relation) (link : Option LinkTable) : List Join :=
  match link with
  | none => []
  | some link =>
    [{ kind := .inner, table := link.table
       on := link.table ++ "." ++ link.foreignCol ++ " = " ++ r.foreignTable ++ "." ++ r.foreignCol }]

/-- The query of a relation for the keys of some parents. -/
def select (r : Relation) (link : Option LinkTable) (keys : List Value) : Select :=
  { table := r.foreignTable
    fetch := { r.constraints.without FetchKey.unusedByRelations with
      filter := r.queryFilter link keys
      cols := r.queryCols link }
    joins := r.queryJoins link
    ignored := FetchKey.unusedByRelations }

/-! ### Keys -/

/-- Keys without those whose text came before. -/
def distinctKeys (seen : List String) : List Value → List Value
  | [] => []
  | v :: vs =>
    match v.keyText? with
    | none => distinctKeys seen vs
    | some k => if seen.contains k then distinctKeys seen vs else v :: distinctKeys (k :: seen) vs

/-- The keys of parents, each once, in the order of the parents. -/
def parentKeys [Parent α] (r : Relation) (parents : List α) : List Value :=
  distinctKeys [] (parents.filterMap fun p => Parent.keyValue p r.parentCol)

/-- The text of a parent's key. -/
def parentKeyText? [Parent α] (r : Relation) (parent : α) : Option String :=
  (Parent.keyValue parent r.parentCol).bind Value.keyText?

/-- A row of the result with the text of its key; a carried key is taken out of the row. -/
def keyedRow? (r : Relation) (link : Option LinkTable) (row : Assignments) : Option (String × Assignments) :=
  match link with
  | some _ => ((row.get? parentKeyName).bind Value.keyText?).map fun k => (k, row.erase parentKeyName)
  | none => ((row.get? r.foreignCol).bind Value.keyText?).map fun k => (k, row)

/-- The rows under a key, in their order. -/
def rowsOf (keyed : List (String × Assignments)) (key : Option String) : List Assignments :=
  match key with
  | none => []
  | some k => keyed.filterMap fun e => if e.1 = k then some e.2 else none

/-! ### Attaching -/

/-- What related rows become: records of a model, or plain rows. -/
abbrev Target := Option (Model × Access)

/-- Rows in the shape of the relation. -/
def shape (kind : RelationKind) (target : Target) (rows : List Assignments) : Related :=
  if kind.isToMany then
    match target with
    | none => .rows rows
    | some (m, access) => .many (.ofRows m access rows)
  else
    match target with
    | none => .row rows.head?
    | some (m, access) => .one access (rows.head?.map (Record.ofRow m access))

/-- The model that related rows become records of; read-only if the model or the relation says so. -/
def target (d : Driver σ) (r : Relation) (wrap : Option Bool) : Operation σ Target :=
  if wrap.getD r.wraps then do
    let m ← Database.model d r.model
    return some (m, if m.entity.access = .readOnly then .readOnly else r.access)
  else pure none

/-- The rows of a relation for some keys, with the texts of their keys. -/
def fetchKeyed (d : Driver σ) (r : Relation) (keys : List Value) : Operation σ (List (String × Assignments)) := do
  let link ← Database.result r.through
  let rows ← Model.runQuery d (r.select link keys)
  return rows.filterMap fun row => r.keyedRow? link row.toMap

/-- Attaches to a parent the rows of its key. -/
def attachTo [Parent α] (r : Relation) (target : Target) (keyed : List (String × Assignments)) (parent : α) : α :=
  Parent.attach parent r.name (shape r.kind target (rowsOf keyed (r.parentKeyText? parent)))

/-- Loads a relation, declared under a name, onto parents. -/
def load [Parent α] (d : Driver σ) (r : Relation) (name : String) (parents : List α) (wrap : Option Bool) :
    Operation σ (List α) := do
  let target ← r.target d wrap
  let keys := r.parentKeys parents
  if keys.isEmpty then return parents.map fun p => Parent.attach p name (shape r.kind target [])
  let keyed ← r.fetchKeyed d keys
  return parents.map (r.attachTo target keyed)

end Relation

/-- Loads a relation of a model onto parents; a name that is no relation leaves them as they are. -/
def Model.loadRelation [Parent α] (d : Driver σ) (m : Model) (parents : List α) (name : String)
    (wrap : Option Bool) : Operation σ (List α) :=
  match m.relation? name with
  | none => pure parents
  | some r => r.load d name parents wrap

end RecordMapper
