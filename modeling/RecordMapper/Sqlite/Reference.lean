import RecordMapper.Sqlite.Definition

/-!
# References between tables

The columns of a foreign key refer to a key of another table, its parent: the row id, the primary key, or columns that
are unique together. A reference with a `NULL` refers to nothing. Values are compared as the parent's columns store and
order them.
-/

namespace RecordMapper.Sqlite

/-- The key of a table that foreign keys refer to. -/
inductive ParentKey where
  | rowId
  /-- Columns, in the order of those that refer to them. -/
  | columns (places : List Nat)

namespace ParentKey

/-- The key of a row. -/
def ofRow (k : ParentKey) (row : Int64 × Tuple) : List Datum :=
  match k with
  | .rowId => [.int row.1]
  | .columns places => Stored.pick places row.2

/-- How the columns of the key store and order values. -/
def sides (k : ParentKey) (parent : Stored) : List (Affinity × Collation) :=
  match k with
  | .rowId => [(.integer, .binary)]
  | .columns places => places.filterMap fun i => (parent.fields[i]?).map fun f => (f.affinity, f.collation)

/-- Whether some values refer to a key. -/
def isMeant (k : ParentKey) (parent : Stored) (values key : List Datum) : Bool :=
  ((k.sides parent).zip (values.zip key)).all fun ((affinity, c), x, y) =>
    !x.isNull && !y.isNull && (affinity.store x).order c y == .eq

end ParentKey

namespace ForeignKey

/-- The key of the parent that is referred to; none if the parent has no such key. -/
def parentKey? (key : ForeignKey) (parent : Stored) : Option ParentKey :=
  let rowIdName := (parent.rowIdField.bind fun i => parent.fields[i]?).map Field.name
  let columnsOf (i : Index) : Option (List Nat) := do
    let columns ← i.columns?
    if i.unique.isNone || i.filter.isSome || columns.length ≠ key.parentColumns.length then none
    else key.parentColumns.mapM fun n => columns.findSome? fun (place, c) =>
      match parent.fields[place]? with
      | some f => if sameName f.name n.text && f.collation = c then some place else none
      | none => none
  match key.columns, key.parentColumns, rowIdName with
  | [_], [], some _ => some .rowId
  | [_], [n], some id =>
    if sameName n.text id then some .rowId else (parent.indexes.findSome? columnsOf).map .columns
  | columns, [], _ =>
    match (parent.indexes.find? Index.isPrimary).bind Index.columns? with
    | some key => if key.length = columns.length then some (.columns (key.map (·.1))) else none
    | none => none
  | _, _, _ => (parent.indexes.findSome? columnsOf).map .columns

/-- The columns that refer, by their places. -/
def places (key : ForeignKey) (child : Stored) : List Nat := key.columns.filterMap fun c => child.fieldIndex? c.text

/-- The values of a row that refer. -/
def valuesIn (key : ForeignKey) (child : Stored) (row : Tuple) : List Datum :=
  Stored.pick (key.places child) row

/-- The failure of a foreign key whose parent has no key for it. -/
def mismatched (key : ForeignKey) (child : Stored) : Failure :=
  .general ("foreign key mismatch - " ++ inQuotes child.name ++ " referencing " ++ inQuotes key.table.text)

/-- The parent in the schema of the child, and its key. -/
def parentIn (key : ForeignKey) (contents : Schema) (schema : SchemaName) (child : Stored) :
    Except Failure (Stored × ParentKey) := do
  match contents.table? key.table.text with
  | none => throw (noSuchTable ⟨some schema.text, key.table.text, 0⟩)
  | some parent =>
    match key.parentKey? parent with
    | some k => return (parent, k)
    | none => throw (key.mismatched child)

/-- The rows of a child that refer to a key. -/
def referring (key : ForeignKey) (child parent : Stored) (k : ParentKey) (values : List Datum) : List (Int64 × Tuple) :=
  child.rows.filter fun row => k.isMeant parent (key.valuesIn child row.2) values

end ForeignKey

namespace Schema

/-- The foreign keys that refer to a table, each with the table that it belongs to, the newest first. -/
def references (contents : Schema) (table : String) : List (Stored × ForeignKey) :=
  contents.tables.reverse.flatMap fun child =>
    (child.foreignKeys.filter fun key => sameName key.table.text table).map fun key => (child, key)

end Schema

namespace Stored

/-- Whether some changed columns, all of them if none are named, matter to what a table refers to. -/
def changesChild (child : Stored) (key : ForeignKey) (changed : Option (List Nat)) : Bool :=
  match changed with
  | none => true
  | some cs => (key.places child).any cs.contains

/-- Whether some changed columns, all of them if none are named, matter to a key that is referred to. -/
def changesParent (parent : Stored) (key : ForeignKey) (changed : Option (List Nat)) : Bool :=
  match changed with
  | none => true
  | some cs =>
    if key.parentColumns.isEmpty then parent.primaryKey.any cs.contains
    else (key.parentColumns.filterMap fun c => parent.fieldIndex? c.text).any cs.contains

/-- Finds the mistakes in the foreign keys that a change of a table has to look at. A single new row need not look at the
keys that refer to the table, unless they are deferred. -/
def checkReferences (t : Stored) (contents : Schema) (schema : SchemaName) (changed : Option (List Nat))
    (singleInsert : Bool) : Except Failure Unit := do
  for key in t.foreignKeys do
    if t.changesChild key changed || sameName key.table.text t.name then
      let _ ← key.parentIn contents schema t
  for (child, key) in contents.references t.name do
    if t.changesParent key changed && !(singleInsert && !key.deferred) then
      if (key.parentKey? t).isNone then throw (key.mismatched child)

end Stored

end RecordMapper.Sqlite
