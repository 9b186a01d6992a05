import RecordMapper.OrderedMap
import RecordMapper.Sqlite.Syntax

/-!
# Stored tables

What a database holds: tables with their definitions and rows, and views. A row of an ordinary table has a number, its
row id, by which the rows are ordered; a column may be another name for it. A table without row ids is ordered by its
primary key. Names of all objects are compared without the case of ASCII letters.

Every object keeps the text of its definition, its place in the order of creation and the page where its rows would start.
The catalog of a schema is a table of these that can only be read.
-/

namespace RecordMapper.Sqlite

/-- The values of a row, one for each column. -/
abbrev Tuple := List Datum

/-- A column of a stored table. -/
structure Field where
  name : String
  /-- The declared type; the names of standard types are in upper case. -/
  type : String
  affinity : Affinity
  collation : Collation := .binary
  /-- What is done about `NULL`, if the column cannot hold it. -/
  notNull : Option OnConflict := none
  /-- The default with its spelling. -/
  default : Option (Expr × String) := none
  /-- Whether the column alone is declared to be unique. -/
  isUnique : Bool := false
  /-- The place in the primary key, from 1. -/
  keyPlace : Nat := 0

/-- What an index orders rows by: a column, or an expression. -/
inductive KeyTerm where
  | column (place : Nat)
  | expr (e : Expr)

/-- Where an object stands among the others. -/
structure Entry where
  /-- Where it stands in the order of creation. -/
  rank : Nat := 0
  /-- The page where its rows start. -/
  page : Nat := 0
  /-- The text that defines it, if a statement did. -/
  text : Option String := none
  deriving Repr, Inhabited

/-- An index: terms with their collations. -/
structure Index where
  name : String
  terms : List (KeyTerm × Collation)
  /-- What is done about equal keys, if they are not allowed. -/
  unique : Option OnConflict
  /-- Whether a constraint says what is done. -/
  isSettled : Bool := false
  isPrimary : Bool := false
  /-- Whether a statement made the index, not a constraint. -/
  isExplicit : Bool := false
  /-- The condition on the rows that the index is about. -/
  filter : Option Expr := none
  entry : Entry := {}

/-- The columns of an index with their collations, unless one of its terms is an expression. -/
def Index.columns? (i : Index) : Option (List (Nat × Collation)) :=
  i.terms.mapM fun (t, c) => match t with
    | .column place => some (place, c)
    | .expr _ => none

/-- A stored table. -/
structure Stored where
  name : String
  fields : List Field
  hasPrimaryKey : Bool := false
  /-- The column that is another name for the row id. -/
  rowIdField : Option Nat := none
  /-- What is done about row ids that are equal. -/
  rowIdConflict : OnConflict := .abort
  withoutRowId : Bool := false
  /-- Whether row ids are never used again. -/
  autoincrement : Bool := false
  /-- Whether columns hold values of their types only. -/
  strict : Bool := false
  /-- Whether the table lists the objects of a schema and can only be read. -/
  isCatalog : Bool := false
  /-- The indexes, the newest first. -/
  indexes : List Index := []
  checks : List Check := []
  /-- The references to other tables, the newest first. -/
  foreignKeys : List ForeignKey := []
  entry : Entry := {}
  /-- The rows under their row ids, in order. -/
  rows : List (Int64 × Tuple) := []
  /-- The largest number that was given to a row of a table without row ids. -/
  highest : Int := 0

/-- A query under a name. -/
structure View where
  name : String
  columns : List String
  query : Select
  entry : Entry := {}

/-- The objects of one schema. -/
structure Schema where
  tables : List Stored := []
  views : List View := []
  /-- The number of pages, the first one being that of the catalog. -/
  pages : Nat := 1
  /-- Pages that are not used any more; the first one is used again last. -/
  freePages : List Nat := []

/-- Everything a database holds: the lasting schema and the temporary one. -/
structure Store where
  main : Schema := {}
  temp : Schema := {}

instance : Inhabited Store := ⟨{}⟩

/-- Whether two names are the same. -/
def sameName (a b : String) : Bool := folded a == folded b

namespace Stored

/-- The place of a column. -/
def fieldIndex? (t : Stored) (name : String) : Option Nat :=
  t.fields.findIdx? fun f => sameName f.name name

/-- The names under which a row id is known. -/
def rowIdNames : List String := ["rowid", "_rowid_", "oid"]

/-- The columns of the primary key, in the order of the key. -/
def primaryKey (t : Stored) : List Nat :=
  let places := t.fields.zipIdx.filter fun e => 0 < e.1.keyPlace
  (places.mergeSort fun a b => a.1.keyPlace ≤ b.1.keyPlace).map (·.2)

/-- The collations of the primary key. -/
def primaryCollations (t : Stored) : List Collation :=
  match t.indexes.find? Index.isPrimary with
  | some i => i.terms.map (·.2)
  | none => t.primaryKey.map fun _ => .binary

/-- Some columns of a row. -/
def pick (columns : List Nat) (row : Tuple) : List Datum :=
  columns.map fun i => row.getD i .null

/-- Puts a row among ordered ones: by row id, or by the primary key in a table without row ids. -/
def insertRow (t : Stored) (rowId : Int64) (row : Tuple) : Stored :=
  let before (e : Int64 × Tuple) : Bool :=
    if t.withoutRowId then
      Datum.orderAll t.primaryCollations (pick t.primaryKey e.2) (pick t.primaryKey row) == .lt
    else e.1 < rowId
  { t with
    rows := t.rows.takeWhile before ++ (rowId, row) :: t.rows.dropWhile before
    highest := if t.withoutRowId then max t.highest rowId.toInt else t.highest }

/-- The table without some rows. -/
def removeRows (t : Stored) (unwanted : Int64 × Tuple → Bool) : Stored :=
  { t with rows := t.rows.filter fun e => !unwanted e }

end Stored

namespace Schema

/-- The table of a name. -/
def table? (s : Schema) (name : String) : Option Stored :=
  s.tables.find? fun t => sameName t.name name

/-- The view of a name. -/
def view? (s : Schema) (name : String) : Option View :=
  s.views.find? fun v => sameName v.name name

/-- The table that has an index of the name. -/
def indexed? (s : Schema) (name : String) : Option Stored :=
  s.tables.find? fun t => t.indexes.any fun i => sameName i.name name

/-- Puts a changed table in its place, or a new one last. -/
def putTable (s : Schema) (t : Stored) : Schema :=
  if s.tables.any (fun u => sameName u.name t.name) then
    { s with tables := s.tables.map fun u => if sameName u.name t.name then t else u }
  else { s with tables := s.tables ++ [t] }

/-- All indexes, each with its table. -/
def indexes (s : Schema) : List (Stored × Index) :=
  s.tables.flatMap fun t => t.indexes.map fun i => (t, i)

/-- The rank of the next object. -/
def nextRank (s : Schema) : Nat :=
  let ranks := s.tables.map (·.entry.rank) ++ s.views.map (·.entry.rank) ++ s.indexes.map fun i => i.2.entry.rank
  ranks.foldl max 0 + 1

/-- A page for a new table or index: one that was free, or one more. -/
def takePage (s : Schema) : Nat × Schema :=
  match s.freePages with
  | [] => (s.pages + 1, { s with pages := s.pages + 1 })
  | [page] => (page, { s with freePages := [] })
  | first :: page :: rest => (page, { s with freePages := first :: (rest.getLast?.toList ++ rest.dropLast) })

/-- Gives up the pages of a dropped object, the largest first. -/
def releasePages (s : Schema) (pages : List Nat) : Schema :=
  { s with freePages := s.freePages ++ pages.mergeSort fun a b => b ≤ a }

end Schema

/-- The two schemas. -/
inductive SchemaName where
  | main | temp
  deriving DecidableEq, Repr

/-- The text of a schema's name. -/
def SchemaName.text : SchemaName → String
  | .main => "main"
  | .temp => "temp"

/-- The name of the catalog of a schema. -/
def SchemaName.catalog : SchemaName → String
  | .main => "sqlite_master"
  | .temp => "sqlite_temp_master"

namespace Schema

/-- The rows of a catalog, each with its rank: kind, name, table, page and text of every object. -/
def entries (s : Schema) : List (Nat × Tuple) :=
  let row (kind name table : String) (e : Entry) : Nat × Tuple :=
    (e.rank, [.ofString kind, .ofString name, .ofString table, .int (Int64.ofNat e.page),
      (e.text.map Datum.ofString).getD .null])
  let tables := s.tables.map fun t => row "table" t.name t.name t.entry
  let views := s.views.map fun v => row "view" v.name v.name v.entry
  let indexes := (s.indexes.filter fun i => 0 < i.2.entry.rank).map fun (t, i) => row "index" i.name t.name i.entry
  (tables ++ views ++ indexes).mergeSort fun a b => a.1 ≤ b.1

/-- The catalog as a table. -/
def catalog (s : Schema) (schema : SchemaName) : Stored :=
  let field (name type : String) (affinity : Affinity) : Field := { name, type, affinity }
  { name := schema.catalog
    fields := [field "type" "TEXT" .text, field "name" "TEXT" .text, field "tbl_name" "TEXT" .text,
      field "rootpage" "INT" .integer, field "sql" "TEXT" .text]
    isCatalog := true
    rows := s.entries.map fun e => (Int64.ofNat e.1, e.2) }

end Schema

namespace Store

/-- One of the two schemas. -/
def schema (s : Store) : SchemaName → Schema
  | .main => s.main
  | .temp => s.temp

/-- The store with a changed schema. -/
def withSchema (s : Store) (name : SchemaName) (contents : Schema) : Store :=
  match name with
  | .main => { s with main := contents }
  | .temp => { s with temp := contents }

/-- The schemas that a name may be in: temporary objects hide lasting ones. -/
def searched (name : Option String) : List SchemaName :=
  match name.map folded with
  | none => [.temp, .main]
  | some "main" => [.main]
  | some "temp" => [.temp]
  | some _ => []

/-- The schema whose catalog a name means, if it means one. -/
def catalogOf? (name : ObjectName) : Option SchemaName :=
  match name.schema.map folded, folded name.name with
  | none, "sqlite_master" | none, "sqlite_schema" | some "main", "sqlite_master" | some "main", "sqlite_schema" =>
    some .main
  | none, "sqlite_temp_master" | none, "sqlite_temp_schema" => some .temp
  | some "temp", "sqlite_temp_master" | some "temp", "sqlite_temp_schema" | some "temp", "sqlite_master"
  | some "temp", "sqlite_schema" => some .temp
  | _, _ => none

/-- The table of a name, and its schema. -/
def table? (s : Store) (name : ObjectName) : Option (SchemaName × Stored) :=
  match catalogOf? name with
  | some n => some (n, (s.schema n).catalog n)
  | none => (searched name.schema).findSome? fun n => ((s.schema n).table? name.name).map fun t => (n, t)

/-- The view of a name, and its schema. -/
def view? (s : Store) (name : ObjectName) : Option (SchemaName × View) :=
  (searched name.schema).findSome? fun n => ((s.schema n).view? name.name).map fun v => (n, v)

/-- Puts a changed table in its place. -/
def putTable (s : Store) (n : SchemaName) (t : Stored) : Store :=
  s.withSchema n ((s.schema n).putTable t)

end Store

end RecordMapper.Sqlite
