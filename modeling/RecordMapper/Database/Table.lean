import RecordMapper.Column
import RecordMapper.OrderedMap
import RecordMapper.Relation

/-!
# Tables and entities

A table is its name and its columns, as the database reports them. An entity is what the program declares about a
table: the name it goes by, its primary column and its relations. A model is an entity bound to the table it is about.
-/

namespace RecordMapper

/-- A table with its columns in their order. -/
structure Table where
  name : String
  columns : OrderedMap String Column
  deriving Repr, Inhabited

namespace Table

/-- The table of a list of columns. -/
def ofColumns (name : String) (columns : List Column) : Table :=
  { name, columns := .ofList (columns.map fun c => (c.name, c)) }

/-- Whether the table has a column. -/
def hasColumn (t : Table) (name : String) : Bool :=
  t.columns.contains name

/-- The first column that is a primary key. -/
def primaryKey? (t : Table) : Option Column :=
  t.columns.values.find? (·.primaryKey)

end Table

/-- What is declared about a table. -/
structure Entity where
  name : String
  table : String
  /-- The primary column, if it is not left to the database. -/
  primaryCol : Option String := none
  relations : OrderedMap String Relation := {}
  /-- The access of the records that relations load of it. -/
  access : Access := .writable
  deriving Repr, Inhabited

/-- A table about which nothing is declared. -/
def Entity.ofTable (table : String) : Entity :=
  { name := table, table }

/-- The entity with a relation; one of the same name is replaced. -/
def Entity.withRelation (e : Entity) (r : Relation) : Entity :=
  { e with relations := e.relations.insert r.name r }

/-- An entity bound to its table. -/
structure Model where
  entity : Entity
  table : Table
  primaryCol : String
  deriving Repr, Inhabited

namespace Model

/-- The column that is primary when nothing says otherwise. -/
def defaultPrimaryCol : String := "id"

/-- Binds an entity to a table: what is declared goes before what the database reports. -/
def bind (e : Entity) (t : Table) : Model :=
  { entity := e
    table := t
    primaryCol := (e.primaryCol <|> t.primaryKey?.map (·.name)).getD defaultPrimaryCol }

/-- The name of the table in statements. -/
def tableName (m : Model) : String := m.entity.table

/-- Whether the table has a column. -/
def hasColumn (m : Model) (name : String) : Bool := m.table.hasColumn name

/-- A relation of the entity. -/
def relation? (m : Model) (name : String) : Option Relation := m.entity.relations.get? name

end Model

end RecordMapper
