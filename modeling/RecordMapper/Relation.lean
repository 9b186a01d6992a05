import RecordMapper.Fetch.Basic

/-!
# Relations

A relation links the rows of a model, the parents, to rows of another table. A parent is linked to the rows whose key
column there holds the key that the parent holds in a column of its own; in the last kind a table in between holds both
keys.
-/

namespace RecordMapper

/-- The shapes of relations. -/
inductive RelationKind where
  | belongsTo
  | hasOne
  | hasMany
  | hasManyThrough
  deriving DecidableEq, Repr, Inhabited

namespace RelationKind

/-- All shapes. -/
def all : List RelationKind := [.belongsTo, .hasOne, .hasMany, .hasManyThrough]

/-- The name of a shape. -/
def name : RelationKind → String
  | .belongsTo => "belongs-to"
  | .hasOne => "has-one"
  | .hasMany => "has-many"
  | .hasManyThrough => "has-many-through"

/-- The shape of a name. -/
def ofName? (s : String) : Option RelationKind :=
  all.find? fun kind => kind.name == s

/-- Whether a parent holds a list of rows. -/
def isToMany : RelationKind → Bool
  | .hasMany | .hasManyThrough => true
  | .belongsTo | .hasOne => false

end RelationKind

/-- Whether a record can be changed. -/
inductive Access where
  | writable
  | readOnly
  deriving DecidableEq, Repr, Inhabited

/-- The name of an access. -/
def Access.name : Access → String
  | .writable => "writable"
  | .readOnly => "read-only"

/-- The table between the two sides of a relation. -/
structure LinkTable where
  table : String
  /-- The column with the parents' keys. -/
  parentCol : String
  /-- The column with the keys of the other side. -/
  foreignCol : String
  deriving DecidableEq, Repr, Inhabited

/-- A relation of a model. -/
structure Relation where
  name : String
  kind : RelationKind
  foreignTable : String
  /-- The key column of the other table. -/
  foreignCol : String
  /-- The key column of the parents. -/
  parentCol : String
  /-- The model that related rows become records of. -/
  model : String := foreignTable
  access : Access := .writable
  /-- Whether related rows become records, unless the caller says otherwise. -/
  wraps : Bool := true
  /-- What else the query of the relation asks for. -/
  constraints : Fetch := {}
  link : Option LinkTable := none
  deriving Repr, Inhabited

end RecordMapper
