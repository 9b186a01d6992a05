import RecordMapper.Database.Table
import RecordMapper.Json.Basic

/-!
# Records, related rows and collections

A record holds one row of a table: its data, the snapshot that changes are measured against, scratch data under names
that are no columns, and what was loaded of its relations. Relations load one record or row, or many; many records make
a collection, whose members keep their keys.

The three types refer to one another, so their maps are lists of entries here, with the operations of `Entries`.
-/

namespace RecordMapper

/-- The key of a member of a collection. -/
inductive MemberKey where
  | index (i : Nat)
  | name (s : String)
  deriving DecidableEq, Repr, Inhabited

/-- The text of a key. -/
def MemberKey.text : MemberKey → String
  | .index i => Decimal.natText i
  | .name s => s

mutual

/-- One row of a table, with what is needed to write its changes. -/
structure Record where
  model : Model
  access : Access
  /-- The values of columns. -/
  data : Assignments
  /-- The values that changes are measured against. -/
  initial : Assignments
  /-- The values under names that are no columns. -/
  scratch : Assignments
  related : List (String × Related)
  isNew : Bool

/-- What a relation of a row holds. -/
inductive Related where
  | one (access : Access) (record : Option Record)
  | many (collection : Collection)
  | row (row : Option Assignments)
  | rows (rows : List Assignments)

/-- Records of one model under their keys. -/
structure Collection where
  model : Model
  access : Access
  members : List (MemberKey × Record)
  /-- The index of the next record without a key of its own. -/
  nextIndex : Nat

end

/-- A fetched row that is no record, with what was loaded of its relations. -/
structure PlainRow where
  data : Assignments
  related : List (String × Related) := []

/-- What a name means to a record. -/
inductive Property where
  | column (v : Value)
  | relation (r : Related)
  | scratch (v : Value)

/-- The value of a property that has one. -/
def Property.value? : Property → Option Value
  | .column v | .scratch v => some v
  | .relation _ => none

/-- The related rows of a property that is a relation. -/
def Property.related? : Property → Option Related
  | .relation r => some r
  | .column _ | .scratch _ => none

namespace Related

/-- The number of rows held. -/
def size : Related → Nat
  | .one _ held => if held.isSome then 1 else 0
  | .many collection => collection.members.length
  | .row held => if held.isSome then 1 else 0
  | .rows held => held.length

/-- Whether no row is held. -/
def isEmpty (r : Related) : Bool := r.size == 0

/-- The record held, if there is one of the access. -/
def one? (a : Access) : Related → Option Record
  | .one b held => if a = b then held else none
  | _ => none

/-- The collection held, if it has the access. -/
def many? (a : Access) : Related → Option Collection
  | .many c => if a = c.access then some c else none
  | _ => none

/-- The plain row held, if there is one. -/
def row? : Related → Option Assignments
  | .row held => held
  | _ => none

/-- The plain rows held, if it is rows that are held. -/
def rows? : Related → Option (List Assignments)
  | .rows held => some held
  | _ => none

end Related

namespace Record

/-- A new record without values. -/
def new (m : Model) (access : Access) : Record :=
  { model := m, access, data := {}, initial := {}, scratch := {}, related := [], isNew := true }

/-- Puts a value where its name belongs: under a column, or aside. -/
def place (r : Record) (name : String) (v : Value) : Record :=
  if r.model.hasColumn name then { r with data := r.data.insert name v }
  else { r with scratch := r.scratch.insert name v }

/-- Places all values of a map. -/
def merge (r : Record) (values : Assignments) : Record :=
  values.toList.foldl (fun r e => r.place e.1 e.2) r

/-- The record with its data as the snapshot. -/
def snapshot (r : Record) : Record :=
  { r with initial := r.data }

/-- Takes the data as the snapshot if there is none. -/
def snapshotIfNone (r : Record) : Record :=
  if r.initial.isEmpty then r.snapshot else r

/-- Replaces the data by a map; the first load is the snapshot as well. -/
def load (r : Record) (values : Assignments) : Record :=
  ({ r with data := {} }.merge values).snapshotIfNone

/-- Takes over some columns of a map. -/
def loadColumns (r : Record) (values : Assignments) (cols : List String) : Record :=
  (r.merge (values.filter fun name _ => cols.contains name)).snapshotIfNone

/-- A record of a stored row. -/
def ofRow (m : Model) (access : Access) (row : Assignments) : Record :=
  { (new m access).load row with isNew := false }

/-- The value of the primary column, `NULL` if there is none. -/
def primaryKey (r : Record) : Value :=
  (r.data.get? r.model.primaryCol).getD .null

/-- What a name means, as far as it is held: a column of the table without a value is `NULL`. -/
def lookup (r : Record) (name : String) : Option Property :=
  match r.data.get? name with
  | some v => some (.column v)
  | none =>
    match Entries.find? name r.related with
    | some related => some (.relation related)
    | none =>
      match r.scratch.get? name with
      | some v => some (.scratch v)
      | none => if r.model.hasColumn name then some (.column .null) else none

/-- Whether something is held under a name. -/
def holds (r : Record) (name : String) : Bool :=
  r.data.contains name || (Entries.find? name r.related).isSome || r.scratch.contains name

/-- Removes a name wherever it is held. -/
def unset (r : Record) (name : String) : Record :=
  { r with
    data := r.data.erase name
    related := Entries.erase name r.related
    scratch := r.scratch.erase name }

/-- Holds related rows under a name. -/
def attach (r : Record) (name : String) (related : Related) : Record :=
  { r with related := Entries.put name related r.related }

/-- The record without any data. -/
def cleared (r : Record) : Record :=
  { r with data := {}, initial := {}, related := [], scratch := {} }

/-- The record as it was made. -/
def reset (r : Record) : Record :=
  { r.cleared with isNew := true }

/-- Whether a column differs from the snapshot; a missing value counts as `NULL`. -/
def isChanged (r : Record) (col : String) : Bool :=
  !((r.data.get? col).getD .null).alike ((r.initial.get? col).getD .null)

/-- Whether any column differs from the snapshot. -/
def isChangedAny (r : Record) : Bool :=
  (r.data.keys ++ r.initial.keys).any r.isChanged

/-- Takes a stored row as the data and the snapshot. -/
def adopt (r : Record) (stored : Assignments) : Record :=
  { ({ r with data := {} }.merge stored).snapshot with isNew := false }

/-- Data and scratch data in one map. -/
def toMap (r : Record) : Assignments :=
  r.data.union r.scratch

/-- The error of changing a read-only record. -/
def readOnlyError (r : Record) : Error :=
  .unsupportedOperation ("records of '" ++ r.model.tableName ++ "' are read-only")

/-- Sets a value, unless the record is read-only. -/
def trySet (r : Record) (name : String) (v : Value) : Except Error Record :=
  match r.access with
  | .writable => .ok (r.place name v)
  | .readOnly => .error r.readOnlyError

/-- Removes a name, unless the record is read-only. -/
def tryUnset (r : Record) (name : String) : Except Error Record :=
  match r.access with
  | .writable => .ok (r.unset name)
  | .readOnly => .error r.readOnlyError

end Record

/-! ### JSON -/

/-- The members of a map as documents. -/
def Assignments.toMembers (values : Assignments) : List (String × Json) :=
  values.toList.map fun e => (e.1, e.2.toJson)

mutual

/-- The document of a record: data, scratch data and related rows in one object. -/
def Record.toJson : Record → Json
  | ⟨_, _, data, _, scratch, related, _⟩ =>
    .obj (Related.putDocuments related (Assignments.toMembers (data.union scratch)))

/-- The document of what a relation holds. -/
def Related.toJson : Related → Json
  | .one _ none => .null
  | .one _ (some record) => record.toJson
  | .many ⟨_, _, members, _⟩ => .arr (Collection.documents members)
  | .row none => .null
  | .row (some held) => .obj (Assignments.toMembers held)
  | .rows held => .arr (held.map fun values => .obj (Assignments.toMembers values))

/-- Puts the documents of relations among members. -/
def Related.putDocuments (related : List (String × Related)) (members : List (String × Json)) :
    List (String × Json) :=
  match related with
  | [] => members
  | (name, r) :: related => Related.putDocuments related (Json.putMember name r.toJson members)

/-- The documents of the members of a collection. -/
def Collection.documents : List (MemberKey × Record) → List Json
  | [] => []
  | (_, record) :: members => record.toJson :: Collection.documents members

end

/-- The document of a row with its related rows. -/
def PlainRow.toJson (r : PlainRow) : Json :=
  .obj (Related.putDocuments r.related (Assignments.toMembers r.data))

end RecordMapper
