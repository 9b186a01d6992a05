import RecordMapper.Filter.Parse

/-!
# What to fetch

A `Fetch` describes which rows of a table are wanted: the columns, the conditions before and after grouping, the order,
a window, and the relations that are loaded along. Each part has a key; a key is set when its part is not the default,
and a fetch can be reset at any of its keys.
-/

namespace RecordMapper

/-- The parts of a fetch. -/
inductive FetchKey where
  | distinct | cols | filter | group | having | order | limit | offset | relations
  deriving DecidableEq, Repr, Inhabited

namespace FetchKey

/-- All keys. -/
def all : List FetchKey :=
  [.distinct, .cols, .filter, .group, .having, .order, .limit, .offset, .relations]

/-- The name of the key in documents. -/
def name : FetchKey → String
  | .distinct => "distinct"
  | .cols => "cols"
  | .filter => "where"
  | .group => "group"
  | .having => "having"
  | .order => "order"
  | .limit => "limit_size"
  | .offset => "limit_offset"
  | .relations => "relations_to_include"

/-- The key of a name. -/
def ofName? (s : String) : Option FetchKey :=
  all.find? fun key => key.name == s

/-- The keys that mean nothing to the query of a relation. -/
def unusedByRelations : List FetchKey := [.limit, .offset, .relations]

end FetchKey

/-- A description of the rows to fetch; the default asks for all columns of all rows. -/
structure Fetch where
  distinct : Bool := false
  /-- The select list; when empty, all columns of the table. -/
  cols : List String := []
  filter : Filter := []
  group : List String := []
  having : Filter := []
  /-- The items of `ORDER BY`, as they stand in the statement. -/
  order : List String := []
  limit : Option Nat := none
  offset : Option Nat := none
  /-- The relations that are loaded onto the fetched rows. -/
  relations : List String := []
  deriving Repr, Inhabited

namespace Fetch

/-- Whether a part is not the default. -/
def isSet (f : Fetch) : FetchKey → Bool
  | .distinct => f.distinct
  | .cols => !f.cols.isEmpty
  | .filter => !f.filter.isEmpty
  | .group => !f.group.isEmpty
  | .having => !f.having.isEmpty
  | .order => !f.order.isEmpty
  | .limit => f.limit.isSome
  | .offset => f.offset.isSome
  | .relations => !f.relations.isEmpty

/-- The fetch with the default in one part. -/
def reset (f : Fetch) : FetchKey → Fetch
  | .distinct => { f with distinct := false }
  | .cols => { f with cols := [] }
  | .filter => { f with filter := [] }
  | .group => { f with group := [] }
  | .having => { f with having := [] }
  | .order => { f with order := [] }
  | .limit => { f with limit := none }
  | .offset => { f with offset := none }
  | .relations => { f with relations := [] }

/-- The fetch with the default in some parts. -/
def without (f : Fetch) (keys : List FetchKey) : Fetch :=
  keys.foldl reset f

/-! ### From documents -/

/-- What can be wrong with a document that describes a fetch. -/
inductive Fault where
  | notAnObject (doc : Json)
  /-- A member that is not what its key asks for. -/
  | shape (key : FetchKey) (expected : String) (doc : Json)
  /-- Conditions that are none. -/
  | conditions (fault : FilterFault)
  deriving Repr

/-- The error of a fault. -/
def Fault.toError : Fault → Error
  | .notAnObject doc => .input .fetchParams ("fetch params must be an object, got " ++ doc.text) (some "")
  | .shape key expected doc =>
    .input .fetchParams ("'" ++ key.name ++ "' must be " ++ expected ++ ", got " ++ doc.text) (some key.name)
  | .conditions fault => fault.toError

/-- The text of each item of an array. -/
def texts? : Json → Option (List String)
  | .arr items => items.mapM Json.text?
  | _ => none

/-- An array of texts. -/
def textsAt (key : FetchKey) (doc : Json) : Except Fault (List String) :=
  match texts? doc with
  | some texts => .ok texts
  | none => .error (.shape key "an array of strings" doc)

/-- A list of conditions, or `null`. -/
def filterAt (key : FetchKey) (doc : Json) : Except Fault Filter :=
  match doc with
  | .obj _ | .arr _ | .null =>
    match Filter.ofJson doc with
    | .ok filter => .ok filter
    | .error fault => .error (.conditions fault)
  | doc => .error (.shape key "a condition list" doc)

/-- A natural number of 64 bits. -/
def countAt (key : FetchKey) (doc : Json) : Except Fault Nat :=
  match doc with
  | .int i => if Json.fitsUInt64 i then .ok i.toNat else .error (.shape key "a non-negative integer" doc)
  | doc => .error (.shape key "a non-negative integer" doc)

/-- The fetch with the part under a key taken from a document. -/
def setFromJson (f : Fetch) (key : FetchKey) (doc : Json) : Except Fault Fetch :=
  match key with
  | .distinct =>
    match doc with
    | .bool b => .ok { f with distinct := b }
    | doc => .error (.shape .distinct "a boolean" doc)
  | .cols => (textsAt .cols doc).map fun cols => { f with cols }
  | .filter => (filterAt .filter doc).map fun filter => { f with filter }
  | .group => (textsAt .group doc).map fun group => { f with group }
  | .having => (filterAt .having doc).map fun having => { f with having }
  | .order => (textsAt .order doc).map fun order => { f with order }
  | .limit => (countAt .limit doc).map fun n => { f with limit := some n }
  | .offset => (countAt .offset doc).map fun n => { f with offset := some n }
  | .relations => (textsAt .relations doc).map fun relations => { f with relations }

/-- The fetch with the parts that members of an object name; other members are passed over. -/
def setMembers (f : Fetch) : List (String × Json) → Except Fault Fetch
  | [] => .ok f
  | (name, doc) :: members =>
    match FetchKey.ofName? name with
    | none => setMembers f members
    | some key =>
      match setFromJson f key doc with
      | .error fault => .error fault
      | .ok f => setMembers f members

/-- The fetch of a document; `null` is the default. -/
def ofJson (doc : Json) : Except Fault Fetch :=
  match doc with
  | .null => .ok {}
  | .obj members => setMembers {} members
  | doc => .error (.notAnObject doc)

end Fetch

end RecordMapper
