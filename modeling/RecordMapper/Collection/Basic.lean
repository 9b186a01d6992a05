import RecordMapper.Record.Loading

/-!
# Collections

The members of a collection keep their order and their keys, whatever is added or removed. A record without a key of its
own gets the next index, which is larger than every index used before.
-/

namespace RecordMapper.Collection

variable {σ : Type}

/-- The member under a key. -/
def get? (c : Collection) (key : MemberKey) : Option Record :=
  Entries.find? key c.members

/-- The error of a key without a member. -/
def noMember (c : Collection) (key : MemberKey) : Error :=
  .missing .collectionKey key.text (some c.model.tableName)

/-- The member under a key, or the error that there is none. -/
def member (c : Collection) (key : MemberKey) : Except Error Record :=
  match c.get? key with
  | some r => .ok r
  | none => .error (c.noMember key)

/-- Whether there is a member under a key. -/
def contains (c : Collection) (key : MemberKey) : Bool :=
  (c.get? key).isSome

/-- The keys, in order. -/
def keys (c : Collection) : List MemberKey :=
  c.members.map Prod.fst

/-- The members, in order. -/
def records (c : Collection) : List Record :=
  c.members.map Prod.snd

/-- The key of the record that is pushed next. -/
def nextKey (c : Collection) : MemberKey :=
  .index c.nextIndex

/-- Puts a record under a key, in the place of the one that was there. -/
def insert (c : Collection) (key : MemberKey) (r : Record) : Collection :=
  { c with
    members := Entries.put key r c.members
    nextIndex := match key with
      | .index i => max c.nextIndex (min (i + 1) maxIndex)
      | .name _ => c.nextIndex }

/-- Puts a changed member in its place. -/
def replace (c : Collection) (key : MemberKey) (r : Record) : Collection :=
  { c with members := Entries.put key r c.members }

/-- The collection without the member under a key. -/
def remove (c : Collection) (key : MemberKey) : Collection :=
  { c with members := Entries.erase key c.members }

/-- The collection without members; indices are not used again. -/
def removeAll (c : Collection) : Collection :=
  { c with members := [] }

/-- The value of a column in every member, `NULL` where there is none. -/
def columnValues (c : Collection) (col : String) : List Value :=
  c.records.map fun r => (r.data.get? col).getD .null

/-- The members as maps. -/
def toMaps (c : Collection) : List Assignments :=
  c.records.map Record.toMap

/-- Sets a value in every member that is not read-only; what came of it under each key. -/
def setAll (c : Collection) (name : String) (v : Value) : List (MemberKey × Except Error Unit) × Collection :=
  let results := c.members.map fun e => (e.1, e.2, e.2.trySet name v)
  (results.map fun e => (e.1, e.2.2.map fun _ => ()),
    { c with members := results.map fun e => (e.1, match e.2.2 with
      | .ok r => r
      | .error _ => e.2.1) })

/--
Sets a value in the writable records that a relation holds in each member; their number, for the members that hold
such records.
-/
def setAllRelated (c : Collection) (relation name : String) (v : Value) : List (Option Nat) × Collection :=
  let results := c.members.map fun e =>
    match Entries.find? relation e.2.related with
    | some (.many held) =>
      match held.access with
      | .writable =>
        (some held.members.length, e.1, e.2.attach relation (.many (held.setAll name v).2))
      | .readOnly => (none, e)
    | _ => (none, e)
  (results.map Prod.fst, { c with members := results.map Prod.snd })

/-- The collection with other records in the places of its members. -/
def withRecords (c : Collection) (rs : List Record) : Collection :=
  { c with members := c.keys.zip rs }

theorem withRecords_map (c : Collection) (f : Record → Record) :
    c.withRecords (c.records.map f) = { c with members := c.members.map fun e => (e.1, f e.2) } := by
  rw [withRecords, keys, records, List.map_map, List.zip_map']
  rfl

/-- Loads relations onto all members, one query for each; those before a failure stay. -/
def load (d : Driver σ) (c : Collection) : List String → StateM (Database σ) (Except Error Unit × Collection)
  | [] => pure (.ok (), c)
  | name :: names => fun db =>
    match c.model.loadRelation d c.records name none db with
    | (.error e, db) => ((.error e, c), db)
    | (.ok rs, db) => (c.withRecords rs).load d names db

/-- Loads relations onto all members, if there are any. -/
def eagerLoad (d : Driver σ) (c : Collection) (names : List String) :
    StateM (Database σ) (Except Error Unit × Collection) :=
  if c.members.isEmpty then pure (.ok (), c) else c.load d names

end RecordMapper.Collection
