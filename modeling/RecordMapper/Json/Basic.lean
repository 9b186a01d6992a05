import RecordMapper.Decimal.Binary64

/-!
# JSON documents

Documents keep the order of their members. A number is an integer or a double, and the two never equal each other;
objects are equal when they hold the same members in any order.
-/

namespace RecordMapper

/-- A JSON document. -/
inductive Json where
  | null
  | bool (b : Bool)
  | int (i : Int)
  | float (x : Float)
  | str (s : String)
  | arr (items : List Json)
  | obj (members : List (String × Json))
  deriving Inhabited, Repr

namespace Json

/-- Puts a member under its name: in its old place if the name is there, else last. -/
def putMember (name : String) (doc : Json) : List (String × Json) → List (String × Json)
  | [] => [(name, doc)]
  | (n, d) :: ms => if n = name then (n, doc) :: ms else (n, d) :: putMember name doc ms

/-- An object with the given members, each name once. -/
def ofMembers (members : List (String × Json)) : Json :=
  .obj (members.foldl (fun ms m => putMember m.1 m.2 ms) [])

/-- Whether an integer fits a signed word of 64 bits. -/
def fitsInt64 (i : Int) : Bool :=
  -0x8000000000000000 ≤ i && i < 0x8000000000000000

/-- Whether an integer fits an unsigned word of 64 bits. -/
def fitsUInt64 (i : Int) : Bool :=
  0 ≤ i && i < 0x10000000000000000

theorem fitsUInt64_iff {i : Int} : fitsUInt64 i ↔ 0 ≤ i ∧ i < 0x10000000000000000 := by
  simp [fitsUInt64]

/-- The member of an object. -/
def member? (name : String) : Json → Option Json
  | .obj members => members.lookup name
  | _ => none

/-- The text of a string. -/
def text? : Json → Option String
  | .str s => some s
  | _ => none

mutual

/-- Equality of documents, the members of an object in any order. -/
def same : Json → Json → Bool
  | .null, .null => true
  | .bool a, .bool b => a == b
  | .int a, .int b => a == b
  | .float a, .float b => a == b
  | .str a, .str b => a == b
  | .arr as, .arr bs => sameItems as bs
  | .obj as, .obj bs => as.length == bs.length && sameMembers as bs
  | _, _ => false

/-- Equality of lists of documents. -/
def sameItems : List Json → List Json → Bool
  | [], [] => true
  | a :: as, b :: bs => same a b && sameItems as bs
  | _, _ => false

/-- Whether every member is found, with an equal document, in another object. -/
def sameMembers : List (String × Json) → List (String × Json) → Bool
  | [], _ => true
  | (name, a) :: as, bs =>
    (match bs.lookup name with
      | some b => same a b
      | none => false) && sameMembers as bs

end

instance : BEq Json := ⟨same⟩

end Json

end RecordMapper
