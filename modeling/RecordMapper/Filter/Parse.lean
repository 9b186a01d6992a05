import RecordMapper.Json.Printer
import RecordMapper.Text.Blank
import RecordMapper.Filter.Fault

/-!
# Conditions from documents

The members of an object, or the items of an array, are the conditions of a list. An object is a test when it has a
member `col`, `operator` or `val`, or any member that is not a container; every other container is a list of its own.
-/

namespace RecordMapper.Filter

open Text Decimal

/-- The members that belong to tests. -/
def testMembers : List String := ["col", "operator", "val"]

/-- Whether a document is an object or an array. -/
def isContainer : Json → Bool
  | .obj _ | .arr _ => true
  | _ => false

/-- Whether an object with these members is a test. -/
def isTest (members : List (String × Json)) : Bool :=
  testMembers.any (fun name => (members.lookup name).isSome) || members.any fun m => !isContainer m.2

/-- The column of a test. -/
def columnOf (members : List (String × Json)) : Except FilterReason String :=
  match members.lookup "col" with
  | some (.str col) => if isBlankText col then .error .columnNotText else .ok col
  | some _ => .error .columnNotText
  | none => .error .noColumnMember

/-- The operator of a test. -/
def operatorOf (members : List (String × Json)) : Except FilterReason Operator :=
  match members.lookup "operator" with
  | some (.str name) =>
    match Operator.ofName? name with
    | some op => .ok op
    | none => .error (.unknownOperator name)
  | some _ => .error .operatorNotText
  | none => .error .noOperatorMember

/-- The test with the given members. -/
def testOf (members : List (String × Json)) : Except FilterReason Test := do
  let col ← columnOf members
  let op ← operatorOf members
  let operand := (members.lookup "val").map Value.ofJson
  if op.takesOperand && operand.isNone then throw (.noValueMember op)
  return { col, op, operand }

mutual

/-- The condition of a document under a key. -/
def entryOfJson (key : String) (doc : Json) : Except FilterFault Condition :=
  match doc with
  | .obj members =>
    if isTest members then
      match testOf members with
      | .ok t => .ok (.test t)
      | .error reason => .error ⟨reason, (Json.obj members).text⟩
    else
      match ofMembers members with
      | .error fault => .error fault
      | .ok [] => .error ⟨.emptyGroup, key ++ ": " ++ (Json.obj members).text⟩
      | .ok entries => .ok (.group entries)
  | .arr items =>
    match ofItems 0 items with
    | .error fault => .error fault
    | .ok [] => .error ⟨.emptyGroup, key ++ ": " ++ (Json.arr items).text⟩
    | .ok entries => .ok (.group entries)
  | .null => .error ⟨.notAnEntry, key ++ ": null"⟩
  | .bool b => .error ⟨.notAnEntry, key ++ ": " ++ (Json.bool b).text⟩
  | .int i => .error ⟨.notAnEntry, key ++ ": " ++ (Json.int i).text⟩
  | .float x => .error ⟨.notAnEntry, key ++ ": " ++ (Json.float x).text⟩
  | .str s => .error ⟨.notAnEntry, key ++ ": " ++ (Json.str s).text⟩

/-- The conditions of the members of an object; their names are the keys. -/
def ofMembers : List (String × Json) → Except FilterFault (List (Link × Condition))
  | [] => .ok []
  | (key, doc) :: members =>
    match entryOfJson key doc with
    | .error fault => .error fault
    | .ok c =>
      match ofMembers members with
      | .error fault => .error fault
      | .ok entries => .ok ((Link.ofKey key, c) :: entries)

/-- The conditions of the items of an array; their positions are the keys. -/
def ofItems (i : Nat) : List Json → Except FilterFault (List (Link × Condition))
  | [] => .ok []
  | doc :: items =>
    match entryOfJson (natText i) doc with
    | .error fault => .error fault
    | .ok c =>
      match ofItems (i + 1) items with
      | .error fault => .error fault
      | .ok entries => .ok ((Link.ofKey (natText i), c) :: entries)

end

/-- The filter of a document; `null` is the empty one. -/
def ofJson (doc : Json) : Except FilterFault Filter :=
  match doc with
  | .null => .ok []
  | .obj members => ofMembers members
  | .arr items => ofItems 0 items
  | doc => .error ⟨.notAList, doc.text⟩

end RecordMapper.Filter
