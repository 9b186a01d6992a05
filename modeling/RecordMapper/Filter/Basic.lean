import RecordMapper.Filter.Operator
import RecordMapper.Value.Basic

/-!
# Conditions

A filter is a list of conditions, each with a link to what precedes it: `AND`, or `OR` under one of the keys that mark
it. A condition is a test of one column or a list of its own. A list means the disjunction of its runs, where a run ends
before every `OR`, and a run means the conjunction of its conditions.
-/

namespace RecordMapper

open Decimal

/-- How a condition is linked to those before it. -/
inductive Link where
  /-- By `AND`, under any label. -/
  | and (label : String)
  /-- By `OR`. -/
  | or
  /-- By `OR`, under a tag that lets one document hold several such keys. -/
  | orTagged (tag : String)
  deriving DecidableEq, Repr, Inhabited

namespace Link

/-- The characters that open a tagged key. -/
def tagMark : List Char := "OR#".toList

/-- The link of a key. -/
def ofKey (key : String) : Link :=
  if key = "OR" then .or
  else if tagMark.isPrefixOf key.toList then .orTagged (String.ofList (key.toList.drop tagMark.length))
  else .and key

/-- Whether the link is an `OR`. -/
def isOr : Link → Bool
  | .and _ => false
  | .or | .orTagged _ => true

/-- The key of the link. -/
def label : Link → String
  | .and label => label
  | .or => "OR"
  | .orTagged tag => "OR#" ++ tag

end Link

/-- A test of one column. -/
structure Test where
  col : String
  op : Operator
  operand : Option Value := none
  deriving Repr, Inhabited

/-- A condition: a test, or a list of linked conditions. -/
inductive Condition where
  | test (t : Test)
  | group (entries : List (Link × Condition))
  deriving Repr, Inhabited

/-- A list of linked conditions. -/
abbrev Filter := List (Link × Condition)

namespace Filter

/-! ### Building filters -/

/-- The link of the next condition that is joined by `AND`: its label is its position. -/
def nextLink (f : Filter) : Link :=
  .and (natText f.length)

/-- The filter with a condition under a link at its end. -/
def push (f : Filter) (link : Link) (c : Condition) : Filter :=
  f ++ [(link, c)]

/-- The filter and a condition. -/
def and (f : Filter) (c : Condition) : Filter :=
  f.push f.nextLink c

/-- The filter or a condition. -/
def or (f : Filter) (c : Condition) : Filter :=
  f.push .or c

/-- The condition that a column holds a value: `NULL` is asked for by its own test, an array by membership. -/
def matchOf (col : String) (v : Value) : Condition :=
  match v with
  | .null => .test { col, op := .isNull }
  | .array items => .test { col, op := .isIn, operand := some (.array items) }
  | v => .test { col, op := .eq, operand := some v }

/-- The filter of rows that hold all the given values. -/
def matching (values : Assignments) : Filter :=
  values.toList.foldl (fun f e => f.and (matchOf e.1 e.2)) []

end Filter

/-! ### Conditions as documents -/

/-- The document of a test. -/
def Test.toJson (t : Test) : Json :=
  .obj <| [("col", .str t.col), ("operator", .str t.op.name)] ++
    (match t.operand with
      | some v => [("val", v.toJson)]
      | none => [])

mutual

/-- The document of a condition. -/
def Condition.toJson : Condition → Json
  | .test t => t.toJson
  | .group entries => .ofMembers (Filter.toMembers entries)

/-- The members that stand for a filter, one for each condition. -/
def Filter.toMembers : List (Link × Condition) → List (String × Json)
  | [] => []
  | (link, c) :: entries => (link.label, c.toJson) :: Filter.toMembers entries

end

end RecordMapper
