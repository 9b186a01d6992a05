/-!
# Comparison operators

The twelve operators of conditions, with the names they have in documents and their spelling in SQL.
-/

namespace RecordMapper

/-- An operator between a column and its operand. -/
inductive Operator where
  | eq | notEq | gt | gtEq | lt | ltEq | isIn | notIn | like | notLike | isNull | notNull
  deriving DecidableEq, Repr, Inhabited

namespace Operator

/-- All operators. -/
def all : List Operator :=
  [.eq, .notEq, .gt, .gtEq, .lt, .ltEq, .isIn, .notIn, .like, .notLike, .isNull, .notNull]

/-- The name in documents. -/
def name : Operator → String
  | .eq => "="
  | .notEq => "!="
  | .gt => ">"
  | .gtEq => ">="
  | .lt => "<"
  | .ltEq => "<="
  | .isIn => "in"
  | .notIn => "not-in"
  | .like => "like"
  | .notLike => "not-like"
  | .isNull => "is-null"
  | .notNull => "not-null"

/-- The operator of a name. -/
def ofName? (s : String) : Option Operator :=
  all.find? fun op => op.name == s

/-- The spelling in SQL. -/
def sql : Operator → String
  | .eq => "="
  | .notEq => "<>"
  | .gt => ">"
  | .gtEq => ">="
  | .lt => "<"
  | .ltEq => "<="
  | .isIn => "IN"
  | .notIn => "NOT IN"
  | .like => "LIKE"
  | .notLike => "NOT LIKE"
  | .isNull => "IS NULL"
  | .notNull => "IS NOT NULL"

/-- Whether the operator needs an operand; the tests for `NULL` ignore one. -/
def takesOperand : Operator → Bool
  | .isNull | .notNull => false
  | _ => true

/-- Whether the operand is a list. -/
def isMembership : Operator → Bool
  | .isIn | .notIn => true
  | _ => false

theorem takesOperand_of_isMembership {op : Operator} (h : op.isMembership) : op.takesOperand := by
  cases op <;> first | rfl | cases h

theorem mem_all (op : Operator) : op ∈ all := by
  cases op <;> decide

theorem ofName?_name (op : Operator) : ofName? op.name = some op := by
  cases op <;> decide

end Operator

end RecordMapper
