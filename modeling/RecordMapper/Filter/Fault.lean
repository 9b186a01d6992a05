import RecordMapper.Error
import RecordMapper.Filter.Basic

/-!
# Faults of conditions

What can be wrong with a list of conditions, in a document or when it is compiled. A fault names its reason and quotes
the piece at fault.
-/

namespace RecordMapper

/-- The reason why conditions are refused. -/
inductive FilterReason where
  /-- A document that is neither an object nor an array. -/
  | notAList
  /-- An entry of a document that is neither an object nor an array. -/
  | notAnEntry
  | emptyGroup
  /-- A test in a document whose column is not a text, or is blank. -/
  | columnNotText
  | noColumnMember
  | unknownOperator (name : String)
  | operatorNotText
  | noOperatorMember
  | noValueMember (op : Operator)
  /-- The first condition of a list is linked by `OR`. -/
  | startsWithOr
  | blankColumn
  | noOperand (op : Operator)
  /-- An array or `DEFAULT` where a single value is compared. -/
  | notSingle (op : Operator)
  | emptyMembers
  /-- An array or `DEFAULT` inside an array. -/
  | memberNotSingle
  /-- A text that looks like a list of numbers and is none. -/
  | malformedNumbers
  | defaultOperand
  deriving DecidableEq, Repr

/-- The wording of a reason. -/
def FilterReason.message : FilterReason → String
  | .notAList => "a condition list must be an object or array"
  | .notAnEntry => "a condition entry must be an object"
  | .emptyGroup => "a nested condition list cannot be empty"
  | .columnNotText => "'col' must be a non-empty string"
  | .noColumnMember => "a condition must contain 'col'"
  | .unknownOperator name =>
    "unknown operator '" ++ name ++ "', expected one of " ++ ", ".intercalate (Operator.all.map Operator.name)
  | .operatorNotText => "'operator' must be a string"
  | .noOperatorMember => "a condition must contain 'operator'"
  | .noValueMember op => "operator '" ++ op.name ++ "' requires 'val'"
  | .startsWithOr => "the first entry of a condition list cannot be an OR entry"
  | .blankColumn => "a condition must name a column"
  | .noOperand op => "operator '" ++ op.name ++ "' requires a value"
  | .notSingle op => "operator '" ++ op.name ++ "' expects a single value"
  | .emptyMembers => "an in/not-in list cannot be empty"
  | .memberNotSingle => "in/not-in list members must be single values"
  | .malformedNumbers => "malformed numeric in/not-in list"
  | .defaultOperand => "DEFAULT cannot be used as an in/not-in operand"

/-- A reason and the piece of the conditions that it is about. -/
structure FilterFault where
  reason : FilterReason
  fragment : String
  deriving DecidableEq, Repr

/-- The error of a fault. -/
def FilterFault.toError (fault : FilterFault) : Error :=
  .input .conditions fault.reason.message (some fault.fragment)

end RecordMapper
