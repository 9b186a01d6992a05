import RecordMapper.Error

/-!
# Reports of errors

An error as plain texts, so that it can be handed on: the code of its cause, its wording, and the details that are
known. A report gives its error back (`toError?_report`).
-/

namespace RecordMapper

/-- The code of a fault of a connection. -/
def ConnectionFault.code : ConnectionFault → String
  | .connect => "Connection.Connect"
  | .unknownName => "Connection.UnknownName"

/-- The code of a fault of a statement. -/
def QueryFault.code : QueryFault → String
  | .sqlGrammar => "Query.Syntax"
  | .constraint => "Query.Constraint"
  | .notFound => "Query.NotFound"
  | .permission => "Query.Permission"
  | .busy => "Query.Busy"
  | .database => "Query.Database"

/-- The code of a fault of a transaction. -/
def TransactionFault.code : TransactionFault → String
  | .alreadyActive => "Transaction.AlreadyActive"
  | .notActive => "Transaction.NotActive"
  | .nestedNotSupported => "Transaction.NestedNotSupported"

/-- The code of a fault of input. -/
def InputFault.code : InputFault → String
  | .conditions => "Structure.BadConditionArray"
  | .fetchParams => "Structure.BadFetchParams"
  | .unsupportedValue => "Structure.UnsupportedValue"
  | .columnSelection => "Structure.BadColumnSelection"

/-- The code of what the receiver does not support. -/
def CapabilityFault.code : CapabilityFault → String
  | .unsupportedOperation => "Capability.UnsupportedOperation"
  | .tableMismatch => "Capability.TableMismatch"

/-- The code of a failed look-up. -/
def Missing.code : Missing → String
  | .property => "NotFound.Property"
  | .collectionKey => "NotFound.CollectionKey"
  | .table => "NotFound.Table"

namespace Error

/-- The code of an error. -/
def code : Error → String
  | .connection fault .. => fault.code
  | .query fault .. => fault.code
  | .conversion .. => "Type"
  | .transaction fault _ => fault.code
  | .config .. => "Config"
  | .input fault .. => fault.code
  | .capability fault _ => fault.code
  | .missing what .. => what.code
  | .custom _ => "Custom"

/-- An error as texts. -/
structure Report where
  code : String
  /-- The wording: what was found, in an error of conversion; the name, in that of a look-up. -/
  message : String
  sql : Option String := none
  expected : Option String := none
  column : Option String := none
  fragment : Option String := none
  owner : Option String := none
  cause : Option String := none
  deriving DecidableEq, Repr

/-- The report of an error. -/
def report (e : Error) : Report :=
  match e with
  | .connection _ message cause => { code := e.code, message, cause }
  | .query _ message sql cause => { code := e.code, message, sql, cause }
  | .conversion expected actual column => { code := e.code, message := actual, expected := some expected, column }
  | .transaction _ message => { code := e.code, message }
  | .config message cause => { code := e.code, message, cause }
  | .input _ message fragment => { code := e.code, message, fragment }
  | .capability _ message => { code := e.code, message }
  | .missing _ name owner => { code := e.code, message := name, owner }
  | .custom message => { code := e.code, message }

namespace Report

/-- The error of a report, if its code is known. -/
def toError? (r : Report) : Option Error :=
  match r.code with
  | "Connection.Connect" => some (.connection .connect r.message r.cause)
  | "Connection.UnknownName" => some (.connection .unknownName r.message r.cause)
  | "Query.Syntax" => some (.query .sqlGrammar r.message r.sql r.cause)
  | "Query.Constraint" => some (.query .constraint r.message r.sql r.cause)
  | "Query.NotFound" => some (.query .notFound r.message r.sql r.cause)
  | "Query.Permission" => some (.query .permission r.message r.sql r.cause)
  | "Query.Busy" => some (.query .busy r.message r.sql r.cause)
  | "Query.Database" => some (.query .database r.message r.sql r.cause)
  | "Type" => r.expected.map fun expected => .conversion expected r.message r.column
  | "Transaction.AlreadyActive" => some (.transaction .alreadyActive r.message)
  | "Transaction.NotActive" => some (.transaction .notActive r.message)
  | "Transaction.NestedNotSupported" => some (.transaction .nestedNotSupported r.message)
  | "Config" => some (.config r.message r.cause)
  | "Structure.BadConditionArray" => some (.input .conditions r.message r.fragment)
  | "Structure.BadFetchParams" => some (.input .fetchParams r.message r.fragment)
  | "Structure.UnsupportedValue" => some (.input .unsupportedValue r.message r.fragment)
  | "Structure.BadColumnSelection" => some (.input .columnSelection r.message r.fragment)
  | "Capability.UnsupportedOperation" => some (.capability .unsupportedOperation r.message)
  | "Capability.TableMismatch" => some (.capability .tableMismatch r.message)
  | "NotFound.Property" => some (.missing .property r.message r.owner)
  | "NotFound.CollectionKey" => some (.missing .collectionKey r.message r.owner)
  | "NotFound.Table" => some (.missing .table r.message r.owner)
  | "Custom" => some (.custom r.message)
  | _ => none

end Report

/-- A report holds all of its error. -/
theorem toError?_report (e : Error) : e.report.toError? = some e := by
  cases e with
  | connection fault _ _ => cases fault <;> rfl
  | query fault _ _ _ => cases fault <;> rfl
  | transaction fault _ => cases fault <;> rfl
  | input fault _ _ => cases fault <;> rfl
  | capability fault _ => cases fault <;> rfl
  | missing what _ _ => cases what <;> rfl
  | _ => rfl

end Error

end RecordMapper
