/-!
# Errors

Everything that an operation can fail with, by cause. `Error.detail` is the wording of the cause itself and
`Error.message` the whole message, which opens with the area the error belongs to.
-/

namespace RecordMapper

/-- Why no connection was had. -/
inductive ConnectionFault where
  /-- The database could not be opened. -/
  | connect
  /-- No connection goes by the name. -/
  | unknownName
  deriving DecidableEq, Repr

/-- Why a statement failed. -/
inductive QueryFault where
  | sqlGrammar
  | constraint
  | notFound
  | permission
  | busy
  | database
  deriving DecidableEq, Repr

/-- Why a transaction could not be opened or closed. -/
inductive TransactionFault where
  | alreadyActive
  | notActive
  | nestedNotSupported
  deriving DecidableEq, Repr

/-- Which kind of input has the wrong shape. -/
inductive InputFault where
  /-- A list of conditions. -/
  | conditions
  /-- A parameter of a fetch. -/
  | fetchParams
  /-- A value that no column can hold. -/
  | unsupportedValue
  /-- A selection of columns that does not fit the fetch. -/
  | columnSelection
  deriving DecidableEq, Repr

/-- What the receiver does not support. -/
inductive CapabilityFault where
  /-- A change to a read-only record. -/
  | unsupportedOperation
  /-- A record of another table. -/
  | tableMismatch
  deriving DecidableEq, Repr

/-- What was looked up in vain. -/
inductive Missing where
  | property
  | collectionKey
  | table
  deriving DecidableEq, Repr

/-- The thing that was looked up, in words. -/
def Missing.noun : Missing → String
  | .property => "property"
  | .collectionKey => "collection key"
  | .table => "table"

/-- An error of the library, or of a driver under it. -/
inductive Error where
  | connection (fault : ConnectionFault) (message : String) (cause : Option String)
  | query (fault : QueryFault) (message : String) (sql : Option String) (cause : Option String)
  | conversion (expected actual : String) (column : Option String)
  | transaction (fault : TransactionFault) (message : String)
  | config (message : String) (cause : Option String)
  | input (fault : InputFault) (message : String) (fragment : Option String)
  | capability (fault : CapabilityFault) (message : String)
  | missing (what : Missing) (name : String) (owner : Option String)
  | custom (message : String)
  deriving DecidableEq, Repr, Inhabited

namespace Error

/-! ### Building errors -/

/-- A value that cannot be written to a column. -/
def unsupportedValue (column typeName : String) : Error :=
  .input .unsupportedValue ("value of type " ++ typeName ++ " cannot be written to column '" ++ column ++ "'")
    (some column)

/-- Columns that do not fit the shape of a fetch. -/
def columnSelection (message : String) (cols : List String) : Error :=
  .input .columnSelection message (some (", ".intercalate cols))

/-- Something that the receiver cannot do. -/
def unsupportedOperation (message : String) : Error :=
  .capability .unsupportedOperation message

/-! ### Classes -/

/-- Input of the wrong shape. -/
def isStructural : Error → Bool
  | .input .. => true
  | _ => false

/-- An operation that the receiver does not support. -/
def isCapability : Error → Bool
  | .capability .. => true
  | _ => false

/-- A failed look-up. -/
def isNotFound : Error → Bool
  | .missing .. => true
  | _ => false

/-- An error of the database under the library. -/
def isPersistence : Error → Bool
  | .query .. | .connection .. | .transaction .. => true
  | _ => false

/-- The statement that failed, if it is known. -/
def sql? : Error → Option String
  | .query _ _ sql _ => sql
  | _ => none

/-- The piece of input at fault, if it is known. -/
def fragment? : Error → Option String
  | .input _ _ fragment => fragment
  | _ => none

/-- The text of the error underneath, if there is one. -/
def cause? : Error → Option String
  | .connection _ _ cause | .query _ _ _ cause | .config _ cause => cause
  | _ => none

/-! ### Wording -/

/-- The wording of the cause: with the statement, the column or the fragment at fault where one is known. -/
def detail : Error → String
  | .connection _ message _ | .transaction _ message | .config message _ | .capability _ message
  | .custom message => message
  | .query _ message none _ => message
  | .query _ message (some sql) _ => message ++ " (in `" ++ sql ++ "`)"
  | .conversion expected actual none => "expected " ++ expected ++ ", found " ++ actual
  | .conversion expected actual (some column) =>
    "expected " ++ expected ++ " for column '" ++ column ++ "', found " ++ actual
  | .input _ message none => message
  | .input _ message (some fragment) => message ++ ": " ++ fragment
  | .missing what name none => "Unknown " ++ what.noun ++ " '" ++ name ++ "'"
  | .missing what name (some owner) => "Unknown " ++ what.noun ++ " '" ++ name ++ "' on '" ++ owner ++ "'"

/-- The whole message: the area of the error, then its cause. -/
def message : Error → String
  | .connection _ message _ => "Connection error: " ++ message
  | .query _ message _ _ => "Query error: " ++ message
  | e@(.conversion ..) => "Type error: " ++ e.detail
  | .transaction _ message => "Transaction error: " ++ message
  | .config message _ => "Configuration error: " ++ message
  | e@(.input ..) => "Invalid input: " ++ e.detail
  | .capability _ message => "Unsupported operation: " ++ message
  | e@(.missing ..) => e.detail
  | .custom message => message

end Error

end RecordMapper
