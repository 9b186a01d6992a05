/-!
# Failures of SQLite

A statement fails with a result code and a message.
-/

namespace RecordMapper.Sqlite

/-- The result codes that statements fail with. -/
inductive ResultCode where
  | error
  | readOnly
  | tooBig
  | full
  | constraint
  | mismatch
  | range
  deriving DecidableEq, Repr

/-- The number of a result code. -/
def ResultCode.number : ResultCode → Int
  | .error => 1
  | .readOnly => 8
  | .full => 13
  | .tooBig => 18
  | .constraint => 19
  | .mismatch => 20
  | .range => 25

/-- Why a statement failed. -/
structure Failure where
  code : ResultCode
  message : String
  deriving DecidableEq, Repr

namespace Failure

/-- A failure with the general code. -/
def general (message : String) : Failure := ⟨.error, message⟩

/-- A broken constraint. -/
def constraint (message : String) : Failure := ⟨.constraint, message⟩

/-- A value that cannot be what it has to be. -/
def mismatch : Failure := ⟨.mismatch, "datatype mismatch"⟩

/-- A change to a database that is only read. -/
def readOnly : Failure := ⟨.readOnly, "attempt to write a readonly database"⟩

/-- A parameter that the statement does not have. -/
def outOfRange : Failure := ⟨.range, "column index out of range"⟩

end Failure

end RecordMapper.Sqlite
