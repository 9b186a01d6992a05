import RecordMapper.Error
import RecordMapper.Sqlite.Config
import RecordMapper.Sqlite.Datum
import RecordMapper.Value.Basic

/-!
# The library behind a connection

What a connection asks of libsqlite3: a database is opened, statements are prepared, bound and stepped, and the database
tells whether a transaction is open. The library is a parameter, and nothing is said here about what it does. Sizes are
handed to it as integers of the machine, to which they are cast.
-/

namespace RecordMapper.Sqlite

/-- A size as a C `int`: its low 32 bits, the highest of which is the sign. -/
def cInt (n : Nat) : Int :=
  let low := n % 0x100000000
  if low < 0x80000000 then low else low - 0x100000000

theorem cInt_of_lt {n : Nat} (h : n < 0x80000000) : cInt n = n := by
  have hlow : n % 0x100000000 = n := Nat.mod_eq_of_lt (by omega)
  simp only [cInt, hlow, h, if_true]

/-! ### Failures -/

/-- Why a call failed: a result code and perhaps a message. -/
structure Refusal where
  code : Int
  message : Option String := none
  deriving DecidableEq, Repr

namespace Refusal

/-- The code of a value that cannot be what it has to be. -/
def mismatchCode : Int := 20

/-- Whether a text contains another. -/
def mentions (part : String) (s : String) : Bool :=
  (s.splitOn part).length > 1

/-- The class of a failure: the low byte of the code, and for the general code the message. -/
def fault (code : Int) (message : String) : QueryFault :=
  match code.emod 256 with
  | 19 => .constraint
  | 5 | 6 => .busy
  | 3 | 8 | 23 => .permission
  | 12 => .notFound
  | 1 =>
    if mentions "syntax error" message then .sqlGrammar
    else if message.startsWith "no such" then .notFound
    else .database
  | _ => .database

/-- The description of a result code; extended codes are described by their low byte. -/
def describeCode (code : Int) : String :=
  if code = 516 then "abort due to ROLLBACK"
  else if code = 100 then "another row available"
  else if code = 101 then "no more rows available"
  else match code.emod 256 with
    | 0 => "not an error"
    | 1 => "SQL logic error"
    | 3 => "access permission denied"
    | 4 => "query aborted"
    | 5 => "database is locked"
    | 6 => "database table is locked"
    | 7 => "out of memory"
    | 8 => "attempt to write a readonly database"
    | 9 => "interrupted"
    | 10 => "disk I/O error"
    | 11 => "database disk image is malformed"
    | 12 => "unknown operation"
    | 13 => "database or disk is full"
    | 14 => "unable to open database file"
    | 15 => "locking protocol"
    | 17 => "database schema has changed"
    | 18 => "string or blob too big"
    | 19 => "constraint failed"
    | 20 => "datatype mismatch"
    | 21 => "bad parameter or other API misuse"
    | 23 => "authorization denied"
    | 25 => "column index out of range"
    | 26 => "file is not a database"
    | 27 => "notification message"
    | 28 => "warning message"
    | _ => "unknown error"

/-- The message of the failure, or what its code means. -/
def described (r : Refusal) : String := r.message.getD (describeCode r.code)

/-- The message that the database has for the failure. -/
def told (r : Refusal) : String := r.message.getD "unknown error"

/-- The error of a failure of a statement, with its message. -/
def toError (r : Refusal) (message sql : String) : Error :=
  .query (fault r.code message) message (some sql) none

end Refusal

/-! ### Calls -/

/-- What a parameter is bound to by one call. Texts and blobs are handed over with their length. -/
inductive Binding where
  | null
  | int64 (n : Int64)
  | double (x : Float)
  | text (s : Bytes) (length : Int)
  | blob (s : Bytes) (length : Int)

/-- A text with the length of its bytes. -/
def Binding.ofString (s : String) : Binding := .text (Text.Utf8.write s) (cInt (Text.Utf8.write s).length)

/-- The call that binds a value; a marker for the default has none. -/
def bindingOf? : Value → Option Binding
  | .null => some .null
  | .bool b => some (.int64 (if b then 1 else 0))
  | .int n => some (.int64 n.toInt64)
  | .bigint n => some (.int64 n)
  | .double x => some (.double x)
  | .decimal s | .text s => some (.ofString s)
  | .bytes bs => some (.blob bs (cInt bs.length))
  | .json d => some (.ofString (Value.json d).toJson.text)
  | .array vs => some (.ofString (Value.array vs).toJson.text)
  | .default => none

/-- How the steps of a statement come out, with the database after each: rows, until there are no more or one fails. -/
inductive Stepping (δ : Type) where
  | done (after : δ)
  | failed (why : Refusal) (after : δ)
  | row (values : List Datum) (after : δ) (rest : Unit → Stepping δ)

namespace Stepping

variable {δ : Type}

/-- All steps: the rows behind those of a list, from the last row on. -/
def all (found : List (List Datum)) : Stepping δ → Except Refusal (List (List Datum)) × δ
  | .done db => (.ok found.reverse, db)
  | .failed r db => (.error r, db)
  | .row values _ rest => all (values :: found) (rest ())

/-- The first step alone. -/
def first : Stepping δ → Except Refusal Unit × δ
  | .done db | .row _ db _ => (.ok (), db)
  | .failed r db => (.error r, db)

end Stepping

/-- The library: calls on databases `δ` and on statements `σ`, among which is that of a text without any. -/
structure Library (δ σ : Type) where
  /-- Opens the database of a path. -/
  openDatabase : String → List OpenFlag → Except Refusal δ
  /-- Sets how long to wait for a busy database, in milliseconds. -/
  setTimeout : Int → δ → δ
  /-- Runs all statements of a text, up to the first that fails. -/
  exec : String → δ → Except Refusal Unit × δ
  /-- Prepares the first statement of a text with the given length. -/
  prepare : String → Int → δ → Except Refusal σ × δ
  /-- Binds a parameter, by its number from 1. -/
  bind : σ → Int → Binding → Except Refusal σ
  columnNames : σ → List (Option String)
  steps : σ → δ → Stepping δ
  /-- Gives up a statement. -/
  finalize : σ → δ → δ
  /-- Whether no transaction is open. -/
  isAutocommit : δ → Bool
  /-- The number of rows that the last change of rows changed. -/
  changes : δ → Nat
  /-- The row id of the last insert. -/
  lastRowId : δ → Int64

end RecordMapper.Sqlite
