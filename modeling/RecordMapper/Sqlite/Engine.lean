import RecordMapper.Sqlite.Connection
import RecordMapper.Sqlite.Session

/-!
# The engine as a library

Sessions answer the calls that a connection makes: a session is the database, and a statement is a program with the data
of its parameters. Where a text holds no statement, there is a statement all the same, which cannot be bound or run.
-/

namespace RecordMapper.Sqlite

/-- The access that flags ask for, if they go together. -/
def OpenFlag.access? (flags : List OpenFlag) : Option Access :=
  match flags.contains .readOnly, flags.contains .readWrite, flags.contains .create with
  | true, false, false => some .read
  | false, true, false => some .write
  | false, true, true => some .create
  | _, _, _ => none

namespace Engine

/-- The failure of a call that makes no sense. -/
def misuse : Refusal := ⟨21, some "bad parameter or other API misuse"⟩

/-- The failure of a call about a text without a statement. -/
def nothingToRun : Refusal := ⟨0, some "not an error"⟩

/-- The failure of a datum that is too large. -/
def tooBig : Refusal := ⟨18, some "string or blob too big"⟩

/-- The number of bytes that a datum or a statement can have. -/
def lengthLimit : Nat := 1000000000

/-- Opens a database in memory. Files are out of reach. -/
def openDatabase (path : String) (flags : List OpenFlag) : Except Refusal Session :=
  match OpenFlag.access? flags with
  | none => .error misuse
  | some access => match Location.read path access with
    | .error message => .error ⟨1, some message⟩
    | .ok .file => .error ⟨14, some "unable to open database file"⟩
    | .ok (.memory readOnly) => .ok { readOnly }

/-- The start of a text that a length leaves; a negative length leaves all of it. -/
def within (sql : String) (length : Int) : String :=
  if length < 0 ∨ sql.utf8ByteSize ≤ length.toNat then sql
  else Text.Utf8.readLossy ((Text.Utf8.write sql).take length.toNat)

/-- A statement with the data of its parameters so far. -/
structure Prepared where
  program : Program
  data : List Datum := []

/-- Prepares the first statement of a text. -/
def prepare (sql : String) (length : Int) (s : Session) : Except Refusal (Option Prepared) × Session :=
  let sql := within sql length
  match s.prepare sql.toList (Token.scan 0 sql.toList) with
  | .error f => (.error f.refusal, s)
  | .ok prepared => (.ok (prepared.map fun e => { program := e.1 }), s)

/-- The datum of a call. A text of unknown length ends before the first byte zero. -/
def datumOf : Binding → Except Refusal Datum
  | .null => .ok .null
  | .int64 n => .ok (.int n)
  | .double x => .ok (.ofFloat x)
  | .text s length =>
    if length < 0 then .ok (.text (s.takeWhile (· != 0)))
    else if lengthLimit < length.toNat then .error tooBig
    else .ok (.text (s.take length.toNat))
  | .blob s length =>
    if length < 0 then .error misuse
    else if lengthLimit < length.toNat then .error tooBig
    else .ok (.blob (s.take length.toNat))

/-- The data with another datum in one place, behind `NULL` where there were none before. -/
def put (d : Datum) : Nat → List Datum → List Datum
  | 0, data => d :: data.tail
  | place + 1, data => data.headD .null :: put d place data.tail

/-- Binds a parameter. -/
def bind (stmt : Option Prepared) (i : Int) (b : Binding) : Except Refusal (Option Prepared) :=
  match stmt with
  | none => .error { nothingToRun with code := misuse.code }
  | some p =>
    if 1 ≤ i ∧ i ≤ p.program.parameters then
      (datumOf b).map fun d => some { p with data := put d (i.toNat - 1) p.data }
    else .error Failure.outOfRange.refusal

/-- The steps of a statement. -/
def steps (stmt : Option Prepared) (s : Session) : Stepping Session :=
  match stmt with
  | none => .failed nothingToRun s
  | some p => s.steps p.program p.data

/-- The names of the columns of a statement. -/
def columnNames (stmt : Option Prepared) : List (Option String) :=
  ((stmt.map fun p => p.program.columns).getD []).map some

end Engine

/-- The engine as the library behind a connection. There is nobody to wait for. -/
def engine : Library Session (Option Engine.Prepared) where
  openDatabase := Engine.openDatabase
  setTimeout _ s := s
  exec sql s := s.runText sql
  prepare := Engine.prepare
  bind := Engine.bind
  columnNames := Engine.columnNames
  steps := Engine.steps
  finalize _ s := s
  isAutocommit := Session.isAutocommit
  changes := Session.changes
  lastRowId := Session.lastRowId

end RecordMapper.Sqlite
