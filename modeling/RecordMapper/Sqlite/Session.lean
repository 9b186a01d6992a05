import RecordMapper.Sqlite.Library
import RecordMapper.Sqlite.Preparation

/-!
# Sessions

A session holds the store and runs statements one at a time. What a transaction or a savepoint may have to undo is the
store as it was then. A statement that fails leaves the store as it found it, unless its conflict asks for less or more, or
unless it is part of a transaction and was not expected to fail; broken references that are deferred keep a transaction
from being committed.
-/

namespace RecordMapper.Sqlite

/-- The failure as it is told to a connection. -/
def Failure.refusal (f : Failure) : Refusal := ⟨f.code.number, some f.message⟩

/-- The store as it was when a transaction or a savepoint was opened; a transaction has no name. -/
structure Savepoint where
  name : Option String
  store : Store
  deferred : Int

/-- The state of a database as one connection sees it. -/
structure Session where
  store : Store := {}
  /-- Whether the lasting schema cannot be written. -/
  readOnly : Bool := false
  settings : Settings := {}
  /-- The newest first. -/
  savepoints : List Savepoint := []
  /-- The number of broken references that have to be mended by the end of the transaction. -/
  deferred : Int := 0
  lastRowId : Int64 := 0
  /-- The number of rows that the last statement of its kind changed. -/
  changes : Nat := 0
  totalChanges : Nat := 0

instance : Inhabited Session := ⟨{}⟩

namespace Session

/-- Whether no transaction is open. -/
def isAutocommit (s : Session) : Bool := s.savepoints.isEmpty

/-- What expressions are evaluated in. -/
def env (s : Session) (binds : List Datum) : Env :=
  { binds
    tally := { lastRowId := s.lastRowId, changes := s.changes, totalChanges := s.totalChanges }
    store := s.store
    before := s.store }

/-- The session without its transaction, everything in it being undone. -/
def undone (s : Session) : Session :=
  match s.savepoints.getLast? with
  | some p => { s with store := p.store, savepoints := [], deferred := 0 }
  | none => s

/-- Ends the transaction, keeping what it did. -/
def commit (s : Session) : Except Failure Unit × Session :=
  if 0 < s.deferred then (.error Change.brokenReference, s)
  else (.ok (), { s with savepoints := [], deferred := 0 })

/-- Opens a savepoint, or a transaction if it has no name. -/
def mark (s : Session) (name : Option String) : Session :=
  { s with savepoints := ⟨name, s.store, s.deferred⟩ :: s.savepoints }

/-- The savepoints from the newest one of a name on, without those that are newer. -/
def savepoints? (s : Session) (name : String) : Option (Savepoint × List Savepoint) :=
  match s.savepoints.dropWhile fun p => !(p.name.map (sameName name)).getD false with
  | p :: ps => some (p, ps)
  | [] => none

/-- Whether a schema cannot be written now. -/
def refuses (s : Session) : SchemaName → Bool
  | .main => s.readOnly || s.settings.queryOnly
  | .temp => s.settings.queryOnly

/-- Runs a change of a schema. -/
def change (s : Session) (binds : List Datum) (plan : ChangePlan) (act : Change Unit) :
    Except Failure Unit × Session :=
  let counted (n : Nat) (s : Session) : Session :=
    if plan.counts then { s with changes := n, totalChanges := s.totalChanges + n } else s
  if s.refuses plan.schema then (.error .readOnly, counted 0 s)
  else
    let work : Work :=
      { store := s.store, base := s.env binds, keepsReferences := s.settings.foreignKeys, lastRowId := s.lastRowId
        deferred := s.deferred }
    let (result, w) := act.run work
    let s := { s with lastRowId := w.lastRowId }
    let kept := counted w.changed { s with store := w.store, deferred := if s.isAutocommit then 0 else w.deferred }
    let broken := 0 < w.immediate || (s.isAutocommit && 0 < w.deferred)
    match result with
    | .ok () => if broken then (.error Change.brokenReference, counted 0 s) else (.ok (), kept)
    | .error ⟨failure, .fail⟩ => if broken then (.error Change.brokenReference, counted 0 s) else (.error failure, kept)
    | .error ⟨failure, .rollback⟩ => (.error failure, counted 0 s.undone)
    | .error ⟨failure, _⟩ =>
      if plan.undoes || s.isAutocommit then (.error failure, counted 0 s)
      else (.error failure, counted 0 { s with store := w.store, deferred := w.deferred })

/-- Runs what a statement does that gives no rows. -/
def perform (s : Session) (binds : List Datum) : Effect → Except Failure Unit × Session
  | .rows _ | .nothing => (.ok (), s)
  | .change plan act => s.change binds plan act
  | .begin writing =>
    if writing && s.settings.queryOnly then (.error .readOnly, s)
    else if s.isAutocommit then (.ok (), s.mark none)
    else (.error (.general "cannot start a transaction within a transaction"), s)
  | .commit =>
    if s.isAutocommit then (.error (.general "cannot commit - no transaction is active"), s) else s.commit
  | .rollback =>
    if s.isAutocommit then (.error (.general "cannot rollback - no transaction is active"), s) else (.ok (), s.undone)
  | .savepoint name => (.ok (), s.mark (some name))
  | .release name =>
    match s.savepoints? name with
    | none => (.error (.general ("no such savepoint: " ++ name)), s)
    | some (_, []) => s.commit
    | some (_, older) => (.ok (), { s with savepoints := older })
  | .rollbackTo name =>
    match s.savepoints? name with
    | none => (.error (.general ("no such savepoint: " ++ name)), s)
    | some (p, older) => (.ok (), { s with store := p.store, deferred := p.deferred, savepoints := p :: older })
  | .configure f =>
    let settings := f s.settings
    let foreignKeys := if s.isAutocommit then settings.foreignKeys else s.settings.foreignKeys
    (.ok (), { s with settings := { settings with foreignKeys } })

/-- Rows as steps that change nothing. -/
def stepsOfRows (s : Session) : Rows Tuple → Stepping Session
  | .done => .done s
  | .failed f => .failed f.refusal s
  | .next row rest => .row row s fun _ => stepsOfRows s (rest ())

/-- The steps of a program. One that gives no rows has a single step. -/
def steps (s : Session) (p : Program) (binds : List Datum) : Stepping Session :=
  match p.effect with
  | .rows f => s.stepsOfRows (f (s.env binds))
  | effect => match s.perform binds effect with
    | (.ok (), s) => .done s
    | (.error f, s) => .failed f.refusal s

/-- Prepares the first statement of some tokens; nothing if there is none. The tokens after it are given too. -/
def prepare (s : Session) (source : List Char) (tokens : List Token) :
    Except Failure (Option (Program × List Token)) :=
  Program.ofTokens s.store s.settings source tokens

/-- Runs all statements of some tokens, up to the first that fails. Each takes a token at least, which bounds their number
by the fuel. -/
def runAll (source : List Char) : Nat → List Token → Session → Except Refusal Unit × Session
  | 0, _, s => (.ok (), s)
  | fuel + 1, tokens, s =>
    match s.prepare source tokens with
    | .error f => (.error f.refusal, s)
    | .ok none => (.ok (), s)
    | .ok (some (p, rest)) =>
      match (s.steps p []).all [] with
      | (.error r, s) => (.error r, s)
      | (.ok _, s) => runAll source fuel rest s

/-- Runs all statements of a text, up to the first that fails. -/
def runText (s : Session) (sql : String) : Except Refusal Unit × Session :=
  let tokens := Token.scan 0 sql.toList
  runAll sql.toList tokens.length tokens s

end Session

end RecordMapper.Sqlite
