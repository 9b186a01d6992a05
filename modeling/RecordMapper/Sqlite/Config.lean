import RecordMapper.Json.Basic
import RecordMapper.Sqlite.Location

/-!
# How a database is opened

A configuration names a path, flags and the time to wait for a busy database. It is written in code or read from a
document, in which everything may be missing.
-/

namespace RecordMapper.Sqlite

/-- A flag for opening a database. -/
inductive OpenFlag where
  | readOnly | readWrite | create | uri | noMutex | fullMutex | sharedCache | privateCache
  deriving DecidableEq, Repr

namespace OpenFlag

/-- All flags in their order. -/
def all : List OpenFlag := [.readOnly, .readWrite, .create, .uri, .noMutex, .fullMutex, .sharedCache, .privateCache]

/-- The name of a flag. -/
def name : OpenFlag → String
  | .readOnly => "read_only"
  | .readWrite => "read_write"
  | .create => "create"
  | .uri => "uri"
  | .noMutex => "no_mutex"
  | .fullMutex => "full_mutex"
  | .sharedCache => "shared_cache"
  | .privateCache => "private_cache"

/-- The flags that are set in a document, by name or by place; what is missing is not set. -/
def listOfJson? (doc : Json) : Option (List OpenFlag) := do
  let docs ← match doc with
    | .obj _ => some (all.map fun f => doc.member? f.name)
    | .arr items => if items.length ≤ all.length then some (items.map some) else none
    | _ => none
  let set ← docs.mapM fun d => match d with
    | none => some false
    | some (.bool b) => some b
    | some _ => none
  return ((all.zip set).filter (·.2)).map (·.1)

/-- The flags that ask for an access. -/
def ofAccess : Access → List OpenFlag
  | .read => [.readOnly]
  | .write => [.readWrite]
  | .create => [.readWrite, .create]

/-- The flags that a database is opened with: without a choice between reading and writing it may be written and
created. -/
def withDefault (flags : List OpenFlag) : List OpenFlag :=
  if flags.contains .readOnly || flags.contains .readWrite then flags else flags ++ [.readWrite, .create]

end OpenFlag

/-- How a database is opened. -/
structure Config where
  path : String := ":memory:"
  /-- The flags that are set, in their order. -/
  flags : List OpenFlag := OpenFlag.ofAccess .create
  /-- How long to wait for a busy database, in milliseconds. -/
  busyTimeout : Nat := 0
  deriving Repr, DecidableEq

namespace Config

/-- A database in memory. -/
def memory : Config := {}

/-- A database in a file. -/
def file (path : String) : Config := { path }

/-- The configuration with other flags; their order does not matter. -/
def withFlags (c : Config) (flags : List OpenFlag) : Config :=
  { c with flags := OpenFlag.all.filter flags.contains }

/-- The configuration with another time to wait. -/
def withBusyTimeout (c : Config) (milliseconds : Nat) : Config :=
  { c with busyTimeout := milliseconds }

/-- The configuration of a document, by name or by place. -/
def ofJson? (doc : Json) : Option Config := do
  let (path, flags, timeout) ← match doc with
    | .obj _ => some (doc.member? "path", doc.member? "flags", doc.member? "busy_timeout_ms")
    | .arr items => if items.length ≤ 3 then some (items[0]?, items[1]?, items[2]?) else none
    | _ => none
  let c : Config := {}
  let path ← match path with
    | none => some c.path
    | some d => d.text?
  let flags ← match flags with
    | none => some c.flags
    | some d => OpenFlag.listOfJson? d
  let busyTimeout ← match timeout with
    | none => some c.busyTimeout
    | some (.int n) => if 0 ≤ n ∧ n < 0x100000000 then some n.toNat else none
    | some _ => none
  return { path, flags, busyTimeout }

end Config

end RecordMapper.Sqlite
