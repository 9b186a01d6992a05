import RecordMapper.Sqlite.Datum
import RecordMapper.Text.Digit

/-!
# Where a database is

A path names a database in memory or a file. A path that opens with `file:` is a URI, whose query may ask for a database
in memory or for less access than the connection was opened with.
-/

namespace RecordMapper.Sqlite

/-- What a connection may do with a database. -/
inductive Access where
  | read
  | write
  | create
  deriving DecidableEq, Repr

namespace Access

/-- The name of an access. -/
def name : Access → String
  | .read => "read_only"
  | .write => "read_write"
  | .create => "create_read_write"

/-- The access of a name. -/
def ofName? (s : String) : Option Access :=
  [read, write, create].find? fun a => a.name == s

/-- The order of what is allowed. -/
def rank : Access → Nat
  | .read => 1
  | .write => 2
  | .create => 6

end Access

/-- What is asked for by the query of a URI: an access, or a database in memory. -/
inductive Opening where
  | access (a : Access)
  | memory
  deriving DecidableEq, Repr

/-- The order of what is asked for. -/
def Opening.rank : Opening → Nat
  | .access a => a.rank
  | .memory => 0x80

/-- A database in memory, or a file. -/
inductive Location where
  | memory (readOnly : Bool)
  | file
  deriving DecidableEq, Repr

namespace Location

/-! ### Reading a URI -/

/-- Bytes up to one that ends them or to a `#`, with escapes decoded, and the rest. An escaped byte zero leaves out
everything up to the end. -/
def unescaped (isEnd : UInt8 → Bool) : Bytes → Bytes × Bytes
  | [] => ([], [])
  | b :: s =>
    if b == 35 || isEnd b then ([], b :: s)
    else
      let plain := let (text, rest) := unescaped isEnd s; (b :: text, rest)
      match s with
      | x :: y :: more =>
        match if b == 37 then hexByte? x else none, hexByte? y with
        | some high, some low =>
          if high == 0 && low == 0 then ([], more.dropWhile fun c => !(c == 35 || isEnd c))
          else let (text, rest) := unescaped isEnd more; ((high * 16 + low) :: text, rest)
        | _, _ => plain
      | _ => plain
where
  /-- The number that a byte stands for as a hexadecimal digit. -/
  hexByte? (b : UInt8) : Option UInt8 := (Text.hexValue? (Char.ofNat b.toNat)).map UInt8.ofNat

/-- The options of the query of a URI. One without a name is left out, one without a value has the empty one; the fuel is
the length of the query. -/
def options : Nat → Bytes → List (Bytes × Bytes)
  | 0, _ => []
  | fuel + 1, s =>
    let next (rest : Bytes) : List (Bytes × Bytes) :=
      match rest with
      | 38 :: rest => options fuel rest
      | _ => []
    let (name, rest) := unescaped (fun b => b == 61 || b == 38) s
    match rest with
    | 61 :: rest =>
      if name.isEmpty then next (rest.dropWhile fun b => b != 38 && b != 35)
      else let (value, rest) := unescaped (· == 38) rest; (name, value) :: next rest
    | rest => if name.isEmpty then next rest else (name, []) :: next rest

/-- The path of a URI and what follows it, after the authority, which may only be the local host. -/
def localPart (s : Bytes) : Except String Bytes :=
  match s with
  | 47 :: 47 :: rest =>
    let authority := Text.Utf8.readLossy (rest.takeWhile (· != 47))
    if authority.isEmpty || authority == "localhost" then .ok (rest.dropWhile (· != 47))
    else .error ("invalid uri authority: " ++ authority)
  | s => .ok s

/-! ### Options -/

/-- The names of the ways to open a database. -/
def openings : List (String × Opening) :=
  [("ro", .access .read), ("rw", .access .write), ("rwc", .access .create), ("memory", .memory)]

/-- What an option makes of what is asked for; more than before cannot be asked for. -/
def applyOption (current : Opening) (name value : String) : Except String Opening :=
  match name with
  | "cache" =>
    if value == "shared" || value == "private" then .ok current else .error ("no such cache mode: " ++ value)
  | "mode" =>
    match openings.lookup value with
    | none => .error ("no such access mode: " ++ value)
    | some .memory => .ok .memory
    | some wanted =>
      if current.rank < wanted.rank then .error ("access mode not allowed: " ++ value) else .ok wanted
  | _ => .ok current

/-- The file systems that there are besides the one that holds databases in memory. -/
def fileSystems : List String := ["unix", "unix-none", "unix-dotfile", "unix-excl"]

/-- The place of a path. -/
def ofPath (path : String) (opening : Opening) : Location :=
  if path.isEmpty || path == ":memory:" || opening = .memory then .memory (opening = .access .read) else .file

/-- The place that a path names for a connection with the given access. -/
def read (path : String) (access : Access) : Except String Location := do
  if !path.startsWith "file:" then return ofPath path (.access access)
  let rest ← localPart (Text.Utf8.write (String.ofList (path.toList.drop 5)))
  let (target, query) := unescaped (· == 63) rest
  let given : List (String × String) := match query with
    | 63 :: query =>
      (options query.length query).map fun (name, value) => (Text.Utf8.readLossy name, Text.Utf8.readLossy value)
    | _ => []
  let opening ← given.foldlM (fun current (name, value) => applyOption current name value) (.access access)
  match (given.reverse.find? fun o => o.1 == "vfs").map (·.2) with
  | some "memdb" => return .memory (opening = .access .read)
  | some system => if !fileSystems.contains system then throw ("no such vfs: " ++ system)
  | none => pure ()
  return ofPath (Text.Utf8.readLossy target) opening

end Location

end RecordMapper.Sqlite
