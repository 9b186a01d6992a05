import RecordMapper.Dialect
import RecordMapper.Sqlite.Affinity
import RecordMapper.Sqlite.Failure
import RecordMapper.Sqlite.Pattern

/-!
# Functions of SQL

Functions of single values. Texts are bytes, and most functions look at them up to their first byte zero; where characters
count, they are those of `characters`.
-/

namespace RecordMapper.Sqlite

open Decimal Text

/-- What functions can ask about the connection. -/
structure Tally where
  lastRowId : Int64 := 0
  changes : Nat := 0
  totalChanges : Nat := 0

namespace Datum

/-- The number that arithmetic takes a datum for; `NULL` stays. -/
def number : Datum → Datum
  | .null => .null
  | .int n => .int n
  | .real x => .real x
  | .text s | .blob s => leadingNumber s

/-- The integer that a datum is cut to. -/
def toInt64 : Datum → Int64
  | .null => 0
  | .int n => n
  | .real x => clampedReal x
  | .text s | .blob s => leadingInt s

/-- The double that a datum is taken for. -/
def toReal : Datum → Float
  | .null => 0
  | .int n => ofInt n.toInt
  | .real x => x
  | .text s | .blob s => leadingReal s

/-- Whether a datum holds as a condition; `NULL` is neither. -/
def truth? : Datum → Option Bool
  | .null => none
  | .int n => some (n != 0)
  | d => some (d.toReal != 0)

/-- A truth value that may be unknown. -/
def ofTruth : Option Bool → Datum
  | none => .null
  | some b => .ofBool b

/-- The literal that stands for a datum. -/
def literal : Datum → Bytes
  | .null => Utf8.write "NULL"
  | .int n => Utf8.write (intText n.toInt)
  | .real x =>
    let short := realText x
    Utf8.write (
      if !isFinite x then if isNegative x then "-9.0e+999" else "9.0e+999"
      else if (Numeral.ofChars short.toList).toFloat == x then short
      else longRealText x)
  | .text s => 39 :: ((toZero s).flatMap fun b => if b == 39 then [39, 39] else [b]) ++ [39]
  | .blob s => Utf8.write ("X'" ++ String.ofList (Dialect.hexDigits s) ++ "'")

end Datum

/-! ### Patterns -/

/-- The failure of a pattern that is too long. -/
def patternTooComplex : Failure := .general "LIKE or GLOB pattern too complex"

/-- Whether a pattern is too long. -/
def isTooComplex (pattern : Datum) : Bool := 50000 < pattern.bytes.length

/-- The test `LIKE`: whether a text fits a pattern, perhaps with an escape character. -/
def like (pattern text : Datum) (escape : Option Datum) : Except Failure Datum := do
  if isTooComplex pattern then throw patternTooComplex
  let escape ← match escape with
    | none => pure none
    | some .null => return .null
    | some e =>
      match codes e.bytes with
      | [c] => pure (some c)
      | _ => throw (.general "ESCAPE expression must be a single character")
  if pattern.isNull || text.isNull then return .null
  return .ofBool (Pattern.like escape pattern.bytes text.bytes)

/-- The test `GLOB`. -/
def glob (pattern text : Datum) : Except Failure Datum := do
  if isTooComplex pattern then throw patternTooComplex
  if pattern.isNull || text.isNull then return .null
  return .ofBool (Pattern.glob pattern.bytes text.bytes)

/-! ### Functions of single values -/

/-- The lists that a list ends with, the longest first. -/
def endings {α : Type} : List α → List (List α)
  | [] => [[]]
  | x :: xs => (x :: xs) :: endings xs

/-- The place of a part among the suffixes of a text, from 1; 0 if it starts none of them. -/
def placeAmong (part : Bytes) (suffixes : List Bytes) : Datum :=
  .int (Int64.ofNat (((suffixes.findIdx? (part.isPrefixOf ·)).map (· + 1)).getD 0))

/-- Replaces every occurrence of a part. -/
def replaceAll (part new : Bytes) : Nat → Bytes → Bytes
  | 0, s => s
  | _, [] => []
  | fuel + 1, b :: s =>
    if part.isPrefixOf (b :: s) then new ++ replaceAll part new fuel ((b :: s).drop part.length)
    else b :: replaceAll part new fuel s

/-- A piece of a list from a place on, counted from 1 or from the end; a negative length is one backwards. -/
def slice {α : Type} (xs : List α) (start length : Int) : List α :=
  let n : Int := xs.length
  let (start, length) :=
    if start < 0 then
      let s := start + n
      if s < 0 then (0, if length < 0 then length else max 0 (length + s)) else (s, length)
    else if 0 < start then (start - 1, length)
    else if 0 < length then (0, length - 1)
    else (0, length)
  let (start, length) :=
    if length < 0 then
      let s := start + length
      if s < 0 then (0, start) else (s, -length)
    else (start, length)
  (xs.drop start.toNat).take length.toNat

/-- A text without any of some parts at its start; the fuel is the length of the text. -/
def withoutStart (parts : List Bytes) : Nat → Bytes → Bytes
  | 0, s => s
  | fuel + 1, s =>
    match parts.find? (·.isPrefixOf s) with
    | some part => withoutStart parts fuel (s.drop part.length)
    | none => s

/-- A text without any of some parts at its start, its end or both. -/
def trimmedBy (parts : List Bytes) (left right : Bool) (s : Bytes) : Bytes :=
  let s := if left then withoutStart parts s.length s else s
  if right then (withoutStart (parts.map List.reverse) s.length s.reverse).reverse else s

/-- The digits by which letters sound alike; vowels have none. -/
def soundDigits : List UInt8 :=
  [0, 1, 2, 3, 0, 1, 2, 0, 0, 2, 2, 4, 5, 5, 0, 1, 2, 6, 2, 3, 0, 1, 0, 2, 0, 2]

/-- The digit of a letter, zero for what is no letter. -/
def soundDigit (b : UInt8) : UInt8 :=
  let b := upperByte (b &&& 0x7F)
  if 65 ≤ b && b ≤ 90 then soundDigits.getD (b - 65).toNat 0 else 0

/-- The digits of a word without those that repeat the one before them. -/
def soundsAfter : UInt8 → Bytes → Bytes
  | _, [] => []
  | last, b :: s =>
    let d := soundDigit b
    if d == 0 then soundsAfter 0 s
    else if d == last then soundsAfter last s
    else (d + 48) :: soundsAfter d s

/-- The first letter of a word and three digits for the sound of the rest. -/
def soundex (s : Bytes) : Bytes :=
  let isLetter (b : UInt8) : Bool := (65 ≤ b && b ≤ 90) || (97 ≤ b && b ≤ 122)
  match (toZero s).dropWhile fun b => !isLetter b with
  | [] => [63, 48, 48, 48]
  | b :: s => upperByte b :: ((soundsAfter (soundDigit b) (b :: s)).take 3 ++ [48, 48, 48]).take 3

/-- A double rounded to some places; to none, by cutting off the fraction after a half is added. -/
def rounded (x : Float) (places : Int) : Float :=
  let places := (max 0 (min 30 places)).toNat
  if x < -4503599627370496.0 || x > 4503599627370496.0 then x
  else if places = 0 then ofInt (clampedReal (if x < 0 then x - 0.5 else x + 0.5)).toInt
  else (Numeral.ofChars (signedText x fun d => (d.places places).plain places).toList).toFloat

/-- The failure of a function without a result for a value. -/
def integerOverflow : Failure := .general "integer overflow"

/-- The numbers of arguments of functions of single values; nothing stands for any number from the first one on. -/
def arities : List (String × Nat × Option Nat) :=
  [("abs", 1, some 1), ("changes", 0, some 0), ("char", 0, none), ("coalesce", 2, none), ("concat", 1, none),
    ("concat_ws", 2, none), ("current_date", 0, some 0), ("current_time", 0, some 0),
    ("current_timestamp", 0, some 0), ("glob", 2, some 2), ("hex", 1, some 1), ("if", 2, none),
    ("ifnull", 2, some 2), ("iif", 2, none), ("instr", 2, some 2), ("last_insert_rowid", 0, some 0),
    ("length", 1, some 1), ("like", 2, some 3), ("likelihood", 2, some 2), ("likely", 1, some 1),
    ("lower", 1, some 1), ("ltrim", 1, some 2), ("match", 2, some 2), ("max", 2, none), ("min", 2, none),
    ("nullif", 2, some 2), ("octet_length", 1, some 1), ("quote", 1, some 1), ("replace", 3, some 3),
    ("round", 1, some 2), ("rtrim", 1, some 2), ("sign", 1, some 1), ("soundex", 1, some 1),
    ("sqlite_version", 0, some 0), ("substr", 2, some 3), ("substring", 2, some 3), ("total_changes", 0, some 0),
    ("trim", 1, some 2), ("typeof", 1, some 1), ("unhex", 1, some 2), ("unicode", 1, some 1),
    ("unlikely", 1, some 1), ("upper", 1, some 1), ("zeroblob", 1, some 1)]

/-- The best of some data by an order, the first of equal ones; `NULL` if one of them is. -/
def extreme (wanted : Ordering) (c : Collation) : List Datum → Datum
  | [] => .null
  | d :: ds =>
    if (d :: ds).any Datum.isNull then .null
    else ds.foldl (fun best e => if e.order c best == wanted then e else best) d

/-- The number that a byte stands for as a hexadecimal digit. -/
def hexByte? (b : UInt8) : Option UInt8 := (hexValue? (Char.ofNat b.toNat)).map UInt8.ofNat

/-- The bytes of pairs of hexadecimal digits; characters to be ignored can stand between the pairs. The fuel is the length
of the text. -/
def unhexed (ignored : List UInt32) : Nat → Bytes → Option Bytes
  | 0, _ => some []
  | _, [] => some []
  | fuel + 1, b :: s =>
    match hexByte? b with
    | none =>
      let n := restLength b s
      if ignored.contains (codeOf (b :: s.take n)) then unhexed ignored fuel (s.drop n) else none
    | some high =>
      match s with
      | [] => none
      | c :: s => do
        let low ← hexByte? c
        return (high * 16 + low) :: (← unhexed ignored fuel s)

/-- The value of a function; the collation is that of the first argument that has one. -/
def applyFunction (name : String) (c : Collation) (tally : Tally) (args : List Datum) : Except Failure Datum :=
  match name, args with
  | "abs", [d] => match d with
    | .null => .ok .null
    | .int n => if n = Int64.minValue then .error integerOverflow else .ok (.int (if n < 0 then -n else n))
    | d => .ok (.real (if d.toReal < 0 then -d.toReal else d.toReal))
  | "changes", _ => .ok (.int (Int64.ofNat tally.changes))
  | "total_changes", _ => .ok (.int (Int64.ofNat tally.totalChanges))
  | "last_insert_rowid", _ => .ok (.int tally.lastRowId)
  | "sqlite_version", _ => .ok (.ofString "3.51.3")
  | "char", ds => .ok (.text (ds.flatMap fun d =>
      let n := d.toInt64.toInt
      bytesOf (if 0 ≤ n ∧ n ≤ 0x10FFFF then UInt32.ofNat n.toNat else 0xFFFD)))
  | "concat", ds => .ok (.text (ds.flatMap Datum.bytes))
  | "concat_ws", s :: ds =>
    .ok (if s.isNull then .null else
      .text (s.bytes.intercalate ((ds.filter fun d => !d.isNull).map Datum.bytes)))
  | "current_date", _ => .ok (.ofString "1970-01-01")
  | "current_time", _ => .ok (.ofString "00:00:00")
  | "current_timestamp", _ => .ok (.ofString "1970-01-01 00:00:00")
  | "glob", [p, t] => glob p t
  | "like", [p, t] => like p t none
  | "like", [p, t, e] => like p t (some e)
  | "hex", [d] => .ok (.ofString (String.ofList (Dialect.hexDigits d.bytes)))
  | "instr", [a, b] => .ok (match a, b with
    | .null, _ | _, .null => .null
    | .blob s, .blob t => placeAmong t (endings s)
    | a, b => placeAmong b.bytes (suffixes a.bytes))
  | "length", [d] => .ok (match d with
    | .null => .null
    | .blob s => .int (Int64.ofNat s.length)
    | d => .int (Int64.ofNat (characters (toZero d.bytes)).length))
  | "octet_length", [d] => .ok (match d with
    | .null => .null
    | d => .int (Int64.ofNat d.bytes.length))
  | "likelihood", [d, _] | "likely", [d] | "unlikely", [d] => .ok d
  | "lower", [d] => .ok (if d.isNull then .null else .text (d.bytes.map lowerByte))
  | "upper", [d] => .ok (if d.isNull then .null else .text (d.bytes.map upperByte))
  | "match", _ => .error (.general "unable to use function MATCH in the requested context")
  | "max", ds => .ok (extreme .gt c ds)
  | "min", ds => .ok (extreme .lt c ds.reverse)
  | "nullif", [a, b] => .ok (if !b.isNull && a.order c b == .eq then .null else a)
  | "quote", [d] => .ok (.text d.literal)
  | "replace", [s, part, new] =>
    .ok (if s.isNull || part.isNull then .null
      else if part.bytes.headD 0 == 0 then .text s.bytes
      else if new.isNull then .null
      else .text (replaceAll part.bytes new.bytes s.bytes.length s.bytes))
  | "round", [d] => .ok (if d.isNull then .null else .real (rounded d.toReal 0))
  | "round", [d, n] => .ok (if d.isNull || n.isNull then .null else .real (rounded d.toReal n.toInt64.toInt32.toInt))
  | "sign", [d] =>
    let n := match d with
      | .text s => (wholeNumber? s).getD .null
      | .blob _ => .null
      | d => d
    .ok (match n with
      | .null => .null
      | n => .int (if n.toReal < 0 then -1 else if 0 < n.toReal then 1 else 0))
  | "substr", d :: start :: rest | "substring", d :: start :: rest =>
    if d.isNull || start.isNull || rest.any Datum.isNull then .ok .null
    else
      let length := match rest with
        | n :: _ => n.toInt64.toInt
        | [] => 0x4000000000000000
      .ok (match d with
        | .blob [] => .null
        | .blob s => .blob (slice s start.toInt64.toInt length)
        | d => .text (slice (characters (toZero d.bytes)) start.toInt64.toInt length).flatten)
  | "soundex", [d] => .ok (.text (soundex d.bytes))
  | "trim", ds => .ok (trimming true true ds)
  | "ltrim", ds => .ok (trimming true false ds)
  | "rtrim", ds => .ok (trimming false true ds)
  | "typeof", [d] => .ok (.ofString d.className)
  | "unhex", d :: rest =>
    let ignored := rest.flatMap fun e => (characters e.bytes).map codeOf
    let digits := toZero d.bytes
    .ok (if d.isNull || rest.any Datum.isNull then .null
      else match unhexed ignored digits.length digits with
        | some bs => .blob bs
        | none => .null)
  | "unicode", [d] => .ok (match codes d.bytes with
    | c :: _ => .int (Int64.ofNat c.toNat)
    | [] => .null)
  | "zeroblob", [d] =>
    let n := d.toInt64.toInt
    if 1000000000 < n then .error ⟨.tooBig, "string or blob too big"⟩
    else .ok (.blob (List.replicate n.toNat 0))
  | _, _ => .ok .null
where
  /-- A text without spaces, or other characters, at its ends. -/
  trimming (left right : Bool) : List Datum → Datum
    | [d] => if d.isNull then .null else .text (trimmedBy [[32]] left right d.bytes)
    | [d, set] =>
      if d.isNull || set.isNull then .null
      else .text (trimmedBy (characters (toZero set.bytes)) left right d.bytes)
    | _ => .null

end RecordMapper.Sqlite
