import RecordMapper.Sqlite.Datum

/-!
# Characters of stored texts

A stored text is a sequence of bytes, well-formed or not. Its characters are found by a rule that never fails: a byte
from `C0` on takes all continuation bytes that follow it, and every other byte is a character by itself. Functions look
at a text up to its first byte zero.
-/

namespace RecordMapper.Sqlite

/-- Whether a byte goes on with a character. -/
def isContinuation (b : UInt8) : Bool := 0x80 ≤ b && b < 0xC0

/-- A text up to its first byte zero. -/
def toZero (s : Bytes) : Bytes := s.takeWhile (· != 0)

/-- How many bytes of those behind it belong to the character that a byte starts. -/
def restLength (b : UInt8) (s : Bytes) : Nat :=
  if b < 0xC0 then 0 else (s.takeWhile isContinuation).length

/-- The characters of a text, each as its bytes. -/
def characters (s : Bytes) : List Bytes :=
  match s with
  | [] => []
  | b :: s => (b :: s.take (restLength b s)) :: characters (s.drop (restLength b s))
termination_by s.length
decreasing_by
  simp only [List.length_drop, List.length_cons]
  omega

/-- The bits that the first byte of a character gives to its number. -/
def leadBits (b : UInt8) : UInt32 :=
  if b < 0xC0 then b.toUInt32
  else if b < 0xE0 then (b &&& 0x1F).toUInt32
  else if b < 0xF0 then (b &&& 0x0F).toUInt32
  else if b < 0xF8 then (b &&& 0x07).toUInt32
  else if b < 0xFC then (b &&& 0x03).toUInt32
  else if b < 0xFE then (b &&& 0x01).toUInt32
  else 0

/-- The number of a character; one that no character may have in that form is `FFFD`. -/
def codeOf : Bytes → UInt32
  | [] => 0
  | b :: s =>
    if b < 0xC0 then b.toUInt32
    else
      let c := s.foldl (fun c b => c * 64 + (b &&& 0x3F).toUInt32) (leadBits b)
      if c < 0x80 || c &&& 0xFFFFF800 == 0xD800 || c &&& 0xFFFFFFFE == 0xFFFE then 0xFFFD else c

/-- The numbers of the characters of a text, up to its first byte zero. -/
def codes (s : Bytes) : List UInt32 := (characters (toZero s)).map codeOf

/-- The bytes of a character of a number below `200000` in hexadecimal notation, surrogates included. -/
def bytesOf (c : UInt32) : Bytes :=
  let part (shift : UInt32) : UInt8 := ((c >>> shift) &&& 0x3F ||| 0x80).toUInt8
  if c < 0x80 then [c.toUInt8]
  else if c < 0x800 then [(c >>> 6 ||| 0xC0).toUInt8, part 0]
  else if c < 0x10000 then [(c >>> 12 ||| 0xE0).toUInt8, part 6, part 0]
  else [(c >>> 18 ||| 0xF0).toUInt8, part 12, part 6, part 0]

/-- The suffixes of a text that start at characters; the first byte starts one whatever it is. -/
def suffixes (s : Bytes) : List Bytes :=
  match s with
  | [] => [[]]
  | b :: s => (b :: s) :: suffixes (s.dropWhile isContinuation)
termination_by s.length
decreasing_by
  have := (List.dropWhile_suffix (l := s) isContinuation).length_le
  simp only [List.length_cons]
  omega

end RecordMapper.Sqlite
