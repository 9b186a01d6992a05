/-!
# Reading UTF-8

Bytes are read one at a time with the start of a character kept aside. A byte that cannot go on with it ends it as one
malformed part and is read afresh, so a malformed part is as long as it could still have become a character.
-/

namespace RecordMapper.Text.Utf8

/-- The start of a character: its bits so far, the range of the next byte, and how many bytes follow that one. -/
structure Pending where
  bits : Nat
  low : Nat
  high : Nat
  more : Nat
  deriving DecidableEq, Repr

/-- What a byte that starts a character leads to: a finished part, or more bytes to come. -/
inductive Start where
  | done (part : Option Char)
  | wait (pending : Pending)
  deriving DecidableEq, Repr

/-- Reads a first byte. -/
def start (b : Nat) : Start :=
  if b < 0x80 then .done (some (Char.ofNat b))
  else if b < 0xC2 then .done none
  else if b < 0xE0 then .wait ⟨b - 0xC0, 0x80, 0xBF, 0⟩
  else if b = 0xE0 then .wait ⟨0, 0xA0, 0xBF, 1⟩
  else if b = 0xED then .wait ⟨0xD, 0x80, 0x9F, 1⟩
  else if b < 0xF0 then .wait ⟨b - 0xE0, 0x80, 0xBF, 1⟩
  else if b = 0xF0 then .wait ⟨0, 0x90, 0xBF, 2⟩
  else if b < 0xF4 then .wait ⟨b - 0xF0, 0x80, 0xBF, 2⟩
  else if b = 0xF4 then .wait ⟨4, 0x80, 0x8F, 2⟩
  else .done none

/-- Reads a byte that goes on with a character. -/
def Pending.next (p : Pending) (b : Nat) : Start :=
  let bits := p.bits * 0x40 + (b - 0x80)
  match p.more with
  | 0 => .done (some (Char.ofNat bits))
  | more + 1 => .wait ⟨bits, 0x80, 0xBF, more⟩

/-- The characters that bytes stand for, `none` for each malformed part. -/
def partsFrom : Option Pending → List UInt8 → List (Option Char)
  | none, [] => []
  | some _, [] => [none]
  | none, b :: bs =>
    match start b.toNat with
    | .done part => part :: partsFrom none bs
    | .wait pending => partsFrom (some pending) bs
  | some p, b :: bs =>
    if p.low ≤ b.toNat ∧ b.toNat ≤ p.high then
      match p.next b.toNat with
      | .done part => part :: partsFrom none bs
      | .wait pending => partsFrom (some pending) bs
    else
      match start b.toNat with
      | .done part => none :: part :: partsFrom none bs
      | .wait pending => none :: partsFrom (some pending) bs

/-- The characters and malformed parts of a list of bytes. -/
def parts (bs : List UInt8) : List (Option Char) :=
  partsFrom none bs

/-- The text of bytes, with `U+FFFD` for each malformed part. -/
def readLossy (bs : List UInt8) : String :=
  String.ofList ((parts bs).map (·.getD '\uFFFD'))

/-- The text of well-formed bytes. -/
def read? (bs : List UInt8) : Option String :=
  ((parts bs).mapM id).map String.ofList

/-- The bytes of a text. -/
def write (s : String) : List UInt8 :=
  s.toList.flatMap String.utf8EncodeChar

end RecordMapper.Text.Utf8
