import RecordMapper.Json.Basic
import RecordMapper.Text.Digit
import RecordMapper.Decimal.Integer

/-!
# Tokens of JSON

A text is cut into marks, words, strings and numbers. Strings pair the surrogates written as `\u` escapes; a number
keeps as many digits as fit a word of 64 bits and is scaled by the rest as a double, so a long number is close to its
text but not always the double nearest to it.
-/

namespace RecordMapper.Json

open RecordMapper.Text RecordMapper.Decimal

/-- The punctuation of JSON. -/
inductive Mark where
  | beginArray | endArray | beginObject | endObject | comma | colon
  deriving DecidableEq, Repr

/-- A token: punctuation, or a document without parts. -/
inductive Token where
  | mark (m : Mark)
  | leaf (doc : Json)
  deriving Repr

/-- The blanks between tokens. -/
def isSpace (c : Char) : Bool :=
  c == ' ' || c == '\t' || c == '\n' || c == '\r'

/-! ### Strings -/

/-- A part of a string: a character, or a code unit of UTF-16 given by its number. -/
inductive Piece where
  | char (c : Char)
  | unit (n : Nat)
  deriving DecidableEq, Repr

/-- The character of a short escape. -/
def shortEscape? (c : Char) : Option Char :=
  match c with
  | '"' => some '"'
  | '\\' => some '\\'
  | '/' => some '/'
  | 'b' => some '\x08'
  | 'f' => some '\x0c'
  | 'n' => some '\n'
  | 'r' => some '\r'
  | 't' => some '\t'
  | _ => none

/-- The code unit of four hexadecimal digits. -/
def codeUnit? (a b c d : Char) : Option Nat := do
  return (((← hexValue? a) * 16 + (← hexValue? b)) * 16 + (← hexValue? c)) * 16 + (← hexValue? d)

/-- The pieces of a string up to its closing quote, and what follows it. -/
def stringPieces? : List Char → Option (List Piece × List Char)
  | '"' :: cs => some ([], cs)
  | '\\' :: 'u' :: a :: b :: c :: d :: cs => do
    let n ← codeUnit? a b c d
    let (pieces, rest) ← stringPieces? cs
    return (.unit n :: pieces, rest)
  | '\\' :: e :: cs => do
    let c ← shortEscape? e
    let (pieces, rest) ← stringPieces? cs
    return (.char c :: pieces, rest)
  | c :: cs =>
    if c.toNat < 0x20 ∨ c = '\\' then none
    else do
      let (pieces, rest) ← stringPieces? cs
      return (.char c :: pieces, rest)
  | [] => none

/-- Whether a code unit is the first, or the second, of a pair. -/
def isHighSurrogate (n : Nat) : Bool := 0xD800 ≤ n && n ≤ 0xDBFF

@[inherit_doc isHighSurrogate]
def isLowSurrogate (n : Nat) : Bool := 0xDC00 ≤ n && n ≤ 0xDFFF

/-- The characters of the pieces of a string; a surrogate without its other half has none. -/
def joinPieces? : List Piece → Option (List Char)
  | [] => some []
  | .char c :: ps => (joinPieces? ps).map (c :: ·)
  | .unit n :: ps =>
    if isHighSurrogate n then
      match ps with
      | .unit m :: ps =>
        if isLowSurrogate m then
          (joinPieces? ps).map (Char.ofNat (0x10000 + (n - 0xD800) * 0x400 + (m - 0xDC00)) :: ·)
        else none
      | _ => none
    else if isLowSurrogate n then none
    else (joinPieces? ps).map (Char.ofNat n :: ·)

theorem length_of_stringPieces? {cs rest : List Char} {pieces : List Piece}
    (h : stringPieces? cs = some (pieces, rest)) : rest.length < cs.length := by
  fun_induction stringPieces? cs generalizing pieces with
  | case1 cs => simp_all
  | case2 a b c d cs ih =>
    simp only [bind, Option.bind_eq_some_iff, pure, Option.some.injEq, Prod.mk.injEq, Prod.exists] at h
    obtain ⟨_, _, ps, r, hr, _, rfl⟩ := h
    have := ih hr
    simp only [List.length_cons]
    omega
  | case3 e cs _ ih =>
    simp only [bind, Option.bind_eq_some_iff, pure, Option.some.injEq, Prod.mk.injEq, Prod.exists] at h
    obtain ⟨_, _, ps, r, hr, _, rfl⟩ := h
    have := ih hr
    simp only [List.length_cons]
    omega
  | case4 => simp at h
  | case5 c cs _ _ _ _ ih =>
    simp only [bind, Option.bind_eq_some_iff, pure, Option.some.injEq, Prod.mk.injEq, Prod.exists] at h
    obtain ⟨ps, r, hr, _, rfl⟩ := h
    have := ih hr
    simp only [List.length_cons]
    omega
  | case6 => simp at h

/-! ### Numbers -/

/-- The largest significand. -/
def maxSignificand : Nat := 0xFFFFFFFFFFFFFFFF

/-- Adds digits to a significand while it fits; the digits left over are returned. -/
def accumulate (significand : Nat) : List Char → Nat × List Char
  | [] => (significand, [])
  | d :: ds =>
    let next := significand * 10 + digitValue d
    if next ≤ maxSignificand then accumulate next ds else (significand, d :: ds)

/-- The double of a power of ten up to `10 ^ 308`. -/
def powerOfTen (n : Nat) : Float :=
  ofDecimal false 1 n

/-- A double divided by a power of ten, in steps of at most `10 ^ 308`. -/
def dividedByPower (x : Float) (n : Nat) : Float :=
  if n ≤ 308 then x / powerOfTen n
  else if x == 0 then x
  else dividedByPower (x / powerOfTen 308) (n - 308)
termination_by n

/-- A significand scaled by a power of ten; there is none past the largest double. -/
def scaled? (significand : Nat) (exponent : Int) : Option Float :=
  let x := ofInt significand
  if exponent < 0 then some (dividedByPower x (-exponent).toNat)
  else if 308 < exponent then (if significand = 0 then some x else none)
  else
    let y := x * powerOfTen exponent.toNat
    if isFinite y then some y else none

/-- The largest exponent that is read as written. -/
def maxExponent : Nat := 0x7FFFFFFF

/-- The double of a significand with a written exponent on top of the one from its point. -/
def withExponent? (significand : Nat) (point : Int) (negativeExponent : Bool) (exponent : Nat) : Option Float :=
  if maxExponent < exponent then
    if significand ≠ 0 ∧ negativeExponent = false then none else some (ofInt 0)
  else scaled? significand (if negativeExponent then point - exponent else point + exponent)

/-- The double of a significand, its point, and the rest of its text: nothing, or an exponent. -/
def endFloat? (significand : Nat) (point : Int) : List Char → Option Float
  | [] => scaled? significand point
  | e :: cs =>
    if e = 'e' ∨ e = 'E' then
      let (negative, ds) := match cs with
        | '-' :: ds => (true, ds)
        | '+' :: ds => (false, ds)
        | ds => (false, ds)
      (readDigits? ds).bind (withExponent? significand point negative)
    else none

/-- A number without its minus sign, from its whole text. -/
def readUnsigned? (negative : Bool) (cs : List Char) : Option Json :=
  let whole := cs.takeWhile isAsciiDigit
  let rest := cs.dropWhile isAsciiDigit
  let sign (x : Float) : Json := .float (if negative then -x else x)
  if whole = [] ∨ (whole.head? = some '0' ∧ whole.length ≠ 1) then none
  else
    let (significand, dropped) := accumulate 0 whole
    match rest with
    | [] =>
      if dropped ≠ [] then (scaled? significand dropped.length).map sign
      else if !negative then some (.int significand)
      else if significand ≠ 0 ∧ significand ≤ 0x8000000000000000 then some (.int (-significand))
      else some (sign (ofInt significand))
    | '.' :: cs =>
      let fraction := cs.takeWhile isAsciiDigit
      if fraction = [] then none
      else
        let (significand, unused) := accumulate significand fraction
        let point : Int := dropped.length - (fraction.length - unused.length : Nat)
        (endFloat? significand point (cs.dropWhile isAsciiDigit)).map sign
    | cs => (endFloat? significand dropped.length cs).map sign

/-- A number, from its whole text. -/
def readNumber? : List Char → Option Json
  | '-' :: cs => readUnsigned? true cs
  | cs => readUnsigned? false cs

/-! ### The whole text -/

/-- The document of a word. -/
def word? (cs : List Char) : Option Json :=
  if cs = "null".toList then some .null
  else if cs = "true".toList then some (.bool true)
  else if cs = "false".toList then some (.bool false)
  else none

/-- The characters that numbers are made of. -/
def isNumberChar (c : Char) : Bool :=
  isAsciiDigit c || c == '-' || c == '+' || c == '.' || c == 'e' || c == 'E'

/-- The mark of a character. -/
def mark? (c : Char) : Option Mark :=
  match c with
  | '[' => some .beginArray
  | ']' => some .endArray
  | '\x7b' => some .beginObject
  | '\x7d' => some .endObject
  | ',' => some .comma
  | ':' => some .colon
  | _ => none

private theorem length_dropWhile_cons {p : Char → Bool} {c : Char} {cs : List Char} (h : p c) :
    ((c :: cs).dropWhile p).length < cs.length + 1 := by
  rw [List.dropWhile_cons_of_pos h]
  exact Nat.lt_succ_of_le (List.dropWhile_sublist p).length_le

/-- The tokens of a text, if every part of it is one. -/
def tokens? (cs : List Char) : Option (List Token) :=
  match cs with
  | [] => some []
  | c :: cs =>
    if isSpace c then tokens? cs
    else if c = '"' then
      match _h : stringPieces? cs with
      | none => none
      | some (pieces, rest) => do
        let s ← joinPieces? pieces
        let ts ← tokens? rest
        return .leaf (.str (String.ofList s)) :: ts
    else if _h : c = '-' ∨ isAsciiDigit c then do
      let n ← readNumber? ((c :: cs).takeWhile isNumberChar)
      let ts ← tokens? ((c :: cs).dropWhile isNumberChar)
      return .leaf n :: ts
    else if _h : c.isAlpha then do
      let w ← word? ((c :: cs).takeWhile Char.isAlpha)
      let ts ← tokens? ((c :: cs).dropWhile Char.isAlpha)
      return .leaf w :: ts
    else do
      let m ← mark? c
      let ts ← tokens? cs
      return .mark m :: ts
termination_by cs.length
decreasing_by
  · simp
  · have := length_of_stringPieces? _h
    simp only [List.length_cons]
    omega
  · simp only [List.length_cons]
    exact length_dropWhile_cons (by rcases _h with rfl | h <;> simp_all [isNumberChar])
  · simp only [List.length_cons]
    exact length_dropWhile_cons _h
  · simp

end RecordMapper.Json
