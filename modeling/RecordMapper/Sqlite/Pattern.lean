import RecordMapper.Sqlite.Character

/-!
# Patterns of `LIKE` and `GLOB`

A pattern is a list of pieces that is matched from the left. Where any characters may stand, the places for the rest are
tried one after another; when the text ends in such a search, no earlier search can do better, so all of them stop.
-/

namespace RecordMapper.Sqlite.Pattern

/-- A piece of a pattern. -/
inductive Piece where
  /-- Any characters. -/
  | any
  /-- One character. -/
  | one
  | char (c : UInt32)
  /-- One character in some ranges, or in none of them. -/
  | within (negated : Bool) (ranges : List (UInt32 × UInt32))
  /-- The start of a piece that the pattern does not finish. -/
  | unfinished
  deriving Repr, DecidableEq

/-- What becomes of an attempt to match. -/
inductive Outcome where
  | match
  | mismatch
  /-- There is too little text, however much of it earlier pieces leave. -/
  | exhausted
  deriving Repr, DecidableEq

/-! ### Reading -/

/-- The pieces of a pattern of `LIKE`; the escape character takes the meaning from the character after it. -/
def ofLike (escape : Option UInt32) : List UInt32 → List Piece
  | [] => []
  | [c] => if escape == some c then [.unfinished] else [plain c]
  | c :: d :: cs =>
    if escape == some c then .char d :: ofLike escape cs else plain c :: ofLike escape (d :: cs)
where
  /-- The piece of a character without escape. -/
  plain (c : UInt32) : Piece := if c == 37 then .any else if c == 95 then .one else .char c

/-- The ranges of a set, and what follows its end; none if it does not end. A range holds its first character even where
it is empty otherwise. -/
def ranges : Option UInt32 → List UInt32 → Option (List (UInt32 × UInt32) × List UInt32)
  | _, [] => none
  | prior, c :: cs =>
    let single := (ranges (some c) cs).map fun (rs, rest) => ((c, c) :: rs, rest)
    if c == 93 then some ([], cs)
    else
      match prior, cs with
      | some low, high :: more =>
        if c == 45 && high != 93 then (ranges none more).map fun (rs, rest) => ((low, high) :: rs, rest) else single
      | _, _ => single

/-- The pieces of a pattern of `GLOB`; the fuel is the number of characters. -/
def ofGlob : Nat → List UInt32 → List Piece
  | 0, _ => []
  | _, [] => []
  | fuel + 1, c :: cs =>
    if c == 42 then .any :: ofGlob fuel cs
    else if c == 63 then .one :: ofGlob fuel cs
    else if c == 91 then
      let negated := cs.head? == some 94
      let cs := if negated then cs.drop 1 else cs
      let (first, cs) := if cs.head? == some 93 then ([(93, 93)], cs.drop 1) else ([], cs)
      match ranges none cs with
      | some (rs, rest) => .within negated (first ++ rs) :: ofGlob fuel rest
      | none => [.unfinished]
    else .char c :: ofGlob fuel cs

/-! ### Matching -/

/-- The lower case of a letter of ASCII. -/
def lowerCode (c : UInt32) : UInt32 := if 65 ≤ c && c ≤ 90 then c + 32 else c

/-- Whether a character is in a set. -/
def isWithin (negated : Bool) (ranges : List (UInt32 × UInt32)) (c : UInt32) : Bool :=
  (ranges.any fun r => r.1 ≤ c && c ≤ r.2) != negated

/-- Tries the rest of a pattern behind every character that may be the first one. -/
def search (isFirst : UInt32 → Bool) (rest : List UInt32 → Outcome) : List UInt32 → Outcome
  | [] => .exhausted
  | c :: cs =>
    if isFirst c then
      match rest cs with
      | .mismatch => search isFirst rest cs
      | outcome => outcome
    else search isFirst rest cs

mutual

/-- Matches pieces against a text from its start to its end. -/
def run (same : UInt32 → UInt32 → Bool) : List Piece → List UInt32 → Outcome
  | [], cs => if cs.isEmpty then .match else .mismatch
  | .any :: ps, cs => runAnywhere same ps cs
  | .unfinished :: _, _ => .mismatch
  | _ :: _, [] => .mismatch
  | .one :: ps, _ :: cs => run same ps cs
  | .char p :: ps, c :: cs => if same p c then run same ps cs else .mismatch
  | .within negated ranges :: ps, c :: cs => if isWithin negated ranges c then run same ps cs else .mismatch

/-- Matches pieces that any characters may stand in front of. -/
def runAnywhere (same : UInt32 → UInt32 → Bool) : List Piece → List UInt32 → Outcome
  | [], _ => .match
  | .any :: ps, cs => runAnywhere same ps cs
  | .unfinished :: _, _ => .exhausted
  | .one :: _, [] => .exhausted
  | .one :: ps, _ :: cs => runAnywhere same ps cs
  | .char p :: ps, cs => search (same p) (fun cs => run same ps cs) cs
  | .within negated ranges :: ps, cs => search (isWithin negated ranges) (fun cs => run same ps cs) cs

end

/-- Whether a text fits a pattern of `LIKE`, without the case of ASCII letters. -/
def like (escape : Option UInt32) (pattern text : Bytes) : Bool :=
  run (fun a b => lowerCode a == lowerCode b) (ofLike escape (codes pattern)) (codes text) == .match

/-- Whether a text fits a pattern of `GLOB`. -/
def glob (pattern text : Bytes) : Bool :=
  let cs := codes pattern
  run (· == ·) (ofGlob cs.length cs) (codes text) == .match

end RecordMapper.Sqlite.Pattern
