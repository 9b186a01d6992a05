import RecordMapper.Dialect
import RecordMapper.Filter.Fault

/-!
# Conditions in SQL

A filter is compiled in two steps. `Filter.pieces` checks it and lists its tests, links and parentheses in source
order; each test then has an operand of one of four forms. `render` writes the pieces, numbering the parameters in the
order in which they are bound.

A membership test writes its members into the text, as literals of the dialect. Only a text that looks like numbers is
written as it stands, and then it must be one number or a list of numbers in parentheses.
-/

namespace RecordMapper

open Text Decimal

/-- What writes values into SQL: a dialect and its literals. -/
structure Quoter where
  dialect : Dialect
  quote : Value → String

/-- A dialect with its own literals. -/
def Dialect.quoter (d : Dialect) : Quoter :=
  { dialect := d, quote := d.quoteLiteral }

/-- A piece of SQL and the values of its parameters, in order. -/
structure Sql where
  text : String
  binds : List Value
  deriving Repr, Inhabited

/-- The checked operand of a test. -/
inductive Operand where
  | none
  /-- A parameter. -/
  | bound (v : Value)
  /-- The members of a list, written as literals. -/
  | members (vs : List Value)
  /-- One number as it stands. -/
  | number (text : String)
  /-- A list of numbers as it stands, with its parentheses. -/
  | numbers (text : String)
  deriving Repr

/-- A piece of a compiled filter. -/
inductive Piece where
  | test (col : String) (op : Operator) (operand : Operand)
  | and
  | or
  | openGroup
  | closeGroup
  deriving Repr

/-- The values that a piece binds: one or none. -/
def Piece.binds : Piece → List Value
  | .test _ _ (.bound v) => [v]
  | _ => []

namespace Filter

/-! ### Operands -/

/-- Characters of which lists of numbers are made. -/
def isNumbersChar (c : Char) : Bool :=
  isDecimalDigit c || isBlank c || ['.', ',', '(', ')', '+', '-'].contains c

/-- A number: a sign, digits and perhaps a fraction. -/
def numberShape : Pattern :=
  .inOrder [Number.signShape, Number.digitsShape, .optional (.seq (.char '.') Number.digitsShape)]

/-- One number, blanks around it. -/
def singleShape : Pattern :=
  .inOrder [Number.blanksShape, numberShape, Number.blanksShape]

/-- Numbers between parentheses, commas between them, blanks around all. -/
def listShape : Pattern :=
  .inOrder [Number.blanksShape, .char '(', Number.blanksShape, numberShape,
    .many (.inOrder [Number.blanksShape, .char ',', Number.blanksShape, numberShape]),
    Number.blanksShape, .char ')', Number.blanksShape]

/-- Whether a text is made of the characters of numbers alone. -/
def looksNumeric (s : String) : Bool :=
  s ≠ "" && s.toList.all isNumbersChar

/-- The operand of a membership test. -/
def membershipOperand (v : Value) : Except FilterReason Operand :=
  match v with
  | .array items =>
    if items.isEmpty then .error .emptyMembers
    else if items.all Value.isScalar then .ok (.members items)
    else .error .memberNotSingle
  | .text s =>
    if !looksNumeric s then .ok (.members [.text s])
    else if listShape.accepts s.toList then .ok (.numbers (trimmed s))
    else if singleShape.accepts s.toList then .ok (.number (trimmed s))
    else .error .malformedNumbers
  | .default => .error .defaultOperand
  | v => .ok (.members [v])

/-- The operand of a test. -/
def operandOf (t : Test) : Except FilterReason Operand :=
  if isBlankText t.col then .error .blankColumn
  else if !t.op.takesOperand then .ok .none
  else
    match t.operand with
    | none => .error (.noOperand t.op)
    | some v =>
      if t.op.isMembership then membershipOperand v
      else if v.isScalar then .ok (.bound v)
      else .error (.notSingle t.op)

/-! ### Pieces -/

/-- The piece that a link puts before a condition that is not the first. -/
def linkPiece (link : Link) : Piece :=
  if link.isOr then .or else .and

mutual

/-- The pieces of a condition under its link. -/
def conditionPieces (link : Link) (c : Condition) : Except FilterFault (List Piece) :=
  match c with
  | .test t =>
    match operandOf t with
    | .ok operand => .ok [.test t.col t.op operand]
    | .error reason => .error ⟨reason, t.toJson.text⟩
  | .group [] => .error ⟨.emptyGroup, link.label⟩
  | .group (e :: entries) =>
    match entryPieces true (e :: entries) with
    | .ok pieces => .ok (.openGroup :: (pieces ++ [.closeGroup]))
    | .error fault => .error fault

/-- The pieces of a list of conditions, of which the first has no link before it. -/
def entryPieces (first : Bool) : List (Link × Condition) → Except FilterFault (List Piece)
  | [] => .ok []
  | (link, c) :: entries =>
    if first && link.isOr then .error ⟨.startsWithOr, link.label ++ ": " ++ c.toJson.text⟩
    else
      match conditionPieces link c with
      | .error fault => .error fault
      | .ok pieces =>
        match entryPieces false entries with
        | .error fault => .error fault
        | .ok rest => .ok ((if first then pieces else linkPiece link :: pieces) ++ rest)

end

/-- The pieces of a filter, or its first fault. -/
def pieces (f : Filter) : Except FilterFault (List Piece) :=
  entryPieces true f

/-! ### Text -/

/-- A member of a list as a literal. -/
def memberText (q : Quoter) (v : Value) : String :=
  v.literal?.getD (q.quote v)

/-- A test in SQL; a bound operand has the given number. -/
def testText (q : Quoter) (index : Nat) (col : String) (op : Operator) : Operand → String
  | .none => col ++ " " ++ op.sql
  | .bound _ => col ++ " " ++ op.sql ++ " " ++ q.dialect.placeholder index
  | .members vs => col ++ " " ++ op.sql ++ " (" ++ ", ".intercalate (vs.map (memberText q)) ++ ")"
  | .number text => col ++ " " ++ op.sql ++ " (" ++ text ++ ")"
  | .numbers text => col ++ " " ++ op.sql ++ " " ++ text

/-- Pieces in SQL after `bound` parameters. -/
def renderFrom (q : Quoter) (bound : Nat) : List Piece → String
  | [] => ""
  | .test col op operand :: ps =>
    testText q (bound + 1) col op operand ++
      renderFrom q (bound + (Piece.binds (.test col op operand)).length) ps
  | .and :: ps => " AND " ++ renderFrom q bound ps
  | .or :: ps => " OR " ++ renderFrom q bound ps
  | .openGroup :: ps => "(" ++ renderFrom q bound ps
  | .closeGroup :: ps => ")" ++ renderFrom q bound ps

/-- Pieces in SQL with the values that they bind. -/
def render (q : Quoter) (bound : Nat) (ps : List Piece) : Sql :=
  { text := renderFrom q bound ps, binds := ps.flatMap Piece.binds }

/-- A filter in SQL, its parameters numbered after the `bound` ones before it. An empty filter is the empty text. -/
def compile (f : Filter) (q : Quoter) (bound : Nat) : Except FilterFault Sql :=
  match f.pieces with
  | .ok ps => .ok (render q bound ps)
  | .error fault => .error fault

end Filter

end RecordMapper
