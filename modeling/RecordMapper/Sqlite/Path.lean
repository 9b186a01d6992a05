import RecordMapper.Sqlite.Meaning

/-!
# The order in which rows are found

Rows of a single table are found through an index where a condition restricts its columns to constants, and they come in
the order of the index. Of several ways the one is taken that should find the fewest rows. How many a way finds is guessed
from the form of the conditions alone; guesses are ten times a logarithm to the base 2, so that factors are added.
-/

namespace RecordMapper.Sqlite

/-! ### Restrictions -/

/-- What a condition leaves of the values of a column: one, `NULL`, one of some, or those on a side of another, or between
two. -/
inductive Restriction where
  | one
  | null
  | among (count : Nat)
  | side
  | between
  deriving DecidableEq, Repr

/-- A restricted cell of the rows of a table, which are the row id and then the columns. -/
structure Restricted where
  place : Nat
  /-- The collation that values are compared by, if it is known. -/
  chosen : Option Collation
  restriction : Restriction

namespace Scope

/-- The cell of the only source of a scope that an expression is, and the collation that is asked for. -/
def cell? (s : Scope) : Expr → Option (Nat × Option Collation)
  | .column n =>
    match s.find n with
    | .columns [(_, i)] => some (i + 1, none)
    | .rowId _ => some (0, none)
    | _ => none
  | .collate e c => (cell? s e).map fun cell => (cell.1, some (.ofName c))
  | _ => none

/-- The restriction of a cell by a comparison with an expression. -/
def comparison? (s : Scope) (op : Comparison) (a b : Expr) : Option Restricted := do
  let (place, chosen) ← s.cell? a
  let asked := match b with
    | .collate _ c => some (Collation.ofName c)
    | _ => none
  let restriction ← match op, b with
    | .same, .literal .null => some .null
    | .eq, _ | .same, _ => some .one
    | .lt, _ | .le, _ | .gt, _ | .ge, _ => some .side
    | .ne, _ | .notSame, _ => none
  if b.isConstant true true then some ⟨place, chosen.or asked, restriction⟩ else none

/-- The conditions of which one has to hold. -/
def disjuncts : Expr → List Expr
  | .or a b => disjuncts a ++ disjuncts b
  | e => [e]

/-- The restriction of a cell by a condition. Equalities of one cell of which one has to hold are a test for some values. -/
def restricted? (s : Scope) (e : Expr) : Option Restricted :=
  match e with
  | .compare op a b => (s.comparison? op a b).or (s.comparison? op b a)
  | .isIn a items => do
    let (place, chosen) ← s.cell? a
    if Expr.areConstant true true items then some ⟨place, chosen, .among items.length⟩ else none
  | .inQuery a _ => do
    -- a query is taken for one of 25 rows
    let (place, chosen) ← s.cell? a
    some ⟨place, chosen, .among 25⟩
  | .between a low high => do
    let (place, chosen) ← s.cell? a
    if low.isConstant true true && high.isConstant true true then some ⟨place, chosen, .between⟩ else none
  | .or _ _ => do
    let equalities ← (disjuncts e).mapM fun e => match e with
      | .compare .eq a b => (s.comparison? .eq a b).or (s.comparison? .eq b a)
      | _ => none
    let first ← equalities.head?
    if equalities.all fun r => r.place = first.place then
      some { first with restriction := .among equalities.length }
    else none
  | _ => none

end Scope

/-! ### Guesses -/

/-- Ten times the logarithm of a number to the base 2, cut off behind the third binary digit. -/
def guessOf (n : Nat) : Nat :=
  let leading := if n < 8 then n <<< (3 - n.log2) else n >>> (n.log2 - 3)
  if n < 2 then 0 else [0, 2, 3, 5, 6, 7, 8, 9].getD (leading - 8) 0 + 10 * n.log2

/-- The rows of a table. -/
def tableGuess : Nat := 200

/-- What it takes to look at all rows of a table. -/
def scanGuess : Nat := tableGuess + 16

/-- The rows that agree in some columns of an index; in all of them there is only one if the index is unique. -/
def Index.guess (i : Index) (columns : Nat) : Nat :=
  if columns = 0 then tableGuess
  else if columns = i.terms.length && i.unique.isSome then 0
  else [33, 32, 30, 28, 27].getD (columns - 1) 23

/-- Guesses for the ways to find rows through some columns, of which some in front have a value each; `factor` is for the
values in front. -/
def guesses (agreeing : Nat → Nat) (rs : List Restricted) : List (Nat × Collation) → Nat → Nat → List Nat
  | [], _, _ => []
  | (place, c) :: columns, matched, factor =>
    (rs.filter fun r => r.place = place && (r.restriction = .null || r.chosen = some c)).flatMap fun r =>
      let equal (factor : Nat) : List Nat :=
        (agreeing (matched + 1) + factor) :: guesses agreeing rs columns (matched + 1) factor
      match r.restriction with
      | .one => equal factor
      | .null => equal (factor + 10)
      | .among n => equal (factor + guessOf n)
      | .side => [max (agreeing matched - 20) 10 + factor]
      | .between => [max (agreeing matched - 60) 10 + factor]

namespace Stored

/-- The columns of an index as cells of rows with their collations; nothing if rows cannot be found through it. -/
def cells (i : Index) : List (Nat × Collation) :=
  if i.filter.isSome then [] else ((i.columns?).getD []).map fun (place, c) => (place + 1, c)

/-- The cells by which the rows are ordered as they are found, with their collations; none if they are found in the order
of the table. Of ways that are equal the newest index is taken. -/
def order (t : Stored) (rs : List Restricted) : List (Nat × Collation) :=
  let rs := rs.map fun r =>
    if r.place = 0 || t.rowIdField.map (· + 1) = some r.place then { r with place := 0, chosen := some .binary }
    else { r with chosen := r.chosen.or ((t.fields[r.place - 1]?).map Field.collation) }
  let byRowId := guesses (fun n => if n = 0 then tableGuess else 0) rs [(0, .binary)] 0 0
  let start : Nat × List (Nat × Collation) := (byRowId.foldl min scanGuess, [])
  (t.indexes.foldl (fun best i =>
    let guess := (guesses i.guess rs (cells i) 0 0).foldl min scanGuess
    if guess < best.1 then (guess, cells i) else best) start).2

end Stored

/-- Rows in the order of some cells; those that agree in them stay in the order of the table. -/
def arranged (cells : List (Nat × Collation)) (rows : List Tuple) : List Tuple :=
  let values (row : Tuple) : List Datum := Stored.pick (cells.map (·.1)) row
  rows.mergeSort fun a b => Datum.orderAll (cells.map (·.2)) (values a) (values b) != .gt

end RecordMapper.Sqlite
