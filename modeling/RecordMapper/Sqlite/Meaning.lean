import RecordMapper.Sqlite.Arithmetic
import RecordMapper.Sqlite.Group
import RecordMapper.Sqlite.Store

/-!
# What expressions mean

The meaning of an expression is its value in every row, with what it inclines to and how it is compared. Names are
looked up in scopes: the sources of a query, then those of the queries around it. What cells of the rows around an
expression is about decides when it is calculated: a query that is about no row around it sees the store as it was when the
statement started.
-/

namespace RecordMapper.Sqlite

/-- For each of the rows around, from the innermost on, how many of its cells something is about, as far as the last of
them. -/
abbrev Span := List Nat

/-- The span of two things together. -/
def Span.join : Span → Span → Span
  | [], b => b
  | a, [] => a
  | x :: a, y :: b => max x y :: Span.join a b

/-- What an expression is evaluated in: the parameters, the store, and the rows of the queries around it, the innermost
first. -/
structure Env where
  binds : List Datum := []
  tally : Tally := {}
  /-- The store as it is now. -/
  store : Store := {}
  /-- The store as it was when the statement started. -/
  before : Store := {}
  frames : List Tuple := []

/-- The environment inside a row. -/
def Env.within (env : Env) (row : Tuple) : Env := { env with frames := row :: env.frames }

/-- The environment of a query of a span. -/
def Env.forQuery (env : Env) (span : Span) : Env :=
  if span.isEmpty then { env with store := env.before } else env

/-- What an expression stands for. -/
structure Meaning where
  eval : Env → Except Failure Datum
  affinity : Option Affinity := none
  /-- The collation of the column that the expression is. -/
  collation : Option Collation := none
  /-- The collation that is asked for. -/
  chosen : Option Collation := none
  /-- The name of the column that the expression is. -/
  name : Option String := none
  /-- The declared type of the column that the expression is. -/
  type : String := ""
  /-- The place in the innermost row of the cell that the expression is. -/
  place : Option Nat := none
  span : Span := []

/-- A smallest or largest value, which picks the row of a group that has it. -/
structure Pick where
  /-- How a better value compares with the best so far. -/
  wanted : Ordering
  collation : Collation
  /-- The value of a row; none if the row does not count. -/
  value : Env → Tuple → Except Failure (Option Datum)
  /-- Whether rows can be left out. -/
  isFiltered : Bool

/-- A function of a group: its value for the rows of the group. -/
structure Total where
  function : String
  value : Env → List Tuple → Except Failure Datum
  pick : Option Pick := none

/-- A column of a result. -/
structure OutColumn where
  name : String
  affinity : Option Affinity := none
  collation : Option Collation := none
  /-- The collation that is asked for in the query of the result. -/
  chosen : Option Collation := none
  type : String := ""

/-- A source in a scope. Its part of a row is the row id, then the columns. -/
structure Bound where
  name : String
  schema : Option String
  columns : List OutColumn
  /-- Where its part of a row starts. -/
  offset : Nat
  /-- The name that the row id is reported by, if there are row ids. -/
  rowIdName : Option String
  /-- The columns that are found in sources to the left. -/
  shared : List String := []
  /-- Whether all rows to the left are kept, with nothing on the side of those that match nothing. -/
  fillsLeft : Bool := false
  /-- Whether all its own rows are kept. -/
  fillsRight : Bool := false
  /-- The table that the source is, if it is one. -/
  table : Option (SchemaName × String) := none
  /-- Whether the source has a name of its own. -/
  isAliased : Bool := false

/-- What names can mean in a query. -/
structure Scope where
  sources : List Bound
  /-- The length of rows; values of groups stand after them. -/
  width : Nat
  /-- Whether functions of groups are allowed. -/
  grouping : Bool := false
  /-- The names of columns of the result. -/
  aliases : List (String × Expr) := []

namespace Meaning

/-- A fixed value. -/
def constant (d : Datum) : Meaning := { eval := fun _ => .ok d }

/-- A cell of a row of the queries around. -/
def cell (depth position : Nat) (c : OutColumn) : Meaning :=
  { eval := fun env => .ok ((env.frames.getD depth []).getD position .null)
    affinity := c.affinity
    collation := c.collation
    name := some c.name
    type := c.type
    place := if depth = 0 then some position else none
    span := List.replicate depth 0 ++ [position + 1] }

/-- The collation that two expressions are compared by. -/
def comparedBy (a b : Meaning) : Collation :=
  (a.chosen.or (b.chosen.or (a.collation.or b.collation))).getD .binary

/-- The collation of an expression. -/
def order (a : Meaning) : Collation := (a.chosen.or a.collation).getD .binary

/-- The span of some expressions together. -/
def spanOf (as : List Meaning) : Span := as.foldl (fun n a => n.join a.span) []

/-- An operator on two meanings. -/
def lift2 (a b : Meaning) (f : Datum → Datum → Datum) : Meaning :=
  { eval := fun env => do return f (← a.eval env) (← b.eval env)
    chosen := a.chosen.or b.chosen
    span := a.span.join b.span }

/-- Both of two conditions; the second one is not asked for if the first one is false. -/
def and (a b : Meaning) : Meaning :=
  { eval := fun env => do
      let x := (← a.eval env).truth?
      if x == some false then return .ofBool false
      return .ofTruth (truthAnd x (← b.eval env).truth?)
    span := a.span.join b.span }

/-- One of two conditions; the second one is not asked for if the first one holds. -/
def or (a b : Meaning) : Meaning :=
  { eval := fun env => do
      let x := (← a.eval env).truth?
      if x == some true then return .ofBool true
      return .ofTruth (truthOr x (← b.eval env).truth?)
    span := a.span.join b.span }

/-- A comparison, both sides being converted first. -/
def compare (op : Comparison) (a b : Meaning) : Meaning :=
  let affinity := Affinity.ofComparison a.affinity b.affinity
  let c := a.comparedBy b
  lift2 a b fun x y =>
    let (x, y) := Affinity.converted affinity x y
    op.apply c x y

/-- The order of two lists of values: the first difference decides, by a strict comparison but for the last place. -/
def compareInOrder (strict last : Comparison) : List (Meaning × Meaning) → Meaning
  | [] => .constant .null
  | [(a, b)] => compare last a b
  | (a, b) :: rest =>
    let same := compare .eq a b
    let first := compare strict a b
    let others := compareInOrder strict last rest
    { eval := fun env => do
        if (← same.eval env).truth? == some true then others.eval env else first.eval env
      span := first.span.join others.span }

/-- A comparison of two lists of values of one length. -/
def compareAll (op : Comparison) (pairs : List (Meaning × Meaning)) : Meaning :=
  let all (op : Comparison) : Meaning :=
    match pairs.map fun (a, b) => compare op a b with
    | [] => .constant .null
    | m :: ms => ms.foldl and m
  let negated (m : Meaning) : Meaning :=
    { eval := fun env => do return Sign.not.apply (← m.eval env), span := m.span }
  match pairs, op with
  | [(a, b)], op => compare op a b
  | _, .eq | _, .same => all op
  | _, .ne => negated (all .eq)
  | _, .notSame => negated (all .same)
  | _, .lt | _, .le => compareInOrder .lt op pairs
  | _, .gt | _, .ge => compareInOrder .gt op pairs

/-- Whether the expression holds. -/
def holds (a : Meaning) (env : Env) : Except Failure Bool := do
  return (← a.eval env).truth? == some true

/-- The first value that is not `NULL`; those after it are not calculated. -/
def firstPresent (env : Env) (as : List Meaning) : Except Failure Datum :=
  as.foldlM (fun d a => if d.isNull then a.eval env else return d) .null

/-- The values of some expressions. -/
def evalAll (as : List Meaning) (env : Env) : Except Failure (List Datum) :=
  as.mapM fun a => a.eval env

end Meaning

/-- Membership of some values among rows of as many: unknown if no row is equal and one may be. -/
def memberOf (columns : List (Option Affinity × Collation)) (xs : List Datum) (rows : List (List Datum)) : Datum :=
  let equal (row : List Datum) : Option Bool :=
    (columns.zip (xs.zip row)).foldl (fun known ((affinity, c), x, y) =>
      let (x, y) := Affinity.converted affinity x y
      truthAnd known (if x.isNull || y.isNull then none else some (x.order c y == .eq))) (some true)
  .ofTruth ((rows.map equal).foldl truthOr (some false))

/-! ### Names -/

/-- What a name was found to be. -/
inductive Found where
  /-- Columns of sources, of which the first value counts that is not `NULL`. -/
  | columns (places : List (Bound × Nat))
  | rowId (source : Bound)
  /-- An expression of the result. -/
  | result (e : Expr)
  | ambiguous
  | nothing

namespace Scope

/-- Whether a source can be meant by the qualifiers of a name. The catalogs have two names each. -/
def admits (qualifiers : List Ident) (b : Bound) : Bool :=
  let isNamed (n : String) : Bool :=
    sameName n b.name || (!b.isAliased && (b.table.map fun t =>
      t.2 == t.1.catalog && Store.catalogOf? ⟨some t.1.text, n, 0⟩ == some t.1).getD false)
  match qualifiers with
  | [] => true
  | [table] => isNamed table.text
  | schema :: table :: _ => isNamed table.text && (b.schema.map (sameName schema.text)).getD false

/-- The columns of a name among the sources that the qualifiers admit, each with its source. A column that a join shares
counts once: it is that of the leftmost source, that of a join which keeps all rows on its right alone, or the first
present one where both sides can be missing. -/
def hits (s : Scope) (n : ColumnName) : List (List (Bound × Nat)) :=
  let places := (s.sources.filter (admits n.qualifiers)).filterMap fun b =>
    (b.columns.findIdx? fun c => sameName c.name n.name.text).map fun i => (b, i)
  if !n.qualifiers.isEmpty then places.map fun p => [p]
  else places.foldl (fun groups (b, i) =>
    if b.shared.any (sameName n.name.text) then
      match groups with
      | [] => [[(b, i)]]
      | group :: rest =>
        if !b.fillsRight then groups
        else if b.fillsLeft then (group ++ [(b, i)]) :: rest
        else [[(b, i)]]
    else groups ++ [[(b, i)]]) []

/-- What a name means in a scope. -/
def find (s : Scope) (n : ColumnName) : Found :=
  match s.hits n with
  | [places] => .columns places
  | _ :: _ :: _ => .ambiguous
  | [] =>
    let candidates := (s.sources.filter (admits n.qualifiers)).filter (·.rowIdName.isSome)
    match if Stored.rowIdNames.contains (folded n.name.text) then candidates else [] with
    | [b] => .rowId b
    | _ :: _ :: _ => .ambiguous
    | [] =>
      match if n.qualifiers.isEmpty then s.aliases.find? fun a => sameName a.1 n.name.text else none with
      | some (_, e) => .result e
      | none => .nothing

end Scope

namespace Bound

/-- The cell of a column of a source, counted from the row of its scope. -/
def cellOf (b : Bound) (depth i : Nat) : Meaning :=
  .cell depth (b.offset + 1 + i) (b.columns.getD i { name := "" })

/-- The cell of the row id of a source. -/
def rowIdCell (b : Bound) (depth : Nat) : Meaning :=
  .cell depth b.offset { name := b.rowIdName.getD "rowid", affinity := some .integer, type := "INTEGER" }

/-- The column of some places, or the first value among them that is not `NULL`. -/
def firstPresent (depth : Nat) (places : List (Bound × Nat)) : Meaning :=
  match places.map fun (b, i) => b.cellOf depth i with
  | [] => .constant .null
  | [m] => m
  | m :: ms =>
    { eval := fun env => Meaning.firstPresent env (m :: ms)
      affinity := m.affinity, collation := m.collation, span := Meaning.spanOf (m :: ms) }

end Bound

/-- A name with its qualifiers, as messages show it. -/
def ColumnName.text (n : ColumnName) : String := ".".intercalate (n.qualifiers.map Ident.text ++ [n.name.text])

/-- What a name means in the nearest scope that knows it, and how far away that is. -/
def findName (n : ColumnName) : Nat → List Scope → Found × Nat
  | depth, [] => (.nothing, depth)
  | depth, s :: ss =>
    match s.find n with
    | .nothing => findName n (depth + 1) ss
    | found => (found, depth)

end RecordMapper.Sqlite
