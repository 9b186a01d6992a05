import RecordMapper.Sqlite.Height
import RecordMapper.Sqlite.Plan

/-!
# Looking up names

Where names are looked up, what is allowed there, and what is noted on the way: the functions of groups that a query asks
for, the places where a statement names tables and columns, and the first mistake that counts only where there is no other.
-/

namespace RecordMapper.Sqlite

/-- What an expression is part of; not everything can be said everywhere. -/
inductive Purpose where
  | query
  | check
  | indexFilter
  | indexTerm
  /-- The default of a column, whose words are not looked up. -/
  | defaultValue
  deriving DecidableEq, Repr

/-- Where names are looked up, and what is allowed there. -/
structure Context where
  store : Store
  scopes : List Scope := []
  purpose : Purpose := .query
  /-- The views that are being looked into. -/
  opened : List String := []
  /-- The schema of tables without one. -/
  home : Option String := none
  /-- The common tables, the nearest first. -/
  common : List CommonTable := []
  /-- The common tables that are being looked into. -/
  opening : List String := []
  /-- Whether the sources of the queries in an expression are known to be there. -/
  sourcesFound : Bool := false
  /-- The heights of the expressions around, one on another. -/
  height : Nat := 0

/-- A place in a statement where a table is named, or one of its columns. -/
structure Mention where
  place : Nat
  schema : SchemaName
  table : String
  column : Option String
  deriving Repr

/-- What is noted when names are looked up. -/
structure Notes where
  /-- The functions of groups, for every scope around. -/
  totals : List (List Total) := []
  mentions : List Mention := []
  /-- The names in double quotes that mean nothing and stand for texts, with their places, the last one first. -/
  texts : List (Nat × String) := []
  /-- The tables that rows are read from. -/
  sources : List (SchemaName × String) := []
  /-- Whether the last row id that was given out is asked for. -/
  asksRowId : Bool := false
  /-- The last mistake in the expression at hand of those after which the rest of it is looked at all the same. -/
  fault : Option Failure := none
  /-- The last mistake of those that show only when everything else is right. -/
  late : Option Failure := none

/-- The failure of a collation that is not there. -/
def noSuchCollation (name : String) : Failure := .general ("no such collation sequence: " ++ name)

/-- Looking up names. -/
abbrev Resolver (α : Type) := StateT Notes (Except Failure) α

namespace Resolver

variable {α : Type}

/-- Notes a mistake that counts if there is none of another kind, and none after it. -/
def postpone (f : Failure) : Resolver Unit := modify fun n => { n with late := some f }

/-- Notes a mistake that counts if there is no other. -/
def yield (f : Failure) : Resolver Unit := modify fun n => { n with late := n.late.or (some f) }

/-- Looks up names and gives the mistake that would count if there were no other, instead of noting it. -/
def withheld (r : Resolver α) : Resolver (α × Option Failure) := do
  let before := (← get).late
  modify fun n => { n with late := none }
  let a ← r
  let found := (← get).late
  modify fun n => { n with late := before }
  return (a, found)

/-- Notes the mistake that counts of those that were withheld, if there are any. -/
def notice (f : Option Failure) : Resolver Unit :=
  match f with
  | some f => postpone f
  | none => pure ()

/-- Notes a mistake that counts at the end of the expression at hand, if no other follows. -/
def fail (f : Failure) : Resolver Unit := modify fun n => { n with fault := some f }

/-- Looks up names, but goes on after any mistake. -/
def look? (r : Resolver α) : Resolver (Option α) :=
  tryCatch (some <$> r) fun f => do
    fail f
    return none

/-- Ends an expression. -/
def settle : Resolver Unit := do
  match (← get).fault with
  | some f => throw f
  | none => pure ()

/-- Notes that a collation is used, which has to be there in the end. -/
def use : Collation → Resolver Unit
  | .unknown name => postpone (noSuchCollation name)
  | _ => pure ()

/-- Notes that a collation is compared by, which has to be there if everything else is right. -/
def compareBy : Collation → Resolver Unit
  | .unknown name => yield (noSuchCollation name)
  | _ => pure ()

/-- Notes that the collations of columns are used. -/
def useAll (columns : List OutColumn) : Resolver Unit :=
  for c in columns.filterMap OutColumn.collation do use c

/-- Notes that rows are read from a table. -/
def read (schema : SchemaName) (table : String) : Resolver Unit :=
  modify fun n => { n with sources := (schema, table) :: n.sources }

/-- Notes that a table or one of its columns is named. What no statement says has no place. -/
def mention (place : Nat) (table : Option (SchemaName × String)) (column : Option String) : Resolver Unit :=
  match table with
  | some (schema, table) =>
    if place = 0 then pure ()
    else modify fun n => { n with mentions := ⟨place, schema, table, column⟩ :: n.mentions }
  | none => pure ()

/-- Notes a name in double quotes that stands for a text. -/
def noteText (n : Ident) : Resolver Unit := modify fun notes => { notes with texts := (n.place, n.text) :: notes.texts }

/-- The functions of groups of the innermost scope. -/
def totals : Resolver (List Total) := return (← get).totals.headD []

/-- How many functions of groups there are, for every scope around. -/
def counts : Resolver (List Nat) := return (← get).totals.map List.length

/-- Looks up names some scopes further out. -/
def outward (depth : Nat) (r : Resolver α) : Resolver α := do
  let inner := (← get).totals.take depth
  modify fun n => { n with totals := n.totals.drop depth }
  let a ← r
  modify fun n => { n with totals := inner ++ n.totals }
  return a

/-- Adds a function of groups to a scope, and gives the place of its value in the rows of the scope, which have a width. -/
def addTotal (depth width : Nat) (t : Total) : Resolver Nat := do
  let found := ((← get).totals[depth]?).getD []
  modify fun n => { n with totals := n.totals.modify depth fun ts => ts ++ [t] }
  return width + found.length

/-- Looks up the names of another text, of which only mistakes and sources are noted. -/
def apart (r : Resolver α) : Resolver α := do
  let notes ← get
  set { notes with totals := [], mentions := [], texts := [] }
  let a ← r
  modify fun n => { n with totals := notes.totals, mentions := notes.mentions, texts := notes.texts }
  return a

/-- Looks up names in one more scope, and gives the functions of groups that belong to it. -/
def inScope (r : Resolver α) : Resolver (α × List Total) := do
  modify fun n => { n with totals := [] :: n.totals }
  let a ← r
  let found ← totals
  modify fun n => { n with totals := n.totals.tail }
  return (a, found)

/-- The result and the notes; a mistake that was not counted yet counts now. -/
def finish (r : Resolver α) : Except Failure (α × Notes) := do
  let (a, notes) ← r.run {}
  match notes.fault.or notes.late with
  | some f => throw f
  | none => return (a, notes)

end Resolver

namespace Context

/-- Whether functions of groups are allowed. -/
def grouping (ctx : Context) : Bool := (ctx.scopes.head?.map Scope.grouping).getD false

/-- The place where functions of groups are allowed, or not. -/
def withGrouping (ctx : Context) (allowed : Bool) : Context :=
  { ctx with scopes := ctx.scopes.modifyHead fun s => { s with grouping := allowed } }

/-- The place inside an expression, which may not be too high. -/
def beneath (ctx : Context) (e : Expr) : Except Failure Context :=
  let height := ctx.height + e.height.own
  if heightLimit < height then .error tooHigh else .ok { ctx with height }

/-- Refuses something in some places. -/
def refuse (ctx : Context) (what : String) (places : List Purpose) : Except Failure Unit :=
  let place := match ctx.purpose with
    | .query => "queries"
    | .defaultValue => "default values"
    | .check => "CHECK constraints"
    | .indexFilter => "partial index WHERE clauses"
    | .indexTerm => "index expressions"
  if places.contains ctx.purpose then .error (.general (what ++ " prohibited in " ++ place)) else .ok ()

/-- The common table of a name, and the place where its query is looked up. -/
def common? (ctx : Context) (name : String) : Option (CommonTable × Context) :=
  (ctx.common.find? fun t => sameName t.name.text name).map fun t =>
    (t, { ctx with scopes := [] })

end Context

/-- The place inside a view. -/
def Context.insideView (ctx : Context) (s : SchemaName) (v : View) : Context :=
  { store := ctx.store
    opened := v.name :: ctx.opened
    home := if s = .main then some "main" else none
    sourcesFound := true }

/-- A bound for the nesting of expressions, queries and views. -/
def deepest : Nat := 100000

/-! ### Sources -/

/-- The names of the columns of a query in a list of sources; a name that repeats gets a number. -/
def distinctNames (columns : List OutColumn) : List OutColumn :=
  (columns.foldl (fun (done : List OutColumn) c =>
    let taken (n : String) : Bool := done.any fun d => sameName d.name n
    let numbered := (List.range (done.length + 1)).map fun i => c.name ++ ":" ++ Decimal.natText (i + 1)
    let name := if taken c.name then (numbered.find? fun n => !taken n).getD c.name else c.name
    { c with name } :: done) []).reverse

/-- The columns of a table. -/
def Stored.outColumns (t : Stored) : List OutColumn :=
  t.fields.zipIdx.map fun (f, i) =>
    { name := f.name
      affinity := some f.affinity
      collation := if t.rowIdField = some i then none else some f.collation
      type := f.type }

/-- The name that the row id of a table is reported by. -/
def Stored.rowIdName? (t : Stored) : Option String :=
  if t.withoutRowId then none
  else some (((t.rowIdField.bind fun i => t.fields[i]?).map Field.name).getD "rowid")

/-- The part of a row that belongs to a source. -/
def Bound.width (b : Bound) : Nat := b.columns.length + 1

/-- Something that rows come from, before its place among others is known: its parts, counted from the start of its rows,
and its rows. -/
structure Origin where
  parts : List Bound
  rows : Env → Rows Tuple
  span : Span := []

namespace Origin

/-- The length of a row. -/
def width (o : Origin) : Nat := o.parts.foldl (fun n b => n + b.width) 0

/-- All columns. -/
def columns (o : Origin) : List OutColumn := o.parts.flatMap Bound.columns

/-- A table as an origin of rows. -/
def ofTable (t : Stored) (schema : SchemaName) (asName : Option String) : Origin :=
  let n : ObjectName := ⟨some schema.text, t.name, 0⟩
  { parts := [{ name := asName.getD t.name, schema := some schema.text, columns := t.outColumns, offset := 0
                rowIdName := t.rowIdName?, table := some (schema, t.name), isAliased := asName.isSome }]
    rows := fun env => .ofList ((((env.store.table? n).map (·.2)).getD t).rows.map fun (id, row) => .int id :: row) }

/-- The rows of a query as an origin of rows. -/
def ofOutput (o : Output) (name : String) (schema : Option String) (columns : List OutColumn) : Origin :=
  { parts := [{ name, schema, columns := distinctNames columns, offset := 0, rowIdName := none }]
    rows := fun env => (o.rows env).map fun row => .ok (.null :: row)
    span := o.span }

end Origin

/-- The failure of a table that is not there. -/
def noSuchTable (n : ObjectName) : Failure :=
  .general ("no such table: " ++ (match n.schema with | some s => s ++ "." | none => "") ++ n.name)

/-! ### Numbers -/

/-- A number without the underscores between its digits. -/
def withoutUnderscores (written : String) : String := String.ofList (written.toList.filter (· != '_'))

/-- The digits of a number that is written in hexadecimal ones. -/
def hexDigits? (spelling : String) : Option (List Char) :=
  match spelling.toList with
  | '0' :: x :: digits => if x = 'x' || x = 'X' then some digits else none
  | _ => none

/-- The value of a number as it is written, perhaps with a minus sign in front. -/
def numberValue (written : String) (negated : Bool) : Except Failure Datum :=
  let spelling := withoutUnderscores written
  match hexDigits? spelling with
  | some digits =>
    let digits := digits.dropWhile (· = '0')
    let n := Int64.ofNat (digits.foldl (fun n c => n * 16 + (Text.hexValue? c).getD 0) 0)
    if 16 < digits.length || (negated && n == Int64.minValue) then
      .error (.general ("hex literal too big: " ++ (if negated then "-" else "") ++ spelling))
    else .ok (.int (if negated then -n else n))
  | none =>
    let digits := spelling.toList
    let x := (Numeral.ofChars digits).toFloat
    let real : Datum := .real (if negated then -x else x)
    if digits.all Char.isDigit then
      let n : Int := if negated then -Decimal.value digits else Decimal.value digits
      .ok (if fitsWord n then .int (Int64.ofInt n) else real)
    else .ok real

/-- The integer that a number is, if it is a small one that is not negative. -/
def smallNumber? (spelling : String) : Option Int :=
  match numberValue spelling false with
  | .ok (.int n) => if 0 ≤ n.toInt ∧ n.toInt ≤ 2147483647 then some n.toInt else none
  | _ => none

/-! ### Terms that count columns -/

/-- Ordinal words, as messages count terms. -/
def ordinal (n : Nat) : String :=
  let ending := if 11 ≤ n % 100 ∧ n % 100 ≤ 13 then "th"
    else match n % 10 with
      | 1 => "st"
      | 2 => "nd"
      | 3 => "rd"
      | _ => "th"
  Decimal.natText n ++ ending

/-- The failure of a term that counts columns wrongly. -/
def outOfColumns (i : Nat) (clause : String) (columns : Nat) : Failure :=
  .general (ordinal (i + 1) ++ " " ++ clause ++ " BY term out of range - should be between 1 and " ++
    Decimal.natText columns)

/-- The number that a term is, if it counts columns; one that takes more than 32 bits is a constant. -/
def countedColumn? : Expr → Option Int
  | .number s => smallNumber? s
  | .sign .minus e => (countedColumn? e).map fun i => -i
  | .sign .plus e => countedColumn? e
  | _ => none

/-! ### Literals -/

/-- The literal that a name stands for where no column has it. -/
def nameLiteral? (n : ColumnName) : Option Datum :=
  if n.qualifiers.isEmpty then
    match n.quoting, folded n.name.text with
    | .double, _ => some (.ofString n.name.text)
    | .plain, "true" => some (.int 1)
    | .plain, "false" => some (.int 0)
    | _, _ => none
  else none

/-- The conditions that a condition is made of. -/
def conjuncts : Expr → List Expr
  | .and a b => conjuncts a ++ conjuncts b
  | e => [e]

/-- How many values an expression has, if that can be seen. Before sources are looked for, a star counts as one. -/
def Context.width? (ctx : Context) : Expr → Option Nat
  | .row items => some items.length
  | .scalar q =>
    match q.first with
    | .values rows => some (rows.headD []).length
    | .select _ columns .. =>
      let isSingle (c : ResultColumn) : Bool := match c with
        | .expr .. => true
        | _ => !ctx.sourcesFound
      if columns.all isSingle then some columns.length else none
  | _ => some 1

/-! ### Functions -/

/-- Whether the number of arguments suits a function of single values; nothing if there is no such function. -/
def suits? (name : String) (n : Nat) : Option Bool :=
  (arities.lookup name).map fun (low, high) => decide (low ≤ n) && (high.map fun h => decide (n ≤ h)).getD true

/-- Whether the number of arguments suits a function of groups; nothing if there is no such function. -/
def suitsGroup? (name : String) (n : Nat) (star : Bool) : Option Bool :=
  (groupArities.lookup name).map fun (low, high) =>
    (if star then name == "count" else decide (low ≤ n)) && decide (n ≤ high)

/-- The functions whose values can change from one moment to the next. -/
def changingFunctions : List String :=
  ["changes", "current_date", "current_time", "current_timestamp", "last_insert_rowid", "match", "sqlite_version",
    "total_changes"]

/-- The functions that need a window of rows, with the numbers of their arguments. -/
def windowArities : List (String × Nat × Nat) :=
  [("cume_dist", 0, 0), ("dense_rank", 0, 0), ("first_value", 1, 1), ("lag", 1, 3), ("last_value", 1, 1), ("lead", 1, 3),
    ("nth_value", 2, 2), ("ntile", 1, 1), ("percent_rank", 0, 0), ("rank", 0, 0), ("row_number", 0, 0)]

/-- The functions of single values that compare their arguments by a collation. -/
def comparingFunctions : List String := ["max", "min", "nullif"]

/-- A call of a function of groups whose names have been looked up. -/
structure GroupCall where
  /-- The name as it is written. -/
  function : String
  distinct : Bool
  arguments : List Meaning
  order : List (Meaning × SortKey)
  filter : Option Meaning
  /-- How many scopes out the group is. -/
  depth : Nat

namespace GroupCall

/-- The place of the values of a row of the group. -/
def within (c : GroupCall) (env : Env) (row : Tuple) : Env :=
  { env with frames := List.replicate c.depth [] ++ row :: env.frames }

/-- All meanings that the call depends on. -/
def meanings (c : GroupCall) : List Meaning := c.arguments ++ c.order.map (·.1) ++ c.filter.toList

/-- The rows that count, as arguments, in order. -/
def rows (c : GroupCall) (env : Env) (rows : List Tuple) : Except Failure (List (List Datum)) := do
  let counted ← match c.filter with
    | some m => rows.filterM fun row => m.holds (c.within env row)
    | none => pure rows
  let values ← counted.mapM fun row => do
    return (← Meaning.evalAll c.arguments (c.within env row), ← Meaning.evalAll (c.order.map (·.1)) (c.within env row))
  let collation := ((c.arguments.head?).map Meaning.order).getD .binary
  let same (a b : List Datum × List Datum) : Bool := Datum.orderAll [collation] a.1 b.1 == .eq
  let values := if c.distinct then withoutRepeats same values else values
  let sorted := if c.order.isEmpty then values
    else values.mergeSort fun a b => SortKey.orderAll (c.order.map (·.2)) a.2 b.2 != .gt
  return sorted.map (·.1)

/-- How the best value of an argument picks a row. -/
def pickBy (c : GroupCall) (wanted : Ordering) (m : Meaning) : Pick :=
  { wanted
    collation := m.order
    value := fun env row => do
      let inside := c.within env row
      let counts ← match c.filter with
        | some f => f.holds inside
        | none => pure true
      if counts then return some (← m.eval inside) else return none
    isFiltered := c.filter.isSome }

/-- The function for the rows of a group. -/
def total (c : GroupCall) : Total :=
  let name := folded c.function
  let collation := ((c.arguments.head?).map Meaning.order).getD .binary
  { function := c.function
    value := fun env rows => do applyToGroup name collation (← c.rows env rows)
    pick := match name, c.arguments with
      | "max", [m] => some (c.pickBy .gt m)
      | "min", [m] => some (c.pickBy .lt m)
      | _, _ => none }

end GroupCall

/-- Notes that functions of groups, if any were found, have no meaning where they are. The last one is the outermost. -/
def Resolver.misuse (found : List Total) : Resolver Unit :=
  match found.getLast? with
  | some t => Resolver.postpone (.general ("misuse of aggregate: " ++ t.function ++ "()"))
  | none => pure ()

/-- Looks up an expression as a whole, beneath those around it. -/
def Context.wholly {α : Type} (ctx : Context) (e : Expr) (look : Context → Resolver α) : Resolver α := do
  let a ← look (← ctx.beneath e)
  Resolver.settle
  return a

/-- The collation of a name, which has to be there. -/
def collationNamed {m : Type → Type} [Monad m] [MonadExceptOf Failure m] (name : String) : m Collation :=
  match Collation.ofName name with
  | .unknown _ => throw (noSuchCollation name)
  | c => return c

/-- The result of the first condition that holds. -/
def firstCase (env : Env) (last : Meaning) : List (Meaning × Meaning) → Except Failure Datum
  | (c, r) :: rest => do if ← c.holds env then r.eval env else firstCase env last rest
  | [] => last.eval env

/-- A list in pairs. -/
def inPairs {α : Type} : List α → List (α × α)
  | a :: b :: rest => (a, b) :: inPairs rest
  | _ => []

/-! ### Results -/

/-- A column of a result: an expression with its name, if it has one, and its spelling. -/
structure Item where
  expr : Expr
  asName : Option String
  spelling : String

/-- The columns of a result, stars written out. -/
def expanded (bounds : List Bound) (columns : List ResultColumn) : Except Failure (List Item) := do
  let places := bounds.zipIdx
  let later (i : Nat) : List Bound := bounds.drop (i + 1)
  let merged (i : Nat) (c : OutColumn) : Bool :=
    (later i).any Bound.fillsRight && (later i).any fun b => b.shared.any (sameName c.name)
  let all (b : Bound) (i : Nat) (hidden : List String) : List Item :=
    (b.columns.filter fun c => !hidden.any (sameName c.name)).map fun c =>
      let qualifiers := if merged i c || b.name.isEmpty then [] else b.schema.toList ++ [b.name]
      ⟨.column ⟨qualifiers.map fun q => ⟨q, 0⟩, ⟨c.name, 0⟩, .other⟩, none, c.name⟩
  let lists ← columns.mapM fun c => match c with
    | .all => do
      if bounds.isEmpty then throw (.general "no tables specified")
      return places.flatMap fun (b, i) => all b i b.shared
    | .allOf table =>
      match places.filter fun (b, _) => sameName b.name table.text with
      | [] => throw (.general ("no such table: " ++ table.text))
      | bs => return bs.flatMap fun (b, i) => all b i []
    | .expr e asName spelling => return [⟨e, asName, spelling⟩]
  let items := lists.flatten
  if 2000 < items.length then throw (.general "too many columns in result set")
  return items

/-- The columns of a result: named as asked for, by the columns that they are, or by their spellings. -/
def outColumns (items : List Item) (results : List Meaning) : List OutColumn :=
  (items.zip results).zipIdx.map fun ((item, m), i) =>
    let own := match item.expr with
      | .column _ => m.name
      | _ => none
    let spelling := if item.spelling.isEmpty then "column" ++ Decimal.natText (i + 1) else item.spelling
    { name := (item.asName.or own).getD spelling
      affinity := m.affinity
      collation := m.chosen.or m.collation
      chosen := m.chosen
      type := m.type }

/-- Whether a term of an order picks a column of a result: by the name that it was given, or as the same column. -/
def Item.isPicked (item : Item) (term : ColumnName) : Bool :=
  match item.asName, item.expr with
  | some a, e => (term.qualifiers.isEmpty && sameName a term.name.text) || isSame e
  | none, e => isSame e
where
  /-- Whether an expression is the column of the term. -/
  isSame : Expr → Bool
    | .column c => sameName c.name.text term.name.text && (c.qualifiers.isEmpty || term.qualifiers.isEmpty ||
        (c.qualifiers.getLast?.map (folded ·.text)) == term.qualifiers.getLast?.map (folded ·.text))
    | _ => false

/-- The columns of a combined result that the terms of an order pick, by number or as columns of one of the queries. -/
def sortColumns (columns : List OutColumn) (queries : List (List Item)) (order : List OrderTerm) :
    Except Failure (List (Nat × SortKey)) :=
  order.zipIdx.mapM fun (t, i) => do
    let unmatched := Failure.general (ordinal (i + 1) ++ " ORDER BY term does not match any column in the result set")
    let (e, chosen) := match t.expr with
      | .collate e c => (e, some (Collation.ofName c))
      | e => (e, none)
    let place ← match countedColumn? e, e with
      | some n, _ =>
        if 1 ≤ n ∧ n ≤ columns.length then pure (n.toNat - 1) else throw (outOfColumns i "ORDER" columns.length)
      | none, .column n =>
        match queries.findSome? fun items => items.findIdx? fun item => item.isPicked n with
        | some i => pure i
        | none => throw unmatched
      | none, _ => throw unmatched
    let c := (chosen.or ((columns[place]?).bind OutColumn.collation)).getD .binary
    return (place, SortKey.mk c t.descending (t.nullsFirst.getD !t.descending))

/-! ### Queries in expressions -/

mutual

/-- The queries in an expression, in the order in which they are met. -/
def Expr.queries : Expr → List Select
  | .literal _ | .number _ | .truth _ | .bind _ | .column _ => []
  | .sign _ e | .cast e _ | .collate e _ => e.queries
  | .arith _ a b | .and a b | .or a b | .compare _ a b => a.queries ++ b.queries
  | .between e low high => e.queries ++ low.queries ++ high.queries
  | .pattern _ es | .row es => Expr.queriesOf es
  | .isIn e es => e.queries ++ Expr.queriesOf es
  | .inQuery e q => e.queries ++ [q]
  | .exists q | .scalar q => [q]
  | .case none es none => Expr.queriesOf es
  | .case none es (some last) => Expr.queriesOf es ++ last.queries
  | .case (some e) es none => e.queries ++ Expr.queriesOf es
  | .case (some e) es (some last) => e.queries ++ Expr.queriesOf es ++ last.queries
  | .call _ _ es _ order none => Expr.queriesOf es ++ OrderTerm.queriesOf order
  | .call _ _ es _ order (some f) => Expr.queriesOf es ++ OrderTerm.queriesOf order ++ f.queries

/-- The queries in some expressions. -/
def Expr.queriesOf : List Expr → List Select
  | [] => []
  | e :: es => e.queries ++ Expr.queriesOf es

/-- The queries in terms of an order. -/
def OrderTerm.queriesOf : List OrderTerm → List Select
  | [] => []
  | ⟨e, _, _⟩ :: ts => e.queries ++ OrderTerm.queriesOf ts

end

/-- The conditions that are written with joined sources. -/
def Joined.conditions (sources : List Joined) : List Expr := sources.filterMap Joined.on

/-- The expressions of a simple query. -/
def Core.expressions : Core → List Expr
  | .values rows => rows.flatten
  | .select _ columns sources filter group having =>
    (columns.filterMap fun c => match c with
      | .expr e _ _ => some e
      | _ => none) ++ filter.toList ++ Joined.conditions sources ++ group ++ having.toList

mutual

/-- The schemas that the sources of a query name, and those of all queries in it, to a depth. -/
def Select.schemas : Nat → Select → List String
  | 0, _ => []
  | fuel + 1, q =>
    let cores := (q.first :: q.rest.map (·.2)).reverse
    let last := q.order.map OrderTerm.expr ++ q.limit.toList ++ q.offset.toList
    let inner := q.common.map CommonTable.query ++ Expr.queriesOf (cores.flatMap Core.expressions ++ last)
    let sources := cores.flatMap fun core => match core with
      | .select _ _ sources .. => sources
      | .values _ => []
    Joined.schemas fuel sources ++ inner.flatMap (Select.schemas fuel)

/-- The schemas that some sources name, to a depth. -/
def Joined.schemas : Nat → List Joined → List String
  | 0, _ => []
  | fuel + 1, sources => sources.flatMap fun j =>
    match j.source with
    | .table n | .function n _ => n.schema.toList
    | .query q => q.schemas fuel
    | .group js => Joined.schemas fuel js

end

end RecordMapper.Sqlite
