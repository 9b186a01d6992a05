import RecordMapper.Sqlite.Path
import RecordMapper.Sqlite.Rows

/-!
# Running queries

A query whose names have been looked up gives its rows in every environment. The sources are joined from the left, the
rows that the conditions do not hold of are left out, the rest is put in groups if the query sums up, repeated results
are left out if they are not wanted, and what remains is ordered and cut to a window.
-/

namespace RecordMapper.Sqlite

/-- What a query gives. -/
structure Output where
  columns : List OutColumn
  rows : Env → Rows Tuple
  /-- What the rows are about of the rows around the query. -/
  span : Span := []

/-- A source that is joined to those on its left. -/
structure JoinStep where
  width : Nat
  rows : Env → Rows Tuple
  shape : JoinShape
  /-- The conditions on rows of all sources up to this one. -/
  on : List Meaning

/-- A row of nothing. -/
def nulls (n : Nat) : Tuple := List.replicate n .null

namespace JoinStep

/-- The length of the rows of joined sources. -/
def totalWidth (steps : List JoinStep) : Nat :=
  steps.foldl (fun n step => n + step.width) 0

/-- Whether all rows to the left are kept. -/
def keepsLeft (step : JoinStep) : Bool := step.shape = .left || step.shape = .full

/-- Whether all rows of the source itself are kept. -/
def keepsRight (step : JoinStep) : Bool := step.shape = .right || step.shape = .full

/-- Whether the conditions of the join hold of a row. -/
def admits (step : JoinStep) (env : Env) (row : Tuple) : Except Failure Bool :=
  step.on.allM fun m => m.holds (env.within row)

/-- A row of the sources so far with those of one more source. -/
def extended (step : JoinStep) (env : Env) (right : List Tuple) (l : Tuple) : Rows Tuple :=
  match (Rows.ofList (right.map (l ++ ·))).filter (step.admits env) with
  | .done => if step.keepsLeft then .ofList [l ++ nulls step.width] else .done
  | rows => rows

/-- The rows of the sources so far with those of one more source. -/
def join (step : JoinStep) (env : Env) (leftWidth : Nat) (left : Rows Tuple) : Rows Tuple :=
  .ofExcept do
    let right ← (step.rows env).toList
    if !step.keepsRight then return left.flatMap (step.extended env right)
    let left ← left.toList
    let lonely (r : Tuple) : Except Failure Bool := do
      return !(← left.anyM fun l => step.admits env (l ++ r))
    return ((Rows.ofList left).flatMap (step.extended env right)).append fun _ =>
      ((Rows.ofList right).filter lonely).map fun r => .ok (nulls leftWidth ++ r)

/-- The rows of all sources. The first source gives its rows one by one; the others are read before they are joined. -/
def joinAll (env : Env) : List JoinStep → Rows Tuple
  | [] => .ofList [[]]
  | first :: steps =>
    let start : Nat × Rows Tuple := match first.on with
      | [] => (first.width, first.rows env)
      | _ => (first.width, first.join env 0 (.ofList [[]]))
    (steps.foldl (fun (width, rows) step => (width + step.width, step.join env width rows)) start).2

end JoinStep

/-- A term that rows are ordered by: its collation, its direction, and whether `NULL` comes first. -/
structure SortKey where
  collation : Collation
  descending : Bool
  nullsFirst : Bool

/-- The order of two data under a term. -/
def SortKey.order (k : SortKey) (a b : Datum) : Ordering :=
  match a.isNull, b.isNull with
  | true, true => .eq
  | true, false => if k.nullsFirst then .lt else .gt
  | false, true => if k.nullsFirst then .gt else .lt
  | false, false => if k.descending then (a.order k.collation b).swap else a.order k.collation b

/-- The order of the values of some terms. -/
def SortKey.orderAll : List SortKey → List Datum → List Datum → Ordering
  | k :: ks, a :: as, b :: bs => (k.order a b).then (orderAll ks as bs)
  | _, _, _ => .eq

/-- Data without those that equal an earlier one. -/
def withoutRepeats {α : Type} (same : α → α → Bool) (xs : List α) : List α :=
  (xs.foldl (fun kept x => if kept.any (same x) then kept else x :: kept) []).reverse

/-- The integer that a limit has to be. -/
def limitValue (d : Datum) : Except Failure Int64 :=
  match Affinity.store .integer d with
  | .int n => .ok n
  | _ => .error .mismatch

/-- The best values with one more row, and whether that row is picked: whether it is better in the last value that it
counts for. A row that does not count may be picked all the same as the first one. -/
def Pick.next (env : Env) (row : Tuple) (isFirst isSettled : Bool) :
    List (Pick × Datum) → Bool → Except Failure (List (Pick × Datum) × Bool)
  | [], picked => return ([], picked)
  | (p, best) :: others, picked => do
    let (best, picked) ← match ← p.value env row with
      | none => pure (best, if isSettled then isFirst else picked)
      | some d =>
        let isBetter := best.isNull || (!d.isNull && d.order p.collation best == p.wanted)
        pure (if isBetter then d else best, isBetter)
    let (others, picked) ← next env row isFirst isSettled others picked
    return ((p, best) :: others, picked)

/-- The row that stands for a group: that of the smallest or largest value if one is asked for, else the first. -/
def representative (env : Env) (picks : List Pick) (grouped : Bool) (width : Nat) (rows : List Tuple) :
    Except Failure Tuple := do
  match rows, picks with
  | [], _ => return nulls width
  | first :: _, [] => return first
  | first :: _, picks =>
    let isSettled := grouped || picks.all Pick.isFiltered
    let start : List (Pick × Datum) := picks.map fun p => (p, .null)
    let (_, found) ← rows.zipIdx.foldlM (fun (bests, found) (row, i) => do
      let (bests, picked) ← Pick.next env row (i = 0) isSettled bests false
      return (bests, if picked then row else found)) (start, first)
    return found

/-- Rows that are ordered, in groups of equal keys. -/
def groupsOf (same : Tuple → Tuple → Bool) (rows : List (Tuple × Tuple)) : List (List Tuple) :=
  (rows.splitBy fun a b => same a.1 b.1).map fun g => g.map (·.2)

/-- Conditions on rows. -/
structure Conditions where
  /-- Those that are about no row and are asked for once, before any row is looked at. -/
  fixed : List Meaning := []
  varying : List Meaning := []

namespace Conditions

/-- All meanings. -/
def meanings (c : Conditions) : List Meaning := c.fixed ++ c.varying

/-- The conditions of two lists together. -/
def append (c d : Conditions) : Conditions := ⟨c.fixed ++ d.fixed, c.varying ++ d.varying⟩

/-- The rows that the conditions hold of. -/
def select {α : Type} (c : Conditions) (env : Env) (frame : α → Tuple) (rows : Rows α) : Rows α :=
  .ofExcept do
    if ← c.fixed.allM fun m => m.holds (env.within []) then
      return rows.filter fun row => c.varying.allM fun m => m.holds (env.within (frame row))
    else return .done

end Conditions

/-- A simple query whose names have been looked up. -/
structure Plan where
  steps : List JoinStep
  conditions : Conditions
  /-- Whether rows are put in groups. -/
  grouped : Bool
  groupKeys : List Meaning
  totals : List Total
  having : Option Meaning
  results : List Meaning
  distinct : Bool
  order : List (Meaning × SortKey)
  /-- Whether the rows are found in the wanted order as they are, or backwards; they have to be ordered if neither. -/
  direction : Option Bool := none
  /-- The cells by which rows are ordered as they are found; none if they are found in the order of the sources. -/
  path : List (Nat × Collation) := []

namespace Plan

/-- The length of a row of all sources. -/
def width (p : Plan) : Nat := JoinStep.totalWidth p.steps

/-- The rows that the conditions hold of. -/
def filtered (p : Plan) (env : Env) : Rows Tuple :=
  let rows := JoinStep.joinAll env p.steps
  let found := if p.direction = some true then rows.rearranged List.reverse
    else if p.path.isEmpty then rows
    else rows.rearranged (arranged p.path)
  p.conditions.select env id found

/-- Rows put in groups by their keys, in the order of the keys. -/
def groups (p : Plan) (env : Env) (rows : List Tuple) : Except Failure (List (List Tuple)) := do
  let keyed ← rows.mapM fun row => do return (← Meaning.evalAll p.groupKeys (env.within row), row)
  let order (a b : Tuple) : Ordering := Datum.orderAll (p.groupKeys.map Meaning.order) a b
  return groupsOf (fun a b => order a b == .eq) (keyed.mergeSort fun a b => order a.1 b.1 != .gt)

/-- One row for each group: a row of the group, then what the functions of groups give. -/
def summed (p : Plan) (env : Env) (rows : Rows Tuple) : Rows Tuple :=
  let groups : Except Failure (List (List Tuple)) := do
    let rows ← rows.toList
    if p.groupKeys.isEmpty then return [rows] else p.groups env rows
  let rows := (Rows.ofExcept (groups.map Rows.ofList)).map fun group => do
    let picks := p.totals.filterMap Total.pick
    return (← representative env picks (!p.groupKeys.isEmpty) p.width group) ++
      (← p.totals.mapM fun t => t.value env group)
  match p.having with
  | some h => rows.filter fun row => h.holds (env.within row)
  | none => rows

/-- The rows of the result. -/
def rows (p : Plan) (env : Env) : Rows Tuple :=
  let found := p.filtered env
  let found := if p.grouped then p.summed env found else found
  let pairs := found.map fun row => do
    return (← Meaning.evalAll p.results (env.within row), ← Meaning.evalAll (p.order.map (·.1)) (env.within row))
  let cs := p.results.map Meaning.order
  let pairs := if p.distinct then pairs.distinct (fun a b => Datum.orderAll cs a.1 b.1 == .eq) [] else pairs
  let sorted := if p.order.isEmpty || p.direction.isSome then pairs
    else pairs.rearranged (List.mergeSort · fun a b => SortKey.orderAll (p.order.map (·.2)) a.2 b.2 != .gt)
  sorted.map fun pair => .ok pair.1

end Plan

namespace Output

/-- The rows of two queries combined; but for `UNION ALL` they are ordered and do not repeat. Of equal rows the last one
stays; if the rows are ordered by some terms as well, that is the first one of the second query, or else of the first
query. -/
def combine (op : Compound) (isOrdered : Bool) (a b : Output) : Output :=
  let columns := (a.columns.zip b.columns).map fun (c, d) => { c with collation := c.collation.or d.collation }
  let cs := columns.map fun c => c.collation.getD .binary
  let same (x y : Tuple) : Bool := Datum.orderAll cs x y == .eq
  let tidy (rows : List Tuple) : List Tuple :=
    (withoutRepeats same (if isOrdered then rows else rows.reverse)).mergeSort fun x y => Datum.orderAll cs x y != .gt
  let chosen (left right : List Tuple) : List Tuple :=
    match op with
    | .union | .unionAll => if isOrdered then right ++ left else left ++ right
    | .intersect => left.filter fun x => right.any (same x)
    | .except => left.filter fun x => !right.any (same x)
  { columns
    rows := fun env =>
      if op = .unionAll then (a.rows env).append fun _ => b.rows env
      else .ofExcept do
        let left ← (a.rows env).toList
        let right ← (b.rows env).toList
        return .ofList (tidy (chosen left right))
    span := a.span.join b.span }

/-- The rows ordered by columns of the result. -/
def sortBy (o : Output) (keys : List (Nat × SortKey)) : Output :=
  let pick (row : Tuple) : Tuple := Stored.pick (keys.map (·.1)) row
  { o with
    rows := fun env =>
      (o.rows env).rearranged
        (List.mergeSort · fun a b => SortKey.orderAll (keys.map (·.2)) (pick a) (pick b) != .gt) }

/-- The rows of a window; nothing is run for an empty one. -/
def limit (o : Output) (count offset : Option Meaning) : Output :=
  { o with
    rows := fun env => .ofExcept do
      let number (m : Option Meaning) : Except Failure (Option Int64) :=
        m.mapM fun m => do limitValue (← m.eval env)
      let count ← number count
      if count = some 0 then return .done
      let skipped := ((← number offset).map fun n => n.toInt.toNat).getD 0
      let rest := (o.rows env).drop skipped
      match count with
      | some n => if n < 0 then return rest else return rest.take n.toInt.toNat
      | none => return rest }

end Output

end RecordMapper.Sqlite
