import RecordMapper.Sqlite.Function

/-!
# Functions of groups

Functions that sum up the rows of a group. A sum is exact as long as its terms are integers that fit, and keeps the error
of its additions as soon as it is a double.
-/

namespace RecordMapper.Sqlite

open Decimal

/-- The functions of groups with the numbers of their arguments. -/
def groupArities : List (String × Nat × Nat) :=
  [("avg", 1, 1), ("count", 0, 1), ("group_concat", 1, 2), ("max", 1, 1), ("min", 1, 1), ("string_agg", 2, 2),
    ("sum", 1, 1), ("total", 1, 1)]

/-- A sum in the making: exact while all terms are integers, then a double with its error. -/
structure Sum where
  count : Nat := 0
  exact : Int64 := 0
  approximate : Bool := false
  overflowed : Bool := false
  sum : Float := 0
  error : Float := 0

namespace Sum

/-- Adds a double, the error of the addition being kept. -/
def addReal (s : Sum) (x : Float) : Sum :=
  let t := s.sum + x
  let e := if s.sum.abs > x.abs then (s.sum - t) + x else (x - t) + s.sum
  { s with sum := t, error := s.error + e }

/-- Adds an integer as a double, in two parts if it is large. -/
def addLarge (s : Sum) (n : Int64) : Sum :=
  let i := n.toInt
  if i ≤ -4503599627370496 ∨ 4503599627370496 ≤ i then
    let small := Int.tmod i 16384
    (s.addReal (ofInt (i - small))).addReal (ofInt small)
  else s.addReal (ofInt i)

/-- The sum so far as a double. -/
def toApproximate (s : Sum) : Sum :=
  ({ s with approximate := true, sum := 0, error := 0 } : Sum).addLarge s.exact

/-- Adds a datum; `NULL` does not count. -/
def add (s : Sum) (d : Datum) : Sum :=
  let d := match d with
    | .text b => (wholeNumber? b).getD (.text b)
    | d => d
  match d with
  | .null => s
  | .int n =>
    let s := { s with count := s.count + 1 }
    if s.approximate then s.addLarge n
    else
      let total := s.exact.toInt + n.toInt
      if fitsWord total then { s with exact := Int64.ofInt total }
      else { s.toApproximate.addLarge n with overflowed := true }
  | d =>
    let s := { s with count := s.count + 1 }
    if s.approximate then { s.addReal d.toReal with overflowed := false }
    else s.toApproximate.addReal d.toReal

/-- The sum as a double. -/
def toReal (s : Sum) : Float :=
  if s.approximate then (if isFinite s.error then s.sum + s.error else s.sum) else ofInt s.exact.toInt

end Sum

/-- The value of a function of a group for the arguments of its rows. -/
def applyToGroup (name : String) (c : Collation) (rows : List (List Datum)) : Except Failure Datum :=
  let firsts := rows.filterMap List.head?
  let present := firsts.filter fun d => !d.isNull
  match name with
  | "count" => .ok (.int (Int64.ofNat (rows.countP fun r => !(r.head?.map Datum.isNull).getD false)))
  | "sum" =>
    let s := firsts.foldl Sum.add {}
    if s.count = 0 then .ok .null
    else if s.approximate then if s.overflowed then .error integerOverflow else .ok (.ofFloat s.toReal)
    else .ok (.int s.exact)
  | "total" => .ok (.ofFloat (firsts.foldl Sum.add {}).toReal)
  | "avg" =>
    let s := firsts.foldl Sum.add {}
    .ok (if s.count = 0 then .null else .ofFloat (s.toReal / ofInt s.count))
  | "max" => .ok (extreme .gt c present)
  | "min" => .ok (extreme .lt c present)
  | "group_concat" | "string_agg" =>
    let used := rows.filter fun r => !(r.headD .null).isNull
    let parts := used.map fun r => (r.headD .null, match r with
      | _ :: s :: _ => s.bytes
      | _ => [44])
    .ok (match parts with
      | [] => .null
      | (d, _) :: rest => .text (d.bytes ++ rest.flatMap fun (d, s) => s ++ d.bytes))
  | _ => .ok .null

end RecordMapper.Sqlite
