import RecordMapper.Sqlite.Function
import RecordMapper.Sqlite.Syntax

/-!
# Operators on data

Integers are calculated with as long as the result fits, else doubles. A result that is no number is `NULL`, and so is
every result of an operator on `NULL`, but for the logical ones, which know three truth values.
-/

namespace RecordMapper.Sqlite

open Decimal

/-- An integer operator; none where doubles are needed. -/
def intResult (op : Arithmetic) (a b : Int) : Option Datum :=
  let whole (i : Int) : Option Datum := if fitsWord i then some (.int (Int64.ofInt i)) else none
  match op with
  | .add => whole (a + b)
  | .sub => whole (a - b)
  | .mul => whole (a * b)
  | .div => if b = 0 then some .null else whole (a.tdiv b)
  | .rem => if b = 0 then some .null else whole (a.tmod b)
  | _ => none

/-- An operator on doubles. -/
def realResult (op : Arithmetic) (a b : Datum) : Datum :=
  let x := a.toReal
  let y := b.toReal
  match op with
  | .add => .ofFloat (x + y)
  | .sub => .ofFloat (x - y)
  | .mul => .ofFloat (x * y)
  | .div => if y == 0 then .null else .ofFloat (x / y)
  | .rem =>
    let d := b.toInt64.toInt
    if d = 0 then .null else .real (ofInt (a.toInt64.toInt.tmod d))
  | _ => .null

/-- An integer shifted to the left, or to the right if the distance is negative. -/
def shifted (n : Int) (distance : Int) : Int64 :=
  if distance ≥ 64 then 0
  else if 0 ≤ distance then Int64.ofInt (n * twoTo distance.toNat)
  else if distance ≤ -64 then (if n < 0 then -1 else 0)
  else Int64.ofInt (n.fdiv (twoTo (-distance).toNat))

/-- An operator on two data. -/
def Arithmetic.apply (op : Arithmetic) (a b : Datum) : Datum :=
  if a.isNull || b.isNull then .null
  else match op with
    | .concat => .text (a.bytes ++ b.bytes)
    | .bitAnd => .int (a.toInt64 &&& b.toInt64)
    | .bitOr => .int (a.toInt64 ||| b.toInt64)
    | .shiftLeft => .int (shifted a.toInt64.toInt b.toInt64.toInt)
    | .shiftRight => .int (shifted a.toInt64.toInt (-b.toInt64.toInt))
    | op => match a.number, b.number with
      | .int m, .int n => (intResult op m.toInt n.toInt).getD (realResult op a b)
      | _, _ => realResult op a b

/-- An operator on one datum. -/
def Sign.apply (op : Sign) (d : Datum) : Datum :=
  match op with
  | .plus => d
  | .minus => Arithmetic.sub.apply (.int 0) d
  | .bitNot => if d.isNull then .null else .int (~~~ d.toInt64)
  | .not => .ofTruth (d.truth?.map fun b => !b)

/-- Both of two truth values. -/
def truthAnd : Option Bool → Option Bool → Option Bool
  | some false, _ | _, some false => some false
  | some true, some true => some true
  | _, _ => none

/-- One of two truth values. -/
def truthOr : Option Bool → Option Bool → Option Bool
  | some true, _ | _, some true => some true
  | some false, some false => some false
  | _, _ => none

/-- A comparison of data that are converted already. -/
def Comparison.apply (op : Comparison) (c : Collation) (a b : Datum) : Datum :=
  let o := a.order c b
  match op with
  | .same => .ofBool (o == .eq)
  | .notSame => .ofBool (o != .eq)
  | op =>
    if a.isNull || b.isNull then .null
    else .ofBool (match op with
      | .lt => o == .lt
      | .le => o != .gt
      | .gt => o == .gt
      | .ge => o != .lt
      | .eq => o == .eq
      | _ => o != .eq)

end RecordMapper.Sqlite
