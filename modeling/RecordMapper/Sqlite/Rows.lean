import RecordMapper.Sqlite.Failure

/-!
# Rows on demand

The rows of a query are calculated one by one, as they are asked for: a failure shows only to one who asks for the row
that it strikes. Everything that a query does to rows but for ordering them keeps to this.
-/

namespace RecordMapper.Sqlite

/-- Some rows and perhaps a failure after them, calculated as far as they are asked for. -/
inductive Rows (α : Type) where
  | done
  | failed (failure : Failure)
  | next (row : α) (rest : Unit → Rows α)

namespace Rows

variable {α β : Type}

instance : Inhabited (Rows α) := ⟨.done⟩

/-- Fixed rows. -/
def ofList : List α → Rows α
  | [] => .done
  | x :: xs => .next x fun _ => ofList xs

/-- Rows that have to be found first. -/
def ofExcept : Except Failure (Rows α) → Rows α
  | .ok rows => rows
  | .error f => .failed f

/-- All rows in front of those of a list, from the last row on. -/
def collect (found : List α) : Rows α → Except Failure (List α)
  | .done => .ok found.reverse
  | .failed f => .error f
  | .next x rest => collect (x :: found) (rest ())

/-- All rows. -/
def toList (rows : Rows α) : Except Failure (List α) := collect [] rows

/-- The first row. -/
def first? : Rows α → Except Failure (Option α)
  | .done => .ok none
  | .failed f => .error f
  | .next x _ => .ok (some x)

/-- The rows of one source, then those of another. -/
def append (a : Rows α) (b : Unit → Rows α) : Rows α :=
  match a with
  | .done => b ()
  | .failed f => .failed f
  | .next x rest => .next x fun _ => append (rest ()) b

/-- A value for each row. -/
def map (f : α → Except Failure β) : Rows α → Rows β
  | .done => .done
  | .failed e => .failed e
  | .next x rest =>
    match f x with
    | .ok y => .next y fun _ => map f (rest ())
    | .error e => .failed e

/-- The rows that a condition holds of. -/
def filter (p : α → Except Failure Bool) : Rows α → Rows α
  | .done => .done
  | .failed e => .failed e
  | .next x rest =>
    match p x with
    | .ok true => .next x fun _ => filter p (rest ())
    | .ok false => filter p (rest ())
    | .error e => .failed e

/-- The rows that each row leads to. -/
def flatMap (f : α → Rows β) : Rows α → Rows β
  | .done => .done
  | .failed e => .failed e
  | .next x rest =>
    match f x with
    | .done => flatMap f (rest ())
    | .failed e => .failed e
    | .next y more => .next y fun _ => append (more ()) fun _ => flatMap f (rest ())

/-- At most some rows; no more than these are asked for. -/
def take : Nat → Rows α → Rows α
  | 0, _ => .done
  | _, .done => .done
  | _, .failed e => .failed e
  | n + 1, .next x rest => if n = 0 then .next x fun _ => .done else .next x fun _ => take n (rest ())

/-- The rows after some. -/
def drop : Nat → Rows α → Rows α
  | 0, rows => rows
  | _, .done => .done
  | _, .failed e => .failed e
  | n + 1, .next _ rest => drop n (rest ())

/-- The number of rows in front of a failure. -/
def count : Rows α → Nat
  | .done | .failed _ => 0
  | .next _ rest => count (rest ()) + 1

/-- The rows without those that equal an earlier one. -/
def distinct (same : α → α → Bool) (seen : List α) : Rows α → Rows α
  | .done => .done
  | .failed e => .failed e
  | .next x rest =>
    if seen.any (same x) then distinct same seen (rest ())
    else .next x fun _ => distinct same (x :: seen) (rest ())

/-- All rows, changed as a whole. -/
def rearranged (f : List α → List β) (rows : Rows α) : Rows β :=
  match rows.toList with
  | .ok xs => ofList (f xs)
  | .error e => .failed e

theorem collect_ofList (found xs : List α) : collect found (ofList xs) = .ok (found.reverse ++ xs) := by
  induction xs generalizing found with
  | nil => simp [ofList, collect]
  | cons x xs ih => simp [ofList, collect, ih]

theorem toList_ofList (xs : List α) : (ofList xs).toList = .ok xs := by
  simp [toList, collect_ofList]

end Rows

end RecordMapper.Sqlite
