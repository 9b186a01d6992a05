import RecordMapper.Value.Reader

/-!
# Rows

A row of a result has its values in the order of the select list. A name may repeat there, as it does in joins; it
then means its last column, and the map of a row lists it where it came first with the value that came last.
-/

namespace RecordMapper

/-- A row of a result: the names of the columns and the values. -/
structure Row where
  names : List String
  values : List Value
  deriving Repr, Inhabited

namespace Row

/-- The position of a column: the last one of that name. -/
def indexOf? (r : Row) (name : String) : Option Nat :=
  let rec last (i : Nat) (found : Option Nat) : List String → Option Nat
    | [] => found
    | n :: ns => last (i + 1) (if n = name then some i else found) ns
  last 0 none r.names

/-- Whether a column has the name. -/
def hasColumn (r : Row) (name : String) : Bool :=
  (r.indexOf? name).isSome

/-- The value of a column. -/
def get? (r : Row) (name : String) : Option Value :=
  (r.indexOf? name).bind fun i => r.values[i]?

/-- The names with their values, in order. -/
def entries (r : Row) : List (String × Value) :=
  r.names.zip r.values

/-- The map of the row. -/
def toMap (r : Row) : Assignments :=
  .ofList r.entries

/-- The map of a row that is given up for it, filled with one value after the other. -/
def intoMap (r : Row) : Assignments :=
  (r.names.zip r.values).foldl (fun m e => m.insert e.1 e.2) ∅

/-- The value of a column read as a type; errors name the column. -/
def read {α : Type} (r : Row) (reader : Reader α) (name : String) : Except Error α :=
  match r.get? name with
  | none => .error (.conversion reader.label ("column '" ++ name ++ "' not found") (some name))
  | some v =>
    match reader.read v with
    | .error (.conversion expected actual _) => .error (.conversion expected actual (some name))
    | result => result

end Row

end RecordMapper
