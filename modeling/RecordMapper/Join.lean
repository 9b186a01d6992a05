/-!
# Joins

A join of another table, under an alias if it has one, with the condition as it stands in the statement.
-/

namespace RecordMapper

/-- Whether rows without a partner are kept. -/
inductive JoinKind where
  | inner
  | left
  deriving DecidableEq, Repr, Inhabited

/-- The words of a join. -/
def JoinKind.sql : JoinKind → String
  | .inner => "INNER JOIN"
  | .left => "LEFT JOIN"

/-- A join of a table. -/
structure Join where
  kind : JoinKind
  table : String
  on : String
  asName : Option String := none
  deriving DecidableEq, Repr, Inhabited

/-- The join in SQL, with the blank before it. -/
def Join.sql (j : Join) : String :=
  " " ++ j.kind.sql ++ " " ++ j.table ++
    (match j.asName with
      | some asName => " AS " ++ asName
      | none => "") ++
    " ON " ++ j.on

end RecordMapper
