import RecordMapper.Fetch.Basic
import RecordMapper.Filter.Compile
import RecordMapper.Join

/-!
# Queries

The `SELECT` of a fetch over one table. Its clauses come in their usual order, each left out when its key is not set
or is ignored; the parameters of `HAVING` are numbered after those of `WHERE`. An offset without a limit is written
with the dialect's limit that takes every row.
-/

namespace RecordMapper

open Decimal

/-- A query over a table, perhaps joined with others. -/
structure Select where
  table : String
  fetch : Fetch
  joins : List Join := []
  /-- The keys of the fetch that the query ignores. -/
  ignored : List FetchKey := []
  deriving Repr

namespace Select

/-- Whether a part of the fetch has a say. -/
def uses (s : Select) (key : FetchKey) : Bool :=
  !s.ignored.contains key && s.fetch.isSet key

/-- The limit under which an offset may stand alone. -/
def openLimit : Dialect → String
  | .sqlite => " LIMIT -1"
  | .mysql => " LIMIT 18446744073709551615"
  | .postgres => ""

/-- The window of the query. -/
def windowText (d : Dialect) (limit offset : Option Nat) : String :=
  (match limit, offset with
    | some n, _ => " LIMIT " ++ natText n
    | none, some _ => openLimit d
    | none, none => "") ++
  (match offset with
    | some n => " OFFSET " ++ natText n
    | none => "")

/-- The query up to its conditions: what is selected, and from where. -/
def headText (s : Select) : String :=
  "SELECT " ++ (if s.uses .distinct then "DISTINCT " else "") ++
    (if s.uses .cols then ", ".intercalate s.fetch.cols else s.table ++ ".*") ++
    " FROM " ++ s.table ++ String.join (s.joins.map Join.sql)

/-- The grouping of the query. -/
def groupText (s : Select) : String :=
  if s.uses .group then " GROUP BY " ++ ", ".intercalate s.fetch.group else ""

/-- The query after its conditions: the order and the window. -/
def endText (s : Select) (d : Dialect) : String :=
  (if s.uses .order then " ORDER BY " ++ ", ".intercalate s.fetch.order else "") ++
    windowText d (if s.uses .limit then s.fetch.limit else none) (if s.uses .offset then s.fetch.offset else none)

/-- Conditions after a keyword; nothing if their key has no say. -/
def conditions (s : Select) (q : Quoter) (key : FetchKey) (keyword : String) (filter : Filter) (bound : Nat) :
    Except FilterFault Sql :=
  if s.uses key then
    match filter.compile q bound with
    | .ok sql => .ok { sql with text := keyword ++ sql.text }
    | .error fault => .error fault
  else .ok { text := "", binds := [] }

/-- The query in SQL, or the first fault in its conditions. -/
def sql (s : Select) (q : Quoter) : Except FilterFault Sql :=
  match s.conditions q .filter " WHERE " s.fetch.filter 0 with
  | .error fault => .error fault
  | .ok filter =>
    match s.conditions q .having " HAVING " s.fetch.having filter.binds.length with
    | .error fault => .error fault
    | .ok having =>
      .ok
        { text := s.headText ++ filter.text ++ s.groupText ++ having.text ++ s.endText q.dialect
          binds := filter.binds ++ having.binds }

end Select

end RecordMapper
