import RecordMapper.Column
import RecordMapper.Dialect
import RecordMapper.Filter.Compile
import RecordMapper.Row

/-!
# Drivers

A driver is everything the library asks of a database: running statements, reporting generated keys, one transaction
that does not nest, and the columns of tables. It acts on a store of its own; every call gives a result or an error and
the store after it, also when it fails.
-/

namespace RecordMapper

/-- A call on a store: a result or an error, and the store after it. -/
abbrev Action (σ : Type) (α : Type) := ExceptT Error (StateM σ) α

/-- A database that statements are sent to. -/
structure Driver (σ : Type) where
  dialect : Dialect
  /-- A value as a literal of this database. -/
  quote : Value → String := dialect.quoteLiteral
  /-- Runs a statement and gives its rows. -/
  query : String → List Value → Action σ (List Row)
  /-- Runs a statement and gives the number of rows that it changed. -/
  execute : String → List Value → Action σ Nat
  /-- The key of the last insert, from a named sequence where the dialect has sequences. -/
  lastInsertId : Option String → Action σ Value
  begin : Action σ Unit
  commit : Action σ Unit
  rollback : Action σ Unit
  inTransaction : σ → Bool
  /-- The columns of a table in their order; none if there is no such table. -/
  columns : String → Action σ (List Column)

namespace Driver

variable {σ : Type}

/-- The driver's dialect and literals. -/
def quoter (d : Driver σ) : Quoter :=
  { dialect := d.dialect, quote := d.quote }

/-- The first row of a statement. -/
def queryOne (d : Driver σ) (sql : String) (binds : List Value) : Action σ (Option Row) := do
  return (← d.query sql binds).head?

end Driver

end RecordMapper
