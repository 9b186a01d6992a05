import RecordMapper.Error
import RecordMapper.Value.Basic

/-!
# Typed readings

A `Reader` takes a value as some type or says what was found instead. Conversions of whole values know truth values,
64-bit integers, doubles and texts; columns of rows can be read as narrower integers as well, which may be out of range.
-/

namespace RecordMapper

open Decimal

/-- A way to read values as a type. -/
structure Reader (α : Type) where
  /-- The type as a missing column reports it. -/
  label : String
  /-- The value, or the error that names the type. -/
  read : Value → Except Error α

namespace Reader

/-- A value of another type than the one asked for. -/
def mismatch (expected : String) (v : Value) : Error :=
  .conversion expected v.typeName none

/-- A number outside the type asked for. -/
def outOfRange (expected : String) (n : Int64) : Error :=
  .conversion expected ("value " ++ intText n.toInt ++ " out of range") none

/-- A reader of a partial reading. -/
def ofReading {α : Type} (label : String) (f : Value → Option α) : Reader α :=
  { label, read := fun v => match f v with
      | some a => .ok a
      | none => .error (mismatch label v) }

/-- Reads truth values. -/
def bool : Reader Bool := ofReading "bool" Value.bool?

/-- Reads 64-bit integers. -/
def int64 : Reader Int64 := ofReading "i64" Value.int64?

/-- Reads doubles. -/
def float : Reader Float := ofReading "f64" Value.float?

/-- Reads texts. -/
def string : Reader String :=
  { ofReading "String" Value.string? with label := "alloc::string::String" }

/-- Reads integers between two bounds. -/
def within (label : String) (low high : Int) : Reader Int64 :=
  { label, read := fun v => match v.int64? with
      | none => .error (mismatch label v)
      | some n => if low ≤ n.toInt ∧ n.toInt ≤ high then .ok n else .error (outOfRange label n) }

/-- Reads 32-bit integers. -/
def int32 : Reader Int64 := within "i32" (-0x80000000) 0x7FFFFFFF

/-- Reads natural numbers of 64 bits. -/
def uint64 : Reader Int64 := within "u64" 0 0xFFFFFFFFFFFFFFFF

/-- Reads any value. -/
def value : Reader Value :=
  { label := "leanorm_core::value::Value", read := .ok }

/-- Reads `NULL` as nothing and all else as the type. -/
def optional {α : Type} (r : Reader α) : Reader (Option α) :=
  { label := "core::option::Option<" ++ r.label ++ ">"
    read := fun v => match v with
      | .null => .ok none
      | v => (r.read v).map some }

end Reader

end RecordMapper
