import RecordMapper.Sqlite.Definition
import RecordMapper.Sqlite.Program

/-!
# Settings and what they report

A setting is read, or changed by a value that is written as a word or a number. Some settings only report about the objects
that there are; one that is not known does nothing.
-/

namespace RecordMapper.Sqlite.Program

/-- The number that a text starts with, in decimal digits or in hexadecimal ones; zero if it takes more than 31 bits. -/
def leadingNumber (cs : List Char) : Nat :=
  let bounded (n : Nat) : Nat := if n ≤ 2147483647 then n else 0
  let hexDigits := ((hexDigits? (String.ofList cs)).getD []).takeWhile fun c => (Text.hexValue? c).isSome
  bounded (if hexDigits.isEmpty then Decimal.value (cs.takeWhile Char.isDigit)
    else hexDigits.foldl (fun n c => n * 16 + (Text.hexValue? c).getD 0) 0)

/-- Whether a text switches a setting on: a number does by its last eight bits. -/
def isOn (value : String) : Bool :=
  match value.toList with
  | c :: cs =>
    if c.isDigit then leadingNumber (c :: cs) % 256 != 0 else ["on", "yes", "true"].contains (folded value)
  | [] => false

/-- What is reported about the columns of a table or a view. -/
def tableInfo (store : Store) (n : ObjectName) : Except Failure (List Tuple) := do
  let number (i : Nat) : Datum := .int (Int64.ofNat i)
  match store.table? n, store.view? n with
  | some (_, t), _ =>
    return t.fields.zipIdx.map fun (f, i) =>
      [number i, .ofString f.name, .ofString f.type, .ofBool f.notNull.isSome,
        (f.default.map fun d => Datum.ofString d.2).getD .null, number f.keyPlace]
  | none, some _ =>
    let all : Core := .select false [.all] [⟨.inner, false, .table n, none, none, [], none⟩] none [] none
    let (o, _) ← ((Select.ofCore all).resolve store).run {}
    return o.columns.zipIdx.map fun (c, i) =>
      let type := if c.type.isEmpty then Stored.typeOfAffinity c.affinity else c.type
      [number i, .ofString c.name, .ofString type, .ofBool false, .null, number 0]
  | none, none => return []

/-- A setting that is read or changed. -/
def pragma (store : Store) (settings : Settings) (schema : Option String) (name : String) (value : Option String) :
    Except Failure Program := do
  match schema with
  | some s => if (Store.searched schema).isEmpty then throw (unknownDatabase s)
  | none => pure ()
  match folded name, value with
  | "foreign_keys", none => return ofRows ["foreign_keys"] [[.ofBool settings.foreignKeys]]
  | "foreign_keys", some v => return { effect := .configure fun s => { s with foreignKeys := isOn v } }
  | "query_only", none => return ofRows ["query_only"] [[.ofBool settings.queryOnly]]
  | "query_only", some v => return { effect := .configure fun s => { s with queryOnly := isOn v } }
  | "table_info", name =>
    let rows ← match name with
      | some name => tableInfo store ⟨schema, name, 0⟩
      | none => pure []
    return ofRows ["cid", "name", "type", "notnull", "dflt_value", "pk"] rows
  | _, _ => return nothing

end RecordMapper.Sqlite.Program
