import RecordMapper.Database.Table
import RecordMapper.Driver.Basic
import RecordMapper.Text.Quoted

/-!
# Databases

A database keeps, beside the store of its driver, the entities that are registered with it and the tables it has asked
for. A table is asked for once, until it is forgotten.
-/

namespace RecordMapper

/-- A database: the store of its driver, the registered entities, the known tables. -/
structure Database (σ : Type) where
  store : σ
  entities : OrderedMap String Entity := {}
  tables : OrderedMap String Table := {}

/--
An operation on a database. One that changes something else as well, be it that it fails, gives that back beside the
result: `StateM (Database σ) (Except Error α × ρ)`.
-/
abbrev Operation (σ : Type) (α : Type) := ExceptT Error (StateM (Database σ)) α

namespace Operation

variable {σ α β : Type}

theorem pure_apply (a : α) (db : Database σ) : (pure a : Operation σ α) db = (.ok a, db) := rfl

theorem bind_apply (op : Operation σ α) (next : α → Operation σ β) (db : Database σ) :
    (op >>= next) db =
      match op db with
      | (.ok a, db) => next a db
      | (.error e, db) => (.error e, db) := by
  simp only [bind, ExceptT.bind, ExceptT.mk, StateT.bind, ExceptT.bindCont]
  cases op db with
  | mk result db => cases result <;> rfl

theorem map_apply (f : α → β) (op : Operation σ α) (db : Database σ) :
    (ExceptT.map f op : Operation σ β) db = ((op db).1.map f, (op db).2) := by
  simp only [ExceptT.map, ExceptT.mk, bind, StateT.bind]
  cases op db with
  | mk result db => cases result <;> rfl

theorem pure_eq_ok_iff {a b : α} {db db' : Database σ} :
    (pure a : Operation σ α) db = (.ok b, db') ↔ a = b ∧ db = db' := by
  rw [pure_apply, Prod.mk.injEq, Except.ok.injEq]

/-- A sequence succeeds when its parts do, one after the other. -/
theorem bind_eq_ok_iff {op : Operation σ α} {next : α → Operation σ β} {b : β} {db db'' : Database σ} :
    (op >>= next) db = (.ok b, db'') ↔ ∃ a db', op db = (.ok a, db') ∧ next a db' = (.ok b, db'') := by
  rw [bind_apply]
  constructor
  · cases op db with
    | mk result db' =>
      cases result with
      | error e => exact fun h => nomatch h
      | ok a => exact fun h => ⟨a, db', rfl, h⟩
  · rintro ⟨a, db', hop, hnext⟩
    rw [hop]
    exact hnext

end Operation

namespace Database

variable {σ α : Type}

/-- A call of the driver. -/
def call (act : Action σ α) : Operation σ α := fun db =>
  let (result, store) := act.run db.store
  (result, { db with store })

theorem call_eq_ok_iff {act : Action σ α} {a : α} {db db' : Database σ} :
    call act db = (.ok a, db') ↔ ∃ s, act.run db.store = (.ok a, s) ∧ db' = { db with store := s } := by
  unfold call
  constructor
  · intro h
    obtain ⟨hresult, rfl⟩ := Prod.mk.inj h
    exact ⟨_, Prod.ext hresult rfl, rfl⟩
  · rintro ⟨s, hrun, rfl⟩
    rw [hrun]

/-- A result that needs no driver. -/
def result (r : Except Error α) : Operation σ α := fun db => (r, db)

/-- Registers an entity; one of the same name is replaced in its place. -/
def register (db : Database σ) (e : Entity) : Database σ :=
  { db with entities := db.entities.insert e.name e }

/-- Forgets a table, so that it is asked for again. -/
def forget (db : Database σ) (table : String) : Database σ :=
  { db with tables := db.tables.erase table }

/-- The error of a table without columns. -/
def noTable (table : String) : Error := .missing .table table none

/-- A table, asked for on first use. -/
def table (d : Driver σ) (name : String) : Operation σ Table := fun db =>
  match db.tables.get? name with
  | some t => (.ok t, db)
  | none =>
    match call (d.columns name) db with
    | (.error e, db) => (.error e, db)
    | (.ok [], db) => (.error (noTable name), db)
    | (.ok columns, db) =>
      let t := Table.ofColumns name columns
      (.ok t, { db with tables := db.tables.insert name t })

/-- The model of a name; a name that is not registered is that of a table. -/
def model (d : Driver σ) (name : String) : Operation σ Model := fun db =>
  let e := (db.entities.get? name).getD (.ofTable name)
  (table d e.table |>.map (Model.bind e)) db

/-! ### Diagnostics -/

/-- The name of a dialect in diagnostics. -/
def dialectTitle : Dialect → String
  | .postgres => "Postgres"
  | .sqlite => "Sqlite"
  | .mysql => "Mysql"

/-- The database in one line. -/
def describe (db : Database σ) (d : Driver σ) : String :=
  "Database \x7b dialect: " ++ dialectTitle d.dialect ++ ", models: " ++ Text.quotedList db.entities.keys ++ ", .. \x7d"

end Database

/-- The model in one line. -/
def Model.describe (m : Model) : String :=
  "Model \x7b name: " ++ Text.quoted m.entity.name ++ ", table: " ++ Text.quoted m.entity.table ++
    ", primary_col: " ++ Text.quoted m.primaryCol ++ ", .. \x7d"

end RecordMapper
