import RecordMapper.Database.Basic
import RecordMapper.Driver.Logged

/-!
# Traces of operations

`Driver.traced` answers as the driver under it and keeps every call together with its end.  A driver may answer each
call as it likes, so what is shown for all of them holds whichever calls fail.

* `Yields op P` says that from every state the result of `op` and the calls that it makes go together as `P` says;
* it is passed through sequences of operations (`Yields.bind`), so that each operation is described once, from the
  descriptions of its parts.
-/

namespace RecordMapper

/-- A call of a driver with its end: whether it failed, and how. -/
structure Event where
  call : Call
  ending : Except Error Unit
  deriving Repr

namespace Event

/-- The event of a call with a result. -/
def of {α : Type} (call : Call) (result : Except Error α) : Event :=
  { call, ending := result.map fun _ => () }

/-- The event of a call that succeeded. -/
def done (call : Call) : Event := { call, ending := .ok () }

/-- The event of a call that failed. -/
def failed (call : Call) (e : Error) : Event := { call, ending := .error e }

theorem of_ok {α : Type} (call : Call) (a : α) : of call (.ok a) = done call := rfl

theorem of_error {α : Type} (call : Call) (e : Error) : of call (.error e : Except Error α) = failed call e := rfl

end Event

namespace Driver

variable {σ α : Type}

/-- A call of the driver underneath, entered in the trace with its end. -/
def trace (call : Call) (act : Action σ α) : Action (List Event × σ) α := fun (events, s) =>
  let (result, s) := act.run s
  (result, (events ++ [.of call result], s))

/-- A driver that keeps a trace. -/
def traced (d : Driver σ) : Driver (List Event × σ) where
  dialect := d.dialect
  quote := d.quote
  query sql binds := trace (.query sql binds) (d.query sql binds)
  execute sql binds := trace (.execute sql binds) (d.execute sql binds)
  lastInsertId sequence := trace (.lastInsertId sequence) (d.lastInsertId sequence)
  begin := trace .begin d.begin
  commit := trace .commit d.commit
  rollback := trace .rollback d.rollback
  inTransaction s := d.inTransaction s.2
  columns table := trace (.columns table) (d.columns table)

theorem quoter_traced (d : Driver σ) : d.traced.quoter = d.quoter := rfl

end Driver

/-- The trace in the store of a database. -/
def Database.events {σ : Type} (db : Database (List Event × σ)) : List Event := db.store.1

/-- A call adds itself and its end to the trace. -/
theorem Database.events_call_trace {σ α : Type} (c : Call) (act : Action σ α) (db : Database (List Event × σ)) :
    (Database.call (Driver.trace c act) db).2.events =
      db.events ++ [.of c (Database.call (Driver.trace c act) db).1] := rfl

section Yields

variable {σ α β : Type}

/-- From every state, the operation adds calls to the trace that go with its result. -/
def Yields (op : StateM (Database (List Event × σ)) α) (P : α → List Event → Prop) : Prop :=
  ∀ db, ∃ events, (op db).2.events = db.events ++ events ∧ P (op db).1 events

namespace Yields

theorem mono {op : StateM (Database (List Event × σ)) α} {P Q : α → List Event → Prop} (h : Yields op P)
    (hPQ : ∀ a events, P a events → Q a events) : Yields op Q := by
  intro db
  obtain ⟨events, htrace, hP⟩ := h db
  exact ⟨events, htrace, hPQ _ _ hP⟩

theorem pure {a : α} {P : α → List Event → Prop} (h : P a []) :
    Yields (Pure.pure a : StateM (Database (List Event × σ)) α) P :=
  fun db => ⟨[], (List.append_nil db.events).symm, h⟩

theorem result {r : Except Error α} {P : Except Error α → List Event → Prop} (h : P r []) :
    Yields (Database.result r : Operation (List Event × σ) α) P :=
  fun db => ⟨[], (List.append_nil db.events).symm, h⟩

/-- A call leaves one event behind, the one of its result. -/
theorem call (c : Call) (act : Action σ α) {P : Except Error α → List Event → Prop}
    (h : ∀ r, P r [.of c r]) : Yields (Database.call (Driver.trace c act)) P := by
  intro db
  exact ⟨_, db.events_call_trace c act, h _⟩

/-- An operation after another: the calls of both, in order, unless the first one failed. -/
theorem bind {op : Operation (List Event × σ) α} {next : α → Operation (List Event × σ) β}
    {P : Except Error α → List Event → Prop} {Q : Except Error β → List Event → Prop} (h : Yields op P)
    (herror : ∀ e events, P (.error e) events → Q (.error e) events)
    (hok : ∀ a events, P (.ok a) events → Yields (next a) fun b later => Q b (events ++ later)) :
    Yields (op >>= next : Operation (List Event × σ) β) Q := by
  intro db
  obtain ⟨events, htrace, hP⟩ := h db
  rw [Operation.bind_apply]
  cases hop : op db with
  | mk result db' =>
    rw [hop] at htrace hP
    cases result with
    | error e => exact ⟨events, htrace, herror e events hP⟩
    | ok a =>
      obtain ⟨later, hlater, hQ⟩ := hok a events hP db'
      exact ⟨events ++ later, by rw [hlater, htrace, List.append_assoc], hQ⟩

/-- An operation after one that has no failure: the calls of both, in order. -/
theorem andThen {op : StateM (Database (List Event × σ)) α} {next : α → StateM (Database (List Event × σ)) β}
    {P : α → List Event → Prop} {Q : β → List Event → Prop} (h : Yields op P)
    (hnext : ∀ a events, P a events → Yields (next a) fun b later => Q b (events ++ later)) :
    Yields (op >>= next) Q := by
  intro db
  obtain ⟨events, htrace, hP⟩ := h db
  obtain ⟨later, hlater, hQ⟩ := hnext _ _ hP (op db).2
  exact ⟨events ++ later, by rw [← List.append_assoc, ← htrace]; exact hlater, hQ⟩

/-- Nothing but the result of an operation is changed by a function of it. -/
theorem map {op : Operation (List Event × σ) α} {f : α → β} {P : Except Error α → List Event → Prop}
    {Q : Except Error β → List Event → Prop} (h : Yields op P) (hPQ : ∀ r events, P r events → Q (r.map f) events) :
    Yields (ExceptT.map f op : Operation (List Event × σ) β) Q := by
  intro db
  obtain ⟨events, htrace, hP⟩ := h db
  rw [Operation.map_apply]
  exact ⟨events, htrace, hPQ _ _ hP⟩

/-- A check before an operation makes no call. -/
theorem result_bind {r : Except Error α} {next : α → Operation (List Event × σ) β}
    {P : Except Error β → List Event → Prop} (herror : ∀ e, r = .error e → P (.error e) [])
    (hok : ∀ a, r = .ok a → Yields (next a) P) :
    Yields (Database.result r >>= next : Operation (List Event × σ) β) P := by
  refine bind (P := fun r' events => r' = r ∧ events = []) (result ⟨rfl, rfl⟩) ?_ ?_
  · rintro e events ⟨h, rfl⟩
    exact herror e h.symm
  · rintro a events ⟨h, rfl⟩
    exact hok a h.symm

/-- A call before an operation: its event comes first, and is the only one if the call fails. -/
theorem call_bind (c : Call) (act : Action σ α) {next : α → Operation (List Event × σ) β}
    {P : Except Error β → List Event → Prop} (herror : ∀ e, P (.error e) [.failed c e])
    (hok : ∀ a, Yields (next a) fun b later => P b (.done c :: later)) :
    Yields (Database.call (Driver.trace c act) >>= next : Operation (List Event × σ) β) P := by
  refine bind (P := fun r events => events = [.of c r]) (call c act fun _ => rfl) ?_ ?_
  · rintro e events rfl
    exact herror e
  · rintro a events rfl
    exact hok a

end Yields

end Yields

end RecordMapper
