import RecordMapper.Proofs.Record.Transaction
import RecordMapper.Proofs.Relation.Attached
import RecordMapper.Proofs.Relation.Calls

/-!
# Records in use

A record is made new, or of a fetched row, and then used by any sequence of operations, while the database that they
run on changes in whatever way between them.

* `Step` are the operations, and `Reachable` the records that they lead to;
* looking a name up and loading relations only read (`yields_get`, `Relation.yields_load`), and change a record at most
  by a column that is filled in or by what is attached (`get_record`, `loadRelation_record`).
-/

namespace RecordMapper

variable {σ α : Type}

/-! ### Reading -/

/-- Whether a call runs a statement that gives no rows. -/
def Call.isExecute : Call → Bool
  | .execute .. => true
  | .begin | .commit | .rollback | .query .. | .lastInsertId _ | .columns _ => false

/-- No call runs a statement that gives no rows. -/
def OnlyReads (events : List Event) : Prop :=
  ∀ e ∈ events, e.call.isExecute = false

namespace OnlyReads

theorem nil : OnlyReads [] :=
  fun _ h => absurd h List.not_mem_nil

theorem of_call {c : Call} (h : c.isExecute = false) {ending : Except Error Unit} : OnlyReads [⟨c, ending⟩] := by
  intro e he
  rw [List.mem_singleton.1 he]
  exact h

theorem append {events later : List Event} (h : OnlyReads events) (hlater : OnlyReads later) :
    OnlyReads (events ++ later) := by
  intro e he
  exact (List.mem_append.1 he).elim (h e) (hlater e)

end OnlyReads

namespace Model

theorem QueryRun.onlyReads {q : Quoter} {s : Select} {result : Except Error (List Row)} {events : List Event}
    (h : QueryRun q s result events) : OnlyReads events := by
  cases h with
  | faulty => exact .nil
  | sent => exact .of_call rfl

theorem KeyRun.onlyReads {d : Dialect} {m : Model} {data : Assignments} {key : Value} {events : List Event}
    (h : KeyRun d m data key events) : OnlyReads events := by
  cases h with
  | own => exact .nil
  | reported => exact .of_call rfl

theorem StoredRun.onlyReads {q : Quoter} {m : Model} {data : Assignments} {result : Except Error Assignments}
    {events : List Event} (h : StoredRun q m data result events) : OnlyReads events := by
  cases h with
  | noKey => exact .of_call rfl
  | notAsked hkey => exact hkey.onlyReads
  | notRead hkey | read hkey => exact hkey.onlyReads.append (.of_call rfl)

/-! ### Writing -/

/-- Of the calls of an insert, only its own statement writes. -/
theorem InsertRun.of_isExecute {q : Quoter} {m : Model} {data : Assignments} {result : Except Error Assignments}
    {events : List Event} (h : InsertRun q m data result events) {e : Event} (he : e ∈ events)
    (hexecute : e.call.isExecute = true) :
    ∃ pairs, m.writable data.toList = .ok pairs ∧ e.call = m.insertCall q.dialect pairs := by
  cases h with
  | unwritable => exact absurd he List.not_mem_nil
  | notInserted hpairs =>
    obtain rfl := List.mem_singleton.1 he
    exact ⟨_, hpairs, rfl⟩
  | inserted hpairs hlater =>
    rcases List.mem_cons.1 he with rfl | he
    · exact ⟨_, hpairs, rfl⟩
    · exact nomatch (hlater.onlyReads e he).symm.trans hexecute

theorem UpdateRun.of_mem {q : Quoter} {m : Model} {changes values : Assignments}
    {result : Except Error (Option Nat)} {events : List Event} (h : UpdateRun q m changes values result events)
    {e : Event} (he : e ∈ events) :
    ∃ pairs sql, m.writable changes.toList = .ok pairs ∧ m.updateSql q pairs values = .ok sql ∧
      e.call = .execute sql.text sql.binds := by
  cases h with
  | unwritable | nothing | notSent => exact absurd he List.not_mem_nil
  | notUpdated hpairs _ hsql | updated hpairs _ hsql =>
    obtain rfl := List.mem_singleton.1 he
    exact ⟨_, _, hpairs, hsql, rfl⟩

theorem DeleteRun.of_mem {q : Quoter} {m : Model} {values : Assignments} {result : Except Error (Option Nat)}
    {events : List Event} (h : DeleteRun q m values result events) {e : Event} (he : e ∈ events) :
    ∃ sql, values.isEmpty = false ∧ m.deleteSql q values = .ok sql ∧ e.call = .execute sql.text sql.binds := by
  cases h with
  | nothing | notSent => exact absurd he List.not_mem_nil
  | sent hne hsql =>
    obtain rfl := List.mem_singleton.1 he
    exact ⟨_, hne, hsql, rfl⟩

end Model

/-! ### Loading relations -/

theorem Call.Asks.isExecute {c : Call} (h : c.Asks) : c.isExecute = false := by
  cases h <;> rfl

/-- What only asks only reads. -/
theorem OnlyAsks.onlyReads {events : List Event} (h : OnlyAsks events) : OnlyReads events :=
  fun e he => (h e he).isExecute

namespace Relation

/-- Loading a relation only reads. -/
theorem yields_load [Parent α] (d : Driver σ) (r : Relation) (name : String) (parents : List α) (wrap : Option Bool) :
    Yields (r.load d.traced name parents wrap) fun _ events => OnlyReads events :=
  (yields_load_calls d r name parents wrap).mono fun _ _ h => h.asks.onlyReads

end Relation

theorem Model.yields_loadRelation [Parent α] (d : Driver σ) (m : Model) (parents : List α) (name : String)
    (wrap : Option Bool) : Yields (m.loadRelation d.traced parents name wrap) fun _ events => OnlyReads events :=
  (m.yields_loadRelation_asks d parents name wrap).mono fun _ _ h => h.onlyReads

namespace Record

/-- The row of a record is deleted by its stored key; without one, nothing is sent. -/
theorem yields_deleteRow (d : Driver σ) (m : Model) (r : Record) :
    Yields (r.deleteRow d.traced m) fun _ events => events = [] ∨ ∃ key answer,
      { r with model := m }.storedKey? = some key ∧ m.DeleteRun d.quoter (only m.primaryCol key) answer events := by
  unfold deleteRow
  split
  · exact Yields.pure (.inl rfl)
  · rename_i key hkey
    refine (Model.yields_deleteMatching d m (only m.primaryCol key)).bind ?_ ?_
    · exact fun e events h => .inr ⟨key, _, hkey, h⟩
    · exact fun n events h => Yields.pure (.inr ⟨key, _, hkey, by rwa [List.append_nil]⟩)

/-! ### Operations -/

/-- An operation on a record. -/
inductive Step where
  | set (name : String) (v : Value)
  | unset (name : String)
  | load (values : Assignments)
  | loadColumns (values : Assignments) (cols : List String)
  | get (name : String)
  | attach (name : String) (related : Related)
  /-- A relation of a model is loaded onto the record and others. -/
  | loadRelation (m : Model) (before after : List Record) (name : String) (wrap : Option Bool)
  | save (values : Option Assignments)
  | saveInTransaction (values : Option Assignments)
  /-- A row is taken over that was inserted along with others. -/
  | adopt (stored : Assignments)
  | delete (clear : Bool)
  | markNew
  | markNotNew
  | reset

/-- The record after an operation, whether it fails or not. -/
def Step.run (d : Driver σ) (r : Record) : Step → StateM (Database σ) Record
  | .set name v => pure (r.place name v)
  | .unset name => pure (r.unset name)
  | .load values => pure (r.load values)
  | .loadColumns values cols => pure (r.loadColumns values cols)
  | .get name => Prod.snd <$> r.get d name
  | .attach name related => pure (r.attach name related)
  | .loadRelation m before after name wrap => fun db =>
    match m.loadRelation d (before ++ r :: after) name wrap db with
    | (.ok loaded, db) => (loaded.getD before.length r, db)
    | (.error _, db) => (r, db)
  | .save values => Prod.snd <$> r.save d values
  | .saveInTransaction values => Prod.snd <$> r.saveInTransaction d values
  | .adopt stored => pure (r.adopt stored)
  | .delete clear => Prod.snd <$> r.delete d clear
  | .markNew => pure { r with isNew := true }
  | .markNotNew => pure { r with isNew := false }
  | .reset => pure r.reset

/-- The records of a model that any sequence of operations leads to, on whatever databases they run. -/
inductive Reachable (d : Driver σ) (m : Model) : Record → Prop where
  | new (access : Access) : Reachable d m (.new m access)
  | ofRow (access : Access) (row : Assignments) : Reachable d m (.ofRow m access row)
  | step {r : Record} (h : Reachable d m r) (s : Step) (db : Database σ) : Reachable d m (s.run d r db).1

/-! ### What reading does to a record -/

theorem place_of_column {r : Record} {name : String} {v : Value} (h : r.model.hasColumn name = true) :
    r.place name v = { r with data := r.data.insert name v } :=
  if_pos h

/-- Looking a name up leaves the record as it is, fills in a column, or attaches what was loaded. -/
theorem get_record (d : Driver σ) (r : Record) (name : String) (db : Database σ) :
    (r.get d name db).1.2 = r ∨
      (r.model.hasColumn name = true ∧ (r.get d name db).1.2 = { r with data := r.data.insert name .null }) ∨
      ∃ name' related, (r.get d name db).1.2 = r.attach name' related := by
  have hpure {p : Except Error Property × Record} : (pure p : StateM (Database σ) _) db = (p, db) := rfl
  by_cases hheld : r.holds name = true
  · exact .inl (by simp [get, hheld, hpure])
  cases hcol : r.model.hasColumn name with
  | true => exact .inr (.inl ⟨rfl, by simp [get, hheld, hcol, hpure]⟩)
  | false =>
    cases hrelation : r.model.relation? name with
    | none => exact .inl (by simp [get, hheld, hcol, hrelation, hpure])
    | some relation =>
      cases hdata : r.data.isEmpty with
      | true => exact .inl (by simp [get, hheld, hcol, hrelation, hdata, hpure])
      | false =>
        cases hload : relation.load d name [r] none db with
        | mk result after =>
          cases result with
          | error e => exact .inl (by simp [get, hheld, hcol, hrelation, hdata, hload])
          | ok loaded =>
            obtain ⟨related, rfl⟩ := Relation.load_attaches hload
            exact .inr (.inr ⟨relation.attachedName name [r], related r,
              by simp [get, hheld, hcol, hrelation, hdata, hload, Parent.attach]⟩)

/-- Loading a relation leaves the record as it is, or attaches what was loaded. -/
theorem loadRelation_record (d : Driver σ) (r : Record) (m : Model) (before after : List Record) (name : String)
    (wrap : Option Bool) (db : Database σ) :
    let loaded := ((Step.loadRelation m before after name wrap).run d r db).1
    loaded = r ∨ ∃ name' related, loaded = r.attach name' related := by
  dsimp only [Step.run]
  cases hload : m.loadRelation d (before ++ r :: after) name wrap db with
  | mk result ended =>
    cases result with
    | error e => exact .inl rfl
    | ok loaded =>
      obtain ⟨f, rfl, hf⟩ := Relation.loadRelation_eq_map hload
      have hloaded : ((before ++ r :: after).map f).getD before.length r = f r := by simp
      dsimp only
      rw [hloaded]
      exact hf r

/-- Looking a name up only asks. -/
theorem yields_get_asks (d : Driver σ) (r : Record) (name : String) :
    Yields (r.get d.traced name) fun _ events => OnlyAsks events := by
  unfold get
  split
  · exact Yields.pure .nil
  · split
    · exact Yields.pure .nil
    · split
      · exact Yields.pure .nil
      · rename_i relation _
        split
        · exact Yields.pure .nil
        · intro db
          obtain ⟨events, htrace, h⟩ := Relation.yields_load_calls d relation name [r] none db
          refine ⟨events, Eq.trans ?_ htrace, h.asks⟩
          dsimp only
          generalize relation.load d.traced name [r] none db = answer
          obtain ⟨_ | _, after⟩ := answer <;> rfl

/-- Looking a name up only reads. -/
theorem yields_get (d : Driver σ) (r : Record) (name : String) :
    Yields (r.get d.traced name) fun _ events => OnlyReads events :=
  (yields_get_asks d r name).mono fun _ _ h => h.onlyReads

end Record

end RecordMapper
