import RecordMapper.Driver.Scripted
import RecordMapper.Proofs.Model.Runs
import RecordMapper.Record.Save

/-!
# The runs of a save

Which calls saving a record makes, what comes of it and what becomes of the record, whichever of the calls fail.

* a save is an insert or an update of the record's row, or nothing (`SaveRun`, `yields_save`);
* it opens and ends no transaction (`SaveRun.not_bracket`).
-/

namespace RecordMapper

variable {σ : Type}

/-! ### Calls that bracket others -/

/-- Whether a call opens or ends a transaction. -/
def Call.isBracket : Call → Bool
  | .begin | .commit | .rollback => true
  | .query .. | .execute .. | .lastInsertId _ | .columns _ => false

namespace Model

theorem KeyRun.not_bracket {d : Dialect} {m : Model} {data : Assignments} {key : Value} {events : List Event}
    (h : KeyRun d m data key events) : ∀ e ∈ events, e.call.isBracket = false := by
  cases h with
  | own hkey => simp
  | reported hkey => simp [Event.done, Call.isBracket]

theorem StoredRun.not_bracket {q : Quoter} {m : Model} {data : Assignments} {result : Except Error Assignments}
    {events : List Event} (h : StoredRun q m data result events) : ∀ e ∈ events, e.call.isBracket = false := by
  cases h with
  | noKey hkey e => simp [Event.failed, Call.isBracket]
  | notAsked hkey hsql => exact hkey.not_bracket
  | notRead hkey hsql e => simpa [Event.failed, Call.isBracket, or_imp, forall_and] using hkey.not_bracket
  | read hkey hsql found => simpa [Event.done, Call.isBracket, or_imp, forall_and] using hkey.not_bracket

theorem InsertRun.not_bracket {q : Quoter} {m : Model} {data : Assignments} {result : Except Error Assignments}
    {events : List Event} (h : InsertRun q m data result events) : ∀ e ∈ events, e.call.isBracket = false := by
  cases h with
  | unwritable hpairs => simp
  | notInserted hpairs e => simp [Event.failed, Call.isBracket, insertCall]
  | inserted hpairs hlater => simpa [Event.done, Call.isBracket, insertCall] using hlater.not_bracket

theorem UpdateRun.not_bracket {q : Quoter} {m : Model} {changes values : Assignments}
    {result : Except Error (Option Nat)} {events : List Event} (h : UpdateRun q m changes values result events) :
    ∀ e ∈ events, e.call.isBracket = false := by
  cases h with
  | unwritable | nothing | notSent => simp
  | notUpdated => simp [Event.failed, Call.isBracket]
  | updated => simp [Event.done, Call.isBracket]

end Model

namespace Record

/-- The record with the values of a map placed in it. -/
def merged (r : Record) (values : Option Assignments) : Record :=
  match values with
  | some values => r.merge values
  | none => r

/-- The runs of saving a record as it is. -/
inductive SaveRun (q : Quoter) (r : Record) : Except Error SaveOutcome × Record → List Event → Prop where
  /-- There is nothing to write. -/
  | nothing : SaveRun q r (.ok .nothingToSave, r) []
  /-- The record belongs to no row, and the insert fails. -/
  | notInserted (h : r.isUnstored = true) {e : Error} {events : List Event}
      (hrun : r.model.InsertRun q r.data (.error e) events) : SaveRun q r (.error e, r) events
  /-- The record belongs to no row, and takes over the one inserted. -/
  | inserted (h : r.isUnstored = true) {stored : Assignments} {events : List Event}
      (hrun : r.model.InsertRun q r.data (.ok stored) events) : SaveRun q r (.ok .inserted, r.adopt stored) events
  /-- The record has no key to find its row by. -/
  | unkeyed (h : r.isUnstored = false) (hkey : r.storedKey? = none) : SaveRun q r (.ok .updated, r.snapshot) []
  /-- The update fails. -/
  | notUpdated (h : r.isUnstored = false) {key : Value} (hkey : r.storedKey? = some key) {e : Error}
      {events : List Event} (hrun : r.model.UpdateRun q r.changes (only r.model.primaryCol key) (.error e) events) :
    SaveRun q r (.error e, r) events
  /-- The changes are written. -/
  | updated (h : r.isUnstored = false) {key : Value} (hkey : r.storedKey? = some key) {n : Option Nat}
      {events : List Event} (hrun : r.model.UpdateRun q r.changes (only r.model.primaryCol key) (.ok n) events) :
    SaveRun q r (.ok .updated, r.snapshot) events

theorem SaveRun.not_bracket {q : Quoter} {r : Record} {result : Except Error SaveOutcome × Record}
    {events : List Event} (h : SaveRun q r result events) : ∀ e ∈ events, e.call.isBracket = false := by
  cases h with
  | nothing | unkeyed => simp
  | notInserted _ hrun | inserted _ hrun => exact hrun.not_bracket
  | notUpdated _ _ hrun | updated _ _ hrun => exact hrun.not_bracket

/-! ### The four ways of a save -/

section Ways

variable {d : Driver σ} {r : Record}

theorem saveSelf_of_empty (hdata : r.data.isEmpty = true) : r.saveSelf d = pure (.ok .nothingToSave, r) :=
  if_pos hdata

theorem saveSelf_of_unstored (hdata : r.data.isEmpty = false) (h : r.isUnstored = true) :
    r.saveSelf d = r.insertSelf d := by
  simp [saveSelf, hdata, h]

theorem saveSelf_of_unchanged (hdata : r.data.isEmpty = false) (h : r.isUnstored = false)
    (hchanges : r.changes.isEmpty = true) : r.saveSelf d = pure (.ok .nothingToSave, r) := by
  simp [saveSelf, hdata, h, hchanges]

theorem saveSelf_of_changed (hdata : r.data.isEmpty = false) (h : r.isUnstored = false)
    (hchanges : r.changes.isEmpty = false) : r.saveSelf d = r.updateSelf d := by
  simp [saveSelf, hdata, h, hchanges]

end Ways

/-- A record that belongs to a row has a key to find it by. -/
theorem exists_storedKey {r : Record} (h : r.isUnstored = false) : ∃ key, r.storedKey? = some key := by
  obtain ⟨-, hblank⟩ := Bool.or_eq_false_iff.1 h
  simp only [storedKey?]
  cases (r.initial.get? r.model.primaryCol).filter fun v => !v.isBlank with
  | some key => exact ⟨key, rfl⟩
  | none =>
    cases hdata : r.data.get? r.model.primaryCol with
    | none => simp [primaryKey, hdata, Value.isBlank] at hblank
    | some key =>
      have hkey : key.isBlank = false := by simpa [primaryKey, hdata] using hblank
      exact ⟨key, by simp [hkey]⟩

/-- The record after an insert: it has adopted the row, or is as it was. -/
def afterInsert (r : Record) : Except Error Assignments → Record
  | .ok stored => r.adopt stored
  | .error _ => r

/-- The record after an update: its data is the snapshot, or it is as it was. -/
def afterUpdate (r : Record) : Except Error (Option Nat) → Record
  | .ok _ => r.snapshot
  | .error _ => r

/-- A record is inserted as its data is, and then adopts the row. -/
theorem yields_insertSelf (d : Driver σ) (r : Record) :
    Yields (r.insertSelf d.traced) fun result events => ∃ answer, r.model.InsertRun d.quoter r.data answer events ∧
      result = (answer.map fun _ => .inserted, r.afterInsert answer) := by
  intro db
  obtain ⟨events, htrace, hrun⟩ := Model.yields_insert d r.model r.data db
  unfold insertSelf
  cases hinsert : r.model.insert d.traced r.data db with
  | mk result after =>
    rw [hinsert] at htrace hrun
    cases result with
    | error e => exact ⟨events, htrace, _, hrun, rfl⟩
    | ok stored => exact ⟨events, htrace, _, hrun, rfl⟩

/-- What differs is written to the row of the stored key. -/
theorem writeChanges_of_changed {d : Driver σ} {r : Record} (hchanges : r.changes.isEmpty = false) {key : Value}
    (hkey : r.storedKey? = some key) :
    r.writeChanges d r.model = (do
      return (← r.model.updateMatching d r.changes (only r.model.primaryCol key)).getD 0) := by
  have hchanged : ¬ r.changes.isEmpty = true := by rw [hchanges]; exact Bool.false_ne_true
  refine (if_neg hchanged).trans ?_
  split
  · rename_i hnone
    exact nomatch hnone.symm.trans hkey
  · rename_i hsome
    obtain rfl := Option.some.inj (hsome.symm.trans hkey)
    rfl

/-- Writing changes updates the row of the stored key. -/
theorem yields_writeChanges (d : Driver σ) {r : Record} (hchanges : r.changes.isEmpty = false) {key : Value}
    (hkey : r.storedKey? = some key) :
    Yields (r.writeChanges d.traced r.model) fun result events =>
      ∃ answer, r.model.UpdateRun d.quoter r.changes (only r.model.primaryCol key) answer events ∧
        result = answer.map fun n => n.getD 0 := by
  rw [writeChanges_of_changed hchanges hkey]
  refine (Model.yields_updateMatching d r.model r.changes (only r.model.primaryCol key)).bind ?_ ?_
  · exact fun e events h => ⟨_, h, rfl⟩
  · exact fun n events h => Yields.pure ⟨_, by rwa [List.append_nil], rfl⟩

/-- The row of a record is updated, and then its data is the snapshot. -/
theorem yields_updateSelf (d : Driver σ) {r : Record} (hchanges : r.changes.isEmpty = false) {key : Value}
    (hkey : r.storedKey? = some key) :
    Yields (r.updateSelf d.traced) fun result events =>
      ∃ answer, r.model.UpdateRun d.quoter r.changes (only r.model.primaryCol key) answer events ∧
        result = (answer.map fun _ => .updated, r.afterUpdate answer) := by
  intro db
  obtain ⟨events, htrace, answer, hrun, hresult⟩ := yields_writeChanges d hchanges hkey db
  unfold updateSelf
  cases hwrite : r.writeChanges d.traced r.model db with
  | mk result after =>
    rw [hwrite] at htrace hresult
    obtain rfl : result = answer.map fun n => n.getD 0 := hresult
    refine ⟨events, by cases answer <;> exact htrace, answer, hrun, ?_⟩
    cases answer <;> rfl

/-- What holds of each way of a save holds of the save: there is nothing to write, the record is inserted, or what
differs is updated by the stored key. -/
theorem yields_saveSelf_of_ways (d : Driver σ) {r : Record} {P : Except Error SaveOutcome × Record → List Event → Prop}
    (hnothing : r.data.isEmpty = true ∨ r.isUnstored = false ∧ r.changes.isEmpty = true → P (.ok .nothingToSave, r) [])
    (hinsert : r.data.isEmpty = false → r.isUnstored = true → ∀ answer events,
      r.model.InsertRun d.quoter r.data answer events → P (answer.map fun _ => .inserted, r.afterInsert answer) events)
    (hupdate : r.isUnstored = false → r.changes.isEmpty = false → ∀ key answer events, r.storedKey? = some key →
      r.model.UpdateRun d.quoter r.changes (only r.model.primaryCol key) answer events →
        P (answer.map fun _ => .updated, r.afterUpdate answer) events) :
    Yields (r.saveSelf d.traced) P := by
  cases hdata : r.data.isEmpty with
  | true =>
    rw [saveSelf_of_empty hdata]
    exact Yields.pure (hnothing (.inl hdata))
  | false =>
    cases h : r.isUnstored with
    | true =>
      rw [saveSelf_of_unstored hdata h]
      refine (yields_insertSelf d r).mono ?_
      rintro _ events ⟨answer, hrun, rfl⟩
      exact hinsert hdata h answer events hrun
    | false =>
      cases hchanges : r.changes.isEmpty with
      | true =>
        rw [saveSelf_of_unchanged hdata h hchanges]
        exact Yields.pure (hnothing (.inr ⟨h, hchanges⟩))
      | false =>
        obtain ⟨key, hkey⟩ := exists_storedKey h
        rw [saveSelf_of_changed hdata h hchanges]
        refine (yields_updateSelf d hchanges hkey).mono ?_
        rintro _ events ⟨answer, hrun, rfl⟩
        exact hupdate h hchanges key answer events hkey hrun

theorem yields_save (d : Driver σ) (r : Record) (values : Option Assignments) :
    Yields (r.save d.traced values) (SaveRun d.quoter (r.merged values)) := by
  have hself (r : Record) : Yields (r.saveSelf d.traced) (SaveRun d.quoter r) := by
    refine yields_saveSelf_of_ways d (fun _ => .nothing) ?_ ?_
    · intro _ h answer events hrun
      cases answer with
      | error e => exact .notInserted h hrun
      | ok stored => exact .inserted h hrun
    · intro h _ key answer events hkey hrun
      cases answer with
      | error e => exact .notUpdated h hkey hrun
      | ok n => exact .updated h hkey hrun
  cases values with
  | none => exact hself r
  | some values => exact hself (r.merge values)

/-! ### An example -/

namespace Example

/-- Posts with a key and a title. -/
def posts : Model :=
  Model.bind (.ofTable "posts")
    (.ofColumns "posts" [(Column.ofDeclaration "id" "INTEGER").asPrimaryKey false, .ofDeclaration "title" "TEXT"])

/-- A new post. -/
def draft : Record := { new posts .writable with data := only "title" (.text "a") }

/-- The insert of the post. -/
def insertDraft : Call := .execute "INSERT INTO posts (title) VALUES (?1)" [.text "a"]

/-- The query for the post of a key. -/
def selectPost (key : Value) : Call := .query "SELECT posts.* FROM posts WHERE id = ?1 LIMIT 1" [key]

/-- A database that answers from a script and keeps a trace. -/
def driver : Driver (List Event × Script × Bool) := (Driver.scripted .sqlite (Driver.idle .sqlite)).traced

/-- The database before any call. -/
def database (script : Script) : Database (List Event × Script × Bool) := { store := ([], script, false) }

/-- The error of a connection that is lost. -/
def lost : Error := .query .database "connection lost" none none

end Example

end Record

end RecordMapper
