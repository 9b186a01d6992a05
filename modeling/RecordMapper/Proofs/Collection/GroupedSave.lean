import RecordMapper.Proofs.Collection.Passes
import RecordMapper.Proofs.Model.BulkKeys

/-!
# Grouped saves that fail halfway

The new members of a collection are inserted together, by one statement for each list of columns.  When one of the
statements fails, all new members stay new and are reported, also those whose row is stored by a statement before it
(`grouped_save_still_new`).  Saving again stores these rows a second time (`grouped_save_stores_twice`).
-/

namespace RecordMapper.Collection

variable {σ : Type}

/-! ### Members that stay new -/

/-- Members that are inserted together are all adopted, or all stay as they are and are reported. -/
private theorem insertNew_still_new (d : Driver σ) (c : Collection) (hkeys : c.keys.Nodup)
    (hids : ∀ b ∈ c.statements, c.model.ReportsInteger d b) (db : Database (List Event × σ)) :
    let inserted := c.insertNew d.traced db
    ∃ done result sent later, inserted.2.events = db.events ++ sent ++ later ∧
      c.model.InsertManyRun d.dialect c.rowsToInsert done result sent ∧
      ∀ e ∈ c.toInsert, ∃ r, inserted.1.1.get? e.1 = some r ∧ (r.isNew = true ↔ ∃ error, result = .error error) ∧
        (r.isNew = true → r = e.2 ∧ e.1 ∈ inserted.1.2) := by
  intro inserted
  by_cases hne : c.toInsert = []
  · have hinserted : inserted = ((c, []), db) := insertNew_nothing hne db
    have hrows : c.rowsToInsert = [] := by rw [rowsToInsert, hne, List.map_nil]
    rw [hinserted, hrows, hne]
    exact ⟨[], .ok [], [], [], by simp, .sent (.inserted [] []), fun e he => absurd he List.not_mem_nil⟩
  · obtain ⟨sent, hsent, done, hrun⟩ := Model.yields_insertMany d c.model c.rowsToInsert db
    cases hmany : c.model.insertMany d.traced c.rowsToInsert db with
    | mk result after =>
      rw [hmany] at hsent hrun
      cases result with
      | error error =>
        have hinserted : inserted = ((c, c.toInsert.map Prod.fst), after) := insertNew_failed hne hmany
        rw [hinserted]
        refine ⟨done, _, sent, [], by rw [List.append_nil]; exact hsent, hrun, fun e he => ?_⟩
        refine ⟨e.2, get?_of_mem_toInsert hkeys he, ?_, fun _ => ⟨rfl, List.mem_map_of_mem he⟩⟩
        exact ⟨fun _ => ⟨error, rfl⟩, fun _ => isNew_of_mem_toInsert he⟩
      | ok keys =>
        have hinserted := insertNew_inserted hne hmany
        have hlength := Model.length_insertMany hmany
        have hknown := Model.insertMany_known (fun b hb => (hids b hb).traced) hmany
        obtain ⟨-, hadopted⟩ := adoptInserted_known c (readBack d.traced c.model keys after).1
          (nodup_keyed hkeys hlength) fun e he => (hknown e.2 (List.of_mem_zip he).2).1
        obtain ⟨later, hlater, -⟩ := yields_readBack d c.model keys after
        refine ⟨done, _, sent, later, ?_, hrun, fun e he => ?_⟩
        · show (c.insertNew d.traced db).2.events = _
          rw [hinserted, ← hsent]
          exact hlater
        · obtain ⟨⟨_, k⟩, hk, rfl⟩ := List.mem_map.1 (map_fst_keyed hlength ▸ List.mem_map_of_mem (f := Prod.fst) he)
          obtain ⟨t, ht⟩ := Option.isSome_iff_exists.1 (hknown k (List.of_mem_zip hk).2).1
          obtain ⟨row, hrow, -⟩ := hadopted _ hk e.2 t (get?_of_mem_toInsert hkeys he) ht
          have hold : (e.2.adopt row).isNew = false := rfl
          refine ⟨e.2.adopt row, ?_, by simp [hold], by simp [hold]⟩
          show (c.insertNew d.traced db).1.1.get? e.1 = _
          rw [hinserted]
          exact hrow

/-- Every statement that is done has carried a member. -/
private theorem exists_carried {c : Collection} {done : List Model.Batch} (hdone : done ⊆ c.statements)
    {b : Model.Batch} (hb : b ∈ done) : ∃ place e, c.toInsert[place]? = some e ∧ place ∈ b.placed.map Prod.snd := by
  obtain ⟨row, hrow⟩ := List.exists_mem_of_ne_nil _ (Model.isFilled_inserts b (hdone hb)).nonempty
  have hplaced : (b.1.zip row.2, row.1) ∈ b.placed := List.mem_map_of_mem hrow
  have hmem := (Model.placed_inserts _).subset (List.mem_flatMap.2 ⟨b, hdone hb, hplaced⟩)
  have hbound := (List.mem_zipIdx' hmem).1
  rw [List.length_map, rowsToInsert, List.length_map] at hbound
  exact ⟨row.1, _, List.getElem?_eq_getElem hbound, List.mem_map_of_mem hplaced⟩

/-- When members stay new as soon as a statement fails, none of them is carried exactly if no statement is done. -/
private theorem not_carried_iff {c after : Collection} {done : List Model.Batch} (hdone : done ⊆ c.statements)
    {result : Except Error (List Value)}
    (hmembers : ∀ e ∈ c.toInsert, ∃ r, after.get? e.1 = some r ∧ (r.isNew = true ↔ ∃ error, result = .error error)) :
    (∀ place e r, c.toInsert[place]? = some e → after.get? e.1 = some r → r.isNew = true →
        ∀ b ∈ done, place ∉ b.placed.map Prod.snd) ↔
      done = [] ∨ ∃ keys, result = .ok keys := by
  constructor
  · intro hcarried
    cases result with
    | ok keys => exact .inr ⟨keys, rfl⟩
    | error error =>
      refine .inl (List.eq_nil_iff_forall_not_mem.2 fun b hb => ?_)
      obtain ⟨place, e, he, hplace⟩ := exists_carried hdone hb
      obtain ⟨r, hr, hnew⟩ := hmembers e (List.mem_of_getElem? he)
      exact hcarried place e r he hr (hnew.2 ⟨error, rfl⟩) b hb hplace
  · rintro (rfl | ⟨keys, rfl⟩) place e r he hr hisNew b hb
    · exact absurd hb List.not_mem_nil
    · obtain ⟨r', hr', hnew⟩ := hmembers e (List.mem_of_getElem? he)
      obtain rfl := Option.some.inj (hr.symm.trans hr')
      obtain ⟨error, herror⟩ := hnew.1 hisNew
      cases herror

/--
A grouped save that is not refused, over a driver that reports integer keys and fails as it likes.  After the pass over
the members the new ones are inserted together; a member is still new afterwards exactly when this has failed, and then
it is reported.  That no such member was carried by a statement that is done holds only if there is no such statement.
-/
theorem grouped_save_still_new (d : Driver σ) (c : Collection) (hkeys : c.keys.Nodup)
    (hids : ∀ b ∈ c.statements, c.model.ReportsInteger d b) (db : Database (List Event × σ)) {outcome : BulkOutcome}
    (h : (c.saveAll d.traced true db).1.1 = .ok outcome) :
    let saved := c.saveAll d.traced true db
    ∃ pass done result sent later, saved.2.events = db.events ++ pass ++ sent ++ later ∧
      c.model.InsertManyRun d.dialect c.rowsToInsert done result sent ∧
      (∀ e ∈ c.toInsert, ∃ r, saved.1.2.get? e.1 = some r ∧ (r.isNew = true ↔ ∃ error, result = .error error) ∧
        (r.isNew = true → r = e.2 ∧ e.1 ∈ outcome.failures)) ∧
      ((∀ place e r, c.toInsert[place]? = some e → saved.1.2.get? e.1 = some r → r.isNew = true →
          ∀ b ∈ done, place ∉ b.placed.map Prod.snd) ↔
        done = [] ∨ ∃ keys, result = .ok keys) := by
  intro saved
  obtain ⟨houtcome, hsaved⟩ := saveAll_grouped h
  obtain ⟨pass, hpass, -⟩ := yields_saveMembers true (P := fun _ => True)
    (fun e _ => (Record.yields_save d e.2 none).mono fun _ _ _ _ _ => trivial) db
  have hpassedKeys : (c.passed d.traced db).keys.Nodup := by rwa [keys_passed]
  obtain ⟨done, result, sent, later, hsent, hrun, hmembers⟩ :=
    insertNew_still_new d (c.passed d.traced db) hpassedKeys (statements_passed c d.traced db ▸ hids)
      (saveMembers d.traced true c.members db).2
  rw [toInsert_passed] at hmembers
  rw [rowsToInsert_passed] at hrun
  have hmembers : ∀ e ∈ c.toInsert, ∃ r, saved.1.2.get? e.1 = some r ∧
      (r.isNew = true ↔ ∃ error, result = .error error) ∧
        (r.isNew = true → r = e.2 ∧ e.1 ∈ outcome.failures) := by
    intro e he
    obtain ⟨r, hr, hnew, hreported⟩ := hmembers e he
    refine ⟨r, ?_, hnew, fun h => ⟨(hreported h).1, ?_⟩⟩
    · show (c.saveAll d.traced true db).1.2.get? e.1 = _
      rw [hsaved]
      exact hr
    · rw [houtcome, BulkOutcome.failures_ofFailures]
      exact List.mem_append_right _ (hreported h).2
  refine ⟨pass, done, result, sent, later, ?_, hrun, hmembers, ?_⟩
  · show (c.saveAll d.traced true db).2.events = _
    rw [hsaved, ← hpass]
    exact hsent
  · have hdone : done ⊆ c.statements := hrun.done_subset
    refine not_carried_iff hdone fun e he => ?_
    obtain ⟨r, hr, hnew, -⟩ := hmembers e he
    exact ⟨r, hr, hnew⟩

/-! ### An example -/

namespace Example

open Model.Example

/-- A new note. -/
def newNote (data : Assignments) : Record := { Record.new notes .writable with data }

/-- Two new notes, the second of which has a body as well. -/
def twoNotes : Collection :=
  { model := notes, access := .writable, nextIndex := 2
    members :=
      [(.index 0, newNote (.ofList [("title", .text "a")])),
        (.index 1, newNote (.ofList [("title", .text "b"), ("body", .text "c")]))] }

/-- A database that only inserts a note with nothing but a title. -/
def titlesOnly : Driver (List (Value × Row)) :=
  oneTable notes (fun _ _ => false) [(["title"], [(0, [.text "a"])])] []

theorem titlesOnly_reportsInteger (b : Model.Batch) : notes.ReportsInteger titlesOnly b := by
  intro s affected s' _ _ v s'' hasked
  obtain rfl := Except.ok.inj (Prod.mk.inj hasked).1
  rfl

/-- The database before any call. -/
def emptyTable : Database (List Event × List (Value × Row)) := { store := ([], []) }

/-- The insert of the first note. -/
def insertTitle : Call := .execute "INSERT INTO notes (title) VALUES (?1)" [.text "a"]

/-- The insert of the second note. -/
def insertBoth : Call := .execute "INSERT INTO notes (title, body) VALUES (?1, ?2)" [.text "b", .text "c"]

end Example

open Example Model.Example in
/-- The second statement fails. -/
theorem grouped_save_still_new_twoShapes :
    let saved := twoNotes.saveAll titlesOnly.traced true emptyTable
    twoNotes.keys.Nodup ∧ (∀ b ∈ twoNotes.statements, notes.ReportsInteger titlesOnly b) ∧
      saved.1.1 = .ok (.failed [.index 0, .index 1]) ∧
      ∃ done error sent, notes.InsertManyRun .sqlite (twoNotes.toInsert.map fun e => e.2.data) done (.error error) sent ∧
        ∀ e ∈ twoNotes.toInsert, saved.1.2.get? e.1 = some e.2 := by
  intro saved
  have hkeys : twoNotes.keys.Nodup := by decide
  have houtcome : saved.1.1 = .ok (.failed [.index 0, .index 1]) := rfl
  obtain ⟨pass, done, result, sent, later, -, hrun, hmembers, -⟩ :=
    grouped_save_still_new titlesOnly twoNotes hkeys (fun b _ => titlesOnly_reportsInteger b) emptyTable houtcome
  have hfirst : (MemberKey.index 0, newNote (.ofList [("title", .text "a")])) ∈ twoNotes.toInsert := List.mem_cons_self
  obtain ⟨r, hr, hnew, -⟩ := hmembers _ hfirst
  have hstays : saved.1.2.get? (.index 0) = some (newNote (.ofList [("title", .text "a")])) := rfl
  obtain rfl := Option.some.inj (hstays.symm.trans hr)
  obtain ⟨error, rfl⟩ := hnew.1 rfl
  refine ⟨hkeys, fun b _ => titlesOnly_reportsInteger b, houtcome, done, error, sent, hrun, fun e he => ?_⟩
  obtain ⟨r, hr, hnew, hsame⟩ := hmembers e he
  rw [hr, (hsame (hnew.2 ⟨error, rfl⟩)).1]

open Example Model.Example in
/-- The first note is stored and stays new all the same; when the collection is saved again, it is stored twice. -/
theorem grouped_save_stores_twice :
    let first := twoNotes.saveAll titlesOnly.traced true emptyTable
    let second := first.1.2.saveAll titlesOnly.traced true first.2
    (∀ b ∈ twoNotes.statements, notes.ReportsInteger titlesOnly b) ∧
      first.2.events = [.done insertTitle, .done (.lastInsertId none),
        .failed insertBoth (.query .sqlGrammar "unknown statement" none none)] ∧
      first.1.1 = .ok (.failed [.index 0, .index 1]) ∧
      (first.1.2.get? (.index 0)).map Record.isNew = some true ∧
      first.2.store.2 = [entryOf notes (.bigint 1) [("title", .text "a")]] ∧
      second.2.store.2 =
        [entryOf notes (.bigint 1) [("title", .text "a")], entryOf notes (.bigint 2) [("title", .text "a")]] :=
  ⟨fun b _ => titlesOnly_reportsInteger b, rfl, rfl, rfl, rfl, rfl⟩

end RecordMapper.Collection
