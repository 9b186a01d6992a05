import Mathlib.Data.List.Forall2
import RecordMapper.Proofs.Collection.Writable
import RecordMapper.Proofs.Model.Batches

/-!
# The members in a grouped save

A grouped save passes over the members and then inserts the new ones together.

* the pass leaves new members as they are and makes no other one new, so the members to insert stay the same
  (`saveMembers_grouped`, `toInsert_passed`);
* each member that was inserted under a known key adopts a row: the one that was read back under the text of its key, if
  no other key has that text, or what it wrote itself (`adoptInserted_known`).
-/

namespace RecordMapper

/-- The keys of the members that an operation failed for. -/
def BulkOutcome.failures : BulkOutcome → List MemberKey
  | .allSucceeded => []
  | .failed keys => keys

theorem BulkOutcome.failures_ofFailures (keys : List MemberKey) : (ofFailures keys).failures = keys := by
  cases keys <;> rfl

namespace Collection

variable {σ : Type}

theorem get?_replace (c : Collection) (key other : MemberKey) (r : Record) :
    (c.replace key r).get? other = if key = other then some r else c.get? other :=
  Entries.find?_put

/-! ### The pass over the members -/

/-- What becomes of a member in the pass of a grouped save: a new one stays, any other one is not new afterwards. -/
structure Passed (before after : MemberKey × Record) : Prop where
  key : after.1 = before.1
  new : before.2.isNew = true → after.2 = before.2
  old : before.2.isNew = false → after.2.isNew = false

theorem saveMembers_grouped (d : Driver σ) (members : List (MemberKey × Record)) (db : Database σ) :
    List.Forall₂ Passed members (saveMembers d true members db).1.members := by
  induction members generalizing db with
  | nil => exact .nil
  | cons member members ih =>
    obtain ⟨key, r⟩ := member
    cases hnew : r.isNew with
    | true =>
      rw [saveMembers_skipped d true members db hnew]
      exact .cons { key := rfl, new := fun _ => rfl, old := id } (ih db)
    | false =>
      rw [saveMembers_saved d true members db hnew]
      refine .cons { key := rfl, new := fun h => ?_, old := fun _ => Record.save_isNew d hnew db } (ih _)
      exact nomatch hnew.symm.trans h

private theorem filter_passed {before after : List (MemberKey × Record)} (h : List.Forall₂ Passed before after) :
    (after.filter fun e => e.2.isNew && !e.2.data.isEmpty) = before.filter fun e => e.2.isNew && !e.2.data.isEmpty := by
  induction h with
  | nil => rfl
  | @cons e e' before after hpassed _ ih =>
    cases hisNew : e.2.isNew with
    | true =>
      have hsame : e' = e := Prod.ext hpassed.key (hpassed.new hisNew)
      rw [hsame, List.filter_cons, List.filter_cons, ih]
    | false =>
      rw [List.filter_cons, List.filter_cons, ih, hisNew, hpassed.old hisNew]
      rfl

/-- The collection after the pass. -/
def passed (c : Collection) (d : Driver σ) (db : Database σ) : Collection :=
  { c with members := (saveMembers d true c.members db).1.members }

theorem toInsert_passed (c : Collection) (d : Driver σ) (db : Database σ) : (c.passed d db).toInsert = c.toInsert :=
  filter_passed (saveMembers_grouped d c.members db)

theorem keys_passed (c : Collection) (d : Driver σ) (db : Database σ) : (c.passed d db).keys = c.keys := by
  have h := (saveMembers_grouped d c.members db).imp fun _ _ hpassed => hpassed.key.symm
  have hkeys : List.Forall₂ (· = ·) c.keys (c.passed d db).keys :=
    List.forall₂_map_left_iff.2 (List.forall₂_map_right_iff.2 h)
  rw [List.forall₂_eq_eq_eq] at hkeys
  exact hkeys.symm

theorem nodup_toInsert {c : Collection} (hkeys : c.keys.Nodup) : (c.toInsert.map Prod.fst).Nodup :=
  hkeys.sublist (List.filter_sublist.map Prod.fst)

theorem get?_of_mem_toInsert {c : Collection} (hkeys : c.keys.Nodup) {e : MemberKey × Record} (he : e ∈ c.toInsert) :
    c.get? e.1 = some e.2 :=
  (Entries.find?_eq_some_iff hkeys).2 (List.mem_of_mem_filter he)

theorem isNew_of_mem_toInsert {c : Collection} {e : MemberKey × Record} (he : e ∈ c.toInsert) : e.2.isNew = true :=
  (Bool.and_eq_true_iff.1 (List.mem_filter.1 he).2).1

/-- A save without grouping that is not refused passes over the members. -/
theorem saveAll_alone {d : Driver σ} {c : Collection} (h : c.Accepted false) (db : Database σ) :
    let pass := saveMembers d false c.members db
    c.saveAll d false db = ((.ok (.ofFailures pass.1.failed), { c with members := pass.1.members }), pass.2) := by
  intro pass
  have hrun : c.saveAll d false db =
      ((.ok (.ofFailures (pass.1.failed ++ [])), { c with members := pass.1.members }), pass.2) :=
    congrFun (saveAll_of_accepted h) db
  rwa [List.append_nil] at hrun

/-- A grouped save that is not refused passes over the members and inserts the new ones. -/
theorem saveAll_grouped {d : Driver σ} {c : Collection} {db : Database σ} {outcome : BulkOutcome}
    (h : (c.saveAll d true db).1.1 = .ok outcome) :
    let pass := saveMembers d true c.members db
    let inserted := (c.passed d db).insertNew d pass.2
    outcome = .ofFailures (pass.1.failed ++ inserted.1.2) ∧
      c.saveAll d true db = ((.ok outcome, inserted.1.1), inserted.2) := by
  intro pass inserted
  have haccepted := accepted_of_saveAll h
  rw [saveAll_of_accepted haccepted] at h ⊢
  obtain rfl := Except.ok.inj h
  exact ⟨rfl, rfl⟩

/-! ### Inserting new members -/

/-- The rows that a grouped insert writes. -/
def rowsToInsert (c : Collection) : List Assignments :=
  c.toInsert.map fun e => e.2.data

/-- The statements of a grouped insert. -/
def statements (c : Collection) : List Model.Batch :=
  Model.inserts (c.rowsToInsert.map c.model.writtenCells)

theorem rowsToInsert_passed (c : Collection) (d : Driver σ) (db : Database σ) :
    (c.passed d db).rowsToInsert = c.rowsToInsert := by
  rw [rowsToInsert, toInsert_passed, rowsToInsert]

theorem statements_passed (c : Collection) (d : Driver σ) (db : Database σ) :
    (c.passed d db).statements = c.statements := by
  rw [statements, rowsToInsert_passed]
  rfl

/-- Every member that is inserted gets a key. -/
theorem map_fst_keyed {c : Collection} {keys : List Value} (h : keys.length = c.rowsToInsert.length) :
    ((c.toInsert.map Prod.fst).zip keys).map Prod.fst = c.toInsert.map Prod.fst := by
  refine List.map_fst_zip (Nat.le_of_eq ?_)
  rw [h, rowsToInsert, List.length_map, List.length_map]

theorem nodup_keyed {c : Collection} (hkeys : c.keys.Nodup) {keys : List Value}
    (h : keys.length = c.rowsToInsert.length) : (((c.toInsert.map Prod.fst).zip keys).map Prod.fst).Nodup := by
  rw [map_fst_keyed h]
  exact nodup_toInsert hkeys

theorem insertNew_nothing {d : Driver σ} {c : Collection} (h : c.toInsert = []) (db : Database σ) :
    c.insertNew d db = ((c, []), db) := by
  unfold insertNew
  rw [h]
  rfl

theorem insertNew_failed {d : Driver σ} {c : Collection} (hne : c.toInsert ≠ []) {e : Error} {db db' : Database σ}
    (h : c.model.insertMany d c.rowsToInsert db = (.error e, db')) :
    c.insertNew d db = ((c, c.toInsert.map Prod.fst), db') := by
  rw [rowsToInsert] at h
  unfold insertNew
  simp only [List.isEmpty_iff, hne, if_false, h]

theorem insertNew_inserted {d : Driver σ} {c : Collection} (hne : c.toInsert ≠ []) {keys : List Value}
    {db db' : Database σ} (h : c.model.insertMany d c.rowsToInsert db = (.ok keys, db')) :
    c.insertNew d db =
      (c.adoptInserted (readBack d c.model keys db').1 ((c.toInsert.map Prod.fst).zip keys),
        (readBack d c.model keys db').2) := by
  rw [rowsToInsert] at h
  unfold insertNew
  simp only [List.isEmpty_iff, hne, if_false, h]
  rfl

/-! ### Adopting inserted rows -/

/-- Rows under the texts of their keys; of rows with one text, the last one. -/
def rowsByKey (m : Model) (rows : List Assignments) : List (String × Assignments) :=
  Entries.ofList (rows.filterMap fun row => ((row.get? m.primaryCol).bind Value.keyText?).map fun k => (k, row))

theorem readBack_apply {d : Driver σ} {m : Model} {keys : List Value} {known : List Value}
    (hknown : keys.filter (fun v => !v.isBlank) = known) (hne : known ≠ []) (db : Database σ) :
    readBack d m keys db =
      (match (m.fetchRows d (fetchOfKeys m known) db).1 with
        | .ok rows => rowsByKey m rows
        | .error _ => [], (m.fetchRows d (fetchOfKeys m known) db).2) := by
  unfold readBack
  simp only [hknown, List.isEmpty_iff, hne, if_false]
  cases m.fetchRows d (fetchOfKeys m known) db with
  | mk result db => cases result <;> rfl

theorem readBack_nothing {d : Driver σ} {m : Model} {keys : List Value}
    (hknown : keys.filter (fun v => !v.isBlank) = []) (db : Database σ) : readBack d m keys db = ([], db) := by
  unfold readBack
  rw [hknown]
  rfl

/-- The members that are not inserted stay as they are. -/
theorem get?_adoptInserted {stored : List (String × Assignments)} {inserted : List (MemberKey × Value)}
    {c : Collection} {key : MemberKey} (h : key ∉ inserted.map Prod.fst) :
    (c.adoptInserted stored inserted).1.get? key = c.get? key := by
  induction inserted generalizing c stored with
  | nil => rfl
  | cons e inserted ih =>
    obtain ⟨other, generated⟩ := e
    rw [List.map_cons, List.mem_cons, not_or] at h
    unfold adoptInserted
    cases c.get? other with
    | none => exact ih h.2
    | some r =>
      cases generated.keyText? with
      | none => exact ih h.2
      | some k =>
        refine (ih h.2).trans ?_
        rw [get?_replace, if_neg (Ne.symm h.1)]

/-- Inserted members whose keys are all known are adopted. -/
theorem adoptInserted_known (c : Collection) (stored : List (String × Assignments))
    {inserted : List (MemberKey × Value)} (hkeys : (inserted.map Prod.fst).Nodup)
    (hknown : ∀ e ∈ inserted, e.2.keyText?.isSome = true) :
    (c.adoptInserted stored inserted).2 = [] ∧
      ∀ e ∈ inserted, ∀ r t, c.get? e.1 = some r → e.2.keyText? = some t → ∃ row,
        (c.adoptInserted stored inserted).1.get? e.1 = some (r.adopt row) ∧
          ((∀ o ∈ inserted, o.1 ≠ e.1 → o.2.keyText? ≠ some t) →
            row = (Entries.find? t stored).getD (r.data.insert c.model.primaryCol e.2)) := by
  induction inserted generalizing c stored with
  | nil => exact ⟨rfl, fun e he => nomatch he⟩
  | cons first inserted ih =>
    obtain ⟨key, generated⟩ := first
    rw [List.map_cons, List.nodup_cons] at hkeys
    obtain ⟨hfirst, hknown⟩ := List.forall_mem_cons.1 hknown
    obtain ⟨k, hk⟩ := Option.isSome_iff_exists.1 hfirst
    cases hget : c.get? key with
    | none =>
      have hrest : c.adoptInserted stored ((key, generated) :: inserted) = c.adoptInserted stored inserted := by
        rw [adoptInserted, hget]
      obtain ⟨hunknown, hadopted⟩ := ih _ _ hkeys.2 hknown
      rw [hrest]
      refine ⟨hunknown, fun e he r t hr ht => ?_⟩
      rcases List.mem_cons.1 he with rfl | he
      · exact nomatch hget.symm.trans hr
      · obtain ⟨row, hrow, halone⟩ := hadopted e he r t hr ht
        exact ⟨row, hrow, fun h => halone fun o ho => h o (List.mem_cons_of_mem _ ho)⟩
    | some r₀ =>
      let row₀ := (Entries.find? k stored).getD (r₀.data.insert c.model.primaryCol generated)
      have hrest : c.adoptInserted stored ((key, generated) :: inserted) =
          (c.replace key (r₀.adopt row₀)).adoptInserted (Entries.erase k stored) inserted := by
        rw [adoptInserted, hget, hk]
      obtain ⟨hunknown, hadopted⟩ := ih _ _ hkeys.2 hknown
      rw [hrest]
      refine ⟨hunknown, fun e he r t hr ht => ?_⟩
      rcases List.mem_cons.1 he with rfl | he
      · obtain rfl := Option.some.inj (hget.symm.trans hr)
        obtain rfl := Option.some.inj (hk.symm.trans ht)
        refine ⟨row₀, ?_, fun _ => rfl⟩
        rw [get?_adoptInserted hkeys.1, get?_replace, if_pos rfl]
      · have hother : key ≠ e.1 := fun h => hkeys.1 (List.mem_map.2 ⟨e, he, h.symm⟩)
        have hsame : (c.replace key (r₀.adopt row₀)).get? e.1 = some r := by rw [get?_replace, if_neg hother, hr]
        obtain ⟨row, hrow, halone⟩ := hadopted e he r t hsame ht
        refine ⟨row, hrow, fun h => ?_⟩
        have hk' : k ≠ t := fun heq => h (key, generated) List.mem_cons_self hother (heq ▸ hk)
        rw [halone fun o ho => h o (List.mem_cons_of_mem _ ho), Entries.find?_erase, if_neg hk']
        rfl

end Collection

end RecordMapper
