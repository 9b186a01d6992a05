import RecordMapper.Proofs.Collection.Members
import RecordMapper.Proofs.Model.BulkKeys
import RecordMapper.Proofs.Record.Settled

/-!
# Saving again

* `saveAll_finished`: when no member fails, each member afterwards is one from before that was saved, that adopted the
  row it was inserted as, or that held no data;
* `saveAll_of_settled`: when nothing is left to save of any member, a save of all of them makes no call;
* `save_again`: hence a save that follows a successful one does nothing, if the records have come to their keys.

A record can be left without a key: no key is reported and no row found, or the row that is found lacks it.  Such a
record counts as not stored, and the next save inserts it again (`save_again_without_key`).
-/

namespace RecordMapper

variable {σ : Type}

namespace Record

/-- What becomes of a record that is saved, on its own or with others, without a failure. -/
structure Finished (before after : Record) : Prop where
  continues : after.Continues before
  isNew : after.isNew = true → before.isNew = true
  settled : after.WithoutNaN → after.data.isEmpty = true ∨ ¬ after.LacksKey → after.Settled

theorem Finished.of_empty {r : Record} (h : r.data.isEmpty = true) : r.Finished r where
  continues := .refl r
  isNew := id
  settled _ _ := .inl h

theorem Finished.of_adopt {r before : Record} (h : r.Continues before) (stored : Assignments) :
    before.Finished (r.adopt stored) where
  continues := (adopt_continues r stored).trans h
  isNew h := nomatch h
  settled := settled_of_snapshot rfl rfl

theorem Finished.of_saved {r saved : Record} {outcome : SaveOutcome} (h : Saved r outcome saved) : r.Finished saved where
  continues := by
    cases h with
    | nothing => exact .refl r
    | inserted stored => exact adopt_continues r stored
    | updated => exact ⟨rfl, rfl, rfl⟩
  isNew hnew := by
    cases h with
    | nothing | updated => exact hnew
    | inserted => exact nomatch hnew
  settled hnan := (h.settled_iff hnan).2

end Record

namespace Collection

variable {d : Driver σ} {c : Collection} {grouped : Bool}

theorem ofFailures_eq_allSucceeded_iff {keys : List MemberKey} :
    BulkOutcome.ofFailures keys = .allSucceeded ↔ keys = [] := by
  cases keys <;> simp [BulkOutcome.ofFailures]

/-! ### The first save -/

/-- What becomes of a member in a pass without failures: it is saved, unless it is left to a grouped insert. -/
inductive Handled (grouped : Bool) : MemberKey × Record → MemberKey × Record → Prop where
  | skipped {e : MemberKey × Record} (hgrouped : grouped = true) (hnew : e.2.isNew = true) : Handled grouped e e
  | finished {key : MemberKey} {r saved : Record} (h : r.Finished saved) : Handled grouped (key, r) (key, saved)

theorem saveMembers_handled {members : List (MemberKey × Record)} {db : Database σ}
    (h : (saveMembers d grouped members db).1.failed = []) :
    List.Forall₂ (Handled grouped) members (saveMembers d grouped members db).1.members := by
  induction members generalizing db with
  | nil => exact .nil
  | cons member members ih =>
    obtain ⟨key, r⟩ := member
    cases hskip : grouped && r.isNew with
    | true =>
      obtain ⟨hgrouped, hnew⟩ := Bool.and_eq_true_iff.1 hskip
      rw [saveMembers_skipped d grouped members db hskip] at h ⊢
      exact .cons (.skipped hgrouped hnew) (ih h)
    | false =>
      rw [saveMembers_saved d grouped members db hskip] at h ⊢
      cases hsaved : (r.save d none db).1.1 with
      | error e => simp [hsaved] at h
      | ok outcome =>
        simp only [hsaved] at h
        exact .cons (.finished (.of_saved (Record.saved_of_saveSelf hsaved))) (ih h)

theorem keys_adoptInserted (c : Collection) (stored : List (String × Assignments))
    (inserted : List (MemberKey × Value)) :
    let adopted := (c.adoptInserted stored inserted).1
    adopted.keys = c.keys ∧ adopted.model = c.model ∧ adopted.nextIndex = c.nextIndex := by
  induction inserted generalizing c stored with
  | nil => exact ⟨rfl, rfl, rfl⟩
  | cons e inserted ih =>
    obtain ⟨key, generated⟩ := e
    unfold adoptInserted
    cases hget : c.get? key with
    | none => exact ih c stored
    | some r =>
      cases generated.keyText? with
      | none => exact ih c stored
      | some k =>
        have hmem : key ∈ c.members.map Prod.fst := Entries.find?_isSome_iff.1 (Option.isSome_of_eq_some hget)
        have hreplace (r : Record) : (c.replace key r).keys = c.keys := Entries.keys_put.trans (if_pos hmem)
        obtain ⟨hkeys, hmodel, hnext⟩ := ih (c.replace key _) (Entries.erase k stored)
        exact ⟨hkeys.trans (hreplace _), hmodel, hnext⟩

/-- When no member is reported, the key of every member is known. -/
theorem keyText?_of_adoptInserted {stored : List (String × Assignments)} {inserted : List (MemberKey × Value)}
    (h : (c.adoptInserted stored inserted).2 = []) :
    ∀ e ∈ inserted, (c.get? e.1).isSome = true → e.2.keyText?.isSome = true := by
  induction inserted generalizing c stored with
  | nil => exact fun e he => absurd he List.not_mem_nil
  | cons first inserted ih =>
    obtain ⟨key, generated⟩ := first
    intro e he hsome
    unfold adoptInserted at h
    cases hget : c.get? key with
    | none =>
      rw [hget] at h
      rcases List.mem_cons.1 he with rfl | he
      · simp [hget] at hsome
      · exact ih h e he hsome
    | some r =>
      rw [hget] at h
      cases hk : generated.keyText? with
      | none => simp [hk] at h
      | some k =>
        simp only [hk] at h
        rcases List.mem_cons.1 he with rfl | he
        · exact Option.isSome_of_eq_some hk
        · refine ih h e he ?_
          rw [get?_replace]
          split
          · rfl
          · exact hsome

/-- When the new members are inserted and none of them is reported, each of them adopts a row, and the others stay. -/
theorem adoptInserted_finished {stored : List (String × Assignments)} {inserted : List (MemberKey × Value)}
    (hkeys : c.keys.Nodup) (hinserted : inserted.map Prod.fst = c.toInsert.map Prod.fst)
    (h : (c.adoptInserted stored inserted).2 = []) :
    ∀ e ∈ (c.adoptInserted stored inserted).1.members,
      e ∈ c.members ∧ e ∉ c.toInsert ∨ ∃ r row, (e.1, r) ∈ c.members ∧ e.2 = r.adopt row := by
  have hmember : ∀ e ∈ inserted, ∃ b ∈ c.toInsert, b.1 = e.1 := fun e he =>
    List.mem_map.1 (hinserted ▸ List.mem_map_of_mem he)
  have hknown : ∀ e ∈ inserted, e.2.keyText?.isSome = true := by
    intro e he
    obtain ⟨b, hb, hbe⟩ := hmember e he
    exact keyText?_of_adoptInserted h e he (hbe ▸ Option.isSome_of_eq_some (get?_of_mem_toInsert hkeys hb))
  have hnodup : (inserted.map Prod.fst).Nodup := hinserted ▸ nodup_toInsert hkeys
  obtain ⟨hafter, -⟩ := keys_adoptInserted c stored inserted
  obtain ⟨-, hadopted⟩ := adoptInserted_known c stored hnodup hknown
  intro e he
  have hget := (Entries.find?_eq_some_iff (show (c.adoptInserted stored inserted).1.keys.Nodup from hafter ▸ hkeys)).2 he
  by_cases hnew : e.1 ∈ inserted.map Prod.fst
  · obtain ⟨⟨_, k⟩, hk, rfl⟩ := List.mem_map.1 hnew
    obtain ⟨b, hb, hbe⟩ := hmember _ hk
    obtain ⟨t, ht⟩ := Option.isSome_iff_exists.1 (hknown _ hk)
    obtain ⟨row, hrow, -⟩ := hadopted _ hk b.2 t (hbe ▸ get?_of_mem_toInsert hkeys hb) ht
    exact .inr ⟨b.2, row, hbe ▸ List.mem_of_mem_filter hb, Option.some.inj (hget.symm.trans hrow)⟩
  · have hsame : (c.adoptInserted stored inserted).1.get? e.1 = c.get? e.1 := get?_adoptInserted hnew
    exact .inl ⟨Entries.mem_of_find? (hsame.symm.trans hget), fun hmem =>
      hnew (hinserted.symm ▸ List.mem_map_of_mem hmem)⟩

theorem insertNew_finished {db : Database σ} (hkeys : c.keys.Nodup) (h : (c.insertNew d db).1.2 = []) :
    (c.insertNew d db).1.1.model = c.model ∧
      ∀ e ∈ (c.insertNew d db).1.1.members,
        e ∈ c.members ∧ e ∉ c.toInsert ∨ ∃ r row, (e.1, r) ∈ c.members ∧ e.2 = r.adopt row := by
  by_cases hne : c.toInsert = []
  · rw [insertNew_nothing hne]
    exact ⟨rfl, fun e he => .inl ⟨he, hne ▸ List.not_mem_nil⟩⟩
  · cases hmany : c.model.insertMany d c.rowsToInsert db with
    | mk result after =>
      cases result with
      | error error =>
        rw [insertNew_failed hne hmany] at h
        exact absurd (List.map_eq_nil_iff.1 h) hne
      | ok keys =>
        rw [insertNew_inserted hne hmany] at h ⊢
        obtain ⟨-, hmodel, -⟩ := keys_adoptInserted c (readBack d c.model keys after).1 ((c.toInsert.map Prod.fst).zip keys)
        exact ⟨hmodel, adoptInserted_finished hkeys (map_fst_keyed (Model.length_insertMany hmany)) h⟩

/-- A member that a pass has handled is finished, unless it is to be inserted with others. -/
theorem Handled.finished_of_not_new {before after : MemberKey × Record} (h : Handled grouped before after)
    (hdata : grouped = true → after.2.isNew = true → after.2.data.isEmpty = true) : before.2.Finished after.2 := by
  cases h with
  | skipped hgrouped hnew => exact .of_empty (hdata hgrouped hnew)
  | finished h => exact h

theorem Handled.continues {before after : MemberKey × Record} (h : Handled grouped before after) :
    after.2.Continues before.2 := by
  cases h with
  | skipped => exact .refl _
  | finished h => exact h.continues

theorem Handled.exists_before {members after : List (MemberKey × Record)}
    (h : List.Forall₂ (Handled grouped) members after) {e : MemberKey × Record} (he : e ∈ after) :
    ∃ b ∈ members, Handled grouped b e := by
  obtain ⟨i, hi, rfl⟩ := List.getElem_of_mem he
  exact ⟨_, List.getElem_mem (h.length_eq.symm ▸ hi), h.get _ hi⟩

/-- When all members are saved without a failure, each of them comes from one that is finished. -/
theorem saveAll_finished {db : Database σ} (hkeys : c.keys.Nodup)
    (h : (c.saveAll d grouped db).1.1 = .ok .allSucceeded) :
    (c.saveAll d grouped db).1.2.model = c.model ∧
      ∀ e ∈ (c.saveAll d grouped db).1.2.members, ∃ b ∈ c.members, b.2.Finished e.2 := by
  have haccepted := accepted_of_saveAll h
  cases grouped with
  | false =>
    rw [saveAll_alone haccepted] at h ⊢
    have hhandled := saveMembers_handled (ofFailures_eq_allSucceeded_iff.1 (Except.ok.inj h))
    refine ⟨rfl, fun e he => ?_⟩
    obtain ⟨b, hb, hbe⟩ := Handled.exists_before hhandled he
    exact ⟨b, hb, hbe.finished_of_not_new (nomatch ·)⟩
  | true =>
    obtain ⟨houtcome, hsaved⟩ := saveAll_grouped h
    obtain ⟨hfailed, hunknown⟩ := List.append_eq_nil_iff.1 (ofFailures_eq_allSucceeded_iff.1 houtcome.symm)
    have hhandled := saveMembers_handled hfailed
    obtain ⟨hmodel, hmembers⟩ := insertNew_finished (by rwa [keys_passed]) hunknown
    rw [hsaved]
    refine ⟨hmodel, fun e he => ?_⟩
    rcases hmembers e he with ⟨hmem, hnot⟩ | ⟨r, stored, hr, hadopted⟩
    · obtain ⟨b, hb, hbe⟩ := Handled.exists_before hhandled hmem
      refine ⟨b, hb, hbe.finished_of_not_new fun _ hnew => ?_⟩
      by_contra hdata
      exact hnot (List.mem_filter.2 ⟨hmem, by simp [hnew, hdata]⟩)
    · obtain ⟨b, hb, hbr⟩ := Handled.exists_before hhandled hr
      rw [hadopted]
      exact ⟨b, hb, .of_adopt hbr.continues stored⟩

/-! ### The second save -/

theorem saveMembers_of_settled {members : List (MemberKey × Record)} (h : ∀ e ∈ members, e.2.Settled) :
    saveMembers d grouped members = pure ⟨members, []⟩ := by
  induction members with
  | nil => rfl
  | cons member members ih =>
    obtain ⟨key, r⟩ := member
    obtain ⟨hr, hmembers⟩ := List.forall_mem_cons.1 h
    have hsave : r.save d none = pure (.ok .nothingToSave, r) := Record.saveSelf_of_settled hr
    rw [saveMembers, hsave, ih hmembers]
    split <;> rfl

/-- Members of which nothing is left to save are saved without a call, and stay as they are. -/
theorem saveAll_of_settled (haccepted : c.Accepted grouped) (h : ∀ e ∈ c.members, e.2.Settled) :
    c.saveAll d grouped = pure (.ok .allSucceeded, c) := by
  have hnothing : c.toInsert = [] := by
    refine List.filter_eq_nil_iff.2 fun e he hinsert => ?_
    obtain ⟨hnew, hdata⟩ := Bool.and_eq_true_iff.1 hinsert
    rcases h e he with hempty | ⟨hstored, -⟩
    · simp [hempty] at hdata
    · exact nomatch hstored.symm.trans (Record.isUnstored_iff.2 (.inl hnew))
  have hsame : (⟨c.model, c.access, c.members, c.nextIndex⟩ : Collection) = c := by
    cases c
    rfl
  have hinsert : c.insertNew d = pure (c, []) := funext (insertNew_nothing hnothing)
  rw [saveAll_of_accepted haccepted, saveMembers_of_settled h, pure_bind]
  dsimp only
  rw [hsame, hinsert]
  cases grouped <;> rfl

/-! ### Both saves -/

/-- A collection that was saved without a failure is not refused when it is saved again. -/
theorem accepted_again {db : Database σ} (hkeys : c.keys.Nodup) (h : (c.saveAll d grouped db).1.1 = .ok .allSucceeded) :
    (c.saveAll d grouped db).1.2.Accepted grouped := by
  have haccepted := accepted_of_saveAll h
  obtain ⟨hmodel, hmembers⟩ := saveAll_finished hkeys h
  refine ⟨ensureWritable_iff.2 fun e he => ?_, fun hgrouped => ensureOneTable_iff.2 fun e he hnew => ?_⟩
  · obtain ⟨b, hb, hbe⟩ := hmembers e he
    rw [hbe.continues.access]
    exact ensureWritable_iff.1 haccepted.writable b hb
  · obtain ⟨b, hb, hbe⟩ := hmembers e he
    rw [hbe.continues.model, hmodel]
    exact ensureOneTable_iff.1 (haccepted.oneTable hgrouped) b hb (hbe.isNew hnew)

end Collection

/--
Saving twice.  After a save that inserted or updated a record, and left no NaN in it, another save does nothing and makes
no call exactly if the record holds no data or has a key, as it does whenever it was updated.  After a save of all
members that no member failed, another one does nothing and makes no call if this holds of each of them.
-/
theorem save_again (d : Driver σ) :
    (∀ (r : Record) (values : Option Assignments) (db : Database (List Event × σ)) (outcome : SaveOutcome),
      let saved := (r.save d.traced values db).1.2
      (r.save d.traced values db).1.1 = .ok outcome → outcome ≠ .nothingToSave → saved.WithoutNaN →
        (∀ db', saved.save d.traced none db' = ((.ok .nothingToSave, saved), db') ↔
          saved.data.isEmpty = true ∨ ¬ saved.LacksKey) ∧
        (outcome = .updated → ¬ saved.LacksKey)) ∧
    ∀ (c : Collection) (grouped : Bool) (db : Database (List Event × σ)),
      let saved := (c.saveAll d.traced grouped db).1.2
      c.keys.Nodup → (c.saveAll d.traced grouped db).1.1 = .ok .allSucceeded →
        (∀ e ∈ saved.members, e.2.WithoutNaN ∧ (e.2.data.isEmpty = true ∨ ¬ e.2.LacksKey)) →
        ∀ db', saved.saveAll d.traced grouped db' = ((.ok .allSucceeded, saved), db') := by
  constructor
  · intro r values db outcome saved h _ hnan
    have hsaved : Record.Saved (r.merged values) outcome saved := by
      cases values <;> exact Record.saved_of_saveSelf h
    refine ⟨fun db' => ?_, ?_⟩
    · rw [← hsaved.settled_iff hnan]
      constructor
      · intro hagain
        exact Record.settled_of_saveSelf (congrArg (·.1.1) hagain)
      · intro hsettled
        exact congrFun (Record.saveSelf_of_settled hsettled) db'
    · rintro rfl
      exact hsaved.key_of_updated
  · intro c grouped db saved hkeys h hmembers db'
    refine congrFun (Collection.saveAll_of_settled (Collection.accepted_again hkeys h) fun e he => ?_) db'
    obtain ⟨hnan, hkey⟩ := hmembers e he
    obtain ⟨-, hfinished⟩ := Collection.saveAll_finished hkeys h
    obtain ⟨b, -, hbe⟩ := hfinished e he
    exact hbe.settled hnan hkey

/-! ### An example -/

namespace Record.Example

/-- A collection with the new post. -/
def drafts : Collection :=
  { model := posts, access := .writable, members := [(.index 0, draft)], nextIndex := 1 }

/-- The insertion of a post of which no key became known. -/
def insertUnkeyed : Call := .execute "INSERT INTO posts (title, id) VALUES (?1, ?2)" [.text "a", .null]

/-- A script in which no insertion generates a key. -/
def unkeyed : Script := { ids := [.ok .null, .ok .null] }

/-- A script in which the inserted post is read back with another title, which is a NaN. -/
def strange : Script :=
  { ids := [.ok (.bigint 7)],
    rows := [.ok [{ names := ["id", "title"], values := [.bigint 7, .double (0 / 0)] }]] }

end Record.Example

open Record Record.Example in
/-- A post that is inserted under a key is not saved again, neither on its own nor with others. -/
theorem save_again_draft :
    let db := database { ids := [.ok (.bigint 7)] }
    let saved := (draft.save driver none db).1.2
    let all := (drafts.saveAll driver true db).1.2
    (draft.save driver none db).1.1 = .ok .inserted ∧ saved.WithoutNaN ∧ ¬ saved.LacksKey ∧
      (∀ db', saved.save driver none db' = ((.ok .nothingToSave, saved), db')) ∧
      (drafts.saveAll driver true db).1.1 = .ok .allSucceeded ∧
      ∀ db', all.saveAll driver true db' = ((.ok .allSucceeded, all), db') := by
  intro db saved all
  obtain ⟨hrecord, hcollection⟩ := save_again (.scripted .sqlite (.idle .sqlite))
  have hinserted : (draft.save driver none db).1.1 = .ok .inserted := rfl
  have hall : (drafts.saveAll driver true db).1.1 = .ok .allSucceeded := rfl
  have hmembers : all.members = [(.index 0, saved)] := rfl
  have hnan : saved.WithoutNaN := List.all_eq_true.1 rfl
  have hkey : ¬ saved.LacksKey := fun h => (h (.bigint 7) rfl).elim (nomatch ·) (nomatch ·)
  obtain ⟨hagain, -⟩ := hrecord draft none db .inserted hinserted (nomatch ·) hnan
  have hboth : ∀ e ∈ all.members, e.2.WithoutNaN ∧ (e.2.data.isEmpty = true ∨ ¬ e.2.LacksKey) := by
    rw [hmembers]
    exact List.forall_mem_singleton.2 ⟨hnan, .inr hkey⟩
  exact ⟨hinserted, hnan, hkey, fun db' => (hagain db').2 (.inr hkey), hall,
    hcollection drafts true db (by decide) hall hboth⟩

open Record Record.Example in
/-- A post that is inserted under no key is inserted once more, on its own and with others; a post that is read back with
a NaN is updated. -/
theorem save_again_without_key :
    let saved := draft.save driver none (database unkeyed)
    let savedAgain := saved.1.2.save driver none saved.2
    let all := drafts.saveAll driver false (database unkeyed)
    let allAgain := all.1.2.saveAll driver false all.2
    let read := draft.save driver none (database strange)
    let readAgain := read.1.2.save driver none read.2
    let again := [Event.done insertUnkeyed, .done (.lastInsertId none), .done (selectPost .null)]
    draft.WithoutNaN ∧
      (saved.1.1 = .ok .inserted ∧ saved.1.2.WithoutNaN ∧ savedAgain.1.1 = .ok .inserted ∧
        savedAgain.2.events = saved.2.events ++ again) ∧
      (all.1.1 = .ok .allSucceeded ∧ allAgain.2.events = all.2.events ++ again) ∧
      read.1.1 = .ok .inserted ∧ readAgain.1.1 = .ok .updated :=
  ⟨List.all_eq_true.1 rfl, ⟨rfl, List.all_eq_true.1 rfl, rfl, rfl⟩, ⟨rfl, rfl⟩, rfl, rfl⟩

end RecordMapper
