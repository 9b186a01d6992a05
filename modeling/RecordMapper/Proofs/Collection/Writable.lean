import RecordMapper.Collection.Save
import RecordMapper.Proofs.Record.State

/-!
# Collections that are saved or refused

* a save of all members is refused for a read-only member or, when new members are to be inserted together, for one of
  another table (`Refusal`, `saveAll_refused_or_accepted`);
* each member is checked once more before it is changed; in a collection that is not refused none of these checks fails,
  not even for members that were saved before, so the save is a pass over the members and an insert after it, both
  without checks (`saveAll_of_accepted`).
-/

namespace RecordMapper

variable {σ : Type}

theorem Record.ensureWritable_of {r : Record} (h : r.access ≠ .readOnly) : r.ensureWritable = .ok () := by
  unfold Record.ensureWritable
  cases haccess : r.access with
  | writable => rfl
  | readOnly => exact absurd haccess h

theorem Entries.mem_put {α β : Type} [DecidableEq α] {k : α} {v : β} {es : List (α × β)} {e : α × β}
    (h : e ∈ put k v es) : e = (k, v) ∨ e ∈ es := by
  induction es with
  | nil => exact .inl (List.mem_singleton.1 h)
  | cons first es ih =>
    rw [put] at h
    split at h
    · rename_i hk
      rcases List.mem_cons.1 h with rfl | h
      · exact .inl (by rw [hk])
      · exact .inr (List.mem_cons_of_mem _ h)
    · rcases List.mem_cons.1 h with rfl | h
      · exact .inr List.mem_cons_self
      · exact (ih h).imp_right (List.mem_cons_of_mem _)

namespace Collection

variable {d : Driver σ} {c : Collection} {grouped : Bool} {members : List (MemberKey × Record)}

/-! ### Without checks -/

/-- Saves the members in order; with `grouped`, new ones are passed over. -/
def saveMembers (d : Driver σ) (grouped : Bool) : List (MemberKey × Record) → StateM (Database σ) Pass
  | [] => pure ⟨[], []⟩
  | (key, r) :: members => do
    if grouped && r.isNew then
      let pass ← saveMembers d grouped members
      return { pass with members := (key, r) :: pass.members }
    else
      let (result, r) ← r.save d none
      let pass ← saveMembers d grouped members
      return ⟨(key, r) :: pass.members, match result with
        | .ok _ => pass.failed
        | .error _ => key :: pass.failed⟩

/-- The collection after an insert of members under the generated keys, and the members whose key is not known. -/
def adoptInserted (c : Collection) (stored : List (String × Assignments)) :
    List (MemberKey × Value) → Collection × List MemberKey
  | [] => (c, [])
  | (key, generated) :: inserted =>
    match c.get? key with
    | none => c.adoptInserted stored inserted
    | some r =>
      match generated.keyText? with
      | none =>
        let (c, unknown) := c.adoptInserted stored inserted
        (c, key :: unknown)
      | some k =>
        let row := (Entries.find? k stored).getD (r.data.insert c.model.primaryCol generated)
        (c.replace key (r.adopt row)).adoptInserted (Entries.erase k stored) inserted

/-- Inserts the new members together; the keys of those that failed. -/
def insertNew (d : Driver σ) (c : Collection) : StateM (Database σ) (Collection × List MemberKey) :=
  let new := c.toInsert
  if new.isEmpty then pure (c, [])
  else fun db =>
    match c.model.insertMany d (new.map fun e => e.2.data) db with
    | (.error _, db) => ((c, new.map Prod.fst), db)
    | (.ok keys, db) =>
      let (stored, db) := readBack d c.model keys db
      (c.adoptInserted stored ((new.map Prod.fst).zip keys), db)

/-- A new member is left to a grouped insert. -/
theorem saveMembers_skipped {key : MemberKey} {r : Record} (d : Driver σ) (grouped : Bool)
    (members : List (MemberKey × Record)) (db : Database σ) (hskip : (grouped && r.isNew) = true) :
    saveMembers d grouped ((key, r) :: members) db =
      (⟨(key, r) :: (saveMembers d grouped members db).1.members, (saveMembers d grouped members db).1.failed⟩,
        (saveMembers d grouped members db).2) := by
  rw [saveMembers, if_pos hskip]
  rfl

/-- Any other member is saved, and reported if that fails. -/
theorem saveMembers_saved {key : MemberKey} {r : Record} (d : Driver σ) (grouped : Bool)
    (members : List (MemberKey × Record)) (db : Database σ) (hskip : (grouped && r.isNew) = false) :
    saveMembers d grouped ((key, r) :: members) db =
      (⟨(key, (r.save d none db).1.2) :: (saveMembers d grouped members (r.save d none db).2).1.members,
          match (r.save d none db).1.1 with
          | .ok _ => (saveMembers d grouped members (r.save d none db).2).1.failed
          | .error _ => key :: (saveMembers d grouped members (r.save d none db).2).1.failed⟩,
        (saveMembers d grouped members (r.save d none db).2).2) := by
  rw [saveMembers, if_neg (by rw [hskip]; exact Bool.false_ne_true)]
  rfl

/-! ### Checks that do not fail -/

/-- No member is read-only. -/
def AllWritable (members : List (MemberKey × Record)) : Prop :=
  ∀ e ∈ members, e.2.access ≠ .readOnly

theorem ensureWritable_iff {action : String} : c.ensureWritable action = .ok () ↔ AllWritable c.members := by
  unfold ensureWritable
  cases hfound : c.members.find? fun e => e.2.access = .readOnly with
  | none => simpa [AllWritable] using hfound
  | some e =>
    have hreadOnly := List.find?_some hfound
    refine ⟨(nomatch ·), fun hall => ?_⟩
    exact absurd (of_decide_eq_true hreadOnly) (hall e (List.mem_of_find?_eq_some hfound))

theorem trySaveMembers_eq (h : AllWritable members) (db : Database σ) :
    trySaveMembers d grouped members db =
      ((.ok (), (saveMembers d grouped members db).1), (saveMembers d grouped members db).2) := by
  induction members generalizing db with
  | nil => rfl
  | cons member members ih =>
    obtain ⟨key, r⟩ := member
    obtain ⟨hr, hmembers⟩ := List.forall_mem_cons.1 h
    rw [trySaveMembers, saveMembers, Record.ensureWritable_of hr]
    dsimp only
    split
    · simp only [bind, StateT.bind, ih hmembers db]
      rfl
    · simp only [bind, StateT.bind, ih hmembers]
      rfl

/-- A member that was saved is read-only if it was so before. -/
theorem AllWritable.saveMembers (h : AllWritable members) (db : Database σ) :
    AllWritable (saveMembers d grouped members db).1.members := by
  induction members generalizing db with
  | nil => exact List.forall_mem_nil _
  | cons member members ih =>
    obtain ⟨key, r⟩ := member
    obtain ⟨hr, hmembers⟩ := List.forall_mem_cons.1 h
    cases hskip : grouped && r.isNew with
    | true =>
      rw [saveMembers_skipped d grouped members db hskip]
      exact List.forall_mem_cons.2 ⟨hr, ih hmembers db⟩
    | false =>
      rw [saveMembers_saved d grouped members db hskip]
      refine List.forall_mem_cons.2 ⟨?_, ih hmembers _⟩
      rwa [(Record.save_continues d r none db).access]

theorem tryAdoptInserted_eq {stored : List (String × Assignments)} {inserted : List (MemberKey × Value)}
    (h : AllWritable c.members) :
    c.tryAdoptInserted stored inserted =
      (.ok (c.adoptInserted stored inserted).2, (c.adoptInserted stored inserted).1) := by
  induction inserted generalizing c stored with
  | nil => rfl
  | cons e inserted ih =>
    obtain ⟨key, generated⟩ := e
    unfold tryAdoptInserted adoptInserted
    cases hget : c.get? key with
    | none => exact ih h
    | some r =>
      have hr : r.access ≠ .readOnly := h (key, r) (Entries.mem_of_find? hget)
      dsimp only
      rw [Record.ensureWritable_of hr]
      cases generated.keyText? with
      | none =>
        dsimp only
        rw [ih h]
        rfl
      | some k =>
        refine ih fun e he => ?_
        rcases Entries.mem_put he with rfl | he
        · rwa [(Record.adopt_continues r _).access]
        · exact h e he

theorem tryInsertNew_eq (h : AllWritable c.members) (db : Database σ) :
    c.tryInsertNew d db = ((.ok (c.insertNew d db).1.2, (c.insertNew d db).1.1), (c.insertNew d db).2) := by
  unfold tryInsertNew insertNew
  split
  · rfl
  · dsimp only
    cases c.model.insertMany d (c.toInsert.map fun e => e.2.data) db with
    | mk result after =>
      cases result with
      | error e => rfl
      | ok keys =>
        dsimp only
        obtain ⟨stored, ended⟩ := readBack d c.model keys after
        exact Prod.ext (tryAdoptInserted_eq h) rfl

/-! ### The save -/

theorem ensureOneTable_iff :
    c.ensureOneTable = .ok () ↔ ∀ e ∈ c.members, e.2.isNew = true → e.2.model.tableName = c.model.tableName := by
  unfold ensureOneTable
  cases hfound : c.members.find? fun e => e.2.isNew && e.2.model.tableName ≠ c.model.tableName with
  | none => simpa using hfound
  | some e =>
    have hother := List.find?_some hfound
    simp only [Bool.and_eq_true, decide_eq_true_eq] at hother
    refine ⟨(nomatch ·), fun hall => ?_⟩
    exact absurd (hall e (List.mem_of_find?_eq_some hfound) hother.1) hother.2

/-- What a save asks of a collection before it begins. -/
structure Accepted (c : Collection) (grouped : Bool) : Prop where
  writable : c.ensureWritable "save" = .ok ()
  oneTable : grouped = true → c.ensureOneTable = .ok ()

theorem accepted_of_saveAll {d : Driver σ} {c : Collection} {grouped : Bool} {db : Database σ} {outcome : BulkOutcome}
    (h : (c.saveAll d grouped db).1.1 = .ok outcome) : c.Accepted grouped := by
  unfold saveAll at h
  cases hwritable : c.ensureWritable "save" with
  | error e =>
    rw [hwritable] at h
    exact nomatch h
  | ok _ =>
    refine ⟨hwritable, fun hgrouped => ?_⟩
    subst hgrouped
    cases htable : c.ensureOneTable with
    | error e =>
      rw [hwritable] at h
      simp only [if_true, htable] at h
      exact nomatch h
    | ok _ => rfl

theorem saveAll_of_accepted {d : Driver σ} {c : Collection} {grouped : Bool} (h : c.Accepted grouped) :
    c.saveAll d grouped = do
      let pass ← saveMembers d grouped c.members
      let c := { c with members := pass.members }
      let (c, failed) ← if grouped then c.insertNew d else pure (c, [])
      return (.ok (.ofFailures (pass.failed ++ failed)), c) := by
  have htable : (if grouped then c.ensureOneTable else .ok ()) = .ok () := by
    cases hgrouped : grouped with
    | true => exact h.oneTable hgrouped
    | false => rfl
  have hwritable := ensureWritable_iff.1 h.writable
  funext db
  unfold saveAll
  rw [h.writable]
  simp only [htable, bind, StateT.bind, trySaveMembers_eq hwritable]
  cases grouped with
  | false => rfl
  | true =>
    have hpassed : AllWritable { c with members := (saveMembers d true c.members db).1.members }.members :=
      hwritable.saveMembers db
    simp only [if_true, bind, StateT.bind, tryInsertNew_eq hpassed]
    rfl

/-! ### Refused collections -/

/-- Why a save of all members is refused. -/
inductive Refusal (c : Collection) (grouped : Bool) : Error → Prop where
  /-- A member is read-only. -/
  | readOnly {member : MemberKey × Record} (hmem : member ∈ c.members) (h : member.2.access = .readOnly) :
    Refusal c grouped
      (.unsupportedOperation ("cannot save a collection holding read-only record '" ++ member.1.text ++ "'"))
  /-- All members can be written, but a new one, which is to be inserted with others, is of another table. -/
  | otherTable (hgrouped : grouped = true) (hwritable : ∀ member ∈ c.members, member.2.access ≠ .readOnly)
      {member : MemberKey × Record} (hmem : member ∈ c.members) (hnew : member.2.isNew = true)
      (htable : member.2.model.tableName ≠ c.model.tableName) :
    Refusal c grouped
      (.capability .tableMismatch
        ("record '" ++ member.1.text ++ "' belongs to '" ++ member.2.model.tableName ++ "', not '" ++
          c.model.tableName ++ "'"))

/-- There is a read-only member, or a new one of another table that is to be inserted with others. -/
def IsRefused (c : Collection) (grouped : Bool) : Prop :=
  (∃ member ∈ c.members, member.2.access = .readOnly) ∨
    grouped = true ∧ ∃ member ∈ c.members, member.2.isNew = true ∧ member.2.model.tableName ≠ c.model.tableName

theorem Refusal.isRefused {e : Error} (h : c.Refusal grouped e) : c.IsRefused grouped := by
  cases h with
  | readOnly hmem h => exact .inl ⟨_, hmem, h⟩
  | otherTable hgrouped _ hmem hnew htable => exact .inr ⟨hgrouped, _, hmem, hnew, htable⟩

theorem Accepted.not_isRefused (h : c.Accepted grouped) : ¬ c.IsRefused grouped := by
  rintro (⟨member, hmem, hreadOnly⟩ | ⟨hgrouped, member, hmem, hnew, htable⟩)
  · exact ensureWritable_iff.1 h.writable member hmem hreadOnly
  · exact htable (ensureOneTable_iff.1 (h.oneTable hgrouped) member hmem hnew)

theorem refusal_of_ensureWritable {e : Error} (h : c.ensureWritable "save" = .error e) : c.Refusal grouped e := by
  unfold ensureWritable at h
  split at h
  · rename_i key r hfound
    obtain rfl := Except.error.inj h
    have hreadOnly := List.find?_some hfound
    exact @Refusal.readOnly _ _ (key, r) (List.mem_of_find?_eq_some hfound) (of_decide_eq_true hreadOnly)
  · exact nomatch h

theorem refusal_of_ensureOneTable {e : Error} (hwritable : c.ensureWritable "save" = .ok ())
    (h : c.ensureOneTable = .error e) : c.Refusal true e := by
  unfold ensureOneTable at h
  split at h
  · rename_i key r hfound
    obtain rfl := Except.error.inj h
    have hother := List.find?_some hfound
    simp only [Bool.and_eq_true, decide_eq_true_eq] at hother
    exact @Refusal.otherTable _ _ rfl (ensureWritable_iff.1 hwritable) (key, r) (List.mem_of_find?_eq_some hfound)
      hother.1 hother.2
  · exact nomatch h

/-- A save of all members is refused and does nothing, or it is accepted. -/
theorem saveAll_refused_or_accepted (d : Driver σ) (c : Collection) (grouped : Bool) :
    (∃ e, c.Refusal grouped e ∧ c.saveAll d grouped = pure (.error e, c)) ∨ c.Accepted grouped := by
  cases hwritable : c.ensureWritable "save" with
  | error e =>
    refine .inl ⟨e, refusal_of_ensureWritable hwritable, ?_⟩
    unfold saveAll
    rw [hwritable]
  | ok _ =>
    cases hgrouped : grouped with
    | false => exact .inr ⟨hwritable, (nomatch ·)⟩
    | true =>
      cases htable : c.ensureOneTable with
      | ok _ => exact .inr ⟨hwritable, fun _ => htable⟩
      | error e =>
        refine .inl ⟨e, refusal_of_ensureOneTable hwritable htable, ?_⟩
        unfold saveAll
        rw [hwritable]
        simp only [if_true, htable]

end Collection

end RecordMapper
