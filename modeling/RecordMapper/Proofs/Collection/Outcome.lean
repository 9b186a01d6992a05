import Mathlib.Data.List.Nodup
import RecordMapper.Proofs.Collection.Passes
import RecordMapper.Proofs.Collection.Settled

/-!
# What comes of saving a collection

A save of all members is refused before anything is sent, or it returns an outcome, whatever the driver fails at.

* what it is refused for are read-only members and, when new members are to be inserted together, those of another
  table (`Refusal`, `saveAll_refused_or_accepted`);
* otherwise all members stay under their keys, and the keys that are reported are different keys of members
  (`saveAll_accepted`);
* without grouping, each member is saved once, in order, and those are reported whose save failed (`saveMembers_alone`).
-/

namespace RecordMapper.Collection

variable {σ : Type} {c : Collection} {grouped : Bool}

/-! ### The pass over the members -/

/-- The keys under which an attempt failed. -/
def failedKeys (keys : List MemberKey) (results : List (Except Error SaveOutcome)) : List MemberKey :=
  ((keys.zip results).filter fun e => !e.2.isOk).map Prod.fst

/-- Saves each member once, in order. -/
def attempts (d : Driver σ) (members : List (MemberKey × Record)) :
    StateM (Database σ) (List (Except Error SaveOutcome × Record)) :=
  members.mapM fun e => e.2.save d none

theorem attempts_cons (d : Driver σ) (e : MemberKey × Record) (members : List (MemberKey × Record)) (db : Database σ) :
    attempts d (e :: members) db =
      ((e.2.save d none db).1 :: (attempts d members (e.2.save d none db).2).1,
        (attempts d members (e.2.save d none db).2).2) := by
  rw [attempts, List.mapM_cons]
  rfl

/-- Without grouping, each member is saved once, in order. -/
theorem saveMembers_alone (d : Driver σ) (members : List (MemberKey × Record)) (db : Database σ) :
    let tried := attempts d members db
    let pass := saveMembers d false members db
    pass.1.failed = failedKeys (members.map Prod.fst) (tried.1.map Prod.fst) ∧
      pass.1.members.map Prod.snd = tried.1.map Prod.snd ∧ pass.2 = tried.2 := by
  induction members generalizing db with
  | nil => exact ⟨rfl, rfl, rfl⟩
  | cons member members ih =>
    obtain ⟨key, r⟩ := member
    obtain ⟨hfailed, hmembers, hend⟩ := ih (r.save d none db).2
    rw [attempts_cons, saveMembers_saved d false members db rfl]
    refine ⟨?_, congrArg _ hmembers, hend⟩
    dsimp only
    rw [hfailed]
    cases hsaved : (r.save d none db).1.1 <;> simp [failedKeys, hsaved, Except.isOk, Except.toBool]

theorem keys_saveMembers (d : Driver σ) (grouped : Bool) (members : List (MemberKey × Record)) (db : Database σ) :
    (saveMembers d grouped members db).1.members.map Prod.fst = members.map Prod.fst := by
  induction members generalizing db with
  | nil => rfl
  | cons member members ih =>
    obtain ⟨key, r⟩ := member
    cases hskip : grouped && r.isNew with
    | true =>
      rw [saveMembers_skipped d grouped members db hskip, List.map_cons, List.map_cons, ih]
    | false =>
      rw [saveMembers_saved d grouped members db hskip, List.map_cons, List.map_cons, ih]

/-- The pass reports members that it has saved, in their order. -/
theorem failed_saveMembers (d : Driver σ) (grouped : Bool) (members : List (MemberKey × Record)) (db : Database σ) :
    (saveMembers d grouped members db).1.failed.Sublist
      ((members.filter fun e => !(grouped && e.2.isNew)).map Prod.fst) := by
  induction members generalizing db with
  | nil => exact .slnil
  | cons member members ih =>
    obtain ⟨key, r⟩ := member
    cases hskip : grouped && r.isNew with
    | true =>
      rw [saveMembers_skipped d grouped members db hskip, List.filter_cons_of_neg (by simp [hskip])]
      exact ih db
    | false =>
      rw [saveMembers_saved d grouped members db hskip, List.filter_cons_of_pos (by simp [hskip]), List.map_cons]
      dsimp only
      split
      · exact (ih _).cons _
      · exact (ih _).cons_cons _

/-! ### The insert of the new members -/

/-- Members whose key stays unknown are among those that were inserted. -/
theorem unknown_adoptInserted (c : Collection) (stored : List (String × Assignments))
    (inserted : List (MemberKey × Value)) :
    (c.adoptInserted stored inserted).2.Sublist (inserted.map Prod.fst) := by
  induction inserted generalizing c stored with
  | nil => exact .slnil
  | cons e inserted ih =>
    obtain ⟨key, generated⟩ := e
    unfold adoptInserted
    cases c.get? key with
    | none => exact (ih c stored).cons _
    | some r =>
      cases generated.keyText? with
      | none => exact (ih c stored).cons_cons _
      | some k => exact (ih _ _).cons _

/-- The members stay under their keys, and those that are reported are new ones. -/
theorem insertNew_keys (d : Driver σ) (c : Collection) (db : Database σ) :
    (c.insertNew d db).1.1.keys = c.keys ∧ (c.insertNew d db).1.2.Sublist (c.toInsert.map Prod.fst) := by
  by_cases hne : c.toInsert = []
  · rw [insertNew_nothing hne]
    exact ⟨rfl, List.nil_sublist _⟩
  · cases hmany : c.model.insertMany d c.rowsToInsert db with
    | mk result after =>
      cases result with
      | error error =>
        rw [insertNew_failed hne hmany]
        exact ⟨rfl, .refl _⟩
      | ok keys =>
        rw [insertNew_inserted hne hmany]
        refine ⟨(keys_adoptInserted c _ _).1, ?_⟩
        have hunknown := unknown_adoptInserted c (readBack d c.model keys after).1 ((c.toInsert.map Prod.fst).zip keys)
        rwa [map_fst_keyed (Model.length_insertMany hmany)] at hunknown

/-! ### Accepted collections -/

theorem keys_filter_sublist (members : List (MemberKey × Record)) (p : MemberKey × Record → Bool) :
    ((members.filter p).map Prod.fst).Sublist (members.map Prod.fst) :=
  List.filter_sublist.map Prod.fst

/-- Keys of members of two kinds are different keys. -/
theorem nodup_append_keys {members : List (MemberKey × Record)} (hkeys : (members.map Prod.fst).Nodup)
    {p q : MemberKey × Record → Bool} (hdisjoint : ∀ e, p e = true → q e = false) {keys others : List MemberKey}
    (hsome : keys.Sublist ((members.filter p).map Prod.fst))
    (hothers : others.Sublist ((members.filter q).map Prod.fst)) : (keys ++ others).Nodup := by
  refine List.nodup_append.2 ⟨hkeys.sublist (hsome.trans (keys_filter_sublist members p)),
    hkeys.sublist (hothers.trans (keys_filter_sublist members q)), ?_⟩
  rintro key hkey _ hother rfl
  obtain ⟨a, ha, rfl⟩ := List.mem_map.1 (hsome.subset hkey)
  obtain ⟨b, hb, hab⟩ := List.mem_map.1 (hothers.subset hother)
  obtain ⟨hamem, hpa⟩ := List.mem_filter.1 ha
  obtain ⟨hbmem, hqb⟩ := List.mem_filter.1 hb
  obtain rfl := List.inj_on_of_nodup_map hkeys hbmem hamem hab
  exact nomatch (hdisjoint b hpa).symm.trans hqb

/-- A save that is accepted returns an outcome; all members stay under their keys, and those reported are different
members. -/
theorem saveAll_accepted (d : Driver σ) (haccepted : c.Accepted grouped) (hkeys : c.keys.Nodup) (db : Database σ) :
    ∃ failures, (c.saveAll d grouped db).1.1 = .ok (.ofFailures failures) ∧ (c.saveAll d grouped db).1.2.keys = c.keys ∧
      failures.Nodup ∧ failures ⊆ c.keys := by
  have hsub (p : MemberKey × Record → Bool) : ((c.members.filter p).map Prod.fst).Sublist c.keys :=
    keys_filter_sublist c.members p
  have hfailed := failed_saveMembers d grouped c.members db
  cases grouped with
  | false =>
    rw [saveAll_alone haccepted]
    have hreported := hfailed.trans (hsub _)
    exact ⟨_, rfl, keys_saveMembers d false c.members db, hkeys.sublist hreported, hreported.subset⟩
  | true =>
    obtain ⟨outcome, houtcome⟩ : ∃ outcome, (c.saveAll d true db).1.1 = .ok outcome := by
      rw [saveAll_of_accepted haccepted]
      exact ⟨_, rfl⟩
    obtain ⟨rfl, hsaved⟩ := saveAll_grouped houtcome
    obtain ⟨hafter, hunknown⟩ := insertNew_keys d (c.passed d db) (saveMembers d true c.members db).2
    rw [toInsert_passed] at hunknown
    rw [hsaved]
    refine ⟨_, rfl, hafter.trans (keys_passed c d db), nodup_append_keys hkeys (fun e he => ?_) hfailed hunknown,
      List.append_subset.2 ⟨(hfailed.trans (hsub _)).subset, (hunknown.trans (hsub _)).subset⟩⟩
    have hold : e.2.isNew = false := by simpa using he
    rw [hold, Bool.false_and]

/--
What comes of saving all members, whatever the driver answers.  The save returns an error exactly if a member is
read-only or, when they are grouped, a new member is of another table; then no call is made, and the collection stays as
it is.  Otherwise it returns an outcome: all members stay under their keys, and those that are reported are different
members.  Without grouping each member is saved once, in order, and those are reported whose save failed.
-/
theorem saveAll_outcome (d : Driver σ) (c : Collection) (grouped : Bool) (hkeys : c.keys.Nodup)
    (db : Database (List Event × σ)) :
    let saved := c.saveAll d.traced grouped db
    ((∃ e, saved.1.1 = .error e) ↔ c.IsRefused grouped) ∧
      (∀ e, saved.1.1 = .error e → c.Refusal grouped e ∧ saved.1.2 = c ∧ saved.2 = db) ∧
      (¬ c.IsRefused grouped → ∃ failures, saved.1.1 = .ok (.ofFailures failures) ∧ saved.1.2.keys = c.keys ∧
        failures.Nodup ∧ failures ⊆ c.keys ∧
        (grouped = false →
          let tried := attempts d.traced c.members db
          failures = failedKeys c.keys (tried.1.map Prod.fst) ∧ saved.1.2.records = tried.1.map Prod.snd ∧
            saved.2 = tried.2)) := by
  intro saved
  rcases saveAll_refused_or_accepted d.traced c grouped with ⟨e, hrefusal, hrun⟩ | haccepted
  · have hsaved : saved = ((.error e, c), db) := congrFun hrun db
    rw [hsaved]
    refine ⟨⟨fun _ => hrefusal.isRefused, fun _ => ⟨e, rfl⟩⟩, fun e' he' => ?_, fun hnot => ?_⟩
    · obtain rfl := Except.error.inj he'
      exact ⟨hrefusal, rfl, rfl⟩
    · exact absurd hrefusal.isRefused hnot
  · obtain ⟨failures, hok, hafter, hnodup, hsub⟩ := saveAll_accepted d.traced haccepted hkeys db
    have hnoError (e : Error) : saved.1.1 ≠ .error e := fun he => nomatch hok.symm.trans he
    refine ⟨⟨fun ⟨e, he⟩ => absurd he (hnoError e), fun h => absurd h haccepted.not_isRefused⟩,
      fun e he => absurd he (hnoError e), fun _ => ⟨failures, hok, hafter, hnodup, hsub, fun hgrouped => ?_⟩⟩
    subst hgrouped
    obtain ⟨hfailed, hmembers, hend⟩ := saveMembers_alone d.traced c.members db
    have hsaved : saved = _ := saveAll_alone haccepted db
    have hreported : failures = (saveMembers d.traced false c.members db).1.failed := by
      rw [← BulkOutcome.failures_ofFailures failures, ← BulkOutcome.failures_ofFailures (saveMembers ..).1.failed]
      exact congrArg BulkOutcome.failures (Except.ok.inj (hok.symm.trans (congrArg (fun s => s.1.1) hsaved)))
    rw [hsaved, hreported]
    exact ⟨hfailed, hmembers, hend⟩

/-! ### An example -/

namespace Example

open Record.Example

/-- The new post twice, and then for reading only. -/
def threePosts : Collection :=
  { model := posts, access := .writable, nextIndex := 3
    members := [(.index 0, draft), (.index 1, draft), (.index 2, { draft with access := .readOnly })] }

/-- The two that can be written. -/
def twoPosts : Collection := { threePosts with members := threePosts.members.take 2 }

/-- A script in which the first statement fails and the second insert is given a key. -/
def firstLost : Script := { counts := [.error lost], ids := [.ok (.bigint 7)] }

end Example

open Example Record.Example in
/-- The save of the first post fails and that of the second one goes on; with the third one, nothing is tried. -/
theorem saveAll_outcome_firstLost :
    let saved := twoPosts.saveAll driver false (database firstLost)
    twoPosts.keys.Nodup ∧ saved.1.1 = .ok (.failed [.index 0]) ∧ saved.1.2.keys = twoPosts.keys ∧
      saved.1.2.records.map Record.isNew = [true, false] ∧
      saved.2 = (attempts driver twoPosts.members (database firstLost)).2 ∧
      (∃ e, (threePosts.saveAll driver true (database firstLost)).1.1 = .error e) ∧
      (threePosts.saveAll driver true (database firstLost)).2 = database firstLost := by
  intro saved
  have htwo : twoPosts.keys.Nodup := by decide
  have hthree : threePosts.keys.Nodup := by decide
  obtain ⟨hfails, -, hsaved⟩ := saveAll_outcome (.scripted .sqlite (.idle .sqlite)) twoPosts false htwo
    (database firstLost)
  have hnot : ¬ twoPosts.IsRefused false := fun h => (hfails.2 h).elim fun _ he => nomatch he
  obtain ⟨failures, -, hkeys, -, -, halone⟩ := hsaved hnot
  obtain ⟨hrefused, herror, -⟩ := saveAll_outcome (.scripted .sqlite (.idle .sqlite)) threePosts true hthree
    (database firstLost)
  obtain ⟨e, he⟩ := hrefused.2 (.inl ⟨(.index 2, { draft with access := .readOnly }), by simp [threePosts], rfl⟩)
  exact ⟨htwo, rfl, hkeys, rfl, (halone rfl).2.2, ⟨e, he⟩, (herror e he).2.2⟩

end RecordMapper.Collection
