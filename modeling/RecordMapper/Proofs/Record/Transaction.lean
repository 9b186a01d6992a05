import RecordMapper.Proofs.Record.Runs
import RecordMapper.Proofs.Record.State

/-!
# Saving in a transaction

A save in a transaction goes one of five ways, by the first of its steps that fails: a transaction is open already, it
cannot be opened, the save fails, the commit fails, or nothing does.  Whichever it is, the save either commits what it
wrote or leaves the record as it was; a failure after the begin is answered by one rollback, which comes last and has
no say in the error that is returned (`saveInTransaction_atomic`).
-/

namespace RecordMapper.Record

variable {σ : Type}

section Steps

variable {d : Driver σ} {r : Record} {values : Option Assignments} {db : Database σ} {outcome : SaveOutcome}
  {e : Error}

/-! ### Saving and committing -/

theorem saveAndCommit_of_save_failed (hsave : (r.save d values db).1.1 = .error e) :
    r.saveAndCommit d values db = ((.error e, (r.save d values db).1.2), (r.save d values db).2) := by
  unfold saveAndCommit
  generalize r.save d values db = saved at hsave ⊢
  obtain ⟨⟨result, saved⟩, after⟩ := saved
  obtain rfl : result = .error e := hsave
  rfl

theorem saveAndCommit_of_saved (hsave : (r.save d values db).1.1 = .ok outcome) :
    r.saveAndCommit d values db =
      (((Database.call d.commit (r.save d values db).2).1.map fun _ => outcome, (r.save d values db).1.2),
        (Database.call d.commit (r.save d values db).2).2) := by
  unfold saveAndCommit
  generalize r.save d values db = saved at hsave ⊢
  obtain ⟨⟨result, saved⟩, after⟩ := saved
  obtain rfl : result = .ok outcome := hsave
  dsimp only
  obtain ⟨_ | _, ended⟩ := Database.call d.commit after <;> rfl

/-- Whether it is committed or not, the record is the one that the save leaves. -/
theorem saveAndCommit_record (d : Driver σ) (r : Record) (values : Option Assignments) (db : Database σ) :
    (r.saveAndCommit d values db).1.2 = (r.save d values db).1.2 := by
  cases hsave : (r.save d values db).1.1 with
  | error e => rw [saveAndCommit_of_save_failed hsave]
  | ok outcome => rw [saveAndCommit_of_saved hsave]

/-! ### Around the save -/

theorem saveInTransaction_of_open (h : d.inTransaction db.store = true) :
    r.saveInTransaction d values db = ((.error r.nestedSave, r), db) := by
  unfold saveInTransaction
  rw [if_pos h]

theorem saveInTransaction_of_begin_failed (h : d.inTransaction db.store = false)
    (hbegin : (Database.call d.begin db).1 = .error e) :
    r.saveInTransaction d values db = ((.error e, r), (Database.call d.begin db).2) := by
  have hcall : Database.call d.begin db = (.error e, (Database.call d.begin db).2) := Prod.ext hbegin rfl
  unfold saveInTransaction
  rw [if_neg (by simp [h]), hcall]

/-- Once the transaction is open, the save that is committed is the result, and one that is not is rolled back. -/
theorem saveInTransaction_of_begun (h : d.inTransaction db.store = false)
    (hbegin : (Database.call d.begin db).1 = .ok ()) :
    r.saveInTransaction d values db =
      match r.saveAndCommit d values (Database.call d.begin db).2 with
      | ((.ok outcome, saved), db) => ((.ok outcome, saved), db)
      | ((.error e, _), db) => ((.error e, r), (Database.call d.rollback db).2) := by
  have hcall : Database.call d.begin db = (.ok (), (Database.call d.begin db).2) := Prod.ext hbegin rfl
  have hrestored : (r.saveAndCommit d values (Database.call d.begin db).2).1.2.restored r = r := by
    rw [saveAndCommit_record]
    exact restored_save d r values (Database.call d.begin db).2
  unfold saveInTransaction
  rw [if_neg (by simp [h]), hcall]
  dsimp only
  generalize r.saveAndCommit d values (Database.call d.begin db).2 = attempt at hrestored ⊢
  obtain ⟨⟨result, saved⟩, after⟩ := attempt
  cases result with
  | ok outcome => rfl
  | error e => exact congrArg (fun r => ((Except.error e, r), _)) hrestored

/-- The record is the one that a save leaves, or is as it was. -/
theorem saveInTransaction_record (d : Driver σ) (r : Record) (values : Option Assignments) (db : Database σ) :
    (r.saveInTransaction d values db).1.2 = r ∨
      ∃ begun, (r.saveInTransaction d values db).1.2 = (r.save d values begun).1.2 := by
  cases h : d.inTransaction db.store with
  | true => exact .inl (by rw [saveInTransaction_of_open h])
  | false =>
    cases hbegin : (Database.call d.begin db).1 with
    | error e => exact .inl (by rw [saveInTransaction_of_begin_failed h hbegin])
    | ok =>
      rw [saveInTransaction_of_begun h hbegin]
      have hrecord := saveAndCommit_record d r values (Database.call d.begin db).2
      generalize r.saveAndCommit d values (Database.call d.begin db).2 = attempt at hrecord ⊢
      obtain ⟨⟨result, saved⟩, after⟩ := attempt
      cases result with
      | ok outcome => exact .inr ⟨_, hrecord⟩
      | error e => exact .inl rfl

/-- The save succeeds exactly if no transaction is open and each of its steps succeeds. -/
theorem saveInTransaction_ok_iff :
    (∃ outcome, (r.saveInTransaction d values db).1.1 = .ok outcome) ↔
      d.inTransaction db.store = false ∧ (Database.call d.begin db).1 = .ok () ∧
        (∃ outcome, (r.save d values (Database.call d.begin db).2).1.1 = .ok outcome) ∧
        (Database.call d.commit (r.save d values (Database.call d.begin db).2).2).1 = .ok () := by
  cases h : d.inTransaction db.store with
  | true => simp [saveInTransaction_of_open h]
  | false =>
    cases hbegin : (Database.call d.begin db).1 with
    | error e => simp [saveInTransaction_of_begin_failed h hbegin]
    | ok =>
      rw [saveInTransaction_of_begun h hbegin]
      cases hsave : (r.save d values (Database.call d.begin db).2).1.1 with
      | error e => simp [saveAndCommit_of_save_failed hsave]
      | ok outcome =>
        rw [saveAndCommit_of_saved hsave]
        cases (Database.call d.commit (r.save d values (Database.call d.begin db).2).2).1 <;> simp [Except.map]

end Steps

/-! ### The calls that are made -/

section Calls

variable {d : Driver σ} {r : Record} {values : Option Assignments} {P : Event → Prop}

/-- What holds of the calls of a save, and of those that open and end transactions, holds of all calls. -/
theorem yields_saveAndCommit (hbracket : ∀ ev, ev.call.isBracket = true → P ev)
    (hsave : Yields (r.save d.traced values) fun _ events => ∀ ev ∈ events, P ev) :
    Yields (r.saveAndCommit d.traced values) fun _ events => ∀ ev ∈ events, P ev := by
  intro db
  obtain ⟨events, htrace, h⟩ := hsave db
  cases hsaved : (r.save d.traced values db).1.1 with
  | error e =>
    rw [saveAndCommit_of_save_failed hsaved]
    exact ⟨events, htrace, h⟩
  | ok outcome =>
    rw [saveAndCommit_of_saved hsaved]
    have hcommit := Database.events_call_trace .commit d.commit (r.save d.traced values db).2
    refine ⟨_, hcommit.trans (by rw [htrace, List.append_assoc]), fun ev hev => ?_⟩
    rcases List.mem_append.1 hev with hev | hev
    · exact h ev hev
    · rw [List.mem_singleton.1 hev]
      exact hbracket _ rfl

theorem yields_saveInTransaction (hbracket : ∀ ev, ev.call.isBracket = true → P ev)
    (hsave : Yields (r.save d.traced values) fun _ events => ∀ ev ∈ events, P ev) :
    Yields (r.saveInTransaction d.traced values) fun _ events => ∀ ev ∈ events, P ev := by
  intro db
  cases hopen : d.traced.inTransaction db.store with
  | true =>
    rw [saveInTransaction_of_open hopen]
    exact ⟨[], (List.append_nil _).symm, fun _ h => absurd h List.not_mem_nil⟩
  | false =>
    have hopened : (Database.call d.traced.begin db).2.events =
        db.events ++ [.of .begin (Database.call d.traced.begin db).1] := Database.events_call_trace .begin d.begin db
    cases hbegin : (Database.call d.traced.begin db).1 with
    | error e =>
      rw [saveInTransaction_of_begin_failed hopen hbegin]
      refine ⟨_, hopened, fun ev hev => ?_⟩
      rw [List.mem_singleton.1 hev]
      exact hbracket _ rfl
    | ok =>
      rw [saveInTransaction_of_begun hopen hbegin]
      obtain ⟨events, htrace, h⟩ := yields_saveAndCommit hbracket hsave (Database.call d.traced.begin db).2
      have hbefore : ∀ ev ∈ Event.of .begin (Database.call d.traced.begin db).1 :: events, P ev :=
        List.forall_mem_cons.2 ⟨hbracket _ rfl, h⟩
      rw [hopened, List.append_assoc, List.singleton_append] at htrace
      generalize r.saveAndCommit d.traced values (Database.call d.traced.begin db).2 = attempt at htrace ⊢
      obtain ⟨⟨result, saved⟩, after⟩ := attempt
      cases result with
      | ok outcome => exact ⟨_, htrace, hbefore⟩
      | error e =>
        have hrollback := Database.events_call_trace .rollback d.rollback after
        refine ⟨_, hrollback.trans (by rw [htrace, List.append_assoc]), fun ev hev => ?_⟩
        rcases List.mem_append.1 hev with hev | hev
        · exact hbefore ev hev
        · rw [List.mem_singleton.1 hev]
          exact hbracket _ rfl

end Calls

/-! ### All ways together -/

/--
A save in a transaction, from the ends of the begin, of the save and of the commit that it asks for.  Of the calls in
between, the ones that the save makes, none opens or ends a transaction.
-/
theorem saveInTransaction_atomic (d : Driver σ) (r : Record) (values : Option Assignments)
    (db : Database (List Event × σ)) :
    let run := r.saveInTransaction d.traced values db
    let opened := Database.call d.traced.begin db
    let saved := r.save d.traced values opened.2
    let committed := Database.call d.traced.commit saved.2
    ∃ body, saved.2.events = opened.2.events ++ body ∧ (∀ ev ∈ body, ev.call.isBracket = false) ∧
      -- a transaction is open: no call is made
      (d.traced.inTransaction db.store = true → run = ((.error r.nestedSave, r), db)) ∧
      (d.traced.inTransaction db.store = false →
        -- it cannot be opened
        (∀ e, opened.1 = .error e →
          run.1 = (.error e, r) ∧ run.2.events = db.events ++ [.failed .begin e]) ∧
        -- the save fails, and then the commit
        (∀ e, opened.1 = .ok () → saved.1.1 = .error e →
          run.1 = (.error e, r) ∧
            ∃ ending, run.2.events = db.events ++ .done .begin :: (body ++ [⟨.rollback, ending⟩])) ∧
        (∀ outcome e, opened.1 = .ok () → saved.1.1 = .ok outcome → committed.1 = .error e →
          run.1 = (.error e, r) ∧
            ∃ ending, run.2.events =
              db.events ++ .done .begin :: (body ++ [.failed .commit e, ⟨.rollback, ending⟩])) ∧
        -- nothing fails
        (∀ outcome, opened.1 = .ok () → saved.1.1 = .ok outcome → committed.1 = .ok () →
          run.1 = (.ok outcome, saved.1.2) ∧
            run.2.events = db.events ++ .done .begin :: (body ++ [.done .commit]))) ∧
      ((∃ outcome, run.1.1 = .ok outcome) ↔
        d.traced.inTransaction db.store = false ∧ opened.1 = .ok () ∧ (∃ outcome, saved.1.1 = .ok outcome) ∧
          committed.1 = .ok ()) := by
  intro run opened saved committed
  obtain ⟨body, hbody, hrun⟩ := yields_save d r values opened.2
  have hopened : opened.2.events = db.events ++ [.of .begin opened.1] := Database.events_call_trace .begin d.begin db
  have hcommitted : committed.2.events = saved.2.events ++ [.of .commit committed.1] :=
    Database.events_call_trace .commit d.commit saved.2
  have hrollback (db : Database (List Event × σ)) : ∃ ending,
      (Database.call d.traced.rollback db).2.events = db.events ++ [⟨.rollback, ending⟩] :=
    ⟨_, Database.events_call_trace .rollback d.rollback db⟩
  refine ⟨body, hbody, hrun.not_bracket, fun h => saveInTransaction_of_open h, fun h => ⟨?_, ?_, ?_, ?_⟩,
    saveInTransaction_ok_iff⟩
  · intro e hbegin
    have hway : run = ((.error e, r), opened.2) := saveInTransaction_of_begin_failed h hbegin
    rw [hway, hopened, hbegin]
    exact ⟨rfl, rfl⟩
  · intro e hbegin hsave
    have hway : run = ((.error e, r), (Database.call d.traced.rollback saved.2).2) :=
      (saveInTransaction_of_begun h hbegin).trans (by rw [saveAndCommit_of_save_failed hsave])
    obtain ⟨ending, hending⟩ := hrollback saved.2
    rw [hway, hending, hbody, hopened, hbegin]
    exact ⟨rfl, ending, by simp [Event.of_ok]⟩
  · intro outcome e hbegin hsave hcommit
    have hway : run = ((.error e, r), (Database.call d.traced.rollback committed.2).2) :=
      (saveInTransaction_of_begun h hbegin).trans (by rw [saveAndCommit_of_saved hsave, hcommit]; rfl)
    obtain ⟨ending, hending⟩ := hrollback committed.2
    rw [hway, hending, hcommitted, hbody, hopened, hbegin, hcommit]
    exact ⟨rfl, ending, by simp [Event.of_ok, Event.of_error]⟩
  · intro outcome hbegin hsave hcommit
    have hway : run = ((.ok outcome, saved.1.2), committed.2) :=
      (saveInTransaction_of_begun h hbegin).trans (by rw [saveAndCommit_of_saved hsave, hcommit]; rfl)
    rw [hway, hcommitted, hbody, hopened, hbegin, hcommit]
    exact ⟨rfl, by simp [Event.of_ok]⟩

open Example in
/-- Both the commit and the rollback fail: the record is as it was, and the error is that of the commit. -/
theorem saveInTransaction_atomic_twoFailures :
    let run := draft.saveInTransaction driver none
      (database { ids := [.ok (.bigint 7)], commitFailures := [lost], rollbackFailures := [.custom "closed"] })
    run.1 = (.error lost, draft) ∧
      ∃ body ending, (∀ ev ∈ body, ev.call.isBracket = false) ∧
        run.2.events = .done .begin :: (body ++ [.failed .commit lost, ⟨.rollback, ending⟩]) := by
  intro run
  obtain ⟨body, -, hbody, -, hclosed, -⟩ := saveInTransaction_atomic (.scripted .sqlite (.idle .sqlite)) draft none
    (database { ids := [.ok (.bigint 7)], commitFailures := [lost], rollbackFailures := [.custom "closed"] })
  obtain ⟨-, -, hcommit, -⟩ := hclosed rfl
  obtain ⟨hrun, ending, hevents⟩ := hcommit .inserted lost rfl rfl rfl
  exact ⟨hrun, body, ending, hbody, hevents⟩

end RecordMapper.Record
