import RecordMapper.Proofs.Record.Runs

/-!
# Saves that fail

A save that fails has written nothing, with one exception: when the row is inserted and the key or the row cannot be
read afterwards, the error comes back although the row is there (`failed_save_wrote_iff`).  The record stays new then,
and saving it again stores it twice (`failed_save_stores_twice`).
-/

namespace RecordMapper.Record

variable {σ : Type}

/-- A statement that writes was executed. -/
def Wrote (events : List Event) : Prop :=
  ∃ sql binds, Event.done (.execute sql binds) ∈ events

theorem not_wrote_nil : ¬ Wrote [] := by
  rintro ⟨sql, binds, h⟩
  exact nomatch h

theorem not_wrote_failed (c : Call) (e : Error) : ¬ Wrote [.failed c e] := by
  rintro ⟨sql, binds, h⟩
  exact nomatch congrArg Event.ending (List.mem_singleton.1 h)

/-- An update that fails has written nothing. -/
theorem not_wrote_of_update_failed {q : Quoter} {m : Model} {changes values : Assignments} {e : Error}
    {events : List Event} (h : m.UpdateRun q changes values (.error e) events) : ¬ Wrote events := by
  cases h with
  | unwritable | notSent => exact not_wrote_nil
  | notUpdated => exact not_wrote_failed _ _

/-- A save that fails has written exactly if it has inserted the row and then failed to read its key or the row. -/
theorem failed_save_wrote_iff (d : Driver σ) (r : Record) (values : Option Assignments)
    (db : Database (List Event × σ)) {e : Error} (h : (r.save d.traced values db).1.1 = .error e) :
    (r.save d.traced values db).1.2 = r.merged values ∧
      ∃ events, (r.save d.traced values db).2.events = db.events ++ events ∧
        (Wrote events ↔ (r.merged values).isUnstored = true ∧
          ∃ pairs later, events = .done ((r.merged values).model.insertCall d.dialect pairs) :: later ∧
            (r.merged values).model.StoredRun d.quoter (r.merged values).data (.error e) later) := by
  obtain ⟨events, htrace, hrun⟩ := yields_save d r values db
  cases hresult : (r.save d.traced values db).1 with
  | mk outcome saved =>
    rw [hresult] at h hrun
    obtain rfl : outcome = .error e := h
    cases hrun with
    | notInserted hunstored hrun =>
      refine ⟨rfl, events, htrace, ?_⟩
      cases hrun with
      | unwritable hpairs =>
        refine ⟨fun h => (not_wrote_nil h).elim, ?_⟩
        rintro ⟨-, pairs, later, h, -⟩
        exact nomatch h
      | notInserted hpairs e =>
        refine ⟨fun h => (not_wrote_failed _ _ h).elim, ?_⟩
        rintro ⟨-, pairs, later, h, -⟩
        exact nomatch congrArg Event.ending (List.cons.inj h).1
      | inserted hpairs hlater =>
        exact ⟨fun _ => ⟨hunstored, _, _, rfl, hlater⟩, fun _ => ⟨_, _, List.mem_cons_self⟩⟩
    | notUpdated hstored hkey hrun =>
      refine ⟨rfl, events, htrace, fun h => (not_wrote_of_update_failed hrun h).elim, ?_⟩
      rintro ⟨hunstored, -⟩
      exact nomatch hunstored.symm.trans hstored

open Example in
/-- The query for the inserted row fails. -/
theorem failed_save_wrote_iff_lostRow :
    let run := draft.save driver none (database { ids := [.ok (.bigint 7)], rows := [.error lost] })
    run.1.1 = .error lost ∧ Wrote run.2.events ∧
      ∃ pairs later, run.2.events = .done (posts.insertCall .sqlite pairs) :: later ∧
        posts.StoredRun driver.quoter draft.data (.error lost) later := by
  intro run
  have hfails : run.1.1 = .error lost := rfl
  obtain ⟨-, events, htrace, hwrote⟩ := failed_save_wrote_iff (.scripted .sqlite (.idle .sqlite)) draft none
    (database { ids := [.ok (.bigint 7)], rows := [.error lost] }) hfails
  have hevents : run.2.events = events := htrace
  have hdone : Event.done insertDraft ∈ events := hevents ▸ List.mem_cons_self
  have hinserted : Wrote events := ⟨_, _, hdone⟩
  obtain ⟨-, pairs, later, hcons, hlater⟩ := hwrote.1 hinserted
  exact ⟨hfails, hevents ▸ hinserted, pairs, later, hevents.trans hcons, hlater⟩

open Example in
/-- A save that fails after its insert is made again, and the row is stored twice. -/
theorem failed_save_stores_twice :
    let first := draft.save driver none (database { ids := [.ok (.bigint 7), .ok (.bigint 8)], rows := [.error lost] })
    let second := first.1.2.save driver none first.2
    first.1.1 = .error lost ∧ second.1.1 = .ok .inserted ∧
      second.2.events =
        [.done insertDraft, .done (.lastInsertId none), .failed (selectPost (.bigint 7)) lost,
          .done insertDraft, .done (.lastInsertId none), .done (selectPost (.bigint 8))] :=
  ⟨rfl, rfl, rfl⟩

end RecordMapper.Record
