import RecordMapper.Proofs.Record.Outcome
import RecordMapper.Proofs.Value.Reflexive

/-!
# Records of which nothing is left to save

* a record is settled if saving it as it is does nothing (`Settled`, `saveSelf_of_settled`);
* a save that succeeds leaves the record settled, unless it then holds a NaN, or data but no key: such a record is
  inserted once more (`Saved.settled_iff`).
-/

namespace RecordMapper.Record

variable {σ : Type} {d : Driver σ} {r : Record} {db : Database σ} {outcome : SaveOutcome}

/-- Nothing of the record is left to save: it holds no data, or it belongs to a row and nothing of it differs. -/
def Settled (r : Record) : Prop :=
  r.data.isEmpty = true ∨ r.isUnstored = false ∧ r.changes.isEmpty = true

/-- No value of the data has a NaN in it, and the documents in them are proper. -/
def WithoutNaN (r : Record) : Prop :=
  ∀ e ∈ r.data.toList, e.2.withoutNaN = true

theorem saveSelf_of_settled (h : r.Settled) : r.saveSelf d = pure (.ok .nothingToSave, r) := by
  cases hdata : r.data.isEmpty with
  | true => exact saveSelf_of_empty hdata
  | false =>
    rcases h with h | ⟨hstored, hchanges⟩
    · exact nomatch hdata.symm.trans h
    · exact saveSelf_of_unchanged hdata hstored hchanges

/-- Data that is the snapshot does not differ from it. -/
theorem changes_isEmpty_of_snapshot (hsame : r.data = r.initial) (hnan : r.WithoutNaN) : r.changes.isEmpty = true := by
  refine changes_isEmpty_iff.2 fun col v hv _ => ?_
  rw [← hsame, hv]
  exact Value.alike_self_of_withoutNaN (hnan (col, v) (OrderedMap.get?_eq_some_iff.1 hv))

/-- The three ways of a save that succeeds. -/
inductive Saved (r : Record) : SaveOutcome → Record → Prop where
  | nothing (h : r.Settled) : Saved r .nothingToSave r
  | inserted (stored : Assignments) : Saved r .inserted (r.adopt stored)
  | updated (h : r.isUnstored = false) : Saved r .updated r.snapshot

theorem saved_of_saveSelf (h : (r.saveSelf d db).1.1 = .ok outcome) : Saved r outcome (r.saveSelf d db).1.2 := by
  cases hdata : r.data.isEmpty with
  | true =>
    rw [saveSelf_of_empty hdata] at h ⊢
    obtain rfl := Except.ok.inj h
    exact .nothing (.inl hdata)
  | false =>
    cases hway : r.isUnstored with
    | true =>
      rw [saveSelf_of_unstored hdata hway] at h ⊢
      unfold insertSelf at h ⊢
      generalize r.model.insert d r.data db = answer at h ⊢
      obtain ⟨_ | stored, after⟩ := answer
      · exact nomatch h
      · obtain rfl := Except.ok.inj h
        exact .inserted stored
    | false =>
      cases hchanges : r.changes.isEmpty with
      | true =>
        rw [saveSelf_of_unchanged hdata hway hchanges] at h ⊢
        obtain rfl := Except.ok.inj h
        exact .nothing (.inr ⟨hway, hchanges⟩)
      | false =>
        rw [saveSelf_of_changed hdata hway hchanges] at h ⊢
        unfold updateSelf at h ⊢
        generalize r.writeChanges d r.model db = answer at h ⊢
        obtain ⟨_ | n, after⟩ := answer
        · exact nomatch h
        · obtain rfl := Except.ok.inj h
          exact .updated hway

theorem settled_of_saveSelf (h : (r.saveSelf d db).1.1 = .ok .nothingToSave) : r.Settled := by
  have hsaved := saved_of_saveSelf h
  generalize (r.saveSelf d db).1.2 = saved at hsaved
  cases hsaved with
  | nothing h => exact h

/-- A settled record with data has a key. -/
theorem Settled.key (h : r.Settled) : r.data.isEmpty = true ∨ ¬ r.LacksKey := by
  refine h.imp_right fun hstored hlacks => ?_
  exact nomatch hstored.1.symm.trans (isUnstored_iff.2 (.inr hlacks))

/-- A record whose data is the snapshot is settled if it is not new and has a key. -/
theorem settled_of_snapshot (hsame : r.data = r.initial) (hnew : r.isNew = false) (hnan : r.WithoutNaN)
    (hkey : r.data.isEmpty = true ∨ ¬ r.LacksKey) : r.Settled := by
  refine hkey.imp_right fun hkey => ⟨?_, changes_isEmpty_of_snapshot hsame hnan⟩
  rw [← Bool.not_eq_true, isUnstored_iff, hnew]
  exact fun h => h.elim Bool.noConfusion hkey

/-- A save that succeeds leaves a record without NaN settled exactly if it holds no data, or has a key. -/
theorem Saved.settled_iff {saved : Record} (h : Saved r outcome saved) (hnan : saved.WithoutNaN) :
    saved.Settled ↔ saved.data.isEmpty = true ∨ ¬ saved.LacksKey := by
  refine ⟨Settled.key, fun hkey => ?_⟩
  cases h with
  | nothing h => exact h
  | inserted stored => exact settled_of_snapshot rfl rfl hnan hkey
  | updated h => exact settled_of_snapshot rfl (Bool.or_eq_false_iff.1 h).1 hnan hkey

/-- An updated record has a key. -/
theorem Saved.key_of_updated {saved : Record} (h : Saved r .updated saved) : ¬ saved.LacksKey := by
  cases h with
  | updated h => exact fun hlacks => nomatch h.symm.trans (isUnstored_iff.2 (.inr hlacks))

end RecordMapper.Record
