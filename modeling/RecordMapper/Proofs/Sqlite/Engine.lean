import RecordMapper.Proofs.Sqlite.Documented
import RecordMapper.Proofs.Sqlite.Token
import RecordMapper.Sqlite.Engine

/-!
# The transactions of the engine

The engine keeps to what is documented of transactions (`Engine.transacts`): a text that opens or closes one is a single
statement with one effect, whichever way it is run, and a change that fails on a conflict to be resolved by `ROLLBACK`
(`Session.RollsBack`) undoes the whole transaction.
-/

namespace RecordMapper.Sqlite

namespace Session

variable {s after : Session} {binds : List Datum}

/-! ### Transactions -/

/-- What a change of a schema starts with. -/
def work (s : Session) (binds : List Datum) : Work :=
  { store := s.store, base := s.env binds, keepsReferences := s.settings.foreignKeys, lastRowId := s.lastRowId
    deferred := s.deferred }

/-- A change is run, and fails with a conflict that asks for the whole transaction to be undone. -/
def RollsBack (s : Session) (binds : List Datum) (plan : ChangePlan) (act : Change Unit) : Prop :=
  s.refuses plan.schema = false ∧ ∃ failure, (act.run (s.work binds)).1 = .error ⟨failure, .rollback⟩

theorem isAutocommit_undone (s : Session) : s.undone.isAutocommit = true := by
  rw [undone]
  split
  · rfl
  · rename_i hnone
    rw [isAutocommit, List.getLast?_eq_none_iff.1 hnone]
    rfl

theorem isAutocommit_begin (h : s.perform binds (.begin false) = (.ok (), after)) : after.isAutocommit = false := by
  simp only [perform, Bool.false_and, Bool.false_eq_true, if_false] at h
  split at h
  · obtain rfl := congrArg Prod.snd h
    rfl
  · exact nomatch h

theorem isAutocommit_commit (h : s.perform binds .commit = (.ok (), after)) : after.isAutocommit = true := by
  simp only [perform, commit] at h
  split at h
  · exact nomatch h
  · split at h
    · exact nomatch h
    · obtain rfl := congrArg Prod.snd h
      rfl

theorem isAutocommit_rollback (h : s.perform binds .rollback = (.ok (), after)) : after.isAutocommit = true := by
  simp only [perform] at h
  split at h
  · exact nomatch h
  · obtain rfl := congrArg Prod.snd h
    exact isAutocommit_undone s

/-- A change that fails with such a conflict leaves no transaction open. -/
theorem change_of_rollsBack {plan : ChangePlan} {act : Change Unit} (h : s.RollsBack binds plan act) :
    ∃ f after, s.change binds plan act = (.error f, after) ∧ after.isAutocommit = true := by
  obtain ⟨hrefuses, failure, hfailed⟩ := h
  simp only [change, hrefuses, Bool.false_eq_true, if_false]
  generalize hrun : ExceptT.run act _ = answer
  obtain ⟨result, w⟩ := answer
  have hact : act.run (s.work binds) = (result, w) := hrun
  rw [hact] at hfailed
  obtain rfl := hfailed
  refine ⟨_, _, rfl, ?_⟩
  split
  · exact isAutocommit_undone _
  · exact isAutocommit_undone _

/-- The text that opens a transaction is a single token and a single statement. -/
theorem prepare_begin (s : Session) :
    (Token.scan 0 "BEGIN".toList).length = 1 ∧
      s.prepare "BEGIN".toList (Token.scan 0 "BEGIN".toList) = .ok (some ({ effect := .begin false }, [])) := by
  have htokens : Token.scan 0 "BEGIN".toList = [⟨.word, "BEGIN".toList, 0⟩] :=
    Token.scan_single (Token.gap_of_head rfl (by decide) nofun) rfl (by decide)
  rw [htokens]
  exact ⟨rfl, rfl⟩

/-- The statement of a text that opens or closes a transaction. -/
theorem exists_prepare {sql : String} {closed : Bool} (h : TransactionText sql closed) (s : Session) :
    ∃ effect, s.prepare sql.toList (Token.scan 0 sql.toList) = .ok (some ({ effect }, [])) ∧
      (Token.scan 0 sql.toList).length = 1 ∧
      (∀ data, s.steps { effect } data = match s.perform data effect with
        | (.ok (), s) => .done s
        | (.error f, s) => .failed f.refusal s) ∧
      ∀ data after, s.perform data effect = (.ok (), after) → after.isAutocommit = closed := by
  cases h with
  | begin =>
    obtain ⟨hlength, hprepare⟩ := s.prepare_begin
    exact ⟨.begin false, hprepare, hlength, fun _ => rfl, fun _ _ => isAutocommit_begin⟩
  | commit =>
    have htokens : Token.scan 0 "COMMIT".toList = [⟨.word, "COMMIT".toList, 0⟩] :=
      Token.scan_single (Token.gap_of_head rfl (by decide) nofun) rfl (by decide)
    rw [htokens]
    exact ⟨.commit, rfl, rfl, fun _ => rfl, fun _ _ => isAutocommit_commit⟩
  | rollback =>
    have htokens : Token.scan 0 "ROLLBACK".toList = [⟨.word, "ROLLBACK".toList, 0⟩] :=
      Token.scan_single (Token.gap_of_head rfl (by decide) nofun) rfl (by decide)
    rw [htokens]
    exact ⟨.rollback, rfl, rfl, fun _ => rfl, fun _ _ => isAutocommit_rollback⟩

end Session

namespace Engine

/-- A statement is about to break a constraint whose conflicts are resolved by `ROLLBACK`. -/
def RollsBack (stmt : Option Prepared) (s : Session) : Prop :=
  ∃ p plan act, stmt = some p ∧ p.program.effect = .change plan act ∧ s.RollsBack p.data plan act

theorem isAutocommit_openDatabase {path : String} {flags : List OpenFlag} {s : Session}
    (h : openDatabase path flags = .ok s) : s.isAutocommit = true := by
  unfold openDatabase at h
  split at h
  · exact nomatch h
  · split at h
    · exact nomatch h
    · exact nomatch h
    · obtain rfl := Except.ok.inj h
      rfl

theorem within_self {sql : String} (h : sql.utf8ByteSize < 0x80000000) : within sql (cInt sql.utf8ByteSize) = sql := by
  rw [cInt_of_lt h, within, if_pos (.inr (Int.toNat_natCast _).ge)]

theorem isAutocommit_runText {sql : String} {closed : Bool} {s after : Session} (htext : TransactionText sql closed)
    (h : s.runText sql = (.ok (), after)) : after.isAutocommit = closed := by
  obtain ⟨effect, hprepare, hlength, hsteps, hclosed⟩ := s.exists_prepare htext
  simp only [Session.runText, hlength, Session.runAll, hprepare, hsteps] at h
  rcases hperform : s.perform [] effect with ⟨_ | _, s'⟩
  · rw [hperform] at h
    exact nomatch h
  · rw [hperform] at h
    obtain rfl := congrArg Prod.snd h
    exact hclosed [] s' hperform

theorem exists_ends {sql : String} {closed : Bool} {stmt : Option Prepared} {s ready : Session}
    (htext : TransactionText sql closed) (h : prepare sql (cInt sql.utf8ByteSize) s = (.ok stmt, ready)) :
    ∃ succeeds after, (steps stmt ready).Ends succeeds after ∧ (succeeds → after.isAutocommit = closed) := by
  obtain ⟨effect, hprepare, -, hsteps, hclosed⟩ := s.exists_prepare htext
  have hsize : sql.utf8ByteSize < 0x80000000 := by
    have hbegin : "BEGIN".utf8ByteSize = 5 := rfl
    have hcommit : "COMMIT".utf8ByteSize = 6 := rfl
    have hrollback : "ROLLBACK".utf8ByteSize = 8 := rfl
    cases htext with
    | begin | commit | rollback => omega
  simp only [prepare, within_self hsize, hprepare] at h
  obtain ⟨hstmt, rfl⟩ := Prod.mk.inj h
  obtain rfl := Except.ok.inj hstmt
  simp only [Option.map_some, steps, hsteps]
  rcases hperform : s.perform [] effect with ⟨_ | _, after⟩
  · exact ⟨false, after, .failed _ _, nofun⟩
  · exact ⟨true, after, .done _, fun _ => hclosed [] after hperform⟩

theorem exists_ends_of_rollsBack {stmt : Option Prepared} {s : Session} (h : RollsBack stmt s) :
    ∃ after, (steps stmt s).Ends false after ∧ after.isAutocommit = true := by
  obtain ⟨⟨program, data⟩, plan, act, rfl, heffect, hrolls⟩ := h
  obtain ⟨parameters, columns, effect⟩ := program
  obtain rfl := heffect
  obtain ⟨f, after, hchange, hclosed⟩ := Session.change_of_rollsBack hrolls
  refine ⟨after, ?_, hclosed⟩
  simp only [steps, Session.steps, Session.perform, hchange]
  exact .failed _ _

theorem transacts : engine.Transacts RollsBack where
  opened := isAutocommit_openDatabase
  setTimeout _ _ := rfl
  exec := isAutocommit_runText
  steps := exists_ends
  rollback := exists_ends_of_rollsBack
  finalize _ := rfl

end Engine

end RecordMapper.Sqlite
