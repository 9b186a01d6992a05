import Mathlib.Data.List.Induction
import RecordMapper.Proofs.Sqlite.Engine

/-!
# The transaction of a connection

A connection says by a flag of its own whether a transaction is open.  The flag is set when `begin`, `commit` or
`rollback` have been run; every other statement leaves it, though it may open or close a transaction as well.

* `Connection.Call` are the operations of a connection, and `Connection.after` is what a run of them leads to;
* an operation keeps the flag true exactly if it is one that sets the flag, or leaves a transaction open if one is, and
  none otherwise (`Connection.IsTruthful.next_iff`);
* so the flag is true throughout a run exactly if no text of the caller's own changes whether a transaction is open
  (`Connection.truthful_iff`), as one that opens a transaction does (`Connection.begin_unnoticed`).
-/

namespace RecordMapper.Sqlite

variable {δ σ : Type} {lib : Library δ σ}

namespace Library

variable {rollsBack : σ → δ → Prop} {sql : String} {closed succeeds : Bool} {binds : List Value} {stmt : σ}
  {db ready after : δ}

/-! ### Statements with a single step -/

theorem query_of_ends (hready : lib.prepared sql binds db = (.ok stmt, ready))
    (hends : (lib.steps stmt ready).Ends succeeds after) :
    (lib.query sql binds db).1.isOk = succeeds ∧ (lib.query sql binds db).2 = lib.finalize stmt after := by
  rw [query, hready]
  dsimp only
  generalize lib.steps stmt ready = stepping at hends
  cases hends with
  | done => exact ⟨rfl, rfl⟩
  | failed => exact ⟨rfl, rfl⟩

theorem execute_of_ends (hready : lib.prepared sql binds db = (.ok stmt, ready))
    (hends : (lib.steps stmt ready).Ends succeeds after) :
    (lib.execute sql binds db).1.isOk = succeeds ∧ (lib.execute sql binds db).2 = lib.finalize stmt after := by
  rw [execute, hready]
  dsimp only
  generalize lib.steps stmt ready = stepping at hends
  cases hends with
  | done => exact ⟨rfl, rfl⟩
  | failed => exact ⟨rfl, rfl⟩

theorem checkText_of_transactionText (h : TransactionText sql closed) : checkText sql = .ok () := by
  rw [checkText_eq_ok_iff]
  cases h with
  | begin => decide
  | commit => decide
  | rollback => decide

/-- A text that opens or closes a transaction has no parameters to be bound. -/
theorem exists_ends_of_transactionText (hlib : lib.Transacts rollsBack) (htext : TransactionText sql closed)
    (hready : lib.prepared sql [] db = (.ok stmt, ready)) :
    ∃ succeeds after, (lib.steps stmt ready).Ends succeeds after ∧ (succeeds → lib.isAutocommit after = closed) := by
  rw [prepared, checkText_of_transactionText htext] at hready
  dsimp only at hready
  rcases hprepare : lib.prepare sql (cInt sql.utf8ByteSize) db with ⟨_ | found, after⟩
  · rw [hprepare] at hready
    exact nomatch hready
  · rw [hprepare] at hready
    obtain ⟨hstmt, rfl⟩ := Prod.mk.inj hready
    obtain rfl := Except.ok.inj hstmt
    exact hlib.steps htext hprepare

/-- A statement without parameters is not run, or it comes to its end and is given up. -/
private theorem isAutocommit_of_ran (hlib : lib.Transacts rollsBack) (htext : TransactionText sql closed) {ok : Bool}
    (hok : ok = true) (hrefused : ∀ e after, lib.prepared sql [] db = (.error e, after) → ok = false)
    (hran : ∀ stmt ready succeeds ended, lib.prepared sql [] db = (.ok stmt, ready) →
      (lib.steps stmt ready).Ends succeeds ended → ok = succeeds ∧ after = lib.finalize stmt ended) :
    lib.isAutocommit after = closed := by
  rcases hready : lib.prepared sql [] db with ⟨e | stmt, ready⟩
  · exact absurd ((hrefused e ready hready).symm.trans hok) Bool.false_ne_true
  · obtain ⟨succeeds, ended, hends, hclosed⟩ := exists_ends_of_transactionText hlib htext hready
    obtain ⟨hresult, rfl⟩ := hran stmt ready succeeds ended hready hends
    rw [hlib.finalize hends]
    exact hclosed (hresult.symm.trans hok)

theorem isAutocommit_query (hlib : lib.Transacts rollsBack) (htext : TransactionText sql closed)
    (hok : (lib.query sql [] db).1.isOk = true) : lib.isAutocommit (lib.query sql [] db).2 = closed := by
  refine isAutocommit_of_ran hlib htext hok (fun e after hrefused => ?_) fun _ _ _ _ => query_of_ends
  rw [query, hrefused]
  rfl

theorem isAutocommit_execute (hlib : lib.Transacts rollsBack) (htext : TransactionText sql closed)
    (hok : (lib.execute sql [] db).1.isOk = true) : lib.isAutocommit (lib.execute sql [] db).2 = closed := by
  refine isAutocommit_of_ran hlib htext hok (fun e after hrefused => ?_) fun _ _ _ _ => execute_of_ends
  rw [execute, hrefused]
  rfl

theorem isAutocommit_executeRaw (hlib : lib.Transacts rollsBack) (htext : TransactionText sql closed)
    (hok : (lib.executeRaw sql db).1.isOk = true) : lib.isAutocommit (lib.executeRaw sql db).2 = closed := by
  rw [executeRaw, checkText_of_transactionText htext] at hok ⊢
  dsimp only at hok ⊢
  rcases hexec : lib.exec sql db with ⟨_ | _, after⟩
  · rw [hexec] at hok
    exact nomatch hok
  · exact hlib.exec htext hexec

end Library

namespace Connection

variable {c : Connection δ}

/-! ### Operations -/

/-- An operation of a connection, with any text. -/
inductive Call where
  | query (sql : String) (binds : List Value)
  | execute (sql : String) (binds : List Value)
  | executeRaw (sql : String)
  | begin
  | commit
  | rollback

/-- Whether a transaction has to be open for an operation that opens or closes one. -/
def Call.expected? : Call → Option Bool
  | .begin => some false
  | .commit | .rollback => some true
  | .query .. | .execute .. | .executeRaw _ => none

/-- The operations that run a text without parameters. -/
def Call.ways (sql : String) : List Call := [.query sql [], .execute sql [], .executeRaw sql]

/-- Whether an operation succeeds, and the connection after it in either case. -/
def outcome (lib : Library δ σ) (c : Connection δ) : Call → Bool × Connection δ
  | .query sql binds => ((query lib sql binds).run c).map Except.isOk id
  | .execute sql binds => ((execute lib sql binds).run c).map Except.isOk id
  | .executeRaw sql => ((executeRaw lib sql).run c).map Except.isOk id
  | .begin => ((begin lib).run c).map Except.isOk id
  | .commit => ((commit lib).run c).map Except.isOk id
  | .rollback => ((rollback lib).run c).map Except.isOk id

/-- The connection after an operation. -/
def next (lib : Library δ σ) (c : Connection δ) (call : Call) : Connection δ := (outcome lib c call).2

/-- The connection after some operations. -/
def after (lib : Library δ σ) (c : Connection δ) (calls : List Call) : Connection δ :=
  calls.foldl (next lib) c

/-- The flag says whether a transaction is open. -/
def IsTruthful (lib : Library δ σ) (c : Connection δ) : Prop :=
  c.inTransaction = true ↔ lib.isAutocommit c.db = false

/-- No operation but those that open and close a transaction touches the flag. -/
theorem inTransaction_next (c : Connection δ) {call : Call} (h : call.expected? = none) :
    (c.next lib call).inTransaction = c.inTransaction := by
  cases call with
  | query | execute | executeRaw => rfl
  | begin | commit | rollback => exact nomatch h

/-- An operation that opens or closes a transaction is run and sets the flag, or is refused by the flag. -/
theorem transition_state (c : Connection δ) (sql : String) (expected : Bool) :
    c.inTransaction = expected ∧ ((transition lib sql expected).run c).2.IsTruthful lib ∨
      c.inTransaction ≠ expected ∧ ((transition lib sql expected).run c).2 = c := by
  show _ ∧ (transition lib sql expected c).2.IsTruthful lib ∨ _ ∧ (transition lib sql expected c).2 = c
  by_cases hflag : c.inTransaction = expected
  · refine .inl ⟨hflag, ?_⟩
    rw [transition, if_neg (fun hne => hne hflag)]
    exact Iff.of_eq (Bool.not_eq_true' _)
  · refine .inr ⟨hflag, ?_⟩
    rw [transition, if_pos hflag]

theorem next_transition (c : Connection δ) {call : Call} {expected : Bool} (h : call.expected? = some expected) :
    c.inTransaction = expected ∧ (c.next lib call).IsTruthful lib ∨
      c.inTransaction ≠ expected ∧ c.next lib call = c := by
  cases call with
  | begin | commit | rollback =>
    obtain rfl := Option.some.inj h
    exact transition_state c _ _
  | query | execute | executeRaw => exact nomatch h

/-! ### Texts that open and close transactions -/

section Texts

variable {rollsBack : σ → δ → Prop} {sql : String} {closed : Bool} {call : Call}

/-- However a text that opens or closes a transaction is run, it does so if it succeeds. -/
theorem isAutocommit_of_transactionText (hlib : lib.Transacts rollsBack) (htext : TransactionText sql closed)
    (hcall : call ∈ Call.ways sql) (hok : (c.outcome lib call).1 = true) :
    lib.isAutocommit (c.next lib call).db = closed := by
  simp only [Call.ways, List.mem_cons, List.not_mem_nil, or_false] at hcall
  rcases hcall with rfl | rfl | rfl
  · exact Library.isAutocommit_query hlib htext hok
  · exact Library.isAutocommit_execute hlib htext hok
  · exact Library.isAutocommit_executeRaw hlib htext hok

/-- A statement that breaks such a constraint fails, and leaves no transaction open. -/
theorem isAutocommit_of_rollsBack (hlib : lib.Transacts rollsBack) {binds : List Value} {stmt : σ} {ready : δ}
    (hready : lib.prepared sql binds c.db = (.ok stmt, ready)) (hrolls : rollsBack stmt ready)
    (hcall : call = .query sql binds ∨ call = .execute sql binds) :
    (c.outcome lib call).1 = false ∧ lib.isAutocommit (c.next lib call).db = true := by
  obtain ⟨after, hends, hclosed⟩ := hlib.rollback hrolls
  rw [← hlib.finalize hends] at hclosed
  rcases hcall with rfl | rfl
  · obtain ⟨hresult, hstate⟩ := Library.query_of_ends hready hends
    rw [← hstate] at hclosed
    exact ⟨hresult, hclosed⟩
  · obtain ⟨hresult, hstate⟩ := Library.execute_of_ends hready hends
    rw [← hstate] at hclosed
    exact ⟨hresult, hclosed⟩

end Texts

/-! ### Runs -/

theorem after_append (c : Connection δ) (calls : List Call) (call : Call) :
    c.after lib (calls ++ [call]) = (c.after lib calls).next lib call := by
  rw [after, List.foldl_append]
  rfl

/-- One operation keeps the flag true exactly if it is one that sets the flag, or keeps the transaction as it is. -/
theorem IsTruthful.next_iff (h : c.IsTruthful lib) (call : Call) :
    (c.next lib call).IsTruthful lib ↔
      (call.expected? = none → lib.isAutocommit (c.next lib call).db = lib.isAutocommit c.db) := by
  cases hcall : call.expected? with
  | some expected =>
    refine iff_of_true ?_ nofun
    rcases next_transition c hcall with ⟨-, hset⟩ | ⟨-, hrefused⟩
    · exact hset
    · rwa [hrefused]
  | none =>
    rw [IsTruthful] at h
    rw [IsTruthful, inTransaction_next c hcall, h]
    cases lib.isAutocommit c.db <;> cases lib.isAutocommit (c.next lib call).db <;> simp

theorem isTruthful_ofConfig {rollsBack : σ → δ → Prop} (hlib : lib.Transacts rollsBack) {config : Config}
    (h : ofConfig lib config = .ok c) : c.IsTruthful lib := by
  unfold ofConfig at h
  dsimp only at h
  split at h
  · exact nomatch h
  · split at h
    · exact nomatch h
    · rename_i db hopened
      obtain rfl := Except.ok.inj h
      refine iff_of_false Bool.false_ne_true ?_
      dsimp only
      split
      · rw [hlib.setTimeout, hlib.opened hopened]
        exact nofun
      · rw [hlib.opened hopened]
        exact nofun

/--
The flag of a connection over a run of operations from when it is opened.  After each of them it says whether a
transaction is open exactly if no text of the caller's own changes, as a whole, whether one is.  A text that opens or
closes a transaction does so, however it is run, and so does a statement that breaks a constraint whose conflicts are
resolved by `ROLLBACK`.  Whatever the flag says before it, an operation that opens or closes a transaction leaves it
true unless it is refused because of it, and then nothing changes.
-/
theorem truthful_iff {rollsBack : σ → δ → Prop} (hlib : lib.Transacts rollsBack) {config : Config}
    (h : ofConfig lib config = .ok c) (calls : List Call) :
    ((∀ done, done <+: calls → (c.after lib done).IsTruthful lib) ↔
      ∀ done call, done ++ [call] <+: calls → call.expected? = none →
        lib.isAutocommit ((c.after lib done).next lib call).db = lib.isAutocommit (c.after lib done).db) ∧
    (∀ done call expected, call.expected? = some expected →
      (c.after lib done).inTransaction = expected ∧ ((c.after lib done).next lib call).IsTruthful lib ∨
        (c.after lib done).inTransaction ≠ expected ∧ (c.after lib done).next lib call = c.after lib done) ∧
    (∀ done sql closed call, (c.after lib done).IsTruthful lib → TransactionText sql closed → call ∈ Call.ways sql →
      ((c.after lib done).outcome lib call).1 = true → lib.isAutocommit (c.after lib done).db ≠ closed →
        ¬ ((c.after lib done).next lib call).IsTruthful lib) ∧
    ∀ done sql binds stmt ready call, (c.after lib done).IsTruthful lib →
      lib.prepared sql binds (c.after lib done).db = (.ok stmt, ready) → rollsBack stmt ready →
      call = .query sql binds ∨ call = .execute sql binds → (c.after lib done).inTransaction = true →
        ((c.after lib done).outcome lib call).1 = false ∧ ¬ ((c.after lib done).next lib call).IsTruthful lib := by
  have hfirst := isTruthful_ofConfig hlib h
  refine ⟨⟨fun htrue done call hdone => ?_, fun hkeeps done hdone => ?_⟩,
    fun done call expected => next_transition (c.after lib done), ?_, ?_⟩
  · have hbefore := htrue done ((List.prefix_append done [call]).trans hdone)
    exact (hbefore.next_iff call).1 (after_append c done call ▸ htrue _ hdone)
  · -- a run is taken apart from its end: the last operation is judged by the connection before it
    induction done using List.reverseRecOn with
    | nil => exact hfirst
    | append_singleton done call ih =>
      rw [after_append]
      have hbefore := ih ((List.prefix_append done [call]).trans hdone)
      exact (hbefore.next_iff call).2 (hkeeps done call hdone)
  · intro done sql closed call hbefore htext hcall hok hchanges hafter
    have hown : call.expected? = none := by
      simp only [Call.ways, List.mem_cons, List.not_mem_nil, or_false] at hcall
      rcases hcall with rfl | rfl | rfl <;> rfl
    have hkept := (hbefore.next_iff call).1 hafter hown
    exact hchanges (hkept.symm.trans (isAutocommit_of_transactionText hlib htext hcall hok))
  · intro done sql binds stmt ready call hbefore hready hrolls hcall hopen
    obtain ⟨hfails, hclosed⟩ := isAutocommit_of_rollsBack hlib hready hrolls hcall
    have hown : call.expected? = none := by
      rcases hcall with rfl | rfl <;> rfl
    refine ⟨hfails, fun hafter => ?_⟩
    have hkept := (hbefore.next_iff call).1 hafter hown
    exact nomatch hclosed.symm.trans (hkept.trans (hbefore.1 hopen))

namespace Example

/-- A new database in memory. -/
def opened : Connection Session := { path := ":memory:", db := {} }

/-- The same while a transaction is open. -/
def begun : Connection Session := { opened with db := opened.db.mark none }

theorem openDatabase_memory :
    engine.openDatabase Config.memory.path (OpenFlag.withDefault Config.memory.flags) = .ok {} := by
  have hfile : Config.memory.path.startsWith "file:" = false := by
    rw [Bool.eq_false_iff, ne_eq, String.startsWith_string_iff]
    decide
  have hread : Location.read Config.memory.path .create = .ok (.memory false) := by
    rw [Location.read, hfile]
    rfl
  have haccess : OpenFlag.access? (OpenFlag.withDefault Config.memory.flags) = some .create := rfl
  simp only [engine, Engine.openDatabase, haccess, hread]

theorem ofConfig_memory : ofConfig engine Config.memory = .ok opened := by
  have hpath : Config.memory.path.contains '\x00' = false := by
    rw [String.contains_char_eq]
    decide
  rw [ofConfig, hpath, openDatabase_memory]
  rfl

/-- The failure of a statement that opens a transaction while one is open. -/
def nested : Refusal := (Failure.general "cannot start a transaction within a transaction").refusal

theorem executeRaw_begin (s : Session) :
    engine.executeRaw "BEGIN" s =
      if s.isAutocommit then (.ok (), s.mark none) else (.error (nested.toError nested.described "BEGIN"), s) := by
  have hexec : engine.exec "BEGIN" s = if s.isAutocommit then (.ok (), s.mark none) else (.error nested, s) := by
    obtain ⟨hlength, hprepare⟩ := s.prepare_begin
    show s.runText "BEGIN" = _
    simp only [Session.runText, hlength, Session.runAll, hprepare, Session.steps, Session.perform, Bool.false_and]
    cases s.isAutocommit <;> rfl
  rw [Library.executeRaw, Library.checkText_of_transactionText .begin, hexec]
  cases s.isAutocommit <;> rfl

end Example

open Example in
/-- A second attempt to open a transaction is refused, and the flag is right about both and about the end. -/
theorem truthful_iff_nested :
    ofConfig engine Config.memory = .ok opened ∧
      ∀ done, done <+: [.begin, .begin, .commit] → (opened.after engine done).IsTruthful engine := by
  refine ⟨ofConfig_memory, (truthful_iff Engine.transacts ofConfig_memory _).1.2 fun done call hdone hown => ?_⟩
  have hcall := hdone.subset (List.mem_append_right done (List.mem_singleton_self call))
  simp only [List.mem_cons, List.not_mem_nil, or_false] at hcall
  rcases hcall with rfl | rfl | rfl
  · exact nomatch hown
  · exact nomatch hown
  · exact nomatch hown

open Example in
/-- A transaction that a text has opened is not noticed: to open another one is not refused, and the statement fails. -/
theorem begin_unnoticed :
    ofConfig engine Config.memory = .ok opened ∧ ¬ (opened.after engine [.executeRaw "BEGIN"]).IsTruthful engine ∧
      (opened.after engine [.executeRaw "BEGIN"]).inTransaction = false ∧
      (begin engine).run (opened.after engine [.executeRaw "BEGIN"]) =
        (.error (nested.toError nested.described "BEGIN"), { begun with inTransaction := true }) := by
  have hbegun : opened.after engine [.executeRaw "BEGIN"] = begun := by
    show { opened with db := (engine.executeRaw "BEGIN" opened.db).2 } = begun
    rw [executeRaw_begin]
    rfl
  have hfailed : (begin engine).run begun =
      (.error (nested.toError nested.described "BEGIN"), { begun with inTransaction := true }) := by
    show transition engine "BEGIN" false begun = _
    rw [transition, if_neg (by decide), executeRaw_begin]
    rfl
  rw [hbegun]
  refine ⟨ofConfig_memory, fun htrue => ?_, rfl, hfailed⟩
  exact Bool.false_ne_true (htrue.2 rfl)

end Connection

end RecordMapper.Sqlite
