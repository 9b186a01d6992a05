import RecordMapper.Proofs.Model.Runs
import RecordMapper.Record.Loading

/-!
# The calls of a load

Loading a relation asks and never writes: for the columns of tables, while it binds the model of the related rows, and
then for the rows, by one query at most, however many parents there are.

* a call only asks if it is a `SELECT` or asks for columns (`Call.Asks`, `OnlyAsks`);
* a load sends just one query when it succeeds for parents of which some have a key, and none when no parent has one
  (`LoadCalls`, `Relation.yields_load_calls`).
-/

namespace RecordMapper

variable {σ α : Type}

/-! ### Calls that only ask -/

/-- The call asks for rows, by a `SELECT`, or for the columns of a table. -/
inductive Call.Asks : Call → Prop where
  | rows (text : String) (binds : List Value) : Asks (.query ("SELECT " ++ text) binds)
  | columns (table : String) : Asks (.columns table)

/-- Every call only asks. -/
def OnlyAsks (events : List Event) : Prop :=
  ∀ e ∈ events, e.call.Asks

/-- Whether a call asks for rows. -/
def Call.isQuery : Call → Bool
  | .query .. => true
  | .execute .. | .begin | .commit | .rollback | .lastInsertId _ | .columns _ => false

/-- The queries among some calls. -/
def queries (events : List Event) : List Call :=
  (events.map Event.call).filter Call.isQuery

theorem queries_append (events later : List Event) : queries (events ++ later) = queries events ++ queries later := by
  rw [queries, List.map_append, List.filter_append]
  rfl

namespace OnlyAsks

theorem nil : OnlyAsks [] :=
  List.forall_mem_nil _

theorem append {events later : List Event} (h : OnlyAsks events) (hlater : OnlyAsks later) :
    OnlyAsks (events ++ later) :=
  List.forall_mem_append.2 ⟨h, hlater⟩

end OnlyAsks

/-- Every query is a `SELECT`. -/
theorem Select.text_of_sql {s : Select} {q : Quoter} {sql : Sql} (h : s.sql q = .ok sql) :
    ∃ text, sql.text = "SELECT " ++ text := by
  unfold Select.sql at h
  split at h
  · exact nomatch h
  · split at h
    · exact nomatch h
    · obtain rfl := Except.ok.inj h
      simp only [headText, String.append_assoc]
      exact ⟨_, rfl⟩

/-! ### Binding models -/

/-- Only columns of tables are asked for. -/
def OnlyColumns (events : List Event) : Prop :=
  ∀ e ∈ events, ∃ table, e.call = .columns table

namespace OnlyColumns

theorem nil : OnlyColumns [] :=
  List.forall_mem_nil _

theorem onlyAsks {events : List Event} (h : OnlyColumns events) : OnlyAsks events := by
  intro e he
  obtain ⟨table, hcall⟩ := h e he
  rw [hcall]
  exact .columns table

theorem queries_eq_nil {events : List Event} (h : OnlyColumns events) : queries events = [] := by
  rw [queries, List.filter_eq_nil_iff, List.forall_mem_map]
  intro e he
  obtain ⟨table, hcall⟩ := h e he
  rw [hcall]
  exact Bool.false_ne_true

end OnlyColumns

namespace Database

theorem yields_table (d : Driver σ) (name : String) :
    Yields (table d.traced name) fun _ events => OnlyColumns events := by
  intro db
  unfold table
  cases db.tables.get? name with
  | some t => exact ⟨[], (List.append_nil _).symm, .nil⟩
  | none =>
    have hasked := events_call_trace (.columns name) (d.columns name) db
    refine ⟨[.of (.columns name) (call (d.traced.columns name) db).1], ?_, List.forall_mem_singleton.2 ⟨name, rfl⟩⟩
    refine Eq.trans ?_ hasked
    show _ = (call (d.traced.columns name) db).2.events
    generalize call (d.traced.columns name) db = asked
    obtain ⟨_ | _ | _, after⟩ := asked <;> rfl

theorem yields_model (d : Driver σ) (name : String) :
    Yields (model d.traced name) fun _ events => OnlyColumns events := by
  intro db
  have hbound (e : Entity) : Yields (ExceptT.map (Model.bind e) (table d.traced e.table)) fun _ events =>
      OnlyColumns events := (yields_table d e.table).map fun _ _ h => h
  exact hbound _ db

end Database

/-! ### Loading -/

/-- The calls of a load, by whether a parent has a key and whether the load succeeds: columns are asked for, and rows by
one query at most. -/
structure LoadCalls (hasKey succeeds : Prop) (events : List Event) : Prop where
  asks : OnlyAsks events
  atMostOne : (queries events).length ≤ 1
  one : succeeds → hasKey → (queries events).length = 1
  none : ¬ hasKey → queries events = []

/-- No query is sent: there is no key, or the load fails before. -/
theorem LoadCalls.of_columns {hasKey succeeds : Prop} {events : List Event} (h : OnlyColumns events)
    (hends : succeeds → ¬ hasKey) : LoadCalls hasKey succeeds events where
  asks := h.onlyAsks
  atMostOne := by simp [h.queries_eq_nil]
  one hok hkey := absurd hkey (hends hok)
  none _ := h.queries_eq_nil

/-- One query is sent once the model is bound. -/
theorem LoadCalls.of_query {hasKey succeeds : Prop} {events later : List Event} (h : OnlyColumns events)
    (hlater : OnlyAsks later) (hone : (queries later).length = 1) (hkey : hasKey) :
    LoadCalls hasKey succeeds (events ++ later) where
  asks := h.onlyAsks.append hlater
  atMostOne := by simp [queries_append, h.queries_eq_nil, hone]
  one _ _ := by simp [queries_append, h.queries_eq_nil, hone]
  none hnot := absurd hkey hnot

namespace Relation

theorem yields_target (d : Driver σ) (r : Relation) (wrap : Option Bool) :
    Yields (r.target d.traced wrap) fun _ events => OnlyColumns events := by
  unfold target
  split
  · refine (Database.yields_model d r.model).bind (fun _ _ h => h) fun m events h => Yields.pure ?_
    rwa [List.append_nil]
  · exact Yields.pure .nil

/-- The rows of some keys are asked for by one query, unless that query cannot be written. -/
theorem yields_fetchKeyed (d : Driver σ) (r : Relation) (keys : List Value) :
    Yields (r.fetchKeyed d.traced keys) fun result events =>
      (events = [] ∧ ∃ e, result = .error e) ∨ (OnlyAsks events ∧ (queries events).length = 1) := by
  have hrun {link : Option LinkTable} {answer : Except Error (List Row)} {events : List Event}
      (h : Model.QueryRun d.quoter (r.select link keys) answer events) :
      (events = [] ∧ ∃ e, answer = .error e) ∨ (OnlyAsks events ∧ (queries events).length = 1) := by
    cases h with
    | faulty => exact .inl ⟨rfl, _, rfl⟩
    | sent hsql =>
      obtain ⟨text, htext⟩ := Select.text_of_sql hsql
      rw [htext]
      exact .inr ⟨List.forall_mem_singleton.2 (.rows text _), rfl⟩
  unfold fetchKeyed
  refine Yields.result_bind (fun e _ => .inl ⟨rfl, e, rfl⟩) fun link _ => ?_
  refine (Model.yields_runQuery d (r.select link keys)).bind (fun e events h => ?_) fun rows events h => Yields.pure ?_
  · exact (hrun h).imp_left fun ⟨hnil, _⟩ => ⟨hnil, e, rfl⟩
  · rw [List.append_nil]
    exact .inr ((hrun h).resolve_left fun ⟨_, _, he⟩ => nomatch he)

/-- A load makes these calls, whatever the driver answers. -/
theorem yields_load_calls [Parent α] (d : Driver σ) (r : Relation) (name : String) (parents : List α)
    (wrap : Option Bool) : Yields (r.load d.traced name parents wrap) fun result events =>
      LoadCalls (r.parentKeys parents ≠ []) (∃ loaded, result = .ok loaded) events := by
  unfold load
  refine (yields_target d r wrap).bind (fun _ _ h => .of_columns h fun ⟨_, he⟩ => nomatch he) fun target events h => ?_
  dsimp only
  split
  · rename_i hnone
    refine Yields.pure ?_
    rw [List.append_nil]
    exact .of_columns h fun _ hkey => hkey (List.isEmpty_iff.1 hnone)
  · rename_i hsome
    have hkey : r.parentKeys parents ≠ [] := fun hnil => hsome (List.isEmpty_iff.2 hnil)
    refine (yields_fetchKeyed d r _).bind (fun e later hfetched => ?_) fun keyed later hfetched => Yields.pure ?_
    · rcases hfetched with ⟨rfl, -⟩ | ⟨hlater, hone⟩
      · rw [List.append_nil]
        exact .of_columns h fun ⟨_, he⟩ => nomatch he
      · exact .of_query h hlater hone hkey
    · obtain ⟨hlater, hone⟩ := hfetched.resolve_left fun ⟨_, _, he⟩ => nomatch he
      rw [List.append_nil]
      exact .of_query h hlater hone hkey

end Relation

/-- Whatever a name means to a model, loading it only asks. -/
theorem Model.yields_loadRelation_asks [Parent α] (d : Driver σ) (m : Model) (parents : List α) (name : String)
    (wrap : Option Bool) : Yields (m.loadRelation d.traced parents name wrap) fun _ events => OnlyAsks events := by
  unfold loadRelation
  split
  · exact Yields.pure .nil
  · exact (Relation.yields_load_calls d _ name parents wrap).mono fun _ _ h => h.asks

end RecordMapper
