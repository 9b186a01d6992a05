import RecordMapper.Proofs.Model.BulkInsert
import RecordMapper.Proofs.Record.Runs
import RecordMapper.Proofs.Relation.Query

/-!
# Checks before writes

A write checks what it is given before it sends anything: the values that it is to write, and its condition.  Whatever
fails after that was raised by the driver.

* `CheckedFirst` says so of a run, with the errors that the check may end in; it holds of every insert, bulk insert,
  update and delete (`yields_insert_checkedFirst` and so on);
* the check of values ends in the error of the first value of a column that is not a single one
  (`firstUnwritable?`, `errorOf?_writable`, `errorOf?_mapM_bulkPairs`), and no other check ends in such an error;
* so a write that is refused has sent nothing, and it is refused for a value if and only if there is such a value
  (`writes_check_first`).
-/

namespace RecordMapper

variable {σ α β : Type}

/-! ### Runs that are checked first -/

/-- The error is what the driver answered to some call. -/
def RaisedByDriver (e : Error) (events : List Event) : Prop :=
  ∃ event ∈ events, event.ending = .error e

/-- If the run fails, that was the driver. -/
def OnlyDriverFails (result : Except Error α) (events : List Event) : Prop :=
  ∀ e, result = .error e → RaisedByDriver e events

namespace OnlyDriverFails

theorem ok (a : α) (events : List Event) : OnlyDriverFails (.ok a) events :=
  fun _ h => nomatch h

theorem failed {e : Error} {events : List Event} {c : Call} (h : .failed c e ∈ events) :
    OnlyDriverFails (.error e : Except Error α) events := by
  rintro _ ⟨⟩
  exact ⟨_, h, rfl⟩

theorem error {e : Error} {events : List Event} (h : OnlyDriverFails (.error e : Except Error β) events) :
    OnlyDriverFails (.error e : Except Error α) events := by
  rintro _ ⟨⟩
  exact h e rfl

theorem prepend {result : Except Error α} {events : List Event} (h : OnlyDriverFails result events)
    (before : List Event) : OnlyDriverFails result (before ++ events) := by
  intro e he
  obtain ⟨event, hmem, hending⟩ := h e he
  exact ⟨event, List.mem_append_right _ hmem, hending⟩

/-- If only the driver fails in two operations, it is so in one after the other. -/
theorem bind {op : Operation (List Event × σ) α} {next : α → Operation (List Event × σ) β} {Q : α → Prop}
    (h : Yields op fun result events => OnlyDriverFails result events ∧ ∀ a, result = .ok a → Q a)
    (hnext : ∀ a, Q a → Yields (next a) OnlyDriverFails) :
    Yields (op >>= next : Operation (List Event × σ) β) OnlyDriverFails := by
  refine Yields.bind h (fun e events h => h.1.error) fun a events h => ?_
  exact (hnext a (h.2 a rfl)).mono fun _ _ hlater => hlater.prepend events

theorem andThen {op : Operation (List Event × σ) α} {next : α → Operation (List Event × σ) β}
    (h : Yields op OnlyDriverFails) (hnext : ∀ a, Yields (next a) OnlyDriverFails) :
    Yields (op >>= next : Operation (List Event × σ) β) OnlyDriverFails :=
  bind (Q := fun _ => True) (h.mono fun _ _ h => ⟨h, fun _ _ => trivial⟩) fun a _ => hnext a

end OnlyDriverFails

/-- A run that begins with a check: it is refused before any call, or else only the driver fails. -/
inductive CheckedFirst (refusal : Option Error) : Except Error α → List Event → Prop where
  | refused {e : Error} (h : refusal = some e) : CheckedFirst refusal (.error e) []
  | accepted (h : refusal = none) {result : Except Error α} {events : List Event}
    (hfails : OnlyDriverFails result events) : CheckedFirst refusal result events

/-- An error that the driver did not raise was raised before any call. -/
theorem CheckedFirst.eq_nil {refusal : Option Error} {result : Except Error α} {events : List Event}
    (h : CheckedFirst refusal result events) {e : Error} (he : result = .error e)
    (hown : ¬ RaisedByDriver e events) : events = [] := by
  cases h with
  | refused => rfl
  | accepted _ hfails => exact absurd (hfails e he) hown

/-- The keys that the driver reports are single values. -/
def Driver.ReportsScalarKeys (d : Driver σ) : Prop :=
  ∀ sequence s v s', (d.lastInsertId sequence).run s = (.ok v, s') → v.isScalar = true

namespace Model

variable {d : Driver σ} {m : Model}

/-! ### The check of values -/

/-- The first entry for a column whose value is not a single one, be it an array or `DEFAULT`. -/
def firstUnwritable? (m : Model) (entries : List (String × Value)) : Option (String × Value) :=
  entries.find? fun e => m.hasColumn e.1 && !e.2.isScalar

/-- The error of an entry that cannot be written. -/
def unwritable (e : String × Value) : Error :=
  .unsupportedValue e.1 e.2.typeName

theorem errorOf?_writable (m : Model) (entries : List (String × Value)) :
    errorOf? (m.writable entries) = (m.firstUnwritable? entries).map unwritable := by
  induction entries with
  | nil => rfl
  | cons entry entries ih =>
    obtain ⟨col, v⟩ := entry
    rw [firstUnwritable?] at ih
    rw [writable, firstUnwritable?, List.find?_cons]
    cases hcol : m.hasColumn col with
    | false => simpa using ih
    | true =>
      cases hscalar : v.isScalar with
      | true => simpa [errorOf?_map] using ih
      | false => simp [errorOf?, unwritable]

/-- The rows of a bulk insert are checked one after the other. -/
theorem errorOf?_mapM_bulkPairs (m : Model) (rows : List Assignments) :
    errorOf? (rows.mapM m.bulkPairs) = (m.firstUnwritable? (rows.flatMap (·.toList))).map unwritable := by
  induction rows with
  | nil => rfl
  | cons row rows ih =>
    rw [firstUnwritable?] at ih
    rw [errorOf?_mapM_cons, ih, List.flatMap_cons, firstUnwritable?, List.find?_append, Option.map_or, bulkPairs,
      errorOf?_map, errorOf?_writable, firstUnwritable?]

/-! ### The checks of the writes -/

/-- The fault of the condition of an update, if there is any column to write. -/
def updateFault? (q : Quoter) (m : Model) (changes values : Assignments) : Option FilterFault :=
  match m.writable changes.toList with
  | .error _ | .ok [] => none
  | .ok (pair :: pairs) => errorOf? (m.updateSql q (pair :: pairs) values)

/-- The fault of the condition of a delete, if it has one. -/
def deleteFault? (q : Quoter) (m : Model) (values : Assignments) : Option FilterFault :=
  if values.isEmpty then none else errorOf? (m.deleteSql q values)

/-- The error that a write of some entries is refused with: that of the first value that cannot be written, or else that
of its condition. -/
def refusal? (m : Model) (entries : List (String × Value)) (fault? : Option FilterFault) : Option Error :=
  ((m.firstUnwritable? entries).map unwritable).or (fault?.map FilterFault.toError)

theorem exists_sql_selectOfKey (hcol : Text.trimmed m.primaryCol ≠ "") {key : Value} (hscalar : key.isScalar = true)
    (q : Quoter) : ∃ sql, (m.selectOfKey key).sql q = .ok sql := by
  rw [Select.exists_sql_iff]
  refine ⟨fun _ => ?_, fun h => nomatch h⟩
  refine Filter.wellFormed_and_iff.2 ⟨⟨by simp, by simp⟩, .test ⟨hcol, fun _ => by simp, fun _ v hv => ?_, (nomatch ·)⟩⟩
  obtain rfl := Option.some.inj hv
  exact hscalar

/-- The row of a key that is a single value is always asked for. -/
theorem yields_fetchRows_ofKey (d : Driver σ) (hcol : Text.trimmed m.primaryCol ≠ "") {key : Value}
    (hscalar : key.isScalar = true) : Yields (m.fetchRows d.traced (m.fetchOfKey key)) OnlyDriverFails := by
  obtain ⟨sql, hsql⟩ := exists_sql_selectOfKey hcol hscalar d.quoter
  refine (yields_fetchRows d m _).mono ?_
  rintro _ events ⟨answer, hrun, rfl⟩
  cases hrun with
  | faulty hfaulty => exact nomatch hsql.symm.trans hfaulty
  | sent =>
    cases answer with
    | ok rows => exact .ok _ _
    | error e => exact .failed (List.mem_singleton_self _)

/-- The key that is reported is a single value, unless the driver fails. -/
theorem yields_reportedKey (hscalar : d.ReportsScalarKeys) (m : Model) :
    Yields (m.reportedKey d.traced) fun result events =>
      OnlyDriverFails result events ∧ ∀ key, result = .ok key → key.isScalar = true := by
  intro db
  refine ⟨_, Database.events_call_trace (.lastInsertId (m.sequence? d.dialect)) _ db, fun e he => ?_,
    fun key hkey => ?_⟩
  · refine ⟨_, List.mem_singleton_self _, ?_⟩
    show Except.map (fun _ => ()) (m.reportedKey d.traced db).1 = _
    rw [he]
    rfl
  · obtain ⟨s, hrun, -⟩ := Database.call_eq_ok_iff.1 (Prod.ext hkey rfl)
    have hreported : ((d.lastInsertId (m.sequence? d.dialect)).run db.store.2).1 = .ok key := congrArg Prod.fst hrun
    exact hscalar _ _ key _ (Prod.ext hreported rfl)

theorem isScalar_of_ownKey? (hkey : m.hasColumn m.primaryCol = true) {data : Assignments}
    {pairs : List (String × Value)} (hpairs : m.writable data.toList = .ok pairs) {key : Value}
    (hown : m.ownKey? data = some key) : key.isScalar = true := by
  obtain ⟨hget, -⟩ := Option.filter_eq_some_iff.1 hown
  exact (writable_eq_ok_iff.1 hpairs).2 _ (OrderedMap.get?_eq_some_iff.1 hget) hkey

/-- An insert asks for the row that it wrote by a key that is a single value: one of the row, which was checked, or the
one that is reported. -/
theorem yields_insert_checkedFirst (hkey : m.hasColumn m.primaryCol = true) (hcol : Text.trimmed m.primaryCol ≠ "")
    (hscalar : d.ReportsScalarKeys) (data : Assignments) :
    Yields (m.insert d.traced data) (CheckedFirst (m.refusal? data.toList none)) := by
  rw [refusal?, ← errorOf?_writable, Option.map_none, Option.or_none]
  unfold insert
  refine Yields.result_bind (fun e h => .refused (by rw [h]; rfl)) fun pairs hpairs => ?_
  -- the values are checked; the query that follows the statement could still be refused for its key
  refine Yields.mono (P := OnlyDriverFails) ?_ fun _ _ h => .accepted (by rw [hpairs]; rfl) h
  refine Yields.call_bind _ _ (fun e => .failed (List.mem_singleton_self _)) fun _ => ?_
  refine Yields.mono (P := OnlyDriverFails) ?_ fun _ _ h => h.prepend [_]
  cases hown : m.ownKey? data with
  | some key =>
    have hread := yields_fetchRows_ofKey d hcol (isScalar_of_ownKey? hkey hpairs hown)
    dsimp only
    rw [pure_bind]
    refine OnlyDriverFails.andThen hread fun rows => ?_
    cases rows with
    | nil => exact Yields.pure (.ok _ _)
    | cons stored rows => exact Yields.pure (.ok _ _)
  | none =>
    refine OnlyDriverFails.bind (yields_reportedKey hscalar m) fun key hscalar => ?_
    refine OnlyDriverFails.andThen (yields_fetchRows_ofKey d hcol hscalar) fun rows => ?_
    cases rows with
    | nil => exact Yields.pure (.ok _ _)
    | cons stored rows => exact Yields.pure (.ok _ _)

theorem BulkRun.onlyDriverFails {dialect : Dialect} {batches done : List Batch} {result : Except Error (List Value)}
    {events : List Event} (h : BulkRun dialect m batches done result events) : OnlyDriverFails result events := by
  cases h with
  | inserted => exact .ok _ _
  | notInserted before b after e =>
    exact .failed (List.mem_append_right _ (List.mem_singleton_self (Event.failed (m.batchCall dialect b) e)))
  | @noKey before b hkey after e =>
    have hmem : Event.failed (m.keyCall dialect) e ∈
        [.done (m.batchCall dialect b), Event.failed (m.keyCall dialect) e] :=
      List.mem_cons_of_mem _ (List.mem_singleton_self _)
    exact .failed (List.mem_append_right _ hmem)

/-- All rows of a bulk insert are checked before the first of them is written. -/
theorem yields_insertMany_checkedFirst (d : Driver σ) (m : Model) (rows : List Assignments) :
    Yields (m.insertMany d.traced rows) (CheckedFirst (m.refusal? (rows.flatMap (·.toList)) none)) := by
  rw [refusal?, ← errorOf?_mapM_bulkPairs, Option.map_none, Option.or_none]
  cases hchecked : rows.mapM m.bulkPairs with
  | error e =>
    rw [insertMany_eq, hchecked]
    exact Yields.result_bind (fun e' h => .refused (by rw [h]; rfl)) fun _ h => nomatch h
  | ok pairs =>
    refine (yields_insertMany d m rows).mono ?_
    rintro result events ⟨done, hrun⟩
    cases hrun with
    | unwritable h => exact nomatch hchecked.symm.trans h
    | sent hrun => exact .accepted rfl hrun.onlyDriverFails

theorem UpdateRun.checkedFirst {q : Quoter} {changes values : Assignments} {result : Except Error (Option Nat)}
    {events : List Event} (h : UpdateRun q m changes values result events) :
    CheckedFirst (m.refusal? changes.toList (m.updateFault? q changes values)) result events := by
  rw [refusal?, ← errorOf?_writable, updateFault?]
  cases h with
  | unwritable h =>
    rw [h]
    exact .refused rfl
  | nothing h =>
    rw [h]
    exact .accepted rfl (.ok _ _)
  | notSent h hne hsql =>
    obtain ⟨pair, pairs, rfl⟩ := List.exists_cons_of_ne_nil hne
    rw [h]
    dsimp only
    rw [hsql]
    exact .refused rfl
  | notUpdated h hne hsql e =>
    obtain ⟨pair, pairs, rfl⟩ := List.exists_cons_of_ne_nil hne
    rw [h]
    dsimp only
    rw [hsql]
    exact .accepted rfl (.failed (List.mem_singleton_self _))
  | updated h hne hsql affected =>
    obtain ⟨pair, pairs, rfl⟩ := List.exists_cons_of_ne_nil hne
    rw [h]
    dsimp only
    rw [hsql]
    exact .accepted rfl (.ok _ _)

theorem DeleteRun.checkedFirst {q : Quoter} {values : Assignments} {result : Except Error (Option Nat)}
    {events : List Event} (h : DeleteRun q m values result events) :
    CheckedFirst (m.refusal? [] (m.deleteFault? q values)) result events := by
  unfold deleteFault?
  cases h with
  | nothing h =>
    rw [h]
    exact .accepted rfl (.ok _ _)
  | notSent hne hsql =>
    rw [hne, hsql]
    exact .refused rfl
  | sent hne hsql answer =>
    rw [hne, hsql]
    refine .accepted rfl ?_
    cases answer with
    | ok n => exact .ok _ _
    | error e => exact .failed (List.mem_singleton_self _)

/-! ### What is refused -/

/-- A write of some entries as it is refused: an error that the driver did not raise comes before any call, and the
error of a value that cannot be written comes if and only if there is one, and then for the first of them. -/
structure RefusesUnwritable (m : Model) (entries : List (String × Value)) (result : Except Error α)
    (events : List Event) : Prop where
  before : ∀ e, result = .error e → ¬ RaisedByDriver e events → events = []
  refused_iff : (∃ col typeName, result = .error (.unsupportedValue col typeName) ∧
      ¬ RaisedByDriver (.unsupportedValue col typeName) events) ↔
    ∃ e ∈ entries, m.hasColumn e.1 = true ∧ e.2.isScalar = false
  first : ∀ e, m.firstUnwritable? entries = some e → result = .error (unwritable e) ∧ events = []

theorem firstUnwritable?_isSome_iff {entries : List (String × Value)} :
    (∃ e, m.firstUnwritable? entries = some e) ↔ ∃ e ∈ entries, m.hasColumn e.1 = true ∧ e.2.isScalar = false := by
  rw [← Option.isSome_iff_exists, firstUnwritable?, List.find?_isSome]
  simp

/-- A condition is refused with other errors than a value. -/
theorem ne_unsupportedValue (fault : FilterFault) (col typeName : String) :
    fault.toError ≠ .unsupportedValue col typeName :=
  (nomatch ·)

theorem refusesUnwritable_of_checkedFirst {entries : List (String × Value)} {fault? : Option FilterFault}
    {result : Except Error α} {events : List Event} (h : CheckedFirst (m.refusal? entries fault?) result events) :
    m.RefusesUnwritable entries result events := by
  have hfirst : ∀ e, m.firstUnwritable? entries = some e → result = .error (unwritable e) ∧ events = [] := by
    intro e he
    rw [refusal?, he] at h
    cases h with
    | refused h => exact ⟨congrArg _ (Option.some.inj h).symm, rfl⟩
    | accepted h => exact nomatch h
  refine ⟨fun e => h.eq_nil, ?_, hfirst⟩
  rw [← firstUnwritable?_isSome_iff]
  constructor
  · rintro ⟨col, typeName, rfl, hown⟩
    cases hentry : m.firstUnwritable? entries with
    | some e => exact ⟨e, rfl⟩
    | none =>
      rw [refusal?, hentry] at h
      cases h with
      | refused h =>
        obtain ⟨fault, -, hfault⟩ := Option.map_eq_some_iff.1 h
        exact absurd hfault (ne_unsupportedValue fault col typeName)
      | accepted _ hfails => exact absurd (hfails _ rfl) hown
  · rintro ⟨e, he⟩
    obtain ⟨hresult, rfl⟩ := hfirst e he
    exact ⟨_, _, hresult, fun ⟨_, hmem, _⟩ => absurd hmem List.not_mem_nil⟩

end Model

/--
Every write is checked before anything is sent.  An insert, bulk insert, update or delete that fails with an error that
the driver did not raise, a structural one in particular, has made no call at all.  An insert, a bulk insert and an
update are refused for a value that cannot be written if and only if some value of a column, among all that are to be
written, is an array or `DEFAULT`, and then for the first of them in the order of the rows; values under other names do
not count.
-/
theorem writes_check_first (d : Driver σ) (m : Model) (hkey : m.hasColumn m.primaryCol = true)
    (hcol : Text.trimmed m.primaryCol ≠ "") (hscalar : d.ReportsScalarKeys) (data : Assignments)
    (rows : List Assignments) (changes values : Assignments) :
    Yields (m.insert d.traced data) (m.RefusesUnwritable data.toList) ∧
      Yields (m.insertMany d.traced rows) (m.RefusesUnwritable (rows.flatMap (·.toList))) ∧
      Yields (m.updateMatching d.traced changes values) (m.RefusesUnwritable changes.toList) ∧
      Yields (m.deleteMatching d.traced values) fun result events =>
        ∀ e, result = .error e → ¬ RaisedByDriver e events → events = [] := by
  refine ⟨?_, ?_, ?_, ?_⟩
  · exact (Model.yields_insert_checkedFirst hkey hcol hscalar data).mono fun _ _ =>
      Model.refusesUnwritable_of_checkedFirst
  · exact (Model.yields_insertMany_checkedFirst d m rows).mono fun _ _ => Model.refusesUnwritable_of_checkedFirst
  · exact (Model.yields_updateMatching d m changes values).mono fun _ _ h =>
      Model.refusesUnwritable_of_checkedFirst h.checkedFirst
  · exact (Model.yields_deleteMatching d m values).mono fun _ _ h e => h.checkedFirst.eq_nil

namespace Model.Example

/-- A row of a post with a note, which is no column; none of its values can be written. -/
def unfit : Assignments := .ofList [("note", .array []), ("title", .default), ("id", .array [])]

/-- The row after one that can be inserted. -/
def rows : List Assignments := [.ofList [("title", .text "a")], unfit]

/-- A database that holds nothing, and reports `NULL` for a key. -/
def idle : Driver Bool := .idle .sqlite

end Model.Example

open Record.Example (posts) in
open Model.Example in
/-- The row is refused for its title, and the one before it is not inserted. -/
theorem writes_check_first_unfit :
    (posts.hasColumn posts.primaryCol = true ∧ Text.trimmed posts.primaryCol ≠ "" ∧ idle.ReportsScalarKeys) ∧
      posts.insertMany idle.traced rows { store := ([], false) } =
        (.error (.unsupportedValue "title" "DEFAULT"), { store := ([], false) }) ∧
      Yields (posts.insert idle.traced unfit) (posts.RefusesUnwritable unfit.toList) ∧
      Yields (posts.insertMany idle.traced rows) (posts.RefusesUnwritable (rows.flatMap (·.toList))) ∧
      Yields (posts.updateMatching idle.traced unfit {}) (posts.RefusesUnwritable unfit.toList) ∧
      Yields (posts.deleteMatching idle.traced {}) fun result events =>
        ∀ e, result = .error e → ¬ RaisedByDriver e events → events = [] := by
  have hkey : posts.hasColumn posts.primaryCol = true := rfl
  have hcol : Text.trimmed posts.primaryCol ≠ "" := by decide
  have hscalar : idle.ReportsScalarKeys := by
    rintro sequence s v s' ⟨⟩
    rfl
  exact ⟨⟨hkey, hcol, hscalar⟩, rfl, writes_check_first idle posts hkey hcol hscalar unfit rows unfit {}⟩

end RecordMapper
