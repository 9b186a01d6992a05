import RecordMapper.Model.Write
import RecordMapper.Proofs.Driver.Trace

/-!
# The runs of single writes

Which calls an insert or an update makes, and what it returns, whichever of the calls fail.

* an insert is one statement, then perhaps the question for the generated key, then the query for the stored row; it
  ends with the first of them that fails (`InsertRun`, `yields_insert`);
* an update is at most one statement (`UpdateRun`, `yields_updateMatching`), and so is a delete (`DeleteRun`,
  `yields_deleteMatching`).
-/

namespace RecordMapper.Model

variable {σ : Type}

/-! ### What is written -/

/-- What is written are the entries of columns, and each of them must be a single value. -/
theorem writable_eq_ok_iff {m : Model} {es pairs : List (String × Value)} :
    m.writable es = .ok pairs ↔
      pairs = es.filter (fun e => m.hasColumn e.1) ∧ ∀ e ∈ es, m.hasColumn e.1 = true → e.2.isScalar = true := by
  induction es generalizing pairs with
  | nil =>
    constructor
    · intro h
      obtain rfl := Except.ok.inj h
      exact ⟨rfl, by simp⟩
    · rintro ⟨rfl, -⟩
      rfl
  | cons e es ih =>
    obtain ⟨col, v⟩ := e
    rw [writable, List.forall_mem_cons, List.filter_cons]
    by_cases hcol : m.hasColumn col = true
    · by_cases hscalar : v.isScalar = true
      · rw [if_pos hcol, if_pos hscalar, if_pos hcol]
        constructor
        · intro h
          cases hrest : m.writable es with
          | error e => simp [hrest, Except.map] at h
          | ok rest =>
            obtain ⟨rfl, heach⟩ := ih.1 hrest
            rw [hrest] at h
            exact ⟨(Except.ok.inj h).symm, fun _ => hscalar, heach⟩
        · rintro ⟨rfl, -, heach⟩
          rw [ih.2 ⟨rfl, heach⟩]
          rfl
      · simp [hcol, hscalar]
    · rw [if_neg hcol, if_neg hcol, ih]
      simp [hcol]

/-! ### Queries -/

/-- The runs of a query: it is faulty and not sent, or it is sent and the driver's answer is the result. -/
inductive QueryRun (q : Quoter) (s : Select) : Except Error (List Row) → List Event → Prop where
  | faulty {fault : FilterFault} (h : s.sql q = .error fault) : QueryRun q s (.error fault.toError) []
  | sent {sql : Sql} (h : s.sql q = .ok sql) (answer : Except Error (List Row)) :
    QueryRun q s answer [.of (.query sql.text sql.binds) answer]

theorem yields_runQuery (d : Driver σ) (s : Select) : Yields (runQuery d.traced s) (QueryRun d.quoter s) := by
  unfold runQuery
  rw [Driver.quoter_traced]
  cases hsql : s.sql d.quoter with
  | error fault => exact Yields.result (.faulty hsql)
  | ok sql => exact Yields.call _ _ (.sent hsql)

theorem yields_fetchRows (d : Driver σ) (m : Model) (f : Fetch) :
    Yields (m.fetchRows d.traced f) fun r events =>
      ∃ answer, QueryRun d.quoter { table := m.tableName, fetch := f } answer events ∧
        r = answer.map (List.map Row.toMap) := by
  unfold fetchRows
  refine (yields_runQuery d _).bind (fun e events h => ⟨_, h, rfl⟩) fun rows events h => ?_
  exact Yields.pure ⟨_, by rwa [List.append_nil], rfl⟩

/-- The query for the row of a key. -/
def selectOfKey (m : Model) (key : Value) : Select :=
  { table := m.tableName, fetch := m.fetchOfKey key }

/-! ### Inserts -/

/-- The statement of an insert, as a call. -/
def insertCall (m : Model) (d : Dialect) (pairs : List (String × Value)) : Call :=
  .execute (m.insertOne d pairs).text (m.insertOne d pairs).binds

/-- How the key of an inserted row is learned: the row brought it along, or the driver reports it. -/
inductive KeyRun (d : Dialect) (m : Model) (data : Assignments) : Value → List Event → Prop where
  | own {key : Value} (h : m.ownKey? data = some key) : KeyRun d m data key []
  | reported (h : m.ownKey? data = none) (key : Value) :
    KeyRun d m data key [.done (.lastInsertId (m.sequence? d))]

/-- The row that an insert gives back when the query for it found some rows. -/
def storedRow (m : Model) (data : Assignments) (key : Value) (found : List Row) : Assignments :=
  match found with
  | row :: _ => row.toMap
  | [] => m.writtenRow data key

/-- The runs of an insert after its statement was done: the key is learned, then the row is looked up. -/
inductive StoredRun (q : Quoter) (m : Model) (data : Assignments) : Except Error Assignments → List Event → Prop where
  /-- The key stays unknown. -/
  | noKey (hkey : m.ownKey? data = none) (e : Error) :
    StoredRun q m data (.error e) [.failed (.lastInsertId (m.sequence? q.dialect)) e]
  /-- There is no query for the key. -/
  | notAsked {key : Value} {asked : List Event} (hkey : KeyRun q.dialect m data key asked) {fault : FilterFault}
      (hsql : (m.selectOfKey key).sql q = .error fault) : StoredRun q m data (.error fault.toError) asked
  /-- The query fails. -/
  | notRead {key : Value} {asked : List Event} (hkey : KeyRun q.dialect m data key asked) {sql : Sql}
      (hsql : (m.selectOfKey key).sql q = .ok sql) (e : Error) :
    StoredRun q m data (.error e) (asked ++ [.failed (.query sql.text sql.binds) e])
  /-- The row is looked up. -/
  | read {key : Value} {asked : List Event} (hkey : KeyRun q.dialect m data key asked) {sql : Sql}
      (hsql : (m.selectOfKey key).sql q = .ok sql) (found : List Row) :
    StoredRun q m data (.ok (m.storedRow data key found)) (asked ++ [.done (.query sql.text sql.binds)])

/-- The runs of an insert, in the order in which it may end. -/
inductive InsertRun (q : Quoter) (m : Model) (data : Assignments) : Except Error Assignments → List Event → Prop where
  /-- A value cannot be written. -/
  | unwritable {e : Error} (h : m.writable data.toList = .error e) : InsertRun q m data (.error e) []
  /-- The statement fails. -/
  | notInserted {pairs : List (String × Value)} (h : m.writable data.toList = .ok pairs) (e : Error) :
    InsertRun q m data (.error e) [.failed (m.insertCall q.dialect pairs) e]
  /-- The row is inserted. -/
  | inserted {pairs : List (String × Value)} (h : m.writable data.toList = .ok pairs)
      {result : Except Error Assignments} {later : List Event} (hlater : StoredRun q m data result later) :
    InsertRun q m data result (.done (m.insertCall q.dialect pairs) :: later)

/-- The query for the row, after the calls that it took to learn the key. -/
private theorem yields_readBack (d : Driver σ) {m : Model} {data : Assignments} {key : Value} {asked : List Event}
    (hkey : KeyRun d.dialect m data key asked) :
    Yields (do
      match ← m.fetchRows d.traced (m.fetchOfKey key) with
      | stored :: _ => return stored
      | [] => return m.writtenRow data key : Operation (List Event × σ) Assignments) fun r events =>
        StoredRun d.quoter m data r (asked ++ events) := by
  refine (yields_fetchRows d m (m.fetchOfKey key)).bind ?_ ?_
  · rintro e events ⟨answer, hrun, he⟩
    cases hrun with
    | faulty hsql =>
      obtain rfl := Except.error.inj he
      rw [List.append_nil]
      exact .notAsked hkey hsql
    | sent hsql answer =>
      cases answer with
      | error e' =>
        obtain rfl := Except.error.inj he
        exact .notRead hkey hsql e
      | ok rows => cases he
  · rintro rows events ⟨answer, hrun, hrows⟩
    cases hrun with
    | faulty hsql => cases hrows
    | sent hsql answer =>
      cases answer with
      | error e => cases hrows
      | ok found =>
        obtain rfl := Except.ok.inj hrows
        have hrun := StoredRun.read hkey hsql found
        cases found with
        | nil => exact Yields.pure hrun
        | cons row rows => exact Yields.pure hrun

theorem yields_insert (d : Driver σ) (m : Model) (data : Assignments) :
    Yields (m.insert d.traced data) (InsertRun d.quoter m data) := by
  unfold insert
  refine Yields.result_bind (fun e h => .unwritable h) fun pairs hpairs => ?_
  refine Yields.call_bind _ _ (fun e => .notInserted hpairs e) fun _ => ?_
  cases hown : m.ownKey? data with
  | some key => exact (yields_readBack d (.own hown)).mono fun _ _ h => .inserted hpairs h
  | none =>
    refine Yields.call_bind _ _ (fun e => .inserted hpairs (.noKey hown e)) fun key => ?_
    exact (yields_readBack d (.reported hown key)).mono fun _ _ h => .inserted hpairs h

/-! ### Updates -/

/-- The runs of an update, in the order in which it may end. -/
inductive UpdateRun (q : Quoter) (m : Model) (changes values : Assignments) :
    Except Error (Option Nat) → List Event → Prop where
  /-- A value cannot be written. -/
  | unwritable {e : Error} (h : m.writable changes.toList = .error e) : UpdateRun q m changes values (.error e) []
  /-- There is no column to write. -/
  | nothing (h : m.writable changes.toList = .ok []) : UpdateRun q m changes values (.ok none) []
  /-- The condition cannot be written. -/
  | notSent {pairs : List (String × Value)} (h : m.writable changes.toList = .ok pairs) (hne : pairs ≠ [])
      {fault : FilterFault} (hsql : m.updateSql q pairs values = .error fault) :
    UpdateRun q m changes values (.error fault.toError) []
  /-- The statement fails. -/
  | notUpdated {pairs : List (String × Value)} (h : m.writable changes.toList = .ok pairs) (hne : pairs ≠ [])
      {sql : Sql} (hsql : m.updateSql q pairs values = .ok sql) (e : Error) :
    UpdateRun q m changes values (.error e) [.failed (.execute sql.text sql.binds) e]
  /-- The rows are updated. -/
  | updated {pairs : List (String × Value)} (h : m.writable changes.toList = .ok pairs) (hne : pairs ≠ [])
      {sql : Sql} (hsql : m.updateSql q pairs values = .ok sql) (affected : Nat) :
    UpdateRun q m changes values (.ok (some affected)) [.done (.execute sql.text sql.binds)]

theorem yields_updateMatching (d : Driver σ) (m : Model) (changes values : Assignments) :
    Yields (m.updateMatching d.traced changes values) (UpdateRun d.quoter m changes values) := by
  unfold updateMatching
  refine Yields.result_bind (fun e h => .unwritable h) fun pairs hpairs => ?_
  cases pairs with
  | nil => exact Yields.pure (.nothing hpairs)
  | cons pair pairs =>
    have hne : pair :: pairs ≠ [] := List.cons_ne_nil pair pairs
    rw [Driver.quoter_traced, if_neg (by simp)]
    cases hsql : m.updateSql d.quoter (pair :: pairs) values with
    | error fault => exact Yields.result (r := .error fault.toError) (.notSent hpairs hne hsql)
    | ok sql =>
      refine Yields.call_bind _ _ (fun e => .notUpdated hpairs hne hsql e) fun affected => ?_
      exact Yields.pure (.updated hpairs hne hsql affected)

/-! ### Deletes -/

/-- The runs of a delete: there is nothing to match, or the condition cannot be written, or the statement is sent. -/
inductive DeleteRun (q : Quoter) (m : Model) (values : Assignments) :
    Except Error (Option Nat) → List Event → Prop where
  | nothing (h : values.isEmpty = true) : DeleteRun q m values (.ok none) []
  | notSent (hne : values.isEmpty = false) {fault : FilterFault} (hsql : m.deleteSql q values = .error fault) :
    DeleteRun q m values (.error fault.toError) []
  | sent (hne : values.isEmpty = false) {sql : Sql} (hsql : m.deleteSql q values = .ok sql)
      (answer : Except Error Nat) :
    DeleteRun q m values (answer.map some) [.of (.execute sql.text sql.binds) answer]

theorem yields_deleteMatching (d : Driver σ) (m : Model) (values : Assignments) :
    Yields (m.deleteMatching d.traced values) (DeleteRun d.quoter m values) := by
  unfold deleteMatching
  rw [Driver.quoter_traced]
  cases hne : values.isEmpty with
  | true => exact Yields.pure (.nothing hne)
  | false =>
    rw [if_neg Bool.false_ne_true]
    cases hsql : m.deleteSql d.quoter values with
    | error fault => exact Yields.result (r := .error fault.toError) (.notSent hne hsql)
    | ok sql =>
      refine Yields.call_bind _ _ (fun e => .sent hne hsql (.error e)) fun affected => ?_
      exact Yields.pure (.sent hne hsql (.ok affected))

end RecordMapper.Model
