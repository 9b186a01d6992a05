import RecordMapper.Proofs.Filter.Matched
import RecordMapper.Proofs.Record.Runs

/-!
# What an update writes

An update sets columns by parameters that are numbered from one on, and its condition goes on with the next number.

* `Model.updateCall` is the statement that sets some values where some tests hold, and `Model.SendsUpdate` says that a
  run sends this statement alone, or nothing if there is none;
* an update of the rows that hold some values sets the columns among the values that it is given, in their order
  (`Model.yields_updateMatching_sends`);
* the save of a record that belongs to a row sets the columns whose values are not alike to those of the snapshot
  (`Record.yields_save_sends`);
* both are put together in `update_exact`.
-/

namespace RecordMapper

variable {σ : Type}

namespace Model

variable {q : Quoter} {m : Model} {changes values : Assignments}

/-- The statement that sets some values in the rows for which the tests of others hold; the parameters of the tests
follow those of the values. -/
def updateCall (m : Model) (d : Dialect) (written matched : List (String × Value)) (tests : List String)
    (binds : List Value) : Call :=
  .execute
    ("UPDATE " ++ m.tableName ++ " SET " ++
      ", ".intercalate (written.zipIdx.map fun e => e.1.1 ++ " = " ++ d.placeholder (e.2 + 1)) ++
      if matched.isEmpty then "" else " WHERE " ++ " AND ".intercalate tests)
    (written.map Prod.snd ++ binds)

/-- There are values to write, each of which can be written, and the rows that hold the others can be asked for. -/
structure IsUpdate (written matched : List (String × Value)) : Prop where
  nonempty : written ≠ []
  scalar : ∀ e ∈ written, e.2.isScalar = true
  matchable : ∀ e ∈ matched, IsMatchable e

/-- The calls of an update that sets some values in the rows that hold others. -/
inductive SendsUpdate (m : Model) (q : Quoter) (written matched : List (String × Value)) : List Event → Prop where
  | nothing (h : ¬ IsUpdate written matched) : SendsUpdate m q written matched []
  | sent (h : IsUpdate written matched) {tests : List String} {binds : List Value}
    (htests : MatchTests q written.length matched tests binds) (ending : Except Error Unit) :
    SendsUpdate m q written matched [⟨m.updateCall q.dialect written matched tests binds, ending⟩]

/-- The values are set in their order. -/
theorem setText_eq (d : Dialect) (pairs : List (String × Value)) :
    setText d (pairs.map Prod.fst) =
      ", ".intercalate (pairs.zipIdx.map fun e => e.1.1 ++ " = " ++ d.placeholder (e.2 + 1)) := by
  rw [setText, List.zipIdx_map, List.map_map]
  rfl

/-- The condition of an update is made of the tests of its values, and is missing if there are none. -/
theorem matchClause_eq_ok {bound : Nat} {clause : Sql} (h : matchClause q values bound = .ok clause) :
    ∃ tests, MatchTests q bound values.toList tests clause.binds ∧
      clause.text = if values.toList.isEmpty then "" else " WHERE " ++ " AND ".intercalate tests := by
  have hisEmpty : values.isEmpty = values.toList.isEmpty := rfl
  rw [matchClause, hisEmpty] at h
  cases hempty : values.toList.isEmpty with
  | true =>
    rw [hempty] at h
    obtain rfl := Except.ok.inj h
    rw [List.isEmpty_iff.1 hempty]
    exact ⟨[], .nil bound, rfl⟩
  | false =>
    rw [hempty, if_neg Bool.false_ne_true] at h
    obtain ⟨sql, hsql, rfl⟩ := map_eq_ok h
    obtain ⟨tests, htests, htext⟩ := Filter.compile_matching hsql
    exact ⟨tests, htests, congrArg (" WHERE " ++ ·) htext⟩

/-- There is a condition exactly if there is a test for each value. -/
theorem exists_matchClause_iff (q : Quoter) (bound : Nat) :
    (∃ clause, matchClause q values bound = .ok clause) ↔ ∀ e ∈ values.toList, IsMatchable e := by
  rw [← Filter.exists_compile_matching_iff q bound, matchClause]
  cases hempty : values.isEmpty with
  | true =>
    refine iff_of_true ⟨_, rfl⟩ ?_
    rw [Filter.exists_compile_matching_iff, List.isEmpty_iff.1 hempty]
    exact List.forall_mem_nil _
  | false =>
    rw [if_neg Bool.false_ne_true]
    exact exists_map_ok_iff _

theorem updateSql_eq_ok {pairs : List (String × Value)} {sql : Sql} (h : m.updateSql q pairs values = .ok sql) :
    ∃ tests binds, MatchTests q pairs.length values.toList tests binds ∧
      .execute sql.text sql.binds = m.updateCall q.dialect pairs values.toList tests binds := by
  obtain ⟨clause, hclause, rfl⟩ := map_eq_ok h
  obtain ⟨tests, htests, htext⟩ := matchClause_eq_ok hclause
  refine ⟨tests, clause.binds, htests, ?_⟩
  rw [updateCall, ← setText_eq, ← htext]

theorem exists_updateSql_iff {pairs : List (String × Value)} :
    (∃ sql, m.updateSql q pairs values = .ok sql) ↔ ∀ e ∈ values.toList, IsMatchable e := by
  rw [← exists_matchClause_iff q pairs.length]
  exact exists_map_ok_iff _

theorem UpdateRun.sends {result : Except Error (Option Nat)} {events : List Event}
    (h : UpdateRun q m changes values result events) :
    m.SendsUpdate q (changes.toList.filter fun e => m.hasColumn e.1) values.toList events := by
  have hsent {pairs : List (String × Value)} (hpairs : m.writable changes.toList = .ok pairs) (hne : pairs ≠ [])
      {sql : Sql} (hsql : m.updateSql q pairs values = .ok sql) (ending : Except Error Unit) :
      m.SendsUpdate q (changes.toList.filter fun e => m.hasColumn e.1) values.toList
        [⟨.execute sql.text sql.binds, ending⟩] := by
    obtain ⟨rfl, hscalar⟩ := writable_eq_ok_iff.1 hpairs
    obtain ⟨tests, binds, htests, hcall⟩ := updateSql_eq_ok hsql
    rw [hcall]
    exact .sent ⟨hne, by simpa using hscalar, exists_updateSql_iff.1 ⟨sql, hsql⟩⟩ htests ending
  cases h with
  | unwritable h =>
    refine .nothing fun hupdate => ?_
    have hwritten := writable_eq_ok_iff.2 ⟨rfl, by simpa using hupdate.scalar⟩
    exact nomatch h.symm.trans hwritten
  | nothing h => exact .nothing fun hupdate => hupdate.nonempty (writable_eq_ok_iff.1 h).1.symm
  | notSent h hne hsql =>
    refine .nothing fun hupdate => ?_
    obtain ⟨sql, hok⟩ := exists_updateSql_iff.2 hupdate.matchable
    exact nomatch hsql.symm.trans hok
  | notUpdated h hne hsql e => exact hsent h hne hsql (.error e)
  | updated h hne hsql affected => exact hsent h hne hsql (.ok ())

theorem yields_updateMatching_sends (d : Driver σ) (m : Model) (changes values : Assignments) :
    Yields (m.updateMatching d.traced changes values) fun _ events =>
      m.SendsUpdate d.quoter (changes.toList.filter fun e => m.hasColumn e.1) values.toList events :=
  (yields_updateMatching d m changes values).mono fun _ _ h => h.sends

end Model

namespace Record

/-- The columns of the data whose values are not alike to those of the snapshot, where a missing one is `NULL`. -/
def differing (r : Record) : List (String × Value) :=
  r.data.toList.filter fun e => r.model.hasColumn e.1 && !e.2.alike ((r.initial.get? e.1).getD .null)

theorem toList_changes (r : Record) : r.changes.toList = r.differing := by
  refine List.filter_congr fun e he => ?_
  have hvalue : r.data.get? e.1 = some e.2 := OrderedMap.get?_eq_some_iff.2 he
  simp only [isChanged, hvalue, Option.getD_some]

/-- What differs is written by an update as it is. -/
theorem filter_differing (r : Record) : (r.differing.filter fun e => r.model.hasColumn e.1) = r.differing := by
  refine List.filter_eq_self.2 fun e he => ?_
  exact (Bool.and_eq_true_iff.1 (List.mem_filter.1 he).2).1

/-- Without a difference there is no update. -/
theorem not_isUpdate_of_unchanged {r : Record} {matched : List (String × Value)} (h : r.changes.isEmpty = true) :
    ¬ Model.IsUpdate r.differing matched := by
  intro hupdate
  rw [← toList_changes] at hupdate
  exact hupdate.nonempty (List.isEmpty_iff.1 h)

/-- The calls of a save: a record that belongs to no row is inserted, and of any other one the save sets what differs,
in the row of the stored key. -/
inductive SendsSave (q : Quoter) (r : Record) : List Event → Prop where
  | nothing (h : r.data.isEmpty = true) : SendsSave q r []
  | inserted (h : r.isUnstored = true) {answer : Except Error Assignments} {events : List Event}
    (hrun : r.model.InsertRun q r.data answer events) : SendsSave q r events
  | updated (h : r.isUnstored = false) {key : Value} (hkey : r.storedKey? = some key) {events : List Event}
    (hevents : r.model.SendsUpdate q r.differing [(r.model.primaryCol, key)] events) : SendsSave q r events

theorem yields_save_sends (d : Driver σ) (r : Record) (values : Option Assignments) :
    Yields (r.save d.traced values) fun _ events => (r.merged values).SendsSave d.quoter events := by
  have hself (r : Record) : Yields (r.saveSelf d.traced) fun _ events => r.SendsSave d.quoter events := by
    refine yields_saveSelf_of_ways d ?_ (fun _ h answer events hrun => .inserted h hrun) ?_
    · rintro (hempty | ⟨hstored, hchanges⟩)
      · exact .nothing hempty
      · obtain ⟨key, hkey⟩ := exists_storedKey hstored
        exact .updated hstored hkey (.nothing (not_isUpdate_of_unchanged hchanges))
    · intro hstored _ key answer events hkey hrun
      have hevents := hrun.sends
      rw [toList_changes, filter_differing] at hevents
      exact .updated hstored hkey hevents
  cases values with
  | none => exact hself r
  | some values => exact hself (r.merge values)

end Record

/--
The statement of an update, over a driver that fails as it likes.  An update of the rows that hold some values sends
one statement, if there is a column to write and if all values can be written and asked for, and otherwise nothing.  It
sets the columns among the values that are given for writing, each once and in their order, by the parameters from one
on; its condition has one test for each of the other values in their order, which are joined by `AND` and whose
parameters are numbered on, and it has no condition only if there are no such values.  The save of a record that belongs
to a row is such an update of the columns whose values are not alike to those of the snapshot, in the row of the stored
key, and the save of any other record is an insert.
-/
theorem update_exact (d : Driver σ) :
    (∀ (m : Model) (changes values : Assignments),
      let written := changes.toList.filter fun e => m.hasColumn e.1
      (written.map Prod.fst).Nodup ∧
        Yields (m.updateMatching d.traced changes values) fun _ events =>
          m.SendsUpdate d.quoter written values.toList events) ∧
    ∀ (r : Record) (values : Option Assignments),
      Yields (r.save d.traced values) fun _ events => (r.merged values).SendsSave d.quoter events := by
  refine ⟨fun m changes values => ⟨?_, m.yields_updateMatching_sends d changes values⟩,
    fun r values => r.yields_save_sends d values⟩
  exact changes.nodup_keys.sublist (List.filter_sublist.map Prod.fst)

open Record.Example in
/-- Of the three tests only the last one adds a parameter, which follows those of the columns that are set. -/
example :
    (posts.updateMatching driver (.ofList [("title", .text "b"), ("note", .text "c"), ("id", .int 2)])
      (.ofList [("id", .array [.int 1, .int 2]), ("note", .null), ("title", .text "a")]) (database {})).2.events.map
        Event.call =
      [.execute "UPDATE posts SET title = ?1, id = ?2 WHERE id IN (1, 2) AND note IS NULL AND title = ?3"
        [.text "b", .int 2, .text "a"]] :=
  rfl

end RecordMapper
