import RecordMapper.Proofs.Record.Steps

/-!
# Columns and other names

A record keeps the values of columns apart from those under other names, whatever operations it goes through.

* `Partitioned` says so, and every operation keeps it (`Partitioned.step`);
* an operation writes only entries of the data (`yields_step`), so a name that is no column is never written;
* the map of a record is its data followed by the rest (`Partitioned.toList_toMap`);
* `reachable_partitioned` puts this together for the records that any sequence of operations leads to.
-/

namespace RecordMapper

variable {σ : Type}

/-! ### Keys of maps -/

namespace OrderedMap

variable {α β : Type} [DecidableEq α]

theorem mem_keys_insert {m : OrderedMap α β} {k j : α} {v : β} : j ∈ (m.insert k v).keys ↔ j ∈ m.keys ∨ j = k := by
  rw [keys_insert]
  split
  · rename_i h
    exact ⟨.inl, fun hj => hj.elim id fun hj => hj ▸ h⟩
  · rw [List.mem_append, List.mem_singleton]

theorem mem_keys_of_mem_erase {m : OrderedMap α β} {k j : α} (h : j ∈ (m.erase k).keys) : j ∈ m.keys :=
  (List.filter_sublist.map Prod.fst).subset h

end OrderedMap

/-- A statement of a model that writes the given entries: an insert or an update of them, or a delete. -/
inductive Model.Sends (q : Quoter) (m : Model) : List (String × Value) → Call → Prop where
  | insert (pairs : List (String × Value)) : m.Sends q pairs (m.insertCall q.dialect pairs)
  | update {pairs : List (String × Value)} {keys : Assignments} {sql : Sql} (h : m.updateSql q pairs keys = .ok sql) :
    m.Sends q pairs (.execute sql.text sql.binds)
  | delete {keys : Assignments} {sql : Sql} (h : m.deleteSql q keys = .ok sql) :
    m.Sends q [] (.execute sql.text sql.binds)

namespace Record

/-! ### The partition -/

/-- The record that an operation sets out from, with the values placed that a save is given. -/
def Step.placed (r : Record) : Step → Record
  | .save values | .saveInTransaction values => r.merged values
  | .set .. | .unset _ | .load _ | .loadColumns .. | .get _ | .attach .. | .loadRelation .. | .adopt _ | .delete _
  | .markNew | .markNotNew | .reset => r

/-- Of a record of a model, data and snapshot hold columns only, and the scratch data none. -/
structure Partitioned (m : Model) (r : Record) : Prop where
  model : r.model = m
  data : ∀ k ∈ r.data.keys, m.hasColumn k = true
  initial : ∀ k ∈ r.initial.keys, m.hasColumn k = true
  scratch : ∀ k ∈ r.scratch.keys, m.hasColumn k = false

namespace Partitioned

variable {m : Model} {r : Record}

/-- The map of a record is its data, followed by its scratch data. -/
theorem toList_toMap (h : r.Partitioned m) : r.toMap.toList = r.data.toList ++ r.scratch.toList := by
  refine OrderedMap.toList_union_of_disjoint fun k hk hdata => ?_
  exact Bool.false_ne_true ((h.scratch k hk).symm.trans (h.data k hdata))

/-! ### What every operation keeps -/

theorem new (m : Model) (access : Access) : (Record.new m access).Partitioned m where
  model := rfl
  data _ h := absurd h List.not_mem_nil
  initial _ h := absurd h List.not_mem_nil
  scratch _ h := absurd h List.not_mem_nil

theorem place (h : r.Partitioned m) (name : String) (v : Value) : (r.place name v).Partitioned m := by
  unfold Record.place
  split
  · rename_i hcol
    refine ⟨h.model, fun k hk => ?_, h.initial, h.scratch⟩
    rcases OrderedMap.mem_keys_insert.1 hk with hk | rfl
    · exact h.data k hk
    · rwa [h.model] at hcol
  · rename_i hcol
    refine ⟨h.model, h.data, h.initial, fun k hk => ?_⟩
    rcases OrderedMap.mem_keys_insert.1 hk with hk | rfl
    · exact h.scratch k hk
    · rwa [h.model, Bool.not_eq_true] at hcol

theorem merge (h : r.Partitioned m) (values : Assignments) : (r.merge values).Partitioned m := by
  unfold Record.merge
  induction values.toList generalizing r with
  | nil => exact h
  | cons e es ih => exact ih (h.place e.1 e.2)

theorem merged (h : r.Partitioned m) (values : Option Assignments) : (r.merged values).Partitioned m := by
  cases values with
  | none => exact h
  | some values => exact h.merge values

theorem placed (h : r.Partitioned m) (s : Step) : (s.placed r).Partitioned m := by
  cases s with
  | save values | saveInTransaction values => exact h.merged values
  | set | unset | load | loadColumns | get | attach | loadRelation | adopt | delete | markNew | markNotNew | reset =>
    exact h

theorem withoutData (h : r.Partitioned m) : { r with data := {} : Record }.Partitioned m :=
  ⟨h.model, fun _ hk => absurd hk List.not_mem_nil, h.initial, h.scratch⟩

theorem snapshot (h : r.Partitioned m) : r.snapshot.Partitioned m :=
  ⟨h.model, h.data, h.data, h.scratch⟩

theorem snapshotIfNone (h : r.Partitioned m) : r.snapshotIfNone.Partitioned m := by
  unfold Record.snapshotIfNone
  split
  · exact h.snapshot
  · exact h

theorem load (h : r.Partitioned m) (values : Assignments) : (r.load values).Partitioned m :=
  (h.withoutData.merge values).snapshotIfNone

theorem loadColumns (h : r.Partitioned m) (values : Assignments) (cols : List String) :
    (r.loadColumns values cols).Partitioned m :=
  (h.merge _).snapshotIfNone

theorem mark (h : r.Partitioned m) (isNew : Bool) : { r with isNew : Record }.Partitioned m :=
  ⟨h.model, h.data, h.initial, h.scratch⟩

theorem ofRow (m : Model) (access : Access) (row : Assignments) : (Record.ofRow m access row).Partitioned m :=
  ((Partitioned.new m access).load row).mark false

theorem unset (h : r.Partitioned m) (name : String) : (r.unset name).Partitioned m :=
  ⟨h.model, fun k hk => h.data k (OrderedMap.mem_keys_of_mem_erase hk), h.initial,
    fun k hk => h.scratch k (OrderedMap.mem_keys_of_mem_erase hk)⟩

theorem attach (h : r.Partitioned m) (name : String) (related : Related) : (r.attach name related).Partitioned m :=
  ⟨h.model, h.data, h.initial, h.scratch⟩

theorem adopt (h : r.Partitioned m) (stored : Assignments) : (r.adopt stored).Partitioned m :=
  ((h.withoutData.merge stored).snapshot).mark false

theorem cleared (h : r.Partitioned m) : r.cleared.Partitioned m :=
  ⟨h.model, fun _ hk => absurd hk List.not_mem_nil, fun _ hk => absurd hk List.not_mem_nil,
    fun _ hk => absurd hk List.not_mem_nil⟩

theorem get (h : r.Partitioned m) (d : Driver σ) (name : String) (db : Database σ) :
    (r.get d name db).1.2.Partitioned m := by
  rcases get_record d r name db with hsame | ⟨hcol, hfilled⟩ | ⟨name', related, hattached⟩
  · rwa [hsame]
  · rw [hfilled, ← place_of_column hcol]
    exact h.place name .null
  · rw [hattached]
    exact h.attach name' related

theorem loadRelation (h : r.Partitioned m) (d : Driver σ) (m' : Model) (before after : List Record) (name : String)
    (wrap : Option Bool) (db : Database σ) :
    ((Step.loadRelation m' before after name wrap).run d r db).1.Partitioned m := by
  rcases loadRelation_record d r m' before after name wrap db with hsame | ⟨name', related, hattached⟩
  · rwa [hsame]
  · rw [hattached]
    exact h.attach name' related

theorem save (h : r.Partitioned m) (d : Driver σ) (values : Option Assignments) (db : Database σ) :
    (r.save d values db).1.2.Partitioned m := by
  have hself {r : Record} (h : r.Partitioned m) : (r.saveSelf d db).1.2.Partitioned m :=
    saveSelf_induction d (P := Partitioned m) h h.adopt h.snapshot db
  cases values with
  | none => exact hself h
  | some values => exact hself (h.merge values)

theorem saveInTransaction (h : r.Partitioned m) (d : Driver σ) (values : Option Assignments) (db : Database σ) :
    (r.saveInTransaction d values db).1.2.Partitioned m := by
  rcases saveInTransaction_record d r values db with hsame | ⟨begun, hsaved⟩
  · rwa [hsame]
  · rw [hsaved]
    exact h.save d values begun

theorem delete (h : r.Partitioned m) (d : Driver σ) (clear : Bool) (db : Database σ) :
    (r.delete d clear db).1.2.Partitioned m := by
  unfold Record.delete
  cases r.deleteRow d r.model db with
  | mk result after =>
    cases result with
    | error e => exact h
    | ok n =>
      dsimp only
      split
      · exact h.cleared
      · exact h

/-- Every operation keeps columns and other names apart. -/
theorem step (h : r.Partitioned m) (d : Driver σ) (s : Step) (db : Database σ) : (s.run d r db).1.Partitioned m := by
  cases s with
  | set name v => exact h.place name v
  | unset name => exact h.unset name
  | load values => exact h.load values
  | loadColumns values cols => exact h.loadColumns values cols
  | get name => exact h.get d name db
  | attach name related => exact h.attach name related
  | loadRelation m' before after name wrap => exact h.loadRelation d m' before after name wrap db
  | save values => exact h.save d values db
  | saveInTransaction values => exact h.saveInTransaction d values db
  | adopt stored => exact h.adopt stored
  | delete clear => exact h.delete d clear db
  | markNew => exact h.mark true
  | markNotNew => exact h.mark false
  | reset => exact h.cleared.mark true

end Partitioned

/-! ### What is written -/

/-- A call that writes, writes entries of the data of a record. -/
def WritesData (q : Quoter) (r : Record) (call : Call) : Prop :=
  call.isExecute = true → ∃ pairs, r.model.Sends q pairs call ∧ ∀ p ∈ pairs, p ∈ r.data.toList

theorem mem_data_of_writable {r : Record} {es pairs : List (String × Value)} (hpairs : r.model.writable es = .ok pairs)
    (hes : ∀ e ∈ es, e ∈ r.data.toList) : ∀ p ∈ pairs, p ∈ r.data.toList := by
  rw [(Model.writable_eq_ok_iff.1 hpairs).1]
  exact fun p hp => hes p (List.mem_filter.1 hp).1

/-- A save writes entries of the data, be it all of them or those that differ from the snapshot. -/
theorem SaveRun.writesData {q : Quoter} {r : Record} {result : Except Error SaveOutcome × Record}
    {events : List Event} (h : SaveRun q r result events) : ∀ e ∈ events, WritesData q r e.call := by
  intro e he hexecute
  cases h with
  | nothing | unkeyed => exact absurd he List.not_mem_nil
  | notInserted _ hrun | inserted _ hrun =>
    obtain ⟨pairs, hpairs, hcall⟩ := hrun.of_isExecute he hexecute
    exact ⟨pairs, hcall ▸ .insert pairs, mem_data_of_writable hpairs fun _ h => h⟩
  | notUpdated _ _ hrun | updated _ _ hrun =>
    obtain ⟨pairs, sql, hpairs, hsql, hcall⟩ := hrun.of_mem he
    exact ⟨pairs, hcall ▸ .update hsql, mem_data_of_writable hpairs fun _ h => (List.mem_filter.1 h).1⟩

theorem writesData_of_onlyReads {q : Quoter} {r : Record} {events : List Event} (h : OnlyReads events) :
    ∀ e ∈ events, WritesData q r e.call :=
  fun e he hexecute => nomatch (h e he).symm.trans hexecute

theorem yields_delete (d : Driver σ) (r : Record) (clear : Bool) :
    Yields (r.delete d.traced clear) fun _ events => ∀ e ∈ events, WritesData d.quoter r e.call := by
  intro db
  obtain ⟨events, htrace, hrun⟩ := yields_deleteRow d r.model r db
  refine ⟨events, Eq.trans ?_ htrace, fun e he _ => ?_⟩
  · unfold delete
    generalize r.deleteRow d.traced r.model db = answer
    obtain ⟨_ | _, after⟩ := answer <;> rfl
  · rcases hrun with rfl | ⟨key, answer, -, hrun⟩
    · exact absurd he List.not_mem_nil
    · obtain ⟨sql, -, hsql, hcall⟩ := hrun.of_mem he
      exact ⟨[], hcall ▸ .delete hsql, fun _ h => absurd h List.not_mem_nil⟩

/-- Whatever operation it is, what it writes are entries of the data that it sets out from. -/
theorem yields_step (d : Driver σ) (r : Record) (s : Step) :
    Yields (s.run d.traced r) fun _ events => ∀ e ∈ events, WritesData d.quoter (s.placed r) e.call := by
  have hsilent {after : Record} : Yields (pure after : StateM (Database (List Event × σ)) Record) fun _ events =>
      ∀ e ∈ events, WritesData d.quoter (s.placed r) e.call := Yields.pure fun _ h => absurd h List.not_mem_nil
  cases s with
  | set | unset | load | loadColumns | attach | adopt | markNew | markNotNew | reset => exact hsilent
  | get name => exact (yields_get d r name).mono fun _ _ h => writesData_of_onlyReads h
  | loadRelation m before after name wrap =>
    intro db
    obtain ⟨events, htrace, h⟩ := Model.yields_loadRelation d m (before ++ r :: after) name wrap db
    refine ⟨events, Eq.trans ?_ htrace, writesData_of_onlyReads h⟩
    dsimp only [Step.run]
    generalize m.loadRelation d.traced (before ++ r :: after) name wrap db = answer
    obtain ⟨_ | _, ended⟩ := answer <;> rfl
  | save values => exact (yields_save d r values).mono fun _ _ h => h.writesData
  | saveInTransaction values =>
    refine yields_saveInTransaction (fun e hbracket hexecute => ?_) ((yields_save d r values).mono fun _ _ h => h.writesData)
    cases hcall : e.call <;> simp [hcall, Call.isBracket, Call.isExecute] at hbracket hexecute
  | delete clear => exact yields_delete d r clear

/-! ### Every record in use -/

theorem Reachable.isPartitioned {d : Driver σ} {m : Model} {r : Record} (h : Reachable d m r) : r.Partitioned m := by
  induction h with
  | new access => exact .new m access
  | ofRow access row => exact .ofRow m access row
  | step _ s db ih => exact ih.step d s db

/--
Whatever operations a record went through: data and snapshot hold columns only and the scratch data none, the map of the
record is the one followed by the other, and what any operation writes are entries of the data, under columns.
-/
theorem reachable_partitioned {d : Driver σ} {m : Model} {r : Record} (h : Reachable d m r) :
    r.model = m ∧ (∀ k ∈ r.data.keys, m.hasColumn k = true) ∧ (∀ k ∈ r.initial.keys, m.hasColumn k = true) ∧
      (∀ k ∈ r.scratch.keys, m.hasColumn k = false) ∧
      r.toMap.toList = r.data.toList ++ r.scratch.toList ∧
      (∀ k v, r.data.get? k = some v → r.toMap.get? k = some v) ∧
      ∀ (s : Step) (db : Database (List Event × σ)), ∃ events,
        (s.run d.traced r db).2.events = db.events ++ events ∧
          ∀ e ∈ events, e.call.isExecute = true → ∃ pairs, m.Sends d.quoter pairs e.call ∧
            ∀ p ∈ pairs, p ∈ (s.placed r).data.toList ∧ m.hasColumn p.1 = true ∧
              p.1 ∉ r.scratch.keys ++ (s.placed r).scratch.keys ++ (s.run d.traced r db).1.scratch.keys := by
  have hr := h.isPartitioned
  refine ⟨hr.model, hr.data, hr.initial, hr.scratch, hr.toList_toMap, fun k v hv => ?_, fun s db => ?_⟩
  · rw [OrderedMap.get?_eq_some_iff, hr.toList_toMap]
    exact List.mem_append_left _ (OrderedMap.get?_eq_some_iff.1 hv)
  · have hplaced := hr.placed s
    have hafter := hr.step d.traced s db
    obtain ⟨events, htrace, hwrites⟩ := yields_step d r s db
    refine ⟨events, htrace, fun e he hexecute => ?_⟩
    obtain ⟨pairs, hsends, hdata⟩ := hwrites e he hexecute
    refine ⟨pairs, hplaced.model ▸ hsends, fun p hp => ?_⟩
    have hcol : m.hasColumn p.1 = true := hplaced.data p.1 (List.mem_map_of_mem (hdata p hp))
    refine ⟨hdata p hp, hcol, fun hscratch => Bool.false_ne_true (Eq.trans (Eq.symm ?_) hcol)⟩
    rcases List.mem_append.1 hscratch with hscratch | hscratch
    · exact (List.mem_append.1 hscratch).elim (hr.scratch p.1) (hplaced.scratch p.1)
    · exact hafter.scratch p.1 hscratch

/-- A new post with a note, for which there is no column. -/
def Example.noted : Record := draft.place "note" (.text "b")

open Example in
/-- Of a post with a note, only the title is written. -/
theorem reachable_partitioned_noted :
    Reachable (.scripted .sqlite (.idle .sqlite)) posts noted ∧
      noted.toMap.toList = noted.data.toList ++ noted.scratch.toList ∧
      (∃ later, ((Step.saveInTransaction none).run driver noted (database {})).2.events =
        .done .begin :: .done insertDraft :: later) ∧
      ∃ pairs, posts.Sends driver.quoter pairs insertDraft ∧ ∀ p ∈ pairs, p ∈ noted.data.toList ∧ p.1 ≠ "note" := by
  have hdraft : Reachable (.scripted .sqlite (.idle .sqlite)) posts draft :=
    (Reachable.new .writable).step (.set "title" (.text "a")) { store := ({}, false) }
  have hnoted : Reachable (.scripted .sqlite (.idle .sqlite)) posts noted :=
    hdraft.step (.set "note" (.text "b")) { store := ({}, false) }
  obtain ⟨-, -, -, -, hmap, -, hwrites⟩ := reachable_partitioned hnoted
  obtain ⟨events, htrace, h⟩ := hwrites (.saveInTransaction none) (database {})
  have hsent : ∃ later, ((Step.saveInTransaction none).run driver noted (database {})).2.events =
      .done .begin :: .done insertDraft :: later := ⟨_, rfl⟩
  have hmem : .done insertDraft ∈ events := by
    obtain ⟨later, hlater⟩ := hsent
    have hevents : events = .done .begin :: .done insertDraft :: later := htrace.symm.trans hlater
    rw [hevents]
    exact List.mem_cons_of_mem _ List.mem_cons_self
  obtain ⟨pairs, hsends, hpairs⟩ := h (.done insertDraft) hmem rfl
  refine ⟨hnoted, hmap, hsent, pairs, hsends, fun p hp => ?_⟩
  obtain ⟨hdata, -, hscratch⟩ := hpairs p hp
  refine ⟨hdata, fun hnote => hscratch ?_⟩
  rw [hnote]
  exact List.mem_append_left _ List.mem_cons_self

end Record

end RecordMapper
