import RecordMapper.Proofs.Collection.Outcome

/-!
# What comes of deleting a collection

A delete of all members is refused for a read-only member before anything is sent; otherwise it splits the collection,
whatever the driver fails at.

* the delete of one record sends at most one statement (`Record.DeleteRun`), and leaves the record as it is;
* the members are deleted one after the other, each of them once (`deletions`, `DeletesRun`);
* those stay whose delete failed or affected no row (`staying`), and the others are removed by their keys
  (`foldl_remove`).
-/

namespace RecordMapper

variable {σ : Type}

/-! ### One record -/

namespace Record

/-- The runs of a delete: the record has no key, or its row cannot be asked for, or the statement is sent and the
driver's answer is the result. -/
inductive DeleteRun (q : Quoter) (r : Record) : Except Error Nat → List Event → Prop where
  | noKey (hkey : r.storedKey? = none) : DeleteRun q r (.ok 0) []
  | notSent {key : Value} (hkey : r.storedKey? = some key) {fault : FilterFault}
    (hsql : r.model.deleteSql q (only r.model.primaryCol key) = .error fault) :
    DeleteRun q r (.error fault.toError) []
  | sent {key : Value} (hkey : r.storedKey? = some key) {sql : Sql}
    (hsql : r.model.deleteSql q (only r.model.primaryCol key) = .ok sql) (answer : Except Error Nat) :
    DeleteRun q r answer [.of (.execute sql.text sql.binds) answer]

/-- The delete of the rows with the key of a record, as a run of the record. -/
theorem DeleteRun.of_matching {q : Quoter} {r : Record} {key : Value} (hkey : r.storedKey? = some key)
    {result : Except Error (Option Nat)} {events : List Event}
    (h : r.model.DeleteRun q (only r.model.primaryCol key) result events) :
    r.DeleteRun q (result.map fun n => n.getD 0) events := by
  cases h with
  | nothing h => exact nomatch h
  | notSent _ hsql => exact .notSent hkey hsql
  | sent _ hsql answer =>
    have hanswer : (answer.map some).map (fun n => n.getD 0) = answer := by cases answer <;> rfl
    rw [hanswer]
    exact .sent hkey hsql answer

theorem yields_deleteRow_run (d : Driver σ) (r : Record) :
    Yields (r.deleteRow d.traced r.model) (r.DeleteRun d.quoter) := by
  obtain ⟨m, access, data, initial, scratch, related, isNew⟩ := r
  unfold deleteRow
  split
  · rename_i hkey
    exact Yields.pure (.noKey hkey)
  · rename_i key hkey
    refine (Model.yields_deleteMatching d m (only m.primaryCol key)).bind ?_ ?_
    · exact fun e events hrun => .of_matching hkey hrun
    · intro n events hrun
      refine Yields.pure ?_
      rw [List.append_nil]
      exact .of_matching hkey hrun

/-- A delete that does not clear the record leaves it as it is. -/
theorem delete_kept (d : Driver σ) (r : Record) (db : Database σ) :
    r.delete d false db = (((r.deleteRow d r.model db).1, r), (r.deleteRow d r.model db).2) := by
  unfold delete
  cases r.deleteRow d r.model db with
  | mk result after =>
    cases result with
    | error e => rfl
    | ok n => simp

theorem yields_delete_run (d : Driver σ) (r : Record) :
    Yields (r.delete d.traced false) fun deleted events => deleted.2 = r ∧ r.DeleteRun d.quoter deleted.1 events := by
  intro db
  obtain ⟨events, htrace, hrun⟩ := yields_deleteRow_run d r db
  rw [delete_kept]
  exact ⟨events, htrace, rfl, hrun⟩

end Record

namespace Collection

variable {c : Collection} {members : List (MemberKey × Record)}

/-! ### The pass over the members -/

/-- Deletes the row of each member once, in order. -/
def deletions (d : Driver σ) (members : List (MemberKey × Record)) :
    StateM (Database σ) (List (Except Error Nat × Record)) :=
  members.mapM fun e => e.2.delete d false

/-- The runs of the deletes of some members, one after the other. -/
inductive DeletesRun (q : Quoter) : List (MemberKey × Record) → List (Except Error Nat) → List Event → Prop where
  | nil : DeletesRun q [] [] []
  | cons (key : MemberKey) {r : Record} {members : List (MemberKey × Record)} {result : Except Error Nat}
    {results : List (Except Error Nat)} {events later : List Event} (h : r.DeleteRun q result events)
    (hlater : DeletesRun q members results later) :
    DeletesRun q ((key, r) :: members) (result :: results) (events ++ later)

/-- Whether a delete failed or affected no row. -/
def isIdle : Except Error Nat → Bool
  | .ok (_ + 1) => false
  | .ok 0 | .error _ => true

/-- The members whose delete failed or affected no row. -/
def staying (members : List (MemberKey × Record)) (results : List (Except Error Nat)) : List (MemberKey × Record) :=
  ((members.zip results).filter fun e => isIdle e.2).map Prod.fst

/-- The keys of the members whose delete affected a row. -/
def deletedKeys (members : List (MemberKey × Record)) (results : List (Except Error Nat)) : List MemberKey :=
  ((members.zip results).filter fun e => !isIdle e.2).map fun e => e.1.1

theorem deletions_cons (d : Driver σ) (e : MemberKey × Record) (members : List (MemberKey × Record))
    (db : Database σ) :
    deletions d (e :: members) db =
      ((e.2.delete d false db).1 :: (deletions d members (e.2.delete d false db).2).1,
        (deletions d members (e.2.delete d false db).2).2) := by
  rw [deletions, List.mapM_cons]
  rfl

theorem yields_deletions (d : Driver σ) (members : List (MemberKey × Record)) :
    Yields (deletions d.traced members) fun tried events =>
      tried.map Prod.snd = members.map Prod.snd ∧ DeletesRun d.quoter members (tried.map Prod.fst) events := by
  induction members with
  | nil => exact Yields.pure ⟨rfl, .nil⟩
  | cons member members ih =>
    obtain ⟨key, r⟩ := member
    intro db
    obtain ⟨events, htrace, hkept, hrun⟩ := Record.yields_delete_run d r db
    obtain ⟨later, hlater, hrecords, hruns⟩ := ih (r.delete d.traced false db).2
    rw [deletions_cons]
    refine ⟨events ++ later, ?_, ?_, .cons key hrun hruns⟩
    · rw [← List.append_assoc, ← htrace]
      exact hlater
    · rw [List.map_cons, List.map_cons, hrecords, hkept]

theorem deleteMembers_cons {r : Record} (d : Driver σ) (hwritable : r.access ≠ .readOnly) (key : MemberKey)
    (members : List (MemberKey × Record)) (db : Database σ) :
    deleteMembers d ((key, r) :: members) db =
      ((deleteMembers d members (r.delete d false db).2).1.map fun pass =>
          if isIdle (r.delete d false db).1.1 then ⟨(key, r) :: pass.members, key :: pass.failed⟩ else pass,
        (deleteMembers d members (r.delete d false db).2).2) := by
  rw [deleteMembers, Record.ensureWritable_of hwritable, Record.delete_kept]
  simp only [bind, StateT.bind, Record.delete_kept]
  cases (r.deleteRow d r.model db).1 with
  | error e => rfl
  | ok n => cases n <;> rfl

/-- Without a read-only member the pass deletes each member, keeps those whose delete was idle and reports their
keys. -/
theorem deleteMembers_eq (d : Driver σ) (hwritable : AllWritable members) (db : Database σ) :
    let tried := deletions d members db
    let stays := staying members (tried.1.map Prod.fst)
    deleteMembers d members db = (.ok ⟨stays, stays.map Prod.fst⟩, tried.2) := by
  induction members generalizing db with
  | nil => rfl
  | cons member members ih =>
    obtain ⟨key, r⟩ := member
    obtain ⟨hmember, hmembers⟩ := List.forall_mem_cons.1 hwritable
    rw [deleteMembers_cons d hmember, deletions_cons, ih hmembers]
    cases hidle : isIdle (r.delete d false db).1.1 <;> simp [staying, hidle, Except.map]

/-! ### Leaving by the key -/

theorem foldl_remove_eq (c : Collection) (keys : List MemberKey) :
    keys.foldl remove c = { c with members := c.members.filter fun e => e.1 ∉ keys } := by
  induction keys generalizing c with
  | nil =>
    have hall : c.members.filter (fun e => e.1 ∉ []) = c.members := by simp
    rw [hall]
    cases c
    rfl
  | cons key keys ih =>
    rw [List.foldl_cons, ih]
    simp only [remove, Entries.erase, List.filter_filter]
    congr 1
    refine List.filter_congr fun e _ => ?_
    simp [Bool.and_comm]

theorem staying_sublist (members : List (MemberKey × Record)) (results : List (Except Error Nat)) :
    (staying members results).Sublist members := by
  induction members generalizing results with
  | nil => exact .slnil
  | cons member members ih =>
    cases results with
    | nil => exact List.nil_sublist _
    | cons result results =>
      cases hidle : isIdle result with
      | true => simpa [staying, hidle] using ih results
      | false => simpa [staying, hidle] using (ih results).cons member

theorem deletedKeys_subset (members : List (MemberKey × Record)) (results : List (Except Error Nat)) :
    deletedKeys members results ⊆ members.map Prod.fst := by
  intro key hkey
  obtain ⟨e, he, rfl⟩ := List.mem_map.1 hkey
  have hmember := (List.of_mem_zip (List.mem_of_mem_filter he)).1
  exact List.mem_map_of_mem hmember

/-- Members with different keys stay exactly if theirs is not the key of a deleted one. -/
theorem staying_eq_filter (hkeys : (members.map Prod.fst).Nodup) {results : List (Except Error Nat)}
    (hlength : results.length = members.length) :
    staying members results = members.filter fun e => e.1 ∉ deletedKeys members results := by
  induction members generalizing results with
  | nil => rfl
  | cons member members ih =>
    obtain ⟨result, results, rfl⟩ := List.exists_cons_of_length_eq_add_one hlength
    obtain ⟨hother, hkeys⟩ := List.nodup_cons.1 hkeys
    have hrest := ih hkeys (Nat.succ.inj hlength)
    have hkept : member.1 ∉ deletedKeys members results := fun h => hother (deletedKeys_subset members results h)
    cases hidle : isIdle result with
    | true =>
      have hdeleted : deletedKeys (member :: members) (result :: results) = deletedKeys members results := by
        simp [deletedKeys, hidle]
      have hstays : staying (member :: members) (result :: results) = member :: staying members results := by
        simp [staying, hidle]
      rw [hdeleted, hstays, hrest, List.filter_cons_of_pos (by simpa using hkept)]
    | false =>
      have hdeleted : deletedKeys (member :: members) (result :: results) =
          member.1 :: deletedKeys members results := by
        simp [deletedKeys, hidle]
      have hstays : staying (member :: members) (result :: results) = staying members results := by
        simp [staying, hidle]
      rw [hdeleted, hstays, hrest, List.filter_cons_of_neg (by simp)]
      refine List.filter_congr fun e he => ?_
      have hne : e.1 ≠ member.1 := fun h => hother (h ▸ List.mem_map_of_mem he)
      simp [hne]

/-- The deleted members are removed by their keys, one after the other. -/
theorem foldl_remove (hkeys : c.keys.Nodup) {results : List (Except Error Nat)}
    (hlength : results.length = c.members.length) :
    (deletedKeys c.members results).foldl remove c = { c with members := staying c.members results } := by
  rw [foldl_remove_eq, staying_eq_filter hkeys hlength]

/-! ### The whole collection -/

theorem deleteAll_of_writable (d : Driver σ) (hwritable : AllWritable c.members) (db : Database σ) :
    let tried := deletions d c.members db
    let stays := staying c.members (tried.1.map Prod.fst)
    c.deleteAll d db = ((.ok (.ofFailures (stays.map Prod.fst)), { c with members := stays }), tried.2) := by
  intro tried stays
  have hpass : deleteMembers d c.members db = (.ok ⟨stays, stays.map Prod.fst⟩, tried.2) :=
    deleteMembers_eq d hwritable db
  simp only [deleteAll, ensureWritable_iff.2 hwritable, bind, StateT.bind, hpass]
  rfl

/-- What a collection with a read-only member is refused with. -/
theorem ensureWritable_refused (h : ¬ AllWritable c.members) (action : String) :
    ∃ key r, (key, r) ∈ c.members ∧ r.access = .readOnly ∧
      c.ensureWritable action = .error (.unsupportedOperation
        ("cannot " ++ action ++ " a collection holding read-only record '" ++ key.text ++ "'")) := by
  cases hfound : c.members.find? fun e => e.2.access = .readOnly with
  | none => exact absurd (by simpa [AllWritable] using hfound) h
  | some e =>
    have hreadOnly := List.find?_some hfound
    refine ⟨e.1, e.2, List.mem_of_find?_eq_some hfound, of_decide_eq_true hreadOnly, ?_⟩
    rw [ensureWritable, hfound]

/--
A delete of all members, over a driver that fails as it likes.  With a read-only member it returns an error that names
such a member, makes no call and leaves the collection as it is.  Without one, the row of each member is deleted by one
attempt, in the order of the members and whatever became of the attempts before; each of them is at most one statement,
whose answer is the result of the attempt.  The members whose attempt failed or affected no row stay, unchanged, under
their keys and in their order, and their keys are those that are reported; the others are removed by their keys.  All of
this succeeded exactly if no member is left.
-/
theorem deleteAll_splits (d : Driver σ) (c : Collection) (db : Database (List Event × σ)) :
    let ended := c.deleteAll d.traced db
    (¬ AllWritable c.members →
      ∃ key r, (key, r) ∈ c.members ∧ r.access = .readOnly ∧
        ended = ((.error (.unsupportedOperation
          ("cannot delete a collection holding read-only record '" ++ key.text ++ "'")), c), db)) ∧
    (AllWritable c.members →
      let tried := deletions d.traced c.members db
      let results := tried.1.map Prod.fst
      let stays := staying c.members results
      (∃ events, tried.2.events = db.events ++ events ∧ DeletesRun d.quoter c.members results events) ∧
        tried.1.map Prod.snd = c.records ∧
        ended = ((.ok (.ofFailures (stays.map Prod.fst)), { c with members := stays }), tried.2) ∧
        (c.keys.Nodup → ended.1.2 = (deletedKeys c.members results).foldl remove c) ∧
        (ended.1.1 = .ok .allSucceeded ↔ ended.1.2.members = [])) := by
  refine ⟨fun hreadOnly => ?_, fun hwritable => ?_⟩
  · obtain ⟨key, r, hmem, haccess, herror⟩ := ensureWritable_refused hreadOnly "delete"
    refine ⟨key, r, hmem, haccess, ?_⟩
    rw [deleteAll, herror]
    rfl
  · intro tried results stays
    obtain ⟨events, htrace, hrecords, hruns⟩ := yields_deletions d c.members db
    have hended : c.deleteAll d.traced db =
        ((.ok (.ofFailures (stays.map Prod.fst)), { c with members := stays }), tried.2) :=
      deleteAll_of_writable d.traced hwritable db
    have hlength : results.length = c.members.length := by
      have hsame := congrArg List.length hrecords
      simpa [results, tried] using hsame
    refine ⟨⟨events, htrace, hruns⟩, hrecords, hended, fun hkeys => ?_, ?_⟩
    · rw [hended, foldl_remove hkeys hlength]
    · rw [hended, Except.ok.injEq, ofFailures_eq_allSucceeded_iff, List.map_eq_nil_iff]

/-! ### An example -/

namespace Example

open Record.Example

/-- The post of a key. -/
def storedPost (id : Int32) : Record := .ofRow posts .writable (Record.only "id" (.int id))

/-- Three posts that are stored, and a new one between them. -/
def fourPosts : Collection :=
  { model := posts, access := .writable, nextIndex := 3
    members := [(.index 0, storedPost 1), (.name "new", draft), (.index 1, storedPost 2), (.index 2, storedPost 3)] }

/-- A script in which the first delete fails, the second one deletes a row and the third one finds none. -/
def secondDeleted : Script := { counts := [.error lost, .ok 1, .ok 0] }

/-- The delete of the post of a key. -/
def deletePost (id : Int32) : Call := .execute "DELETE FROM posts WHERE id = ?1" [.int id]

end Example

open Example Record.Example in
/-- After the delete of the first post fails the others go on, and only the second stored post leaves; with a read-only
post nothing is tried. -/
theorem deleteAll_splits_secondDeleted :
    let ended := fourPosts.deleteAll driver (database secondDeleted)
    ended.1.1 = .ok (.failed [.index 0, .name "new", .index 2]) ∧
      ended.1.2.members = [(.index 0, storedPost 1), (.name "new", draft), (.index 2, storedPost 3)] ∧
      ended.2.events.map Event.call = [deletePost 1, deletePost 2, deletePost 3] ∧
      ended.1.2 = fourPosts.remove (.index 1) ∧
      (threePosts.deleteAll driver (database secondDeleted)).1.2 = threePosts ∧
      (threePosts.deleteAll driver (database secondDeleted)).2 = database secondDeleted := by
  intro ended
  have hwritable : AllWritable fourPosts.members := ensureWritable_iff.1 (rfl : fourPosts.ensureWritable "delete" = _)
  have hkeys : fourPosts.keys.Nodup := by decide
  obtain ⟨-, hsplit⟩ := deleteAll_splits (.scripted .sqlite (.idle .sqlite)) fourPosts (database secondDeleted)
  obtain ⟨-, -, -, hremoved, -⟩ := hsplit hwritable
  obtain ⟨hrefused, -⟩ := deleteAll_splits (.scripted .sqlite (.idle .sqlite)) threePosts (database secondDeleted)
  have hreadOnly : ¬ AllWritable threePosts.members := by
    simp [AllWritable, threePosts]
  obtain ⟨key, r, -, -, hthree⟩ := hrefused hreadOnly
  refine ⟨rfl, rfl, rfl, ?_, ?_, ?_⟩
  · exact hremoved hkeys
  · exact congrArg (fun ended => ended.1.2) hthree
  · exact congrArg Prod.snd hthree

end Collection

end RecordMapper
