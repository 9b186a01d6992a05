import RecordMapper.Proofs.Collection.Deleted

/-!
# The keys of a collection in use

A collection is made empty and then used by any sequence of operations, while the database that they run on changes in
whatever way between them.

* `Step` are the operations, and `Reachable` the collections that they lead to;
* of the operations only `push` and `insert` bring keys in, all others leave some of those that were there (`Narrows`);
* the next index is larger than every index in use, as far as there is a larger one (`Indexed`, `Reachable.indexed`);
* so a record that is pushed becomes a member of its own, unless a member has the largest index that there is
  (`push_adds_iff`), and this member is replaced then (`push_replaces_last`).
-/

namespace RecordMapper.Collection

variable {σ : Type} {m : Model} {d : Driver σ}

/-! ### Operations -/

/-- An operation on a collection. -/
inductive Step where
  | push (r : Record)
  | insert (key : MemberKey) (r : Record)
  | remove (key : MemberKey)
  | removeAll
  /-- Members are changed in their places. -/
  | change (f : MemberKey → Record → Record)
  | saveAll (grouped : Bool)
  | deleteAll

/-- The collection after an operation, whether it fails or not. -/
def Step.run (d : Driver σ) (c : Collection) : Step → StateM (Database σ) Collection
  | .push r => pure (c.push r)
  | .insert key r => pure (c.insert key r)
  | .remove key => pure (c.remove key)
  | .removeAll => pure c.removeAll
  | .change f => pure { c with members := c.members.map fun e => (e.1, f e.1 e.2) }
  | .saveAll grouped => Prod.snd <$> c.saveAll d grouped
  | .deleteAll => Prod.snd <$> c.deleteAll d

/-- The collections of a model that any sequence of operations leads to, on whatever databases they run. -/
inductive Reachable (d : Driver σ) (m : Model) : Collection → Prop where
  | new (access : Access) : Reachable d m (.empty m access)
  | step {c : Collection} (h : Reachable d m c) (s : Step) (db : Database σ) : Reachable d m (s.run d c db).1

/-! ### Operations that bring no keys in -/

/-- The same collection, with some of the keys that it had. -/
structure Narrows (before after : Collection) : Prop where
  keys : after.keys.Sublist before.keys
  nextIndex : after.nextIndex = before.nextIndex

namespace Narrows

variable {b c e : Collection}

theorem refl (c : Collection) : c.Narrows c :=
  ⟨.refl _, rfl⟩

theorem of_members {members : List (MemberKey × Record)} (h : (members.map Prod.fst).Sublist c.keys) :
    c.Narrows { c with members } :=
  ⟨h, rfl⟩

theorem trans (h : b.Narrows c) (h' : c.Narrows e) : b.Narrows e :=
  ⟨h'.keys.trans h.keys, h'.nextIndex.trans h.nextIndex⟩

end Narrows

theorem narrows_remove (c : Collection) (key : MemberKey) : c.Narrows (c.remove key) :=
  .of_members (keys_filter_sublist c.members _)

theorem narrows_insertNew (d : Driver σ) (c : Collection) (db : Database σ) : c.Narrows (c.insertNew d db).1.1 := by
  refine ⟨(insertNew_keys d c db).1 ▸ .refl _, ?_⟩
  by_cases hne : c.toInsert = []
  · rw [insertNew_nothing hne]
  · cases hmany : c.model.insertMany d c.rowsToInsert db with
    | mk result after =>
      cases result with
      | error error => rw [insertNew_failed hne hmany]
      | ok keys =>
        rw [insertNew_inserted hne hmany]
        exact (keys_adoptInserted c _ _).2.2

theorem narrows_saveAll (d : Driver σ) (c : Collection) (grouped : Bool) (db : Database σ) :
    c.Narrows (c.saveAll d grouped db).1.2 := by
  rcases saveAll_refused_or_accepted d c grouped with ⟨e, -, hrefused⟩ | haccepted
  · rw [hrefused]
    exact .refl c
  · have hpass : c.Narrows { c with members := (saveMembers d grouped c.members db).1.members } :=
      .of_members (keys_saveMembers d grouped c.members db ▸ .refl _)
    rw [saveAll_of_accepted haccepted]
    cases grouped with
    | false => exact hpass
    | true => exact hpass.trans (narrows_insertNew d _ _)

theorem narrows_deleteAll (d : Driver σ) (c : Collection) (db : Database σ) :
    c.Narrows (c.deleteAll d db).1.2 := by
  by_cases hwritable : AllWritable c.members
  · rw [deleteAll_of_writable d hwritable]
    exact .of_members ((staying_sublist c.members _).map Prod.fst)
  · obtain ⟨key, r, -, -, hrefused⟩ := ensureWritable_refused hwritable "delete"
    rw [deleteAll, hrefused]
    exact .refl c

/-! ### The next index -/

/-- The keys are different, and the next index is larger than every index in use, as far as there is a larger one. -/
structure Indexed (c : Collection) : Prop where
  nodup : c.keys.Nodup
  above : ∀ i, .index i ∈ c.keys → min (i + 1) maxIndex ≤ c.nextIndex
  le_max : c.nextIndex ≤ maxIndex

theorem keys_insert (c : Collection) (key : MemberKey) (r : Record) :
    (c.insert key r).keys = if key ∈ c.keys then c.keys else c.keys ++ [key] :=
  Entries.keys_put

theorem mem_keys_insert {c : Collection} {key other : MemberKey} {r : Record} (h : other ∈ (c.insert key r).keys) :
    other = key ∨ other ∈ c.keys := by
  rw [keys_insert] at h
  split at h
  · exact .inr h
  · rw [List.mem_append, List.mem_singleton] at h
    exact h.symm

namespace Indexed

variable {c : Collection}

theorem empty (m : Model) (access : Access) : (Collection.empty m access).Indexed :=
  ⟨.nil, fun _ h => absurd h List.not_mem_nil, Nat.zero_le _⟩

theorem narrows {after : Collection} (h : c.Indexed) (hsome : c.Narrows after) : after.Indexed where
  nodup := h.nodup.sublist hsome.keys
  above i hi := hsome.nextIndex ▸ h.above i (hsome.keys.subset hi)
  le_max := hsome.nextIndex ▸ h.le_max

theorem insert (h : c.Indexed) (key : MemberKey) (r : Record) : (c.insert key r).Indexed where
  nodup := Entries.nodup_keys_put h.nodup
  above i hi := by
    rcases mem_keys_insert hi with rfl | hi
    · exact Nat.le_max_right _ _
    · have hbound := h.above i hi
      cases key with
      | index j => exact Nat.le_trans hbound (Nat.le_max_left _ _)
      | name s => exact hbound
  le_max := by
    have hle := h.le_max
    cases key with
    | index j => exact Nat.max_le.2 ⟨hle, Nat.min_le_right _ _⟩
    | name s => exact hle

/-- A push is an insert under the next key. -/
theorem push_eq (h : c.Indexed) (r : Record) : c.push r = c.insert c.nextKey r := by
  have hnext : min (c.nextIndex + 1) maxIndex = max c.nextIndex (min (c.nextIndex + 1) maxIndex) := by
    have hle := h.le_max
    omega
  show (⟨_, _, _, min (c.nextIndex + 1) maxIndex⟩ : Collection) = _
  rw [hnext]
  rfl

/-- The member with the largest index is the one whose key comes next. -/
theorem nextKey_of_last (h : c.Indexed) (hlast : .index maxIndex ∈ c.keys) : c.nextKey = .index maxIndex := by
  have hbound := h.above maxIndex hlast
  have hle := h.le_max
  have hnext : c.nextIndex = maxIndex := by omega
  rw [nextKey, hnext]

/-- The next key is in use exactly if the largest index is. -/
theorem nextKey_mem_iff (h : c.Indexed) : c.nextKey ∈ c.keys ↔ .index maxIndex ∈ c.keys := by
  constructor
  · intro hmem
    have hbound := h.above c.nextIndex hmem
    have hle := h.le_max
    have hnext : c.nextIndex = maxIndex := by omega
    rwa [← hnext]
  · intro hlast
    rwa [h.nextKey_of_last hlast]

/-- Every operation keeps the next index beyond the indices in use. -/
theorem step (h : c.Indexed) (s : Step) (d : Driver σ) (db : Database σ) : (s.run d c db).1.Indexed := by
  cases s with
  | push r =>
    show (c.push r).Indexed
    rw [h.push_eq]
    exact h.insert c.nextKey r
  | insert key r => exact h.insert key r
  | remove key => exact h.narrows (narrows_remove c key)
  | removeAll => exact h.narrows (.of_members (List.nil_sublist _))
  | change f =>
    refine h.narrows (.of_members ?_)
    rw [List.map_map]
    exact .refl _
  | saveAll grouped => exact h.narrows (narrows_saveAll d c grouped db)
  | deleteAll => exact h.narrows (narrows_deleteAll d c db)

end Indexed

theorem Reachable.indexed {c : Collection} (h : Reachable d m c) : c.Indexed := by
  induction h with
  | new access => exact .empty m access
  | step _ s db ih => exact ih.step s d db

/-! ### Pushing a record -/

theorem get?_push (c : Collection) (r : Record) (other : MemberKey) :
    (c.push r).get? other = if c.nextKey = other then some r else c.get? other :=
  Entries.find?_put

/--
A record that is pushed onto a collection in use.  Its key is one that no member has exactly if no member has the
largest index that there is.  In this case the record is added after all members, which stay as they are, and is found
under its key; otherwise it takes the place of the member with the largest index.
-/
theorem push_adds_iff (h : Reachable d m c) (r : Record) :
    (c.nextKey ∉ c.keys ↔ .index maxIndex ∉ c.keys) ∧
      (c.push r).get? c.nextKey = some r ∧ (∀ other, other ≠ c.nextKey → (c.push r).get? other = c.get? other) ∧
      (.index maxIndex ∉ c.keys → (c.push r).members = c.members ++ [(c.nextKey, r)]) ∧
      (.index maxIndex ∈ c.keys → c.nextKey = .index maxIndex ∧ (c.push r).keys = c.keys) := by
  have hindexed := h.indexed
  refine ⟨not_congr hindexed.nextKey_mem_iff, ?_, fun other hother => ?_, fun hfree => ?_, fun htaken => ?_⟩
  · exact (get?_push c r c.nextKey).trans (if_pos rfl)
  · exact (get?_push c r other).trans (if_neg (Ne.symm hother))
  · exact members_push (mt hindexed.nextKey_mem_iff.1 hfree)
  · refine ⟨hindexed.nextKey_of_last htaken, ?_⟩
    rw [hindexed.push_eq, keys_insert, if_pos (hindexed.nextKey_mem_iff.2 htaken)]

namespace Example

open Record.Example

/-- Another new post. -/
def otherDraft : Record := { Record.new posts .writable with data := Record.only "title" (.text "b") }

/-- Two posts that were pushed and one between them that has a name, without the first. -/
def pinnedPosts : Collection :=
  ((((empty posts .writable).push draft).insert (.name "pinned") draft).push draft).remove (.index 0)

/-- A post under the largest index. -/
def lastPost : Collection :=
  (empty posts .writable).insert (.index maxIndex) draft

end Example

open Example Record.Example in
/-- The index of a post that is no longer there is not given to another one. -/
theorem push_adds_iff_pinned :
    Reachable driver posts pinnedPosts ∧ .index maxIndex ∉ pinnedPosts.keys ∧
      (pinnedPosts.push otherDraft).members = pinnedPosts.members ++ [(.index 2, otherDraft)] ∧
      (pinnedPosts.push otherDraft).get? (.index 2) = some otherDraft := by
  have hpushed : Reachable driver posts ((empty posts .writable).push draft) :=
    .step (.new .writable) (.push draft) (database {})
  have hpinned := (hpushed.step (.insert (.name "pinned") draft) (database {})).step (.push draft) (database {})
  have hreachable : Reachable driver posts pinnedPosts := hpinned.step (.remove (.index 0)) (database {})
  have hfree : .index maxIndex ∉ pinnedPosts.keys := by decide
  obtain ⟨-, hfound, -, hadded, -⟩ := push_adds_iff hreachable otherDraft
  exact ⟨hreachable, hfree, hadded hfree, hfound⟩

open Example Record.Example in
/-- After the largest index no other one is left, and the next post takes the place of the one that has it. -/
theorem push_replaces_last :
    Reachable driver posts lastPost ∧ lastPost.nextKey ∈ lastPost.keys ∧
      lastPost.members = [(.index maxIndex, draft)] ∧
      (lastPost.push otherDraft).members = [(.index maxIndex, otherDraft)] :=
  ⟨.step (.new .writable) (.insert (.index maxIndex) draft) (database {}), by decide, rfl, rfl⟩

end RecordMapper.Collection
