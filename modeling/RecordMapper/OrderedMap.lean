/-!
# Ordered maps

Finite maps that keep the order in which their keys came: a key that is put again keeps its place. An `OrderedMap` is
a list of entries with distinct keys; the functions on lists are stated first, each with what it does to look-ups and
to the keys.
-/

namespace RecordMapper

universe u v w

variable {α : Type u} {β : Type v} {γ : Type w}

/-! ### Entries -/

namespace Entries

variable [DecidableEq α]

/-- The value under a key. -/
def find? (k : α) : List (α × β) → Option β
  | [] => none
  | (a, b) :: es => if a = k then some b else find? k es

/-- Puts a value under a key: in the key's old place if it is there, else last. -/
def put (k : α) (v : β) : List (α × β) → List (α × β)
  | [] => [(k, v)]
  | (a, b) :: es => if a = k then (a, v) :: es else (a, b) :: put k v es

/-- The entries without those under a key. -/
def erase (k : α) (es : List (α × β)) : List (α × β) :=
  es.filter fun e => e.1 ≠ k

/-- The entries of a list with repeated keys: first places, last values. -/
def ofList (es : List (α × β)) : List (α × β) :=
  es.foldl (fun m e => put e.1 e.2 m) []

theorem find?_eq_none_iff {k : α} {es : List (α × β)} : find? k es = none ↔ k ∉ es.map Prod.fst := by
  induction es with
  | nil => simp [find?]
  | cons e es ih =>
    by_cases h : e.1 = k
    · simp [find?, h]
    · simp [find?, h, ih, Ne.symm h]

theorem find?_isSome_iff {k : α} {es : List (α × β)} : (find? k es).isSome ↔ k ∈ es.map Prod.fst := by
  rw [Option.isSome_iff_ne_none, ne_eq, find?_eq_none_iff, Decidable.not_not]

theorem mem_of_find? {k : α} {v : β} {es : List (α × β)} (h : find? k es = some v) : (k, v) ∈ es := by
  induction es with
  | nil => simp [find?] at h
  | cons e es ih =>
    obtain ⟨a, b⟩ := e
    simp only [find?] at h
    split at h
    · rename_i hk
      simp_all
    · exact List.mem_cons_of_mem _ (ih h)

theorem find?_eq_some_iff {k : α} {v : β} {es : List (α × β)} (hn : (es.map Prod.fst).Nodup) :
    find? k es = some v ↔ (k, v) ∈ es := by
  refine ⟨mem_of_find?, fun h => ?_⟩
  induction es with
  | nil => simp at h
  | cons e es ih =>
    obtain ⟨a, b⟩ := e
    simp only [List.map_cons, List.nodup_cons] at hn
    simp only [List.mem_cons, Prod.mk.injEq] at h
    rcases h with ⟨rfl, rfl⟩ | h
    · simp [find?]
    · have : a ≠ k := fun e => hn.1 (e ▸ List.mem_map_of_mem (f := Prod.fst) h)
      simp [find?, this, ih hn.2 h]

theorem find?_put {k j : α} {v : β} {es : List (α × β)} :
    find? j (put k v es) = if k = j then some v else find? j es := by
  induction es with
  | nil => simp [find?, put]
  | cons e es ih =>
    obtain ⟨a, b⟩ := e
    by_cases h : a = k
    · subst h
      by_cases hj : a = j <;> simp [find?, put, hj]
    · by_cases hj : a = j
      · subst hj
        simp [find?, put, h, Ne.symm h]
      · simp [find?, put, h, hj, ih]

theorem keys_put {k : α} {v : β} {es : List (α × β)} :
    (put k v es).map Prod.fst = if k ∈ es.map Prod.fst then es.map Prod.fst else es.map Prod.fst ++ [k] := by
  induction es with
  | nil => simp [put]
  | cons e es ih =>
    obtain ⟨a, b⟩ := e
    by_cases h : a = k
    · simp [put, h]
    · by_cases hk : k ∈ es.map Prod.fst
      · rw [if_pos hk] at ih
        rw [if_pos (by simpa using .inr (by simpa using hk))]
        simp [put, h, ih]
      · rw [if_neg hk] at ih
        rw [if_neg (by simpa [Ne.symm h] using hk)]
        simp [put, h, ih]

theorem nodup_keys_put {k : α} {v : β} {es : List (α × β)} (hn : (es.map Prod.fst).Nodup) :
    ((put k v es).map Prod.fst).Nodup := by
  rw [keys_put]
  split
  · exact hn
  · rename_i h
    rw [List.nodup_append]
    exact ⟨hn, by simp, fun a ha b hb => by
      rw [List.mem_singleton] at hb
      exact fun e => h (hb ▸ e ▸ ha)⟩

theorem put_of_not_mem {k : α} {v : β} {es : List (α × β)} (h : k ∉ es.map Prod.fst) :
    put k v es = es ++ [(k, v)] := by
  induction es with
  | nil => rfl
  | cons e es ih =>
    obtain ⟨a, b⟩ := e
    simp only [List.map_cons, List.mem_cons, not_or] at h
    simp [put, Ne.symm h.1, ih h.2]

theorem find?_erase {k j : α} {es : List (α × β)} :
    find? j (erase k es) = if k = j then none else find? j es := by
  induction es with
  | nil => simp [find?, erase]
  | cons e es ih =>
    obtain ⟨a, b⟩ := e
    simp only [erase] at ih ⊢
    by_cases h : a = k
    · subst h
      by_cases hj : a = j <;> simp_all [find?]
    · by_cases hj : a = j
      · subst hj
        simp [find?, h, Ne.symm h]
      · simp_all [find?]

theorem nodup_keys_foldl_put {es : List (α × β)} :
    ∀ {m : List (α × β)}, (m.map Prod.fst).Nodup →
      ((es.foldl (fun m e => put e.1 e.2 m) m).map Prod.fst).Nodup := by
  induction es with
  | nil => exact fun hn => hn
  | cons e es ih => exact fun hn => ih (nodup_keys_put hn)

theorem nodup_keys_ofList {es : List (α × β)} : ((ofList es).map Prod.fst).Nodup :=
  nodup_keys_foldl_put (by simp)

theorem find?_append {k : α} {es fs : List (α × β)} : find? k (es ++ fs) = (find? k es).or (find? k fs) := by
  induction es with
  | nil => rfl
  | cons e es ih =>
    rw [List.cons_append, find?, find?, ih]
    split <;> rfl

private theorem find?_foldl_put {k : α} {es m : List (α × β)} :
    find? k (es.foldl (fun m e => put e.1 e.2 m) m) = (find? k es.reverse).or (find? k m) := by
  induction es generalizing m with
  | nil => rfl
  | cons e es ih =>
    have hlast : find? k (put e.1 e.2 m) = (find? k [e]).or (find? k m) := by
      rw [find?_put, find?]
      split <;> rfl
    rw [List.foldl_cons, ih, hlast, List.reverse_cons, find?_append, Option.or_assoc]

/-- In the map of a list the last entry of a key decides. -/
theorem find?_ofList {k : α} {es : List (α × β)} : find? k (ofList es) = find? k es.reverse := by
  rw [ofList, find?_foldl_put]
  exact Option.or_none

/-- The keys of a list's map are the keys of the list, each where it came first. -/
theorem keys_ofList {es : List (α × β)} : (ofList es).map Prod.fst = (es.map Prod.fst).eraseDups := by
  -- one entry at a time is put into the map, so the induction is on the length, from the end
  generalize hn : es.length = n
  induction n generalizing es with
  | zero =>
    obtain rfl := List.length_eq_zero_iff.1 hn
    rfl
  | succ n ih =>
    obtain ⟨init, e, rfl⟩ : ∃ init e, es = init ++ [e] :=
      ⟨es.dropLast, es.getLast (by rintro rfl; cases hn), (List.dropLast_concat_getLast _).symm⟩
    have hinit : (ofList init).map Prod.fst = (init.map Prod.fst).eraseDups := ih (by simpa using hn)
    rw [ofList, List.foldl_append, List.foldl_cons, List.foldl_nil, ← ofList, keys_put, hinit, List.map_append,
      List.eraseDups_append]
    by_cases h : e.1 ∈ init.map Prod.fst
    · simp [h, List.removeAll]
    · simp [h, List.removeAll, List.eraseDups_cons]

/-- What a map of a list holds comes from the list. -/
theorem mem_of_find?_ofList {k : α} {v : β} {es : List (α × β)} (h : find? k (ofList es) = some v) : (k, v) ∈ es := by
  rw [find?_ofList] at h
  exact List.mem_reverse.1 (mem_of_find? h)

/-- A key of a list is a key of its map. -/
theorem find?_ofList_isSome {k : α} {es : List (α × β)} (h : k ∈ es.map Prod.fst) :
    (find? k (ofList es)).isSome = true := by
  rw [find?_ofList, find?_isSome_iff, List.map_reverse, List.mem_reverse]
  exact h

/-- A key has the value of its last entry in the map of a list. -/
theorem find?_ofList_of_last {k : α} {v : β} {before after : List (α × β)} (h : ∀ e ∈ after, e.1 ≠ k) :
    find? k (ofList (before ++ (k, v) :: after)) = some v := by
  have hafter : find? k after.reverse = none := by
    rw [find?_eq_none_iff, List.map_reverse, List.mem_reverse]
    exact fun hk => (List.mem_map.1 hk).elim fun e he => h e he.1 he.2
  rw [find?_ofList, List.reverse_append, List.reverse_cons, List.append_assoc, find?_append, hafter, Option.none_or,
    List.singleton_append, find?, if_pos rfl]

/-- A key under which a list has one value, however often, has this value in the map. -/
theorem find?_ofList_of_unique {k : α} {v : β} {es : List (α × β)} (hmem : (k, v) ∈ es)
    (hunique : ∀ w, (k, w) ∈ es → w = v) : find? k (ofList es) = some v := by
  obtain ⟨w, hw⟩ := Option.isSome_iff_exists.1 (find?_ofList_isSome (List.mem_map_of_mem (f := Prod.fst) hmem))
  rw [hw, hunique w (mem_of_find?_ofList hw)]

end Entries

/-! ### Maps -/

/-- A finite map in the order of its keys' first insertion. -/
structure OrderedMap (α : Type u) (β : Type v) where
  toList : List (α × β)
  nodup_keys : (toList.map Prod.fst).Nodup

namespace OrderedMap

instance [Repr α] [Repr β] : Repr (OrderedMap α β) := ⟨fun m n => reprPrec m.toList n⟩

/-- The map without entries. -/
def empty : OrderedMap α β := ⟨[], by simp⟩

instance : EmptyCollection (OrderedMap α β) := ⟨empty⟩

instance : Inhabited (OrderedMap α β) := ⟨empty⟩

@[ext] theorem ext {m n : OrderedMap α β} (h : m.toList = n.toList) : m = n := by
  cases m; cases n; simp_all

/-- The keys, in order. -/
def keys (m : OrderedMap α β) : List α := m.toList.map Prod.fst

/-- The values, in the order of their keys. -/
def values (m : OrderedMap α β) : List β := m.toList.map Prod.snd

/-- The number of entries. -/
def size (m : OrderedMap α β) : Nat := m.toList.length

/-- Whether there is no entry. -/
def isEmpty (m : OrderedMap α β) : Bool := m.toList.isEmpty

/-- The entries that pass a test. -/
def filter (p : α → β → Bool) (m : OrderedMap α β) : OrderedMap α β :=
  ⟨m.toList.filter fun e => p e.1 e.2, List.Nodup.sublist (List.filter_sublist.map _) m.nodup_keys⟩

variable [DecidableEq α]

/-- The value under a key. -/
def get? (m : OrderedMap α β) (k : α) : Option β := Entries.find? k m.toList

/-- Whether there is an entry under a key. -/
def contains (m : OrderedMap α β) (k : α) : Bool := (m.get? k).isSome

/-- Puts a value under a key: in the key's old place if it is there, else last. -/
def insert (m : OrderedMap α β) (k : α) (v : β) : OrderedMap α β :=
  ⟨Entries.put k v m.toList, Entries.nodup_keys_put m.nodup_keys⟩

/-- The map without the entry under a key. -/
def erase (m : OrderedMap α β) (k : α) : OrderedMap α β :=
  m.filter fun a _ => a ≠ k

/-- The map of a list of entries: a repeated key keeps its first place and takes its last value. -/
def ofList (es : List (α × β)) : OrderedMap α β :=
  ⟨Entries.ofList es, Entries.nodup_keys_ofList⟩

/-- All entries of the second map put into the first. -/
def union (m n : OrderedMap α β) : OrderedMap α β :=
  n.toList.foldl (fun m e => m.insert e.1 e.2) m

theorem mem_keys_iff {m : OrderedMap α β} {k : α} : k ∈ m.keys ↔ m.contains k :=
  Entries.find?_isSome_iff.symm

theorem get?_eq_some_iff {m : OrderedMap α β} {k : α} {v : β} : m.get? k = some v ↔ (k, v) ∈ m.toList :=
  Entries.find?_eq_some_iff m.nodup_keys

@[simp] theorem get?_empty {k : α} : (∅ : OrderedMap α β).get? k = none := rfl

theorem get?_insert {m : OrderedMap α β} {k j : α} {v : β} :
    (m.insert k v).get? j = if k = j then some v else m.get? j :=
  Entries.find?_put

@[simp] theorem get?_insert_self {m : OrderedMap α β} {k : α} {v : β} : (m.insert k v).get? k = some v := by
  simp [get?_insert]

theorem get?_erase {m : OrderedMap α β} {k j : α} : (m.erase k).get? j = if k = j then none else m.get? j :=
  Entries.find?_erase

theorem get?_filter {m : OrderedMap α β} {p : α → β → Bool} {k : α} :
    (m.filter p).get? k = (m.get? k).filter (p k) := by
  refine Option.ext fun v => ?_
  rw [Option.filter_eq_some_iff, get?_eq_some_iff, get?_eq_some_iff]
  exact List.mem_filter

theorem keys_insert {m : OrderedMap α β} {k : α} {v : β} :
    (m.insert k v).keys = if k ∈ m.keys then m.keys else m.keys ++ [k] :=
  Entries.keys_put

theorem keys_ofList {es : List (α × β)} : (ofList es).keys = (es.map Prod.fst).eraseDups :=
  Entries.keys_ofList

private theorem foldl_insert_toList {es : List (α × β)} {m : OrderedMap α β} :
    (es.foldl (fun m e => m.insert e.1 e.2) m).toList = es.foldl (fun m e => Entries.put e.1 e.2 m) m.toList := by
  induction es generalizing m with
  | nil => rfl
  | cons e es ih => exact ih

/-- The map of a list is made by putting in its entries one after the other. -/
theorem foldl_insert_empty (es : List (α × β)) : es.foldl (fun m e => m.insert e.1 e.2) ∅ = ofList es :=
  ext foldl_insert_toList

end OrderedMap

end RecordMapper
