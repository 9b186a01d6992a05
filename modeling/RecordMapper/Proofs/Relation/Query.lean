import RecordMapper.Proofs.Filter.WellFormed
import RecordMapper.Record.Loading

/-!
# The query of a relation

* the keys that are asked for are parents' keys, and every key of a parent has one of its text among them
  (`mem_distinctKeys`, `exists_distinctKeys`);
* whether the query can be written depends on the conditions of the relation, not on the keys (`exists_sql_select_iff`).
-/

namespace RecordMapper

variable {α : Type}

/-! ### Writing queries -/

namespace Select

theorem exists_conditions_iff (s : Select) (q : Quoter) (key : FetchKey) (keyword : String) (filter : Filter)
    (bound : Nat) :
    (∃ sql, s.conditions q key keyword filter bound = .ok sql) ↔ (s.uses key = true → filter.WellFormed) := by
  unfold conditions
  cases s.uses key with
  | false => simp
  | true =>
    rw [if_pos rfl, ← @Filter.exists_compile_iff filter q bound]
    cases filter.compile q bound <;> simp

/-- A query can be written when the conditions that it uses are well formed. -/
theorem exists_sql_iff (s : Select) (q : Quoter) :
    (∃ sql, s.sql q = .ok sql) ↔
      (s.uses .filter = true → s.fetch.filter.WellFormed) ∧ (s.uses .having = true → s.fetch.having.WellFormed) := by
  rw [← exists_conditions_iff s q .filter " WHERE " s.fetch.filter 0, sql]
  cases hfilter : s.conditions q .filter " WHERE " s.fetch.filter 0 with
  | error fault => simp
  | ok filter =>
    rw [← exists_conditions_iff s q .having " HAVING " s.fetch.having filter.binds.length]
    cases hhaving : s.conditions q .having " HAVING " s.fetch.having filter.binds.length <;> simp [hhaving]

end Select

theorem Filter.wellFormed_and_iff {f : Filter} {c : Condition} :
    (f.and c).WellFormed ↔ f.WellFormed ∧ c.WellFormed := by
  unfold Filter.and push
  constructor
  · intro h
    refine ⟨⟨fun e he => h.first e ?_, fun e he => h.each e ?_⟩, h.each (f.nextLink, c) ?_⟩
    · rw [List.head?_append, Option.mem_def.1 he]
      rfl
    · exact List.mem_append_left _ he
    · exact List.mem_append_right _ (List.mem_singleton_self _)
  · rintro ⟨hf, hc⟩
    refine ⟨fun e he => ?_, fun e he => ?_⟩
    · cases f with
      | nil =>
        obtain rfl := Option.some.inj he
        simp [nextLink, Link.isOr]
      | cons e' es => exact hf.first e he
    · rcases List.mem_append.1 he with he | he
      · exact hf.each e he
      · obtain rfl := List.mem_singleton.1 he
        exact hc

theorem Value.isScalar_of_keyText? {v : Value} (h : v.keyText? ≠ none) : v.isScalar := by
  cases v <;> first | rfl | exact absurd rfl h

namespace Relation

/-! ### Keys -/

/-- The values of parents that have the text of a key. -/
def keysOf [Parent α] (r : Relation) (parents : List α) : List Value :=
  (parents.filterMap fun p => Parent.keyValue p r.parentCol).filter fun v => v.keyText?.isSome

theorem mem_distinctKeys {seen : List String} {vs : List Value} {v : Value} (h : v ∈ distinctKeys seen vs) :
    v ∈ vs.filter fun v => v.keyText?.isSome := by
  induction vs generalizing seen with
  | nil => simp [distinctKeys] at h
  | cons w vs ih =>
    unfold distinctKeys at h
    split at h
    · rename_i hw
      simpa [hw] using ih h
    · rename_i k hw
      rw [List.filter_cons, if_pos (by simp [hw]), List.mem_cons]
      split at h
      · exact .inr (ih h)
      · rcases List.mem_cons.1 h with rfl | h
        · exact .inl rfl
        · exact .inr (ih h)

/-- A key whose text has not come before is asked for, itself or one of its text. -/
theorem exists_distinctKeys {seen : List String} {vs : List Value} {v : Value} {k : String} (hv : v ∈ vs)
    (hk : v.keyText? = some k) (hseen : k ∉ seen) : ∃ w ∈ distinctKeys seen vs, w.keyText? = some k := by
  induction vs generalizing seen with
  | nil => simp at hv
  | cons w vs ih =>
    unfold distinctKeys
    split
    · rename_i hw
      have hne : v ≠ w := fun h => by simp [← h, hk] at hw
      exact ih ((List.mem_cons.1 hv).resolve_left hne) hseen
    · rename_i k' hw
      by_cases hkk : k' = k
      · subst hkk
        rw [if_neg (by simpa using hseen)]
        exact ⟨w, List.mem_cons_self, hw⟩
      · have hne : v ≠ w := fun h => hkk (Option.some.inj (by rw [← hw, ← h, hk]))
        have hv := (List.mem_cons.1 hv).resolve_left hne
        split
        · exact ih hv hseen
        · obtain ⟨u, hu, huk⟩ := @ih (k' :: seen) hv (by simp [hseen, Ne.symm hkk])
          exact ⟨u, List.mem_cons_of_mem w hu, huk⟩

theorem mem_keysOf_of_mem_parentKeys [Parent α] {r : Relation} {parents : List α} {v : Value}
    (h : v ∈ r.parentKeys parents) : v ∈ r.keysOf parents :=
  mem_distinctKeys h

theorem exists_parentKeys [Parent α] {r : Relation} {parents : List α} {v : Value} (h : v ∈ r.keysOf parents) :
    ∃ w ∈ r.parentKeys parents, w.keyText? = v.keyText? := by
  obtain ⟨hv, hk⟩ := List.mem_filter.1 h
  obtain ⟨k, hk⟩ := Option.isSome_iff_exists.1 hk
  rw [hk]
  exact exists_distinctKeys hv hk (by simp)

/-- A parent alone is asked for by its own key. -/
theorem parentKeys_singleton [Parent α] (r : Relation) (p : α) : r.parentKeys [p] = r.keysOf [p] := by
  unfold parentKeys keysOf
  cases hv : Parent.keyValue p r.parentCol with
  | none => simp [hv, distinctKeys]
  | some v => cases hk : v.keyText? <;> simp [hv, distinctKeys, hk]

/-- Some parent has a key. -/
def HasKey [Parent α] (r : Relation) (parents : List α) : Prop :=
  ∃ p ∈ parents, (r.parentKeyText? p).isSome = true

theorem hasKey_iff [Parent α] {r : Relation} {parents : List α} : r.HasKey parents ↔ r.parentKeys parents ≠ [] := by
  constructor
  · rintro ⟨p, hp, hkey⟩
    obtain ⟨k, hkey⟩ := Option.isSome_iff_exists.1 hkey
    obtain ⟨v, hvalue, hk⟩ := Option.bind_eq_some_iff.1 hkey
    have hmem : v ∈ r.keysOf parents :=
      List.mem_filter.2 ⟨List.mem_filterMap.2 ⟨p, hp, hvalue⟩, Option.isSome_of_eq_some hk⟩
    obtain ⟨w, hw, -⟩ := exists_parentKeys hmem
    exact List.ne_nil_of_mem hw
  · intro hne
    obtain ⟨v, hv⟩ := List.exists_mem_of_ne_nil _ hne
    obtain ⟨hmem, hk⟩ := List.mem_filter.1 (mem_keysOf_of_mem_parentKeys hv)
    obtain ⟨p, hp, hvalue⟩ := List.mem_filterMap.1 hmem
    exact ⟨p, hp, by rwa [parentKeyText?, hvalue]⟩

theorem parentKeys_eq_nil [Parent α] {r : Relation} {parents : List α} (h : ∀ p ∈ parents, r.parentKeyText? p = none) :
    r.parentKeys parents = [] := by
  by_contra hne
  obtain ⟨p, hp, hkey⟩ := hasKey_iff.2 hne
  rw [h p hp] at hkey
  exact nomatch hkey

/-! ### Writing the query -/

theorem trimmed_matchedCol_ne (r : Relation) (link : Option LinkTable) : Text.trimmed (r.matchedCol link) ≠ "" := by
  have hdot : '.' ∈ (r.matchedCol link).toList := by
    cases link <;> simp [matchedCol]
  intro h
  have hblank : Text.isBlank '.' := List.all_eq_true.1 (Text.trimmed_eq_empty_iff.1 h) '.' hdot
  exact absurd hblank (by decide)

theorem keyTest_wellFormed {r : Relation} {link : Option LinkTable} {keys : List Value} (hne : keys ≠ [])
    (hkeys : ∀ v ∈ keys, v.isScalar) : (r.keyTest link keys).WellFormed := by
  have hcol := r.trimmed_matchedCol_ne link
  match keys with
  | [] => exact absurd rfl hne
  | [key] =>
    refine .test ⟨hcol, fun _ => by simp, fun _ v hv => ?_, (nomatch ·)⟩
    obtain rfl := Option.some.inj hv
    exact hkeys key (by simp)
  | key :: key' :: keys =>
    refine .test ⟨hcol, fun _ => by simp, (nomatch ·), fun _ v hv => ?_⟩
    obtain rfl := Option.some.inj hv
    exact ⟨hne, hkeys⟩

/-- The conditions of the query are well formed when those of the relation are. -/
theorem queryFilter_wellFormed_iff {r : Relation} {link : Option LinkTable} {keys : List Value} (hne : keys ≠ [])
    (hkeys : ∀ v ∈ keys, v.isScalar) :
    (r.queryFilter link keys).WellFormed ↔
      (r.constraints.filter ≠ [] → (Condition.group r.constraints.filter).WellFormed) := by
  have hkey : (Filter.and [] (r.keyTest link keys)).WellFormed :=
    Filter.wellFormed_and_iff.2 ⟨⟨by simp, by simp⟩, keyTest_wellFormed hne hkeys⟩
  unfold queryFilter
  cases r.constraints.filter with
  | nil => simpa using hkey
  | cons e es => simp [Filter.wellFormed_and_iff, hkey]

/-- Whether the query can be written does not depend on the keys that it asks for. -/
theorem exists_sql_select_iff {r : Relation} {link : Option LinkTable} {q : Quoter} {keys : List Value}
    (hne : keys ≠ []) (hkeys : ∀ v ∈ keys, v.isScalar) :
    (∃ sql, (r.select link keys).sql q = .ok sql) ↔
      (r.constraints.filter ≠ [] → (Condition.group r.constraints.filter).WellFormed) ∧
        r.constraints.having.WellFormed := by
  have hfilter : (r.select link keys).uses .filter = true := by
    have hlist : r.queryFilter link keys ≠ [] := by
      unfold queryFilter
      split <;> simp [Filter.and, Filter.push]
    simpa [Select.uses, Fetch.isSet, FetchKey.unusedByRelations, select] using hlist
  have hhaving : (r.select link keys).uses .having = !r.constraints.having.isEmpty := rfl
  have hpart : (r.select link keys).fetch.having = r.constraints.having := rfl
  rw [Select.exists_sql_iff, ← queryFilter_wellFormed_iff hne hkeys, hhaving, hpart]
  constructor
  · rintro ⟨hf, hh⟩
    refine ⟨hf hfilter, ?_⟩
    cases hempty : r.constraints.having with
    | nil => exact ⟨by simp, by simp⟩
    | cons e es => exact hempty ▸ hh (by simp [hempty])
  · rintro ⟨hf, hh⟩
    exact ⟨fun _ => hf, fun _ => hh⟩

end Relation

end RecordMapper
