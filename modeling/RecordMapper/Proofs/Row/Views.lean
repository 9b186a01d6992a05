import RecordMapper.Row

/-!
# The views of a row

A name may repeat among the columns of a row.  Its last place decides: the index of the names finds it
(`indexOf?_eq_some_iff`), and the map of the row holds the value from there, under a key that stands where the name came
first.  So a row with a value for each name shows the same values by name and in its map, in whatever pattern the names
repeat (`views_agree`).
-/

namespace RecordMapper

variable {names : List String} {name : String} {i j : Nat}

/-! ### The last place of a name -/

/-- The last place of a name among the names of columns. -/
structure IsLastPlace (names : List String) (name : String) (i : Nat) : Prop where
  here : names[i]? = some name
  later : ∀ j, i < j → names[j]? ≠ some name

namespace IsLastPlace

theorem unique (hi : IsLastPlace names name i) (hj : IsLastPlace names name j) : i = j := by
  rcases Nat.lt_trichotomy i j with hlt | heq | hlt
  · exact absurd hj.here (hi.later j hlt)
  · exact heq
  · exact absurd hi.here (hj.later i hlt)

theorem mem (h : IsLastPlace names name i) : name ∈ names :=
  List.mem_of_getElem? h.here

/-- A name that does not come again stands at its last place. -/
theorem of_not_mem (before : List String) {after : List String} (h : name ∉ after) :
    IsLastPlace (before ++ name :: after) name before.length := by
  refine ⟨by simp, fun j hj hname => ?_⟩
  obtain ⟨k, rfl⟩ : ∃ k, j = before.length + (k + 1) := ⟨j - before.length - 1, by omega⟩
  rw [List.getElem?_append_right (Nat.le_add_right ..), Nat.add_sub_cancel_left, List.getElem?_cons_succ] at hname
  exact h (List.mem_of_getElem? hname)

end IsLastPlace

/-- A name that is there comes a last time. -/
theorem exists_last_place (h : name ∈ names) : ∃ before after, names = before ++ name :: after ∧ name ∉ after := by
  obtain ⟨after, before, hreverse, hafter⟩ := List.eq_append_cons_of_mem (List.mem_reverse.2 h)
  refine ⟨before.reverse, after.reverse, ?_, fun hmem => hafter (List.mem_reverse.1 hmem)⟩
  rw [← List.reverse_reverse names, hreverse]
  simp

namespace Row

/-! ### The index of the names -/

private theorem last_of_not_mem {found : Option Nat} (h : name ∉ names) : indexOf?.last name i found names = found := by
  induction names generalizing i found with
  | nil => rfl
  | cons n names ih =>
    rw [List.mem_cons, not_or] at h
    rw [indexOf?.last, if_neg (Ne.symm h.1), ih h.2]

private theorem last_append {before after : List String} {found : Option Nat} (h : name ∉ after) :
    indexOf?.last name i found (before ++ name :: after) = some (i + before.length) := by
  induction before generalizing i found with
  | nil => rw [List.nil_append, indexOf?.last, if_pos rfl, last_of_not_mem h, List.length_nil, Nat.add_zero]
  | cons n before ih => rw [List.cons_append, indexOf?.last, ih, List.length_cons, Nat.add_right_comm, Nat.add_assoc]

/-- The index of a name is its last place. -/
theorem indexOf?_eq_some_iff {r : Row} : r.indexOf? name = some i ↔ IsLastPlace r.names name i := by
  by_cases h : name ∈ r.names
  · obtain ⟨before, after, hnames, hafter⟩ := exists_last_place h
    have hindex : r.indexOf? name = some before.length := by
      rw [indexOf?, hnames, last_append hafter, Nat.zero_add]
    have hlast : IsLastPlace r.names name before.length := hnames ▸ .of_not_mem before hafter
    rw [hindex, Option.some.injEq]
    exact ⟨fun hi => hi ▸ hlast, hlast.unique⟩
  · rw [indexOf?, last_of_not_mem h]
    exact ⟨nofun, fun hlast => absurd hlast.mem h⟩

theorem hasColumn_iff {r : Row} : r.hasColumn name = true ↔ name ∈ r.names := by
  rw [hasColumn, Option.isSome_iff_exists]
  refine ⟨fun ⟨i, hi⟩ => (indexOf?_eq_some_iff.1 hi).mem, fun h => ?_⟩
  obtain ⟨before, after, hnames, hafter⟩ := exists_last_place h
  exact ⟨before.length, indexOf?_eq_some_iff.2 (hnames ▸ .of_not_mem before hafter)⟩

/-- The value of a name is the one at its last place. -/
theorem get?_eq_some_iff {r : Row} {v : Value} :
    r.get? name = some v ↔ ∃ i, IsLastPlace r.names name i ∧ r.values[i]? = some v := by
  simp only [get?, Option.bind_eq_some_iff, indexOf?_eq_some_iff]

/-! ### The map of a row -/

theorem intoMap_eq_toMap (r : Row) : r.intoMap = r.toMap :=
  OrderedMap.foldl_insert_empty _

variable {r : Row}

/-- The keys of the map are the names, each where it came first. -/
theorem keys_toMap (h : r.values.length = r.names.length) : r.toMap.keys = r.names.eraseDups := by
  rw [toMap, OrderedMap.keys_ofList, entries, List.map_fst_zip (Nat.le_of_eq h.symm)]

/-- The map holds under a name what the row has for it. -/
theorem get?_toMap (h : r.values.length = r.names.length) (name : String) : r.toMap.get? name = r.get? name := by
  by_cases hmem : name ∈ r.names
  · obtain ⟨before, after, hnames, hafter⟩ := exists_last_place hmem
    -- the values are cut at the last place of the name as the names are
    obtain ⟨values, v, rest, hvalues, hlength⟩ : ∃ values v rest, r.values = values ++ v :: rest ∧
        before.length = values.length := by
      have hlt : before.length < r.values.length := by
        rw [h, hnames, List.length_append, List.length_cons]
        omega
      refine ⟨r.values.take before.length, r.values[before.length], r.values.drop (before.length + 1), ?_, ?_⟩
      · rw [List.getElem_cons_drop, List.take_append_drop]
      · rw [List.length_take, Nat.min_eq_left (Nat.le_of_lt hlt)]
    have hentries : r.entries = before.zip values ++ (name, v) :: after.zip rest := by
      rw [entries, hnames, hvalues, List.zip_append hlength, List.zip_cons_cons]
    have hlast : ∀ e ∈ after.zip rest, e.1 ≠ name := fun e he hname => hafter (hname ▸ (List.of_mem_zip he).1)
    have hrow : r.get? name = some v :=
      get?_eq_some_iff.2 ⟨before.length, hnames ▸ .of_not_mem before hafter, by rw [hvalues, hlength]; simp⟩
    rw [hrow, toMap, hentries]
    exact Entries.find?_ofList_of_last hlast
  · have hrow : r.get? name = none := by
      rw [Option.eq_none_iff_forall_ne_some]
      intro v hv
      obtain ⟨i, hi, -⟩ := get?_eq_some_iff.1 hv
      exact hmem hi.mem
    have hkeys : name ∉ r.toMap.keys := by rwa [keys_toMap h, List.mem_eraseDups]
    rw [hrow]
    exact Entries.find?_eq_none_iff.2 hkeys

theorem get?_eq_none_iff (h : r.values.length = r.names.length) : r.get? name = none ↔ name ∉ r.names := by
  rw [← get?_toMap h, ← List.mem_eraseDups, ← keys_toMap h]
  exact Entries.find?_eq_none_iff

/-- The views of a row with a value for each name agree.  Both maps are the same; they list each name once, in the order
in which the names first came, with the value at its last place; and a look-up by name finds what they hold, nothing
exactly if no column has the name. -/
theorem views_agree (r : Row) (h : r.values.length = r.names.length) :
    r.intoMap = r.toMap ∧
      r.toMap.keys = r.names.eraseDups ∧
      (∀ name v, (name, v) ∈ r.toMap.toList ↔ ∃ i, IsLastPlace r.names name i ∧ r.values[i]? = some v) ∧
      (∀ name, r.get? name = r.toMap.get? name) ∧
      ∀ name, r.get? name = none ↔ r.hasColumn name = false := by
  refine ⟨intoMap_eq_toMap r, keys_toMap h, fun name v => ?_, fun name => (get?_toMap h name).symm, fun name => ?_⟩
  · rw [← OrderedMap.get?_eq_some_iff, get?_toMap h, get?_eq_some_iff]
  · rw [get?_eq_none_iff h, ← hasColumn_iff, Bool.not_eq_true]

/-- A row of two joined tables, with the name `id` in both. -/
theorem views_agree_joined :
    let joined : Row := { names := ["id", "title", "id"], values := [.int 1, .text "a", .int 2] }
    joined.values.length = joined.names.length ∧ joined.toMap.keys = ["id", "title"] ∧
      joined.get? "id" = some (.int 2) ∧ joined.intoMap.get? "id" = some (.int 2) ∧ joined.get? "body" = none := by
  intro joined
  have hlength : joined.values.length = joined.names.length := rfl
  obtain ⟨hinto, hkeys, hentries, hget, hnone⟩ := views_agree joined hlength
  have hid : joined.toMap.get? "id" = some (.int 2) :=
    OrderedMap.get?_eq_some_iff.2 ((hentries _ _).2 ⟨2, .of_not_mem ["id", "title"] List.not_mem_nil, rfl⟩)
  exact ⟨hlength, hkeys, (hget "id").trans hid, hinto ▸ hid, (hnone "body").2 rfl⟩

end Row

end RecordMapper
