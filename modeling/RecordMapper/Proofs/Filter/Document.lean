import RecordMapper.Proofs.Filter.Mirror
import RecordMapper.Proofs.Filter.WellFormed

/-!
# Documents of filters

`ValidDocument` is the grammar of the documents that stand for filters.

* a document is read exactly if it follows the grammar, and the filter mirrors it (`Filter.ofJson_mirrors`);
* such a filter can be refused only for a list that starts with `OR` or for an operand of the wrong shape
  (`Condition.RefusedFor`), since the reader has checked all else.
-/

namespace RecordMapper

open Text

/-! ### The grammar -/

/-- The names of the twelve operators. -/
def operatorNames : List String :=
  ["=", "!=", ">", ">=", "<", "<=", "in", "not-in", "like", "not-like", "is-null", "not-null"]

/-- The members of a complete test; only the tests for `NULL` do without a value. -/
structure ValidTest (members : List (String × Json)) : Prop where
  column : ∃ col, members.lookup "col" = some (.str col) ∧ trimmed col ≠ ""
  operator : ∃ name ∈ operatorNames, members.lookup "operator" = some (.str name) ∧
    ((members.lookup "val").isSome ∨ name = "is-null" ∨ name = "not-null")

/-- An entry of a list: a complete test, or a list with entries of its own. -/
inductive ValidEntry : Json → Prop where
  | test {members : List (String × Json)} (hpred : IsPredicate members) (ht : ValidTest members) :
    ValidEntry (.obj members)
  | object {members : List (String × Json)} (hlist : ¬ IsPredicate members) (hne : members ≠ [])
    (heach : ∀ m ∈ members, ValidEntry m.2) : ValidEntry (.obj members)
  | array {items : List Json} (hne : items ≠ []) (heach : ∀ item ∈ items, ValidEntry item) : ValidEntry (.arr items)

/-- A document of a filter: nothing, or a list of entries, which may be empty. -/
inductive ValidDocument : Json → Prop where
  | null : ValidDocument .null
  | object {members : List (String × Json)} (heach : ∀ m ∈ members, ValidEntry m.2) : ValidDocument (.obj members)
  | array {items : List Json} (heach : ∀ item ∈ items, ValidEntry item) : ValidDocument (.arr items)

/-! ### What a compiler may still refuse -/

/-- An operand of the wrong shape for the operator, with the reason that names it. -/
inductive Test.Misfit (t : Test) : FilterReason → Prop where
  | single {v : Value} (hone : t.op.comparesOne) (hv : t.operand = some v) (hshape : ¬ v.isScalar) :
    Misfit t (.notSingle t.op)
  | members {v : Value} (hmem : t.op.isMembership) (hv : t.operand = some v) (hshape : ¬ v.IsMembers) :
    Misfit t v.memberReason

/-- A condition that holds, on any level, an operand of the wrong shape or a list that starts with `OR`. -/
inductive Condition.RefusedFor : Condition → FilterReason → Prop where
  | operand {t : Test} {reason : FilterReason} (h : t.Misfit reason) : RefusedFor (.test t) reason
  | first {e : Link × Condition} {es : List (Link × Condition)} (he : e ∈ es.head?) (hor : e.1.isOr) :
    RefusedFor (.group es) .startsWithOr
  | within {e : Link × Condition} {es : List (Link × Condition)} {reason : FilterReason} (he : e ∈ es)
    (h : RefusedFor e.2 reason) : RefusedFor (.group es) reason

/-! ### Documents that have a filter -/

theorem mem_operatorNames_iff {name : String} : name ∈ operatorNames ↔ ∃ op : Operator, op.name = name := by
  have hall : operatorNames = Operator.all.map Operator.name := rfl
  simp [hall, Operator.mem_all]

theorem Operator.takesOperand_iff {op : Operator} :
    op.takesOperand ↔ ¬ (op.name = "is-null" ∨ op.name = "not-null") := by
  cases op <;> decide

/-- The tests that can be read are the complete ones. -/
theorem exists_readFrom_iff {members : List (String × Json)} :
    (∃ t : Test, t.ReadFrom members) ↔ ValidTest members := by
  constructor
  · rintro ⟨t, h⟩
    refine ⟨⟨t.col, h.column, h.notBlank⟩, t.op.name, mem_operatorNames_iff.2 ⟨t.op, rfl⟩, h.operator, ?_⟩
    by_cases htakes : t.op.takesOperand
    · exact .inl (by simpa [h.operand, Option.isSome_iff_ne_none] using h.value htakes)
    · exact .inr (not_not.1 fun hnot => htakes (Operator.takesOperand_iff.2 hnot))
  · rintro ⟨⟨col, hcol, hblank⟩, name, hname, hop, hval⟩
    obtain ⟨op, rfl⟩ := mem_operatorNames_iff.1 hname
    refine ⟨⟨col, op, (members.lookup "val").map Value.ofJson⟩, hcol, hblank, hop, rfl, fun htakes => ?_⟩
    have hsome := hval.resolve_right (Operator.takesOperand_iff.1 htakes)
    simpa [Option.isSome_iff_ne_none] using hsome

theorem exists_mirrorsMembers {members : List (String × Json)} (h : ∀ m ∈ members, ∃ c, Mirrors m.2 c) :
    ∃ es, MirrorsMembers members es ∧ es.length = members.length := by
  induction members with
  | nil => exact ⟨[], .nil, rfl⟩
  | cons m members ih =>
    obtain ⟨c, hc⟩ := h m (by simp)
    obtain ⟨es, hes, hlength⟩ := ih fun m' hm' => h m' (by simp [hm'])
    exact ⟨(.ofKey m.1, c) :: es, .cons (Link.readFrom_ofKey m.1) hc hes, by simp [hlength]⟩

theorem exists_mirrorsItems {items : List Json} (h : ∀ item ∈ items, ∃ c, Mirrors item c) (i : Nat) :
    ∃ es, MirrorsItems i items es ∧ es.length = items.length := by
  induction items generalizing i with
  | nil => exact ⟨[], .nil, rfl⟩
  | cons item items ih =>
    obtain ⟨c, hc⟩ := h item (by simp)
    obtain ⟨es, hes, hlength⟩ := ih (fun item' hitem' => h item' (by simp [hitem'])) (i + 1)
    exact ⟨_, .cons hc hes, by simp [hlength]⟩

theorem ValidEntry.exists_mirrors {doc : Json} (h : ValidEntry doc) : ∃ c, Mirrors doc c := by
  induction h with
  | test hpred ht =>
    obtain ⟨t, ht⟩ := exists_readFrom_iff.2 ht
    exact ⟨_, .test hpred ht⟩
  | object hlist hne _ ih =>
    obtain ⟨es, hes, hlength⟩ := exists_mirrorsMembers ih
    exact ⟨_, .object hlist (by grind) hes⟩
  | array hne _ ih =>
    obtain ⟨es, hes, hlength⟩ := exists_mirrorsItems ih 0
    exact ⟨_, .array (by grind) hes⟩

mutual

theorem Mirrors.validEntry {doc : Json} {c : Condition} (h : Mirrors doc c) : ValidEntry doc := by
  match h with
  | .test hpred ht => exact .test hpred (exists_readFrom_iff.1 ⟨_, ht⟩)
  | .object hlist hne heach =>
    refine .object hlist (fun he => ?_) heach.validEntry
    subst he
    cases heach
    exact hne rfl
  | .array hne heach =>
    refine .array (fun he => ?_) heach.validEntry
    subst he
    cases heach
    exact hne rfl

theorem MirrorsMembers.validEntry {members : List (String × Json)} {es : List (Link × Condition)}
    (h : MirrorsMembers members es) : ∀ m ∈ members, ValidEntry m.2 := by
  match h with
  | .nil => simp
  | .cons _ hc hes => exact List.forall_mem_cons.2 ⟨hc.validEntry, hes.validEntry⟩

theorem MirrorsItems.validEntry {i : Nat} {items : List Json} {es : List (Link × Condition)}
    (h : MirrorsItems i items es) : ∀ item ∈ items, ValidEntry item := by
  match h with
  | .nil => simp
  | .cons hc hes => exact List.forall_mem_cons.2 ⟨hc.validEntry, hes.validEntry⟩

end

/-! ### What is left to refuse -/

/-- Of a test that was read only the shape of the operand is left to refuse. -/
theorem Test.ReadFrom.misfit {members : List (String × Json)} {t : Test} (h : t.ReadFrom members)
    {reason : FilterReason} (hr : reason ∈ t.reasons) : t.Misfit reason := by
  rw [Test.reasons, if_neg h.notBlank, List.nil_append] at hr
  cases hv : t.operand with
  | none =>
    have htakes : ¬ t.op.takesOperand := fun htakes => h.value htakes hv
    simp [hv, htakes] at hr
  | some v =>
    rw [hv] at hr
    by_cases hmem : t.op.isMembership
    · by_cases hshape : v.IsMembers
      · simp [hmem, hshape] at hr
      · obtain rfl : reason = v.memberReason := by simpa [hmem, hshape] using hr
        exact .members hmem hv hshape
    · by_cases hone : t.op.comparesOne && !v.isScalar
      · obtain rfl : reason = .notSingle t.op := by simpa [hmem, hone] using hr
        simp only [Bool.and_eq_true, Bool.not_eq_true'] at hone
        exact .single hone.1 hv (by simp [hone.2])
      · simp [hmem, hone] at hr

theorem Condition.faults_group {link : Link} {es : List (Link × Condition)} (hne : es ≠ []) :
    (Condition.group es).faults link = Filter.faultsFrom true es := by
  cases es with
  | nil => exact absurd rfl hne
  | cons e es => rw [Condition.faults]

/-- A fault of a list is about its first link, or is a fault of one of its conditions. -/
theorem Filter.mem_faultsFrom {first : Bool} {es : List (Link × Condition)} {fault : FilterFault}
    (h : fault ∈ faultsFrom first es) :
    (first ∧ fault.reason = .startsWithOr ∧ ∃ e ∈ es.head?, e.1.isOr) ∨ ∃ e ∈ es, fault ∈ e.2.faults e.1 := by
  induction es generalizing first with
  | nil => simp [faultsFrom] at h
  | cons e es ih =>
    rw [faultsFrom, List.mem_append, List.mem_append] at h
    rcases h with h | h | h
    · by_cases hor : first && e.1.isOr
      · rw [if_pos hor, List.mem_singleton] at h
        subst h
        obtain ⟨hfirst, hor⟩ := Bool.and_eq_true_iff.1 hor
        exact .inl ⟨hfirst, rfl, e, rfl, hor⟩
      · simp [hor] at h
    · exact .inr ⟨e, by simp, h⟩
    · obtain ⟨hfalse, -⟩ | ⟨e', he', hf⟩ := ih h
      · cases hfalse
      · exact .inr ⟨e', by simp [he'], hf⟩

theorem Condition.RefusedFor.of_faultsFrom {es : List (Link × Condition)} {fault : FilterFault}
    (heach : ∀ e ∈ es, ∀ fault ∈ e.2.faults e.1, e.2.RefusedFor fault.reason)
    (hf : fault ∈ Filter.faultsFrom true es) : (Condition.group es).RefusedFor fault.reason := by
  obtain ⟨-, hreason, e, he, hor⟩ | ⟨e, he, hf⟩ := Filter.mem_faultsFrom hf
  · rw [hreason]
    exact .first he hor
  · exact .within he (heach e he fault hf)

mutual

theorem Mirrors.refusedFor {doc : Json} {c : Condition} (h : Mirrors doc c) {link : Link} {fault : FilterFault}
    (hf : fault ∈ c.faults link) : c.RefusedFor fault.reason := by
  match h with
  | .test _ ht =>
    rw [Condition.faults] at hf
    obtain ⟨reason, hr, rfl⟩ := List.mem_map.1 hf
    exact .operand (ht.misfit hr)
  | .object _ hne heach =>
    rw [Condition.faults_group hne] at hf
    exact .of_faultsFrom heach.refusedFor hf
  | .array hne heach =>
    rw [Condition.faults_group hne] at hf
    exact .of_faultsFrom heach.refusedFor hf

theorem MirrorsMembers.refusedFor {members : List (String × Json)} {es : List (Link × Condition)}
    (h : MirrorsMembers members es) : ∀ e ∈ es, ∀ fault ∈ e.2.faults e.1, e.2.RefusedFor fault.reason := by
  match h with
  | .nil => simp
  | .cons _ hc hes => exact List.forall_mem_cons.2 ⟨fun _ => hc.refusedFor, hes.refusedFor⟩

theorem MirrorsItems.refusedFor {i : Nat} {items : List Json} {es : List (Link × Condition)}
    (h : MirrorsItems i items es) : ∀ e ∈ es, ∀ fault ∈ e.2.faults e.1, e.2.RefusedFor fault.reason := by
  match h with
  | .nil => simp
  | .cons hc hes => exact List.forall_mem_cons.2 ⟨fun _ => hc.refusedFor, hes.refusedFor⟩

end

theorem MirrorsDocument.refusedFor {doc : Json} {f : Filter} (h : MirrorsDocument doc f) {fault : FilterFault}
    (hf : fault ∈ f.faults) : (Condition.group f).RefusedFor fault.reason := by
  cases h with
  | null => simp [Filter.faults, Filter.faultsFrom] at hf
  | object heach => exact .of_faultsFrom heach.refusedFor hf
  | array heach => exact .of_faultsFrom heach.refusedFor hf

/-! ### Documents and filters -/

namespace Filter

theorem exists_ofJson_iff {doc : Json} : (∃ f, ofJson doc = .ok f) ↔ ValidDocument doc := by
  simp only [ofJson_eq_ok_iff]
  constructor
  · rintro ⟨f, h⟩
    cases h with
    | null => exact .null
    | object heach => exact .object heach.validEntry
    | array heach => exact .array heach.validEntry
  · intro h
    cases h with
    | null => exact ⟨[], .null⟩
    | object heach =>
      obtain ⟨f, hf, -⟩ := exists_mirrorsMembers fun m hm => (heach m hm).exists_mirrors
      exact ⟨f, .object hf⟩
    | array heach =>
      obtain ⟨f, hf, -⟩ := exists_mirrorsItems (fun item hitem => (heach item hitem).exists_mirrors) 0
      exact ⟨f, .array hf⟩

/-- A document is read exactly if it follows the grammar.  Its filter has the nesting and the order of the document,
and can be refused, in any dialect, only for a list that starts with `OR` or for an operand of the wrong shape. -/
theorem ofJson_mirrors (doc : Json) :
    ((∃ f, ofJson doc = .ok f) ↔ ValidDocument doc) ∧
      ∀ f, ofJson doc = .ok f → MirrorsDocument doc f ∧
        ∀ (q : Quoter) (bound : Nat) (fault : FilterFault), f.compile q bound = .error fault →
          (Condition.group f).RefusedFor fault.reason := by
  refine ⟨exists_ofJson_iff, fun f hf => ?_⟩
  have hmirrors := ofJson_eq_ok_iff.1 hf
  refine ⟨hmirrors, fun q bound fault hfault => hmirrors.refusedFor ?_⟩
  rw [eq_error_iff, errorOf?_compile] at hfault
  exact List.mem_of_head? hfault

namespace Example

/-- A test for `NULL` under the key `OR`. -/
def orFirst : Json := .obj [("OR", .obj [("col", .str "age"), ("operator", .str "is-null")])]

/-- The document is read, and its filter is refused. -/
example (q : Quoter) :
    ∃ f fault, ofJson orFirst = .ok f ∧ f.compile q 0 = .error fault ∧ fault.reason = .startsWithOr :=
  ⟨_, _, rfl, rfl, rfl⟩

end Example

end Filter

end RecordMapper
