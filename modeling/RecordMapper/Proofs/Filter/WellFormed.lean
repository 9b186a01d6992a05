import RecordMapper.Error.Report
import RecordMapper.Proofs.Filter.NumberText
import RecordMapper.Proofs.Text.Trim

/-!
# Well-formed filters

`Filter.WellFormed` says what a filter must look like to be compiled: at every level the first condition is not linked
by `OR`, no group is empty, and every test has an operand that fits its operator.  `Filter.faults` lists everything
that is wrong with a filter, in source order.

* a filter compiles exactly if it is well formed, and fails with its first fault otherwise
  (`compile_ok_iff_wellFormed`);
* neither depends on the dialect or on the parameters bound before, since neither of the two notions mentions them.
-/

namespace RecordMapper

open Text

/-! ### Operands that fit -/

/-- Whether the operator compares with a single value. -/
def Operator.comparesOne (op : Operator) : Bool :=
  op.takesOperand && !op.isMembership

instance (s : String) : Decidable (LooksNumeric s) :=
  decidable_of_iff _ Filter.looksNumeric_iff

instance (cs : List Char) : Decidable (IsSingle cs) :=
  decidable_of_iff _ Filter.singleShape_accepts_iff

instance (cs : List Char) : Decidable (IsNumberList cs) :=
  decidable_of_iff _ Filter.listShape_accepts_iff

/-- The values with which a membership test can be made. -/
def Value.IsMembers : Value → Prop
  | .array items => items ≠ [] ∧ ∀ item ∈ items, item.isScalar
  | .text s => ¬ LooksNumeric s ∨ IsNumberList s.toList ∨ IsSingle s.toList
  | .default => False
  | _ => True

instance : DecidablePred Value.IsMembers
  | .array items => inferInstanceAs (Decidable (items ≠ [] ∧ ∀ item ∈ items, item.isScalar))
  | .text s => inferInstanceAs (Decidable (¬ LooksNumeric s ∨ IsNumberList s.toList ∨ IsSingle s.toList))
  | .default => inferInstanceAs (Decidable False)
  | .null | .bool _ | .int _ | .bigint _ | .double _ | .decimal _ | .bytes _ | .json _ =>
    inferInstanceAs (Decidable True)

/-- A test that names a column and has an operand that fits its operator; the tests for `NULL` may have any. -/
structure Test.WellFormed (t : Test) : Prop where
  column : trimmed t.col ≠ ""
  operand : t.op.takesOperand → t.operand ≠ none
  single : t.op.comparesOne → ∀ v, t.operand = some v → v.isScalar
  members : t.op.isMembership → ∀ v, t.operand = some v → v.IsMembers

/-! ### Filters -/

/-- A condition that is well formed on every level. -/
inductive Condition.WellFormed : Condition → Prop where
  | test {t : Test} (ht : t.WellFormed) : Condition.WellFormed (.test t)
  | group {es : List (Link × Condition)} (hne : es ≠ []) (hfirst : ∀ e ∈ es.head?, ¬ e.1.isOr)
      (heach : ∀ e ∈ es, Condition.WellFormed e.2) : Condition.WellFormed (.group es)

/-- A filter that is well formed on every level; it may be empty. -/
structure Filter.WellFormed (f : Filter) : Prop where
  first : ∀ e ∈ f.head?, ¬ e.1.isOr
  each : ∀ e ∈ f, e.2.WellFormed

/-! ### Faults -/

/-- Why a value that is no list of members is refused. -/
def Value.memberReason : Value → FilterReason
  | .array [] => .emptyMembers
  | .array _ => .memberNotSingle
  | .default => .defaultOperand
  | _ => .malformedNumbers

/-- Everything that is wrong with a test. -/
def Test.reasons (t : Test) : List FilterReason :=
  (if trimmed t.col = "" then [.blankColumn] else []) ++
    match t.operand with
    | none => if t.op.takesOperand then [.noOperand t.op] else []
    | some v =>
      if t.op.isMembership then if v.IsMembers then [] else [v.memberReason]
      else if t.op.comparesOne && !v.isScalar then [.notSingle t.op]
      else []

mutual

/-- Everything that is wrong with a condition under its link. -/
def Condition.faults (link : Link) : Condition → List FilterFault
  | .test t => t.reasons.map fun reason => ⟨reason, t.toJson.text⟩
  | .group [] => [⟨.emptyGroup, link.label⟩]
  | .group (e :: es) => Filter.faultsFrom true (e :: es)

/-- Everything that is wrong with a list of conditions, or with the rest of one.  The link of a first condition is
looked at before the condition itself. -/
def Filter.faultsFrom (first : Bool) : List (Link × Condition) → List FilterFault
  | [] => []
  | (link, c) :: es =>
    (if first && link.isOr then [⟨.startsWithOr, link.label ++ ": " ++ c.toJson.text⟩] else []) ++
      (c.faults link ++ Filter.faultsFrom false es)

end

/-- Everything that is wrong with a filter, in source order. -/
def Filter.faults (f : Filter) : List FilterFault :=
  Filter.faultsFrom true f

/-- The error of a result that has one. -/
def errorOf? {ε α : Type} : Except ε α → Option ε
  | .ok _ => none
  | .error e => some e

theorem exists_ok_iff {ε α : Type} {r : Except ε α} : (∃ a, r = .ok a) ↔ errorOf? r = none := by
  cases r with
  | ok a => simp [errorOf?]
  | error e => simp [errorOf?]

theorem eq_error_iff {ε α : Type} {r : Except ε α} {e : ε} : r = .error e ↔ errorOf? r = some e := by
  cases r with
  | ok a => simp [errorOf?]
  | error e => simp [errorOf?]

theorem errorOf?_map {ε α β : Type} (f : α → β) (r : Except ε α) : errorOf? (r.map f) = errorOf? r := by
  cases r <;> rfl

/-- What a result is mapped to comes from what it was. -/
theorem map_eq_ok {ε α β : Type} {f : α → β} {r : Except ε α} {b : β} (h : r.map f = .ok b) :
    ∃ a, r = .ok a ∧ f a = b := by
  cases r with
  | error e => exact nomatch h
  | ok a => exact ⟨a, rfl, Except.ok.inj h⟩

theorem exists_map_ok_iff {ε α β : Type} (f : α → β) {r : Except ε α} :
    (∃ b, r.map f = .ok b) ↔ ∃ a, r = .ok a := by
  rw [exists_ok_iff, errorOf?_map, ← exists_ok_iff]

theorem map_eq_error_iff {ε α β : Type} {f : α → β} {r : Except ε α} {e : ε} : r.map f = .error e ↔ r = .error e := by
  rw [eq_error_iff, errorOf?_map, ← eq_error_iff]

theorem errorOf?_mapM_cons {ε α β : Type} (f : α → Except ε β) (a : α) (as : List α) :
    errorOf? ((a :: as).mapM f) = (errorOf? (f a)).or (errorOf? (as.mapM f)) := by
  rw [List.mapM_cons]
  cases f a with
  | error e => rfl
  | ok b => cases as.mapM f <;> rfl

/-! ### Tests -/

namespace Filter

theorem errorOf?_membershipOperand (v : Value) :
    errorOf? (membershipOperand v) = if v.IsMembers then none else some v.memberReason := by
  cases v with
  | array items =>
    cases items with
    | nil => simp [membershipOperand, Value.IsMembers, Value.memberReason, errorOf?]
    | cons item items =>
      by_cases h : (item :: items).all Value.isScalar
      · have hm : (Value.array (item :: items)).IsMembers := ⟨by simp, List.all_eq_true.1 h⟩
        simp [membershipOperand, h, hm, errorOf?]
      · have hm : ¬ (Value.array (item :: items)).IsMembers := fun hm => h (List.all_eq_true.2 hm.2)
        simp [membershipOperand, h, hm, errorOf?, Value.memberReason]
  | text s =>
    have htext : (Value.text s).IsMembers ↔
        ¬ looksNumeric s ∨ listShape.accepts s.toList ∨ singleShape.accepts s.toList := by
      rw [looksNumeric_iff, listShape_accepts_iff, singleShape_accepts_iff]
      exact Iff.rfl
    simp only [htext, membershipOperand]
    by_cases hl : looksNumeric s <;> by_cases h1 : listShape.accepts s.toList <;>
      by_cases h2 : singleShape.accepts s.toList <;> simp [hl, h1, h2, errorOf?, Value.memberReason]
  | default => simp [membershipOperand, Value.IsMembers, Value.memberReason, errorOf?]
  | _ => simp [membershipOperand, Value.IsMembers, errorOf?]

theorem errorOf?_operandOf (t : Test) : errorOf? (operandOf t) = t.reasons.head? := by
  unfold operandOf Test.reasons
  by_cases hcol : isBlankText t.col
  · simp [hcol, trimmed_eq_empty_iff, errorOf?]
  · have hcol' : ¬ trimmed t.col = "" := fun h => hcol (trimmed_eq_empty_iff.1 h)
    by_cases htakes : t.op.takesOperand
    · cases hv : t.operand with
      | none => simp [hcol, hcol', htakes, errorOf?]
      | some v =>
        by_cases hmem : t.op.isMembership
        · have hop := errorOf?_membershipOperand v
          by_cases hm : v.IsMembers <;> simp [hcol, hcol', htakes, hmem, hop, hm]
        · by_cases hs : v.isScalar <;> simp [hcol, hcol', htakes, hmem, hs, Operator.comparesOne, errorOf?]
    · have hmem : ¬ t.op.isMembership := by
        cases h : t.op <;> simp_all [Operator.takesOperand, Operator.isMembership]
      cases hv : t.operand <;> simp [hcol, hcol', htakes, hmem, Operator.comparesOne, errorOf?]

theorem reasons_eq_nil_iff {t : Test} : t.reasons = [] ↔ t.WellFormed := by
  constructor
  · intro h
    obtain ⟨hcol, hval⟩ := List.append_eq_nil_iff.1 h
    refine ⟨fun he => by simp [he] at hcol, fun htakes he => ?_, fun hone v he => ?_, fun hmem v he => ?_⟩
    · simp [he, htakes] at hval
    · have hmem : ¬ t.op.isMembership := by simp_all [Operator.comparesOne]
      simpa [he, hmem, hone] using hval
    · simpa [he, hmem] using hval
  · intro h
    refine List.append_eq_nil_iff.2 ⟨by simp [h.column], ?_⟩
    cases hv : t.operand with
    | none =>
      have htakes : ¬ t.op.takesOperand := fun htakes => h.operand htakes hv
      simp [htakes]
    | some v =>
      by_cases hmem : t.op.isMembership
      · simp [hmem, h.members hmem v hv]
      · by_cases hone : t.op.comparesOne
        · simp [hmem, h.single hone v hv]
        · simp [hmem, hone]

/-! ### Levels -/

mutual

theorem faults_eq_nil_iff (link : Link) (c : Condition) : c.faults link = [] ↔ c.WellFormed := by
  match c with
  | .test t =>
    rw [Condition.faults, List.map_eq_nil_iff, reasons_eq_nil_iff]
    exact ⟨.test, fun h => by cases h; assumption⟩
  | .group [] =>
    rw [Condition.faults]
    exact ⟨fun h => by simp at h, fun h => by cases h with | group hne => exact absurd rfl hne⟩
  | .group (e :: es) =>
    rw [Condition.faults, faultsFrom_eq_nil_iff true (e :: es)]
    constructor
    · rintro ⟨hfirst, heach⟩
      exact .group (by simp) (hfirst rfl) heach
    · intro h
      cases h with
      | group _ hfirst heach => exact ⟨fun _ => hfirst, heach⟩

theorem faultsFrom_eq_nil_iff (first : Bool) (es : List (Link × Condition)) :
    faultsFrom first es = [] ↔ (first → ∀ e ∈ es.head?, ¬ e.1.isOr) ∧ ∀ e ∈ es, e.2.WellFormed := by
  match es with
  | [] => simp [faultsFrom]
  | (link, c) :: es =>
    rw [faultsFrom, List.append_eq_nil_iff, List.append_eq_nil_iff, faults_eq_nil_iff link c,
      faultsFrom_eq_nil_iff false es]
    constructor
    · rintro ⟨hor, hc, -, hes⟩
      refine ⟨fun hfirst e he => ?_, fun e he => ?_⟩
      · simp only [List.head?_cons, Option.mem_some_iff] at he
        subst he
        simpa [hfirst] using hor
      · rcases List.mem_cons.1 he with rfl | he
        · exact hc
        · exact hes e he
    · rintro ⟨hfirst, heach⟩
      refine ⟨?_, heach (link, c) (by simp), by simp, fun e he => heach e (by simp [he])⟩
      cases first with
      | false => rfl
      | true => simpa using hfirst rfl (link, c) (by simp)

end

/-- Nothing is wrong with a filter exactly if it is well formed. -/
theorem faults_eq_nil_iff_wellFormed {f : Filter} : f.faults = [] ↔ f.WellFormed := by
  rw [faults, faultsFrom_eq_nil_iff]
  exact ⟨fun h => ⟨h.1 rfl, h.2⟩, fun h => ⟨fun _ => h.first, h.each⟩⟩

/-! ### Compiling -/

mutual

theorem errorOf?_conditionPieces (link : Link) (c : Condition) :
    errorOf? (conditionPieces link c) = (c.faults link).head? := by
  match c with
  | .test t =>
    rw [conditionPieces, Condition.faults, List.head?_map, ← errorOf?_operandOf]
    cases operandOf t <;> rfl
  | .group [] => simp [conditionPieces, Condition.faults, errorOf?]
  | .group (e :: es) =>
    rw [conditionPieces, Condition.faults, ← errorOf?_entryPieces true (e :: es)]
    cases entryPieces true (e :: es) <;> rfl

theorem errorOf?_entryPieces (first : Bool) (es : List (Link × Condition)) :
    errorOf? (entryPieces first es) = (faultsFrom first es).head? := by
  match es with
  | [] => simp [entryPieces, faultsFrom, errorOf?]
  | (link, c) :: es =>
    have hc := errorOf?_conditionPieces link c
    have hes := errorOf?_entryPieces false es
    rw [entryPieces, faultsFrom]
    -- the link of a first condition is looked at before all else
    by_cases hor : first && link.isOr
    · simp [hor, errorOf?]
    · simp only [hor, List.head?_append, ← hc, ← hes]
      cases conditionPieces link c with
      | error fault => rfl
      | ok pieces => cases entryPieces false es <;> rfl

end

theorem errorOf?_compile (f : Filter) (q : Quoter) (bound : Nat) :
    errorOf? (f.compile q bound) = f.faults.head? := by
  rw [faults, ← errorOf?_entryPieces, compile, pieces]
  cases entryPieces true f <;> rfl

theorem exists_compile_iff {f : Filter} {q : Quoter} {bound : Nat} :
    (∃ sql, f.compile q bound = .ok sql) ↔ f.WellFormed := by
  rw [exists_ok_iff, errorOf?_compile, List.head?_eq_none_iff, faults_eq_nil_iff_wellFormed]

/-- A filter compiles exactly if it is well formed, whatever the dialect and the parameters before it.  Otherwise it
fails with its first fault, which is an error of conditions. -/
theorem compile_ok_iff_wellFormed (f : Filter) (q : Quoter) (bound : Nat) :
    ((∃ sql, f.compile q bound = .ok sql) ↔ f.WellFormed) ∧
      (∀ fault, f.compile q bound = .error fault ↔ f.faults.head? = some fault) ∧
      (∀ fault : FilterFault, fault.toError.code = "Structure.BadConditionArray") ∧
      ∀ (q' : Quoter) (bound' : Nat),
        (∃ sql, f.compile q' bound' = .ok sql) ↔ ∃ sql, f.compile q bound = .ok sql := by
  refine ⟨exists_compile_iff, fun fault => ?_, fun _ => rfl, fun q' bound' => ?_⟩
  · rw [eq_error_iff, errorOf?_compile]
  · rw [exists_compile_iff, exists_compile_iff]

end Filter

end RecordMapper
