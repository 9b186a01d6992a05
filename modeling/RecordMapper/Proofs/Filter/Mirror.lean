import RecordMapper.Filter.Parse
import RecordMapper.Proofs.Decimal.Numeral
import RecordMapper.Proofs.Text.Trim

/-!
# Filters that mirror a document

A filter mirrors a document when it has its nesting and its order: a test for every object that `IsPredicate`, a list
for every other container, `OR` only under the keys that ask for it, and the items of an array joined by `AND`.

* a document is read as a filter exactly if the filter mirrors it (`Filter.ofJson_eq_ok_iff`).
-/

namespace RecordMapper

open Text

/-! ### Objects that stand for tests -/

/-- A document that holds others. -/
def Json.IsContainer (doc : Json) : Prop :=
  (∃ members, doc = .obj members) ∨ ∃ items, doc = .arr items

/-- An object that stands for a test: it has a member of a test, or a member that is no container. -/
def IsPredicate (members : List (String × Json)) : Prop :=
  (members.lookup "col").isSome ∨ (members.lookup "operator").isSome ∨ (members.lookup "val").isSome ∨
    ∃ m ∈ members, ¬ m.2.IsContainer

/-! ### The filter of a document -/

/-- The link of a member: `OR` and the keys that start with `OR#` link by `OR`, all others by `AND`. -/
structure Link.ReadFrom (key : String) (link : Link) : Prop where
  label : link.label = key
  isOr : link.isOr ↔ key = "OR" ∨ ∃ tag, key = "OR#" ++ tag

/-- The test of a predicate. -/
structure Test.ReadFrom (members : List (String × Json)) (t : Test) : Prop where
  column : members.lookup "col" = some (.str t.col)
  notBlank : trimmed t.col ≠ ""
  operator : members.lookup "operator" = some (.str t.op.name)
  operand : t.operand = (members.lookup "val").map Value.ofJson
  value : t.op.takesOperand → t.operand ≠ none

mutual

/-- A condition with the nesting and the order of its document. -/
inductive Mirrors : Json → Condition → Prop where
  | test {members : List (String × Json)} {t : Test} (hpred : IsPredicate members) (ht : t.ReadFrom members) :
    Mirrors (.obj members) (.test t)
  | object {members : List (String × Json)} {es : List (Link × Condition)} (hlist : ¬ IsPredicate members)
    (hne : es ≠ []) (heach : MirrorsMembers members es) : Mirrors (.obj members) (.group es)
  | array {items : List Json} {es : List (Link × Condition)} (hne : es ≠ []) (heach : MirrorsItems 0 items es) :
    Mirrors (.arr items) (.group es)

/-- Conditions with the keys, the order and the documents of the members of an object. -/
inductive MirrorsMembers : List (String × Json) → List (Link × Condition) → Prop where
  | nil : MirrorsMembers [] []
  | cons {key : String} {doc : Json} {members : List (String × Json)} {link : Link} {c : Condition}
    {es : List (Link × Condition)} (hlink : link.ReadFrom key) (hc : Mirrors doc c)
    (hes : MirrorsMembers members es) : MirrorsMembers ((key, doc) :: members) ((link, c) :: es)

/-- Conditions with the order and the documents of the items of an array, each joined by `AND` under its place. -/
inductive MirrorsItems : Nat → List Json → List (Link × Condition) → Prop where
  | nil {i : Nat} : MirrorsItems i [] []
  | cons {i : Nat} {doc : Json} {items : List Json} {c : Condition} {es : List (Link × Condition)}
    (hc : Mirrors doc c) (hes : MirrorsItems (i + 1) items es) :
    MirrorsItems i (doc :: items) ((.and (Decimal.natText i), c) :: es)

end

/-- The filter with the nesting and the order of its document. -/
inductive MirrorsDocument : Json → Filter → Prop where
  | null : MirrorsDocument .null []
  | object {members : List (String × Json)} {f : Filter} (heach : MirrorsMembers members f) :
    MirrorsDocument (.obj members) f
  | array {items : List Json} {f : Filter} (heach : MirrorsItems 0 items f) : MirrorsDocument (.arr items) f

/-! ### Keys -/

namespace Link

theorem ofKey_tagged (tag : String) : ofKey ("OR#" ++ tag) = .orTagged tag := by
  have hcs : ("OR#" ++ tag).toList = 'O' :: 'R' :: '#' :: tag.toList := String.toList_append
  have hne : "OR#" ++ tag ≠ "OR" := fun h => by simpa [hcs] using congrArg String.toList h
  have hmark : tagMark.isPrefixOf ("OR#" ++ tag).toList := by rw [hcs]; rfl
  rw [ofKey, if_neg hne, if_pos hmark, hcs]
  exact congrArg Link.orTagged String.ofList_toList

theorem ofKey_other {key : String} (hor : key ≠ "OR") (htag : ∀ tag, key ≠ "OR#" ++ tag) : ofKey key = .and key := by
  have hmark : ¬ tagMark.isPrefixOf key.toList := by
    intro h
    obtain ⟨cs, hcs⟩ := List.isPrefixOf_iff_prefix.1 h
    refine htag (String.ofList cs) (String.toList_inj.1 ?_)
    rw [String.toList_append, ← hcs]
    exact congrArg (tagMark ++ ·) String.toList_ofList.symm
  rw [ofKey, if_neg hor, if_neg hmark]

theorem readFrom_ofKey (key : String) : (ofKey key).ReadFrom key := by
  by_cases hor : key = "OR"
  · subst hor
    exact ⟨rfl, by simp [ofKey, isOr]⟩
  · by_cases htag : ∃ tag, key = "OR#" ++ tag
    · obtain ⟨tag, rfl⟩ := htag
      rw [ofKey_tagged]
      exact ⟨rfl, by simp [isOr]⟩
    · rw [ofKey_other hor (not_exists.1 htag)]
      exact ⟨rfl, by simp [isOr, hor, htag]⟩

/-- A key has one link only. -/
theorem readFrom_iff {key : String} {link : Link} : link.ReadFrom key ↔ link = ofKey key := by
  refine ⟨fun h => ?_, fun h => h ▸ readFrom_ofKey key⟩
  obtain ⟨rfl, hor⟩ := h
  cases link with
  | and label =>
    have hnot : ¬ (label = "OR" ∨ ∃ tag, label = "OR#" ++ tag) := fun h => by simpa [isOr] using hor.2 h
    exact (ofKey_other (fun h => hnot (.inl h)) fun tag h => hnot (.inr ⟨tag, h⟩)).symm
  | or => rfl
  | orTagged tag => exact (ofKey_tagged tag).symm

/-- A place is no key of an `OR`. -/
theorem ofKey_natText (i : Nat) : ofKey (Decimal.natText i) = .and (Decimal.natText i) := by
  have hdigits : 'O' ∉ (Decimal.natText i).toList := by
    rw [Decimal.natText, String.toList_ofList]
    exact fun h => absurd (Decimal.isAsciiDigit_of_mem_digits h) (by decide)
  refine ofKey_other (fun h => hdigits ?_) fun tag h => hdigits ?_
  · simp [h]
  · simp [h, String.toList_append]

end Link

/-! ### Tests -/

theorem Operator.ofName?_eq_some_iff {name : String} {op : Operator} : ofName? name = some op ↔ op.name = name := by
  refine ⟨fun h => ?_, fun h => h ▸ ofName?_name op⟩
  simpa using List.find?_some h

namespace Filter

theorem isContainer_iff {doc : Json} : isContainer doc ↔ doc.IsContainer := by
  cases doc <;> simp [isContainer, Json.IsContainer]

theorem isTest_iff {members : List (String × Json)} : isTest members ↔ IsPredicate members := by
  simp [isTest, testMembers, IsPredicate, ← isContainer_iff, or_assoc]

theorem columnOf_eq_ok_iff {members : List (String × Json)} {col : String} :
    columnOf members = .ok col ↔ members.lookup "col" = some (.str col) ∧ trimmed col ≠ "" := by
  rw [ne_eq, trimmed_eq_empty_iff, columnOf]
  cases h : members.lookup "col" with
  | none => simp
  | some doc =>
    cases doc with
    | str s =>
      simp only [Option.some.injEq, Json.str.injEq]
      constructor
      · intro hcol
        split at hcol
        · cases hcol
        · next hs =>
          cases hcol
          exact ⟨rfl, hs⟩
      · rintro ⟨rfl, hs⟩
        rw [if_neg hs]
    | _ => simp

theorem operatorOf_eq_ok_iff {members : List (String × Json)} {op : Operator} :
    operatorOf members = .ok op ↔ members.lookup "operator" = some (.str op.name) := by
  rw [operatorOf]
  cases h : members.lookup "operator" with
  | none => simp
  | some doc =>
    cases doc with
    | str name =>
      have hname : Operator.ofName? name = some op ↔ op.name = name := Operator.ofName?_eq_some_iff
      cases hop : Operator.ofName? name with
      | none => simpa [hop, eq_comm] using hname
      | some op' => simpa [hop, eq_comm] using hname
    | _ => simp

/-- With a column and an operator all depends on the operand. -/
theorem testOf_eq_ok_iff_of {members : List (String × Json)} {col : String} {op : Operator} {t : Test}
    (hcol : columnOf members = .ok col) (hop : operatorOf members = .ok op) :
    testOf members = .ok t ↔ ⟨col, op, (members.lookup "val").map Value.ofJson⟩ = t ∧
      (op.takesOperand → (members.lookup "val").isSome) := by
  rw [testOf, hcol, hop]
  cases htakes : op.takesOperand <;> cases members.lookup "val" <;>
    simp [htakes, bind, Except.bind, pure, Except.pure, throw, throwThe, MonadExceptOf.throw]

theorem testOf_eq_ok_iff {members : List (String × Json)} {t : Test} :
    testOf members = .ok t ↔ t.ReadFrom members := by
  constructor
  · intro h
    cases hcol : columnOf members with
    | error reason => simp [testOf, hcol, bind, Except.bind] at h
    | ok col =>
      cases hop : operatorOf members with
      | error reason => simp [testOf, hcol, hop, bind, Except.bind] at h
      | ok op =>
        obtain ⟨rfl, hsome⟩ := (testOf_eq_ok_iff_of hcol hop).1 h
        obtain ⟨hlookup, hblank⟩ := columnOf_eq_ok_iff.1 hcol
        refine ⟨hlookup, hblank, operatorOf_eq_ok_iff.1 hop, rfl, fun htakes => ?_⟩
        simpa [Option.isSome_iff_ne_none] using hsome htakes
  · intro h
    have hcol := columnOf_eq_ok_iff.2 ⟨h.column, h.notBlank⟩
    have hop := operatorOf_eq_ok_iff.2 h.operator
    refine (testOf_eq_ok_iff_of hcol hop).2 ⟨by rw [← h.operand], fun htakes => ?_⟩
    simpa [h.operand, Option.isSome_iff_ne_none] using h.value htakes

/-! ### Reading -/

mutual

theorem entryOfJson_eq_ok_iff (key : String) (doc : Json) (c : Condition) :
    entryOfJson key doc = .ok c ↔ Mirrors doc c := by
  match doc with
  | .obj members =>
    rw [entryOfJson]
    by_cases hpred : IsPredicate members
    · rw [if_pos (isTest_iff.2 hpred)]
      constructor
      · intro h
        split at h
        · next t ht =>
          cases h
          exact .test hpred (testOf_eq_ok_iff.1 ht)
        · cases h
      · intro h
        cases h with
        | test _ ht => rw [testOf_eq_ok_iff.2 ht]
        | object hlist => exact absurd hpred hlist
    · rw [if_neg fun h => hpred (isTest_iff.1 h)]
      constructor
      · intro h
        split at h
        · cases h
        · cases h
        · next es hne hes =>
          cases h
          exact .object hpred hne ((ofMembers_eq_ok_iff members es).1 hes)
      · intro h
        cases h with
        | test h _ => exact absurd h hpred
        | object _ hne heach =>
          rw [(ofMembers_eq_ok_iff members _).2 heach]
          split <;> simp_all
  | .arr items =>
    rw [entryOfJson]
    constructor
    · intro h
      split at h
      · cases h
      · cases h
      · next es hne hes =>
        cases h
        exact .array hne ((ofItems_eq_ok_iff 0 items es).1 hes)
    · intro h
      cases h with
      | array hne heach =>
        rw [(ofItems_eq_ok_iff 0 items _).2 heach]
        split <;> simp_all
  | .null | .bool _ | .int _ | .float _ | .str _ =>
    rw [entryOfJson]
    exact ⟨nofun, nofun⟩

theorem ofMembers_eq_ok_iff (members : List (String × Json)) (es : List (Link × Condition)) :
    ofMembers members = .ok es ↔ MirrorsMembers members es := by
  match members with
  | [] =>
    rw [ofMembers]
    exact ⟨fun h => by cases h; exact .nil, fun h => by cases h; rfl⟩
  | (key, doc) :: members =>
    rw [ofMembers]
    constructor
    · intro h
      split at h
      · cases h
      · next c hc =>
        split at h
        · cases h
        · next es hes =>
          cases h
          exact .cons (Link.readFrom_ofKey key) ((entryOfJson_eq_ok_iff key doc c).1 hc)
            ((ofMembers_eq_ok_iff members es).1 hes)
    · intro h
      cases h with
      | cons hlink hc hes =>
        rw [(entryOfJson_eq_ok_iff key doc _).2 hc, (ofMembers_eq_ok_iff members _).2 hes, Link.readFrom_iff.1 hlink]

theorem ofItems_eq_ok_iff (i : Nat) (items : List Json) (es : List (Link × Condition)) :
    ofItems i items = .ok es ↔ MirrorsItems i items es := by
  match items with
  | [] =>
    rw [ofItems]
    exact ⟨fun h => by cases h; exact .nil, fun h => by cases h; rfl⟩
  | doc :: items =>
    rw [ofItems, Link.ofKey_natText]
    constructor
    · intro h
      split at h
      · cases h
      · next c hc =>
        split at h
        · cases h
        · next es hes =>
          cases h
          exact .cons ((entryOfJson_eq_ok_iff _ doc c).1 hc) ((ofItems_eq_ok_iff (i + 1) items es).1 hes)
    · intro h
      cases h with
      | cons hc hes =>
        rw [(entryOfJson_eq_ok_iff _ doc _).2 hc, (ofItems_eq_ok_iff (i + 1) items _).2 hes]

end

theorem ofJson_eq_ok_iff {doc : Json} {f : Filter} : ofJson doc = .ok f ↔ MirrorsDocument doc f := by
  cases doc with
  | null => exact ⟨fun h => by cases h; exact .null, fun h => by cases h; rfl⟩
  | obj members =>
    rw [ofJson, ofMembers_eq_ok_iff]
    exact ⟨.object, fun h => by cases h; assumption⟩
  | arr items =>
    rw [ofJson, ofItems_eq_ok_iff]
    exact ⟨.array, fun h => by cases h; assumption⟩
  | _ => exact ⟨nofun, nofun⟩

end Filter

end RecordMapper
