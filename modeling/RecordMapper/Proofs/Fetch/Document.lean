import RecordMapper.Proofs.Fetch.Parts
import RecordMapper.Proofs.Filter.Mirror
import RecordMapper.Proofs.Filter.WellFormed

/-!
# Fetches from documents

A member of an object is recognised when its name is that of a key.  `FetchKey.Admits` says which documents a key
admits, `FetchKey.Refuses` with which fault it refuses the others, and `Fetch.ReadFrom` which fetch the members of an
object describe: a named part is what its member holds (`Fetch.Holds`), the others are as they were.

* one member changes the part of its key and no other (`setFromJson_eq_ok_iff`), or is refused
  (`setFromJson_eq_error_iff`);
* members with distinct names are read as the one fetch that they describe, whatever their order
  (`setMembers_eq_ok_iff`), and fail with the fault of the first that is refused (`setMembers_eq_error_iff`).
-/

namespace RecordMapper

namespace FetchKey

variable {key : FetchKey} {doc : Json} {fault : Fetch.Fault}

theorem ofName?_eq_some_iff {s : String} : ofName? s = some key ↔ s = key.name := by
  constructor
  · intro h
    have hname := List.find?_some (p := fun key : FetchKey => key.name == s) h
    exact (beq_iff_eq.1 hname).symm
  · rintro rfl
    cases key <;> decide

theorem ofName?_eq_none_iff {s : String} : ofName? s = none ↔ ∀ key : FetchKey, s ≠ key.name := by
  rw [Option.eq_none_iff_forall_ne_some]
  exact forall_congr' fun key => not_congr ofName?_eq_some_iff

theorem name_injective {j k : FetchKey} (h : j.name = k.name) : j = k :=
  Option.some.inj ((ofName?_eq_some_iff.2 rfl).symm.trans (ofName?_eq_some_iff.2 h))

/-- A text is the name of a key, or of none. -/
theorem name_cases (s : String) : (∃ key : FetchKey, s = key.name) ∨ ∀ key : FetchKey, s ≠ key.name := by
  rw [← not_exists]
  exact em _

/-- What a key asks for, in words. -/
def expected : FetchKey → String
  | .distinct => "a boolean"
  | .cols | .group | .order | .relations => "an array of strings"
  | .filter | .having => "a condition list"
  | .limit | .offset => "a non-negative integer"

/-- The documents that a key admits. -/
def Admits (key : FetchKey) (doc : Json) : Prop :=
  match key with
  | .distinct => ∃ b, doc = .bool b
  | .cols | .group | .order | .relations => ∃ texts : List String, doc = .arr (texts.map .str)
  | .filter | .having => ∃ filter, Filter.ofJson doc = .ok filter
  | .limit | .offset => ∃ n : Nat, n < 0x10000000000000000 ∧ doc = .int n

/-- The fault with which a key refuses a document.  A list of conditions that is refused has a fault of its own. -/
def Refuses (key : FetchKey) (doc : Json) (fault : Fetch.Fault) : Prop :=
  match key with
  | .filter | .having =>
    (doc ≠ .null ∧ ¬ doc.IsContainer ∧ fault = .shape key key.expected doc) ∨
      (doc.IsContainer ∧ ∃ reason, Filter.ofJson doc = .error reason ∧ fault = .conditions reason)
  | _ => ¬ key.Admits doc ∧ fault = .shape key key.expected doc

end FetchKey

namespace Fetch

variable {f g base : Fetch} {j key : FetchKey} {doc : Json} {fault : Fault} {members : List (String × Json)}

/-! ### Parts -/

/-- The part of a fetch under a key is what a document holds. -/
def Holds (f : Fetch) (key : FetchKey) (doc : Json) : Prop :=
  match key with
  | .distinct => doc = .bool f.distinct
  | .cols => doc = .arr (f.cols.map .str)
  | .filter => Filter.ofJson doc = .ok f.filter
  | .group => doc = .arr (f.group.map .str)
  | .having => Filter.ofJson doc = .ok f.having
  | .order => doc = .arr (f.order.map .str)
  | .limit => ∃ n : Nat, n < 0x10000000000000000 ∧ doc = .int n ∧ f.limit = some n
  | .offset => ∃ n : Nat, n < 0x10000000000000000 ∧ doc = .int n ∧ f.offset = some n
  | .relations => doc = .arr (f.relations.map .str)

theorem Holds.admits (hf : f.Holds key doc) : key.Admits doc := by
  cases key with
  | limit | offset =>
    obtain ⟨n, hn, hdoc, -⟩ := hf
    exact ⟨n, hn, hdoc⟩
  | _ => exact ⟨_, hf⟩

theorem Holds.congr (hf : f.Holds key doc) (hfg : f.SameAt key g) : g.Holds key doc := by
  cases key <;> simp only [SameAt] at hfg <;> simpa only [Holds, hfg] using hf

private theorem map_str_inj {as bs : List String} (h : Json.arr (as.map .str) = .arr (bs.map .str)) : as = bs :=
  (List.map_inj_right fun _ _ => Json.str.inj).1 (Json.arr.inj h)

/-- A document says what the part is. -/
theorem Holds.sameAt (hf : f.Holds key doc) (hg : g.Holds key doc) : f.SameAt key g := by
  cases key with
  | distinct => exact Json.bool.inj (Eq.trans (Eq.symm hf) hg)
  | cols | group | order | relations => exact map_str_inj (Eq.trans (Eq.symm hf) hg)
  | filter | having => exact Except.ok.inj (Eq.trans (Eq.symm hf) hg)
  | limit | offset =>
    obtain ⟨n, -, rfl, hn⟩ := hf
    obtain ⟨m, -, hm, hg⟩ := hg
    obtain rfl : n = m := Int.ofNat.inj (Json.int.inj hm)
    exact hn.trans hg.symm

/-- The parts are all of a fetch. -/
theorem ext_sameAt (hsame : ∀ key, f.SameAt key g) : f = g := by
  cases f
  cases g
  simpa only [mk.injEq] using ⟨hsame .distinct, hsame .cols, hsame .filter, hsame .group, hsame .having, hsame .order,
    hsame .limit, hsame .offset, hsame .relations⟩

theorem sameAt_of_reset_eq (hreset : f.reset key = g.reset key) (hj : j ≠ key) : f.SameAt j g :=
  (sameAt_reset hj).symm.trans (hreset ▸ sameAt_reset hj)

/-! ### Readers -/

theorem texts?_eq_some_iff {texts : List String} : texts? doc = some texts ↔ doc = .arr (texts.map .str) := by
  cases doc with
  | arr items =>
    rw [texts?, Json.arr.injEq]
    induction items generalizing texts with
    | nil => cases texts <;> simp
    | cons item items ih =>
      cases item with
      | str s =>
        cases texts with
        | nil => simp [Json.text?, Option.bind_eq_some_iff]
        | cons t texts => simpa [Json.text?, Option.bind_eq_some_iff, ih] using and_comm
      | _ => cases texts <;> simp [Json.text?]
  | _ => simp [texts?]

theorem textsAt_eq_ok_iff {texts : List String} : textsAt key doc = .ok texts ↔ doc = .arr (texts.map .str) := by
  rw [← texts?_eq_some_iff, textsAt]
  cases texts? doc <;> simp

theorem textsAt_eq_error_iff :
    textsAt key doc = .error fault ↔
      (¬ ∃ texts : List String, doc = .arr (texts.map .str)) ∧ fault = .shape key "an array of strings" doc := by
  simp only [← texts?_eq_some_iff, textsAt]
  cases texts? doc <;> simp [eq_comm]

theorem countAt_eq_ok_iff {n : Nat} (key : FetchKey) :
    countAt key doc = .ok n ↔ n < 0x10000000000000000 ∧ doc = .int n := by
  cases doc with
  | int i =>
    rw [countAt]
    split
    · next hi =>
      rw [Json.fitsUInt64_iff] at hi
      rw [Except.ok.injEq, Json.int.injEq]
      omega
    · next hi =>
      rw [Json.fitsUInt64_iff] at hi
      rw [Json.int.injEq]
      exact iff_of_false nofun (by omega)
  | _ => simp [countAt]

theorem countAt_eq_error_iff :
    countAt key doc = .error fault ↔
      (¬ ∃ n : Nat, n < 0x10000000000000000 ∧ doc = .int n) ∧ fault = .shape key "a non-negative integer" doc := by
  simp only [← countAt_eq_ok_iff key]
  cases doc with
  | int i =>
    rw [countAt]
    split <;> simp [eq_comm]
  | _ => simp [countAt, eq_comm]

theorem filterAt_eq_ok_iff {filter : Filter} : filterAt key doc = .ok filter ↔ Filter.ofJson doc = .ok filter := by
  cases doc with
  | null | obj members | arr items =>
    rw [filterAt]
    split
    all_goals simp [*]
  | _ => simp [filterAt, Filter.ofJson]

theorem filterAt_eq_error_iff :
    filterAt key doc = .error fault ↔
      (doc ≠ .null ∧ ¬ doc.IsContainer ∧ fault = .shape key "a condition list" doc) ∨
        (doc.IsContainer ∧ ∃ reason, Filter.ofJson doc = .error reason ∧ fault = .conditions reason) := by
  cases doc with
  | null => simp [filterAt, Filter.ofJson, Json.IsContainer]
  | obj members | arr items =>
    rw [filterAt]
    split
    all_goals simp [*, Json.IsContainer, eq_comm]
  | _ => simp [filterAt, Json.IsContainer, eq_comm]

/-! ### One member -/

/-- A member touches the part of its key only. -/
theorem reset_setFromJson (hg : setFromJson f key doc = .ok g) : g.reset key = f.reset key := by
  cases key with
  | distinct =>
    cases doc with
    | bool b => cases hg; rfl
    | _ => cases hg
  | _ =>
    obtain ⟨_, -, rfl⟩ := map_eq_ok hg
    rfl

theorem holds_setFromJson (hg : setFromJson f key doc = .ok g) : g.Holds key doc := by
  cases key with
  | distinct =>
    cases doc with
    | bool b => cases hg; rfl
    | _ => cases hg
  | cols | group | order | relations =>
    obtain ⟨_, htexts, rfl⟩ := map_eq_ok hg
    exact textsAt_eq_ok_iff.1 htexts
  | filter | having =>
    obtain ⟨_, hfilter, rfl⟩ := map_eq_ok hg
    exact filterAt_eq_ok_iff.1 hfilter
  | limit | offset =>
    obtain ⟨n, hn, rfl⟩ := map_eq_ok hg
    obtain ⟨hlt, hdoc⟩ := (countAt_eq_ok_iff _).1 hn
    exact ⟨n, hlt, hdoc, rfl⟩

theorem exists_setFromJson_iff : (∃ g, setFromJson f key doc = .ok g) ↔ key.Admits doc := by
  cases key with
  | distinct => cases doc <;> simp [setFromJson, FetchKey.Admits]
  | cols | group | order | relations => simp only [setFromJson, exists_map_ok_iff, textsAt_eq_ok_iff, FetchKey.Admits]
  | filter | having => simp only [setFromJson, exists_map_ok_iff, filterAt_eq_ok_iff, FetchKey.Admits]
  | limit | offset => simp only [setFromJson, exists_map_ok_iff, countAt_eq_ok_iff, FetchKey.Admits]

/-- A member that is admitted changes the part of its key to what it holds, and no other. -/
theorem setFromJson_eq_ok_iff :
    setFromJson f key doc = .ok g ↔ g.Holds key doc ∧ ∀ j, j ≠ key → g.SameAt j f := by
  constructor
  · intro hg
    exact ⟨holds_setFromJson hg, fun j hj => sameAt_of_reset_eq (reset_setFromJson hg) hj⟩
  · rintro ⟨hholds, hrest⟩
    obtain ⟨h, hh⟩ := exists_setFromJson_iff (f := f).2 hholds.admits
    have hsame : ∀ j, h.SameAt j g := fun j => by
      by_cases hj : j = key
      · subst hj
        exact (holds_setFromJson hh).sameAt hholds
      · exact (sameAt_of_reset_eq (reset_setFromJson hh) hj).trans (hrest j hj).symm
    rw [hh, ext_sameAt hsame]

theorem setFromJson_eq_error_iff : setFromJson f key doc = .error fault ↔ key.Refuses doc fault := by
  cases key with
  | distinct =>
    cases doc <;> simp [setFromJson, FetchKey.Refuses, FetchKey.Admits, FetchKey.expected, eq_comm]
  | cols | group | order | relations =>
    rw [setFromJson, map_eq_error_iff]
    exact textsAt_eq_error_iff
  | filter | having =>
    rw [setFromJson, map_eq_error_iff]
    exact filterAt_eq_error_iff
  | limit | offset =>
    rw [setFromJson, map_eq_error_iff]
    exact countAt_eq_error_iff

/-- A key refuses what it does not admit. -/
theorem exists_refuses_iff : (∃ fault, key.Refuses doc fault) ↔ ¬ key.Admits doc := by
  simp only [← setFromJson_eq_error_iff (f := {}), ← exists_setFromJson_iff (f := {})]
  cases setFromJson {} key doc <;> simp

/-! ### All members -/

/-- Every member that a key names is admitted by it. -/
def Admitted (members : List (String × Json)) : Prop :=
  ∀ m ∈ members, ∀ key : FetchKey, m.1 = key.name → key.Admits m.2

/-- The fetch that members describe: a part that is named is what its member holds, and all others are as they were. -/
structure ReadFrom (members : List (String × Json)) (base f : Fetch) : Prop where
  named : ∀ m ∈ members, ∀ key : FetchKey, m.1 = key.name → f.Holds key m.2
  unnamed : ∀ key : FetchKey, key.name ∉ members.map Prod.fst → f.SameAt key base

theorem ReadFrom.unique (hf : ReadFrom members base f) (hg : ReadFrom members base g) : f = g := by
  refine ext_sameAt fun key => ?_
  by_cases hname : key.name ∈ members.map Prod.fst
  · obtain ⟨m, hm, hkey⟩ := List.mem_map.1 hname
    exact (hf.named m hm key hkey).sameAt (hg.named m hm key hkey)
  · exact (hf.unnamed key hname).trans (hg.unnamed key hname).symm

theorem ReadFrom.perm {members' : List (String × Json)} (hf : ReadFrom members base f) (h : members.Perm members') :
    ReadFrom members' base f :=
  ⟨fun m hm => hf.named m (h.mem_iff.2 hm), fun key hname => hf.unnamed key fun hmem =>
    hname ((h.map Prod.fst).mem_iff.1 hmem)⟩

variable {name : String}

theorem setMembers_cons_unknown (hname : ∀ key : FetchKey, name ≠ key.name) :
    setMembers f ((name, doc) :: members) = setMembers f members := by
  rw [setMembers, FetchKey.ofName?_eq_none_iff.2 hname]

theorem setMembers_cons_ok (hg : setFromJson f key doc = .ok g) :
    setMembers f ((key.name, doc) :: members) = setMembers g members := by
  rw [setMembers, FetchKey.ofName?_eq_some_iff.2 rfl]
  simp only [hg]

theorem setMembers_cons_error (hfault : setFromJson f key doc = .error fault) :
    setMembers f ((key.name, doc) :: members) = .error fault := by
  rw [setMembers, FetchKey.ofName?_eq_some_iff.2 rfl]
  simp only [hfault]

theorem setMembers_append {after : List (String × Json)} :
    setMembers f (members ++ after) = (setMembers f members).bind fun g => setMembers g after := by
  induction members generalizing f with
  | nil => rfl
  | cons m members ih =>
    obtain ⟨name, doc⟩ := m
    rw [List.cons_append]
    obtain ⟨key, rfl⟩ | hname := FetchKey.name_cases name
    · cases hg : setFromJson f key doc with
      | error fault => rw [setMembers_cons_error hg, setMembers_cons_error hg, Except.bind]
      | ok g => rw [setMembers_cons_ok hg, setMembers_cons_ok hg, ih]
    · rw [setMembers_cons_unknown hname, setMembers_cons_unknown hname, ih]

/-- A member whose name is that of no key does not matter, wherever it stands. -/
theorem setMembers_unknown {before after : List (String × Json)} (hname : ∀ key : FetchKey, name ≠ key.name) :
    setMembers f (before ++ (name, doc) :: after) = setMembers f (before ++ after) := by
  simp only [setMembers_append, setMembers_cons_unknown hname]

theorem admitted_cons_unknown (hname : ∀ key : FetchKey, name ≠ key.name) :
    Admitted ((name, doc) :: members) ↔ Admitted members := by
  simp [Admitted, hname]

theorem admitted_cons_key : Admitted ((key.name, doc) :: members) ↔ key.Admits doc ∧ Admitted members := by
  rw [Admitted, List.forall_mem_cons]
  refine and_congr_left' ⟨fun h => h key rfl, fun h k hk => ?_⟩
  rwa [← FetchKey.name_injective hk]

theorem exists_setMembers_iff : (∃ g, setMembers f members = .ok g) ↔ Admitted members := by
  induction members generalizing f with
  | nil => simp [setMembers, Admitted]
  | cons m members ih =>
    obtain ⟨name, doc⟩ := m
    obtain ⟨key, rfl⟩ | hname := FetchKey.name_cases name
    · rw [admitted_cons_key, ← exists_setFromJson_iff (f := f)]
      cases hg : setFromJson f key doc with
      | error fault => simp [setMembers_cons_error hg]
      | ok g => simp [setMembers_cons_ok hg, ih]
    · rw [setMembers_cons_unknown hname, admitted_cons_unknown hname, ih]

/-- Members with distinct names are read as what they describe: no later member touches a part again. -/
theorem readFrom_setMembers (hnodup : (members.map Prod.fst).Nodup) (hf : setMembers base members = .ok f) :
    ReadFrom members base f := by
  induction members generalizing base with
  | nil =>
    cases hf
    exact ⟨by simp, fun key _ => .refl key f⟩
  | cons m members ih =>
    obtain ⟨name, doc⟩ := m
    rw [List.map_cons, List.nodup_cons] at hnodup
    obtain ⟨key, rfl⟩ | hname := FetchKey.name_cases name
    · cases hg : setFromJson base key doc with
      | error fault => rw [setMembers_cons_error hg] at hf; cases hf
      | ok g =>
        rw [setMembers_cons_ok hg] at hf
        obtain ⟨hholds, hrest⟩ := setFromJson_eq_ok_iff.1 hg
        have hread := ih hnodup.2 hf
        have hkey : f.Holds key doc := hholds.congr (hread.unnamed key hnodup.1).symm
        refine ⟨List.forall_mem_cons.2 ⟨fun k hk => FetchKey.name_injective hk ▸ hkey, hread.named⟩, fun j hj => ?_⟩
        rw [List.map_cons, List.mem_cons, not_or] at hj
        exact (hread.unnamed j hj.2).trans (hrest j fun h => hj.1 (congrArg FetchKey.name h))
    · rw [setMembers_cons_unknown hname] at hf
      have hread := ih hnodup.2 hf
      exact ⟨List.forall_mem_cons.2 ⟨fun k hk => absurd hk (hname k), hread.named⟩,
        fun j hj => hread.unnamed j fun hmem => hj (List.mem_cons_of_mem _ hmem)⟩

theorem setMembers_eq_ok_iff (hnodup : (members.map Prod.fst).Nodup) :
    setMembers base members = .ok f ↔ ReadFrom members base f := by
  refine ⟨readFrom_setMembers hnodup, fun hf => ?_⟩
  have hadmitted : Admitted members := fun m hm key hname => (hf.named m hm key hname).admits
  obtain ⟨g, hg⟩ := exists_setMembers_iff.2 hadmitted
  rw [hg, (readFrom_setMembers hnodup hg).unique hf]

/-- Members fail with the fault of the first that is refused. -/
theorem setMembers_eq_error_iff :
    setMembers f members = .error fault ↔
      ∃ before key doc after, members = before ++ (FetchKey.name key, doc) :: after ∧ Admitted before ∧
        key.Refuses doc fault := by
  constructor
  · intro hfault
    induction members generalizing f with
    | nil => cases hfault
    | cons m members ih =>
      obtain ⟨name, doc⟩ := m
      obtain ⟨key, rfl⟩ | hname := FetchKey.name_cases name
      · cases hg : setFromJson f key doc with
        | error e =>
          rw [setMembers_cons_error hg, Except.error.injEq] at hfault
          subst hfault
          exact ⟨[], key, doc, members, rfl, by simp [Admitted], setFromJson_eq_error_iff.1 hg⟩
        | ok g =>
          rw [setMembers_cons_ok hg] at hfault
          obtain ⟨before, k, d, after, rfl, hbefore, hrefuses⟩ := ih hfault
          exact ⟨(key.name, doc) :: before, k, d, after, rfl,
            admitted_cons_key.2 ⟨exists_setFromJson_iff.1 ⟨g, hg⟩, hbefore⟩, hrefuses⟩
      · rw [setMembers_cons_unknown hname] at hfault
        obtain ⟨before, k, d, after, rfl, hbefore, hrefuses⟩ := ih hfault
        exact ⟨(name, doc) :: before, k, d, after, rfl, (admitted_cons_unknown hname).2 hbefore, hrefuses⟩
  · rintro ⟨before, key, doc, after, rfl, hbefore, hrefuses⟩
    obtain ⟨g, hg⟩ := exists_setMembers_iff (f := f).2 hbefore
    rw [setMembers_append, hg, Except.bind, setMembers_cons_error (setFromJson_eq_error_iff.2 hrefuses)]

/-! ### Documents -/

/-- How a document is refused: as no object, or for the first of its members that is refused. -/
inductive Refused : Json → Fault → Prop where
  | notAnObject {doc : Json} (hnull : doc ≠ .null) (hobj : ∀ members, doc ≠ .obj members) :
    Refused doc (.notAnObject doc)
  | member {before after : List (String × Json)} {key : FetchKey} {doc : Json} {fault : Fault}
    (hbefore : Admitted before) (hdoc : key.Refuses doc fault) :
    Refused (.obj (before ++ (key.name, doc) :: after)) fault

theorem Fault.isStructural_toError (fault : Fault) : fault.toError.isStructural := by
  cases fault <;> rfl

theorem exists_ofJson_iff :
    (∃ f, ofJson doc = .ok f) ↔ doc = .null ∨ ∃ members, doc = .obj members ∧ Admitted members := by
  cases doc with
  | obj members => simpa [ofJson] using exists_setMembers_iff
  | _ => simp [ofJson]

theorem ofJson_eq_error_iff : ofJson doc = .error fault ↔ Refused doc fault := by
  cases doc with
  | obj members =>
    rw [ofJson, setMembers_eq_error_iff]
    constructor
    · rintro ⟨before, key, doc, after, rfl, hbefore, hrefuses⟩
      exact .member hbefore hrefuses
    · intro h
      generalize hdoc : Json.obj members = doc at h
      cases h with
      | notAnObject _ hobj => exact absurd hdoc.symm (hobj members)
      | member hbefore hrefuses => exact ⟨_, _, _, _, Json.obj.inj hdoc, hbefore, hrefuses⟩
  | null => exact ⟨nofun, fun h => by cases h with | notAnObject hnull => exact absurd rfl hnull⟩
  | _ =>
    constructor
    · intro h
      cases h
      exact .notAnObject nofun nofun
    · intro h
      cases h
      rfl

/-- A document is read exactly if it is `null` or an object whose members are admitted by the keys that name them; else
the error is structural, and that of the first member that is refused.  A member that no key names does not matter.
The names of an object are distinct, and then the fetch is the one that the members describe, in whatever order they
stand. -/
theorem ofJson_by_members :
    (∀ doc, (∃ f, ofJson doc = .ok f) ↔ doc = .null ∨ ∃ members, doc = .obj members ∧ Admitted members) ∧
      (∀ doc fault, ofJson doc = .error fault ↔ Refused doc fault) ∧
      (∀ (key : FetchKey) doc, (∃ fault, key.Refuses doc fault) ↔ ¬ key.Admits doc) ∧
      (∀ fault : Fault, fault.toError.isStructural) ∧
      (∀ before name doc after, (∀ key : FetchKey, name ≠ key.name) →
        ofJson (.obj (before ++ (name, doc) :: after)) = ofJson (.obj (before ++ after))) ∧
      ∀ members, (members.map Prod.fst).Nodup →
        (∀ f, ofJson (.obj members) = .ok f ↔ ReadFrom members {} f) ∧
          ∀ members', members.Perm members' → ∀ f, ofJson (.obj members') = .ok f ↔ ofJson (.obj members) = .ok f := by
  refine ⟨fun doc => exists_ofJson_iff, fun doc fault => ofJson_eq_error_iff, fun key doc => exists_refuses_iff,
    Fault.isStructural_toError, fun before name doc after hname => setMembers_unknown hname, fun members hnodup => ?_⟩
  refine ⟨fun f => setMembers_eq_ok_iff hnodup, fun members' hperm f => ?_⟩
  have hnodup' : (members'.map Prod.fst).Nodup := (hperm.map Prod.fst).nodup hnodup
  rw [ofJson, ofJson, setMembers_eq_ok_iff hnodup, setMembers_eq_ok_iff hnodup']
  exact ⟨fun hf => hf.perm hperm.symm, fun hf => hf.perm hperm⟩

/-- The greatest count is read, an unrelated member and the order do not matter, and the first of two members that are
refused makes the error. -/
theorem ofJson_by_members_counted :
    let limit : String × Json := ("limit_size", .int 18446744073709551615)
    let cols : String × Json := ("cols", .arr [.str "id"])
    let unrelated : String × Json := ("unrelated", .obj [("anything", .bool true)])
    let fetch : Fetch := { cols := ["id"], limit := some 18446744073709551615 }
    ofJson (.obj [cols, limit]) = .ok fetch ∧ ofJson (.obj [limit, cols]) = .ok fetch ∧
      ofJson (.obj [cols, unrelated, limit]) = .ok fetch ∧
      ofJson (.obj [limit, ("order", .arr [.int 1]), ("where", .str "id = 1"), cols]) =
        .error (.shape .order "an array of strings" (.arr [.int 1])) := by
  intro limit cols unrelated fetch
  obtain ⟨-, herror, -, -, hunknown, hmembers⟩ := ofJson_by_members
  have hread : ofJson (.obj [cols, limit]) = .ok fetch := rfl
  have hdistinct : ([cols, limit].map Prod.fst).Nodup := by decide
  have hunrelated : ∀ key : FetchKey, "unrelated" ≠ key.name := fun key => by cases key <;> decide
  have hlimit : Admitted [limit] := (exists_setMembers_iff (f := {})).1 ⟨_, rfl⟩
  have horder : FetchKey.order.Refuses (.arr [.int 1]) (.shape .order "an array of strings" (.arr [.int 1])) :=
    (setFromJson_eq_error_iff (f := {})).1 rfl
  refine ⟨hread, ?_, (hunknown [cols] "unrelated" _ [limit] hunrelated).trans hread, ?_⟩
  · exact ((hmembers [cols, limit] hdistinct).2 [limit, cols] (.swap limit cols []) fetch).2 hread
  · exact (herror _ _).2 (.member hlimit horder)

end Fetch

end RecordMapper
