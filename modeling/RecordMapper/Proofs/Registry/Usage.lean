import RecordMapper.Registry

/-!
# Registries in use

A registry is made empty and then used by any sequence of operations, while the world of its factories goes on beside
it. Every run of a factory is entered in a log, so that it is seen which factories have run, and when.

* a look-up comes to one of four things (`Usage.Answer`): the name has a handle, it has a factory that opens one or
  fails, or it is unknown;
* the names of a registry are those that are registered, each once (`nodup_names`, `mem_names_iff`);
* as long as a name is not registered anew or removed, its handle stays (`Usage.handle_after`), and its factory opens
  one at most once (`Usage.successes_after_le`);
* a name that is registered anew has no handle until it is looked up (`Usage.Awaits.after`);
* `usage_consistent` puts this together.
-/

namespace RecordMapper.Registry

variable {ω η : Type}

/-! ### Names -/

theorem nodup_names (r : Registry ω η) : r.names.Nodup := by
  have hextra : ((r.handles.keys.filter fun name => !r.factories.contains name).mergeSort (· ≤ ·)).Nodup :=
    (List.mergeSort_perm _ _).nodup_iff.2 (r.handles.nodup_keys.filter _)
  refine List.nodup_append.2 ⟨r.factories.nodup_keys, hextra, fun name hfactory other hother => ?_⟩
  rintro rfl
  have hmere := (List.mem_filter.1 (List.mem_mergeSort.1 hother)).2
  rw [OrderedMap.mem_keys_iff.1 hfactory] at hmere
  exact nomatch hmere

theorem isRegistered_iff {r : Registry ω η} {name : String} :
    r.isRegistered name = true ↔ name ∈ r.factories.keys ∨ name ∈ r.handles.keys := by
  rw [isRegistered, Bool.or_eq_true, OrderedMap.mem_keys_iff, OrderedMap.mem_keys_iff]

theorem mem_names_iff {r : Registry ω η} {name : String} : name ∈ r.names ↔ r.isRegistered name = true := by
  rw [isRegistered_iff, names, List.mem_append, List.mem_mergeSort, List.mem_filter, OrderedMap.mem_keys_iff]
  cases r.factories.contains name <;> simp

theorem isRegistered_eq_false_iff {r : Registry ω η} {name : String} :
    r.isRegistered name = false ↔ r.factories.get? name = none ∧ r.handles.get? name = none := by
  rw [isRegistered, Bool.or_eq_false_iff, OrderedMap.contains, OrderedMap.contains, Option.isSome_eq_false_iff,
    Option.isSome_eq_false_iff, Option.isNone_iff_eq_none, Option.isNone_iff_eq_none]

/-! ### Operations -/

/-- A run of a factory: the name under which it is registered, and what came of it. -/
structure Opening (η : Type) where
  name : String
  result : Except Error η

/-- A factory that enters its runs in a log. -/
def logged (name : String) (factory : Factory ω η) : Factory (List (Opening η) × ω) η := fun (openings, world) =>
  let (result, world) := factory world
  (result, openings ++ [⟨name, result⟩], world)

/-- A registry in use, the runs of its factories so far, and their world. -/
structure Usage (ω η : Type) where
  registry : Registry (List (Opening η) × ω) η := {}
  openings : List (Opening η) := []
  world : ω

/-- An operation on a registry. -/
inductive Step (ω η : Type) where
  | register (name : String) (factory : Factory ω η)
  | registerHandle (name : String) (handle : η)
  | get (name : String)
  | getDefault
  | isRegistered (name : String)
  | names
  | remove (name : String)
  /-- Something happens in the world of the factories. -/
  | elsewhere (change : ω → ω)

/-- What a look-up gives, and the registry in use after it. -/
def Usage.look (u : Usage ω η)
    (op : Registry (List (Opening η) × ω) η →
      StateM (List (Opening η) × ω) (Except Error η × Registry (List (Opening η) × ω) η)) :
    Except Error η × Usage ω η :=
  let ((result, registry), openings, world) := op u.registry (u.openings, u.world)
  (result, { registry, openings, world })

/-- The look-up of a name. -/
def Usage.get (u : Usage ω η) (name : String) : Except Error η × Usage ω η :=
  u.look fun r => r.get name

/-- The registry in use after an operation. -/
def Step.run (u : Usage ω η) : Step ω η → Usage ω η
  | .register name factory => { u with registry := u.registry.register name (logged name factory) }
  | .registerHandle name handle => { u with registry := u.registry.registerHandle name handle }
  | .get name => (u.get name).2
  | .getDefault => (u.look Registry.getDefault).2
  | .isRegistered _ | .names => u
  | .remove name => { u with registry := u.registry.remove name }
  | .elsewhere change => { u with world := change u.world }

/-- The registry in use after some operations. -/
def Usage.after (u : Usage ω η) (steps : List (Step ω η)) : Usage ω η :=
  steps.foldl Step.run u

namespace Step

/-- Whether an operation registers a name anew or removes it. -/
def changes (name : String) : Step ω η → Prop
  | .register n _ | .registerHandle n _ | .remove n => n = name
  | _ => False

/-- Whether an operation registers a handle under a name or removes the name. -/
def overrides (name : String) : Step ω η → Prop
  | .registerHandle n _ | .remove n => n = name
  | _ => False

/-- Whether an operation looks a name up. -/
def looksUp (name : String) : Step ω η → Prop
  | .get n => n = name
  | .getDefault => defaultName = name
  | _ => False

/-- The factory of a name after an operation, unless the operation overrides it. -/
def factoryAfter (name : String) (factory : Factory ω η) : Step ω η → Factory ω η
  | .register n other => if n = name then other else factory
  | _ => factory

end Step

namespace Usage

variable {u : Usage ω η} {name : String}

/-! ### Look-ups -/

/-- The registry with the handle that the factory of a name opens, if it does. -/
def keeping (r : Registry (List (Opening η) × ω) η) (name : String) :
    Except Error η → Registry (List (Opening η) × ω) η
  | .ok handle => r.registerHandle name handle
  | .error _ => r

/-- A handle is given as it is, and nothing runs. -/
theorem get_of_handle {handle : η} (h : u.registry.handles.get? name = some handle) : u.get name = (.ok handle, u) := by
  unfold get look Registry.get
  dsimp only
  rw [h]

/-- Without a handle, the factory of a name runs, and its handle is kept. -/
theorem get_of_factory {factory : Factory ω η} {result : Except Error η} {world : ω}
    (hhandle : u.registry.handles.get? name = none)
    (hfactory : u.registry.factories.get? name = some (logged name factory))
    (hrun : factory u.world = (result, world)) :
    u.get name = (result, ⟨keeping u.registry name result, u.openings ++ [⟨name, result⟩], world⟩) := by
  unfold get look Registry.get
  dsimp only
  rw [hhandle, hfactory]
  dsimp only [logged]
  rw [hrun]
  cases result <;> rfl

theorem get_of_unknown (hhandle : u.registry.handles.get? name = none)
    (hfactory : u.registry.factories.get? name = none) : u.get name = (.error (unknownName name), u) := by
  unfold get look Registry.get
  dsimp only
  rw [hhandle, hfactory]

/-- The factories of a registry in use enter their runs under their names. -/
def Logs (u : Usage ω η) : Prop :=
  ∀ name factory, u.registry.factories.get? name = some factory → ∃ f, factory = logged name f

/-- What the look-up of a name may come to. -/
inductive Answer (u : Usage ω η) (name : String) : Except Error η × Usage ω η → Prop where
  | held {handle : η} (hhandle : u.registry.handles.get? name = some handle) : Answer u name (.ok handle, u)
  | ran {factory : Factory ω η} {result : Except Error η} {world : ω}
      (hhandle : u.registry.handles.get? name = none)
      (hfactory : u.registry.factories.get? name = some (logged name factory))
      (hrun : factory u.world = (result, world)) :
      Answer u name (result, ⟨keeping u.registry name result, u.openings ++ [⟨name, result⟩], world⟩)
  | unknown (hhandle : u.registry.handles.get? name = none) (hfactory : u.registry.factories.get? name = none) :
      Answer u name (.error (unknownName name), u)

theorem Logs.answer (h : u.Logs) (name : String) : u.Answer name (u.get name) := by
  cases hhandle : u.registry.handles.get? name with
  | some handle =>
    rw [get_of_handle hhandle]
    exact .held hhandle
  | none =>
    cases hfactory : u.registry.factories.get? name with
    | none =>
      rw [get_of_unknown hhandle hfactory]
      exact .unknown hhandle hfactory
    | some factory =>
      obtain ⟨f, rfl⟩ := h name factory hfactory
      rw [get_of_factory hhandle hfactory rfl]
      exact .ran hhandle hfactory rfl

namespace Answer

variable {answer : Except Error η × Usage ω η} {other : String}

/-- A look-up leaves the factories as they are. -/
theorem factories (h : u.Answer name answer) : answer.2.registry.factories = u.registry.factories := by
  cases h with
  | held => rfl
  | @ran factory result => cases result <;> rfl
  | unknown => rfl

/-- Only the handle of the name itself may be new. -/
theorem handle_other (h : u.Answer name answer) (hne : name ≠ other) :
    answer.2.registry.handles.get? other = u.registry.handles.get? other := by
  cases h with
  | held => rfl
  | @ran factory result =>
    cases result with
    | ok handle => exact OrderedMap.get?_insert.trans (if_neg hne)
    | error e => rfl
  | unknown => rfl

/-- A handle that is open stays open. -/
theorem handle {handle : η} (h : u.Answer name answer) (hhandle : u.registry.handles.get? other = some handle) :
    answer.2.registry.handles.get? other = some handle := by
  by_cases hname : name = other
  · subst hname
    cases h with
    | held => exact hhandle
    | ran hnone => exact absurd (hnone.symm.trans hhandle) nofun
    | unknown hnone => exact absurd (hnone.symm.trans hhandle) nofun
  · rw [h.handle_other hname, hhandle]

/-- A look-up that gives a handle leaves it behind. -/
theorem handle_of_ok {handle : η} (h : u.Answer name answer) (hok : answer.1 = .ok handle) :
    answer.2.registry.handles.get? name = some handle := by
  cases h with
  | held hhandle =>
    obtain rfl := Except.ok.inj hok
    exact hhandle
  | ran =>
    obtain rfl : _ = Except.ok handle := hok
    exact OrderedMap.get?_insert_self
  | unknown => exact nomatch hok

/-- A look-up that fails changes nothing in the registry. -/
theorem registry_of_error {e : Error} (h : u.Answer name answer) (herror : answer.1 = .error e) :
    answer.2.registry = u.registry := by
  cases h with
  | held => exact nomatch herror
  | ran =>
    obtain rfl : _ = Except.error e := herror
    rfl
  | unknown => rfl

end Answer

/-! ### Runs -/

theorem Logs.of_factories {v : Usage ω η} (h : u.Logs) (hsame : v.registry.factories = u.registry.factories) :
    v.Logs := by
  intro name factory hfactory
  rw [hsame] at hfactory
  exact h name factory hfactory

theorem Logs.run (h : u.Logs) (s : Step ω η) : (s.run u).Logs := by
  cases s with
  | register n f =>
    intro name factory hfactory
    rw [Step.run, register, OrderedMap.get?_insert] at hfactory
    split at hfactory
    · rename_i hn
      subst hn
      exact ⟨f, (Option.some.inj hfactory).symm⟩
    · exact h name factory hfactory
  | registerHandle n handle => exact h
  | get n => exact h.of_factories (h.answer n).factories
  | getDefault => exact h.of_factories (h.answer defaultName).factories
  | isRegistered n => exact h
  | names => exact h
  | remove n =>
    intro name factory hfactory
    rw [Step.run, remove, OrderedMap.get?_erase] at hfactory
    split at hfactory
    · cases hfactory
    · exact h name factory hfactory
  | elsewhere change => exact h

theorem after_cons (u : Usage ω η) (s : Step ω η) (steps : List (Step ω η)) :
    u.after (s :: steps) = (s.run u).after steps := rfl

theorem Logs.after (h : u.Logs) (steps : List (Step ω η)) : (u.after steps).Logs := by
  induction steps generalizing u with
  | nil => exact h
  | cons s steps ih => exact ih (h.run s)

theorem logs_new (world : ω) : ({ world } : Usage ω η).Logs := nofun

section Handle

variable {handle : η} (hlogs : u.Logs) (hhandle : u.registry.handles.get? name = some handle)

include hlogs hhandle

/-- A handle stays, unless its name is registered anew or removed. -/
theorem handle_run {s : Step ω η} (hs : ¬ s.changes name) :
    (s.run u).registry.handles.get? name = some handle := by
  cases s with
  | register n f => exact OrderedMap.get?_erase.trans ((if_neg hs).trans hhandle)
  | registerHandle n other => exact OrderedMap.get?_insert.trans ((if_neg hs).trans hhandle)
  | get n => exact (hlogs.answer n).handle hhandle
  | getDefault => exact (hlogs.answer defaultName).handle hhandle
  | isRegistered n => exact hhandle
  | names => exact hhandle
  | remove n => exact OrderedMap.get?_erase.trans ((if_neg hs).trans hhandle)
  | elsewhere change => exact hhandle

theorem handle_after {steps : List (Step ω η)} (hsteps : ∀ s ∈ steps, ¬ s.changes name) :
    (u.after steps).registry.handles.get? name = some handle := by
  induction steps generalizing u with
  | nil => exact hhandle
  | cons s steps ih =>
    obtain ⟨hs, hrest⟩ := List.forall_mem_cons.1 hsteps
    exact ih (hlogs.run s) (handle_run hlogs hhandle hs) hrest

end Handle

/-! ### How often a factory opens a handle -/

/-- How often the factory of a name has opened a handle. -/
def successes (name : String) (openings : List (Opening η)) : Nat :=
  openings.countP fun o => o.name == name && o.result.isOk

/-- A name without a handle is one for which a factory may still open one. -/
def vacancy (u : Usage ω η) (name : String) : Nat :=
  if (u.registry.handles.get? name).isSome then 0 else 1

theorem vacancy_congr {v : Usage ω η}
    (h : v.registry.handles.get? name = u.registry.handles.get? name) : v.vacancy name = u.vacancy name := by
  rw [vacancy, h, vacancy]

/-- Each handle that is opened fills the place of the name. -/
theorem Answer.successes_add_vacancy {answer : Except Error η × Usage ω η} {other : String}
    (h : u.Answer name answer) :
    successes other answer.2.openings + answer.2.vacancy other =
      successes other u.openings + u.vacancy other := by
  cases h with
  | held => rfl
  | unknown => rfl
  | @ran factory result world hhandle =>
    have hcount : successes other (u.openings ++ [⟨name, result⟩]) =
        successes other u.openings + if (name == other && result.isOk) = true then 1 else 0 := by
      rw [successes, List.countP_append, List.countP_singleton]
      rfl
    dsimp only
    rw [hcount]
    cases result with
    | error e =>
      rw [if_neg (by simp [Except.isOk, Except.toBool])]
      rfl
    | ok handle =>
      by_cases hname : name = other
      · subst hname
        simp [Except.isOk, Except.toBool, keeping, vacancy, registerHandle, hhandle]
      · have hother : (u.registry.registerHandle name handle).handles.get? other =
            u.registry.handles.get? other := OrderedMap.get?_insert.trans (if_neg hname)
        simp [keeping, vacancy, hother, hname]

theorem Logs.successes_run (h : u.Logs) {s : Step ω η} (hs : ¬ s.changes name) :
    successes name (s.run u).openings + (s.run u).vacancy name = successes name u.openings + u.vacancy name := by
  cases s with
  | register n f => exact congrArg _ (vacancy_congr (OrderedMap.get?_erase.trans (if_neg hs)))
  | registerHandle n handle => exact congrArg _ (vacancy_congr (OrderedMap.get?_insert.trans (if_neg hs)))
  | get n => exact (h.answer n).successes_add_vacancy
  | getDefault => exact (h.answer defaultName).successes_add_vacancy
  | isRegistered n => rfl
  | names => rfl
  | remove n => exact congrArg _ (vacancy_congr (OrderedMap.get?_erase.trans (if_neg hs)))
  | elsewhere change => rfl

theorem Logs.successes_after (h : u.Logs) {steps : List (Step ω η)} (hsteps : ∀ s ∈ steps, ¬ s.changes name) :
    successes name (u.after steps).openings + (u.after steps).vacancy name =
      successes name u.openings + u.vacancy name := by
  induction steps generalizing u with
  | nil => rfl
  | cons s steps ih =>
    obtain ⟨hs, hrest⟩ := List.forall_mem_cons.1 hsteps
    rw [after_cons, ih (h.run s) hrest, h.successes_run hs]

/-- As long as a name is not changed, its factory opens at most one handle. -/
theorem Logs.successes_after_le (h : u.Logs) {steps : List (Step ω η)} (hsteps : ∀ s ∈ steps, ¬ s.changes name) :
    successes name (u.after steps).openings ≤ successes name u.openings + 1 := by
  have hsum := h.successes_after hsteps
  have hplace : u.vacancy name ≤ 1 := by
    rw [vacancy]
    split <;> omega
  omega

/-! ### A name that is registered anew -/

/-- A name has a factory and no handle. -/
structure Awaits (u : Usage ω η) (name : String) (factory : Factory ω η) : Prop where
  handle : u.registry.handles.get? name = none
  factory : u.registry.factories.get? name = some (logged name factory)

theorem awaits_register (u : Usage ω η) (name : String) (factory : Factory ω η) :
    ((Step.register name factory).run u).Awaits name factory :=
  ⟨OrderedMap.get?_erase.trans (if_pos rfl), OrderedMap.get?_insert_self⟩

namespace Awaits

variable {factory : Factory ω η}

/-- The look-up runs the factory, and gives what it gives. -/
theorem get (h : u.Awaits name factory) :
    (u.get name).1 = (factory u.world).1 ∧
      (u.get name).2.openings = u.openings ++ [⟨name, (factory u.world).1⟩] := by
  rw [get_of_factory h.handle h.factory rfl]
  exact ⟨rfl, rfl⟩

theorem of_answer {n : String} {answer : Except Error η × Usage ω η} (h : u.Awaits name factory)
    (hanswer : u.Answer n answer) (hne : n ≠ name) : answer.2.Awaits name factory :=
  ⟨(hanswer.handle_other hne).trans h.handle, hanswer.factories ▸ h.factory⟩

theorem run (h : u.Awaits name factory) (hlogs : u.Logs) {s : Step ω η} (hlook : ¬ s.looksUp name)
    (hover : ¬ s.overrides name) : (s.run u).Awaits name (s.factoryAfter name factory) := by
  cases s with
  | register n f =>
    by_cases hn : n = name
    · subst hn
      rw [Step.factoryAfter, if_pos rfl]
      exact awaits_register u n f
    · rw [Step.factoryAfter, if_neg hn]
      exact ⟨OrderedMap.get?_erase.trans ((if_neg hn).trans h.handle),
        OrderedMap.get?_insert.trans ((if_neg hn).trans h.factory)⟩
  | registerHandle n handle => exact ⟨OrderedMap.get?_insert.trans ((if_neg hover).trans h.handle), h.factory⟩
  | get n => exact h.of_answer (hlogs.answer n) hlook
  | getDefault => exact h.of_answer (hlogs.answer defaultName) hlook
  | isRegistered n => exact h
  | names => exact h
  | remove n =>
    exact ⟨OrderedMap.get?_erase.trans ((if_neg hover).trans h.handle),
      OrderedMap.get?_erase.trans ((if_neg hover).trans h.factory)⟩
  | elsewhere change => exact ⟨h.handle, h.factory⟩

/-- The factory that was registered last is the one that the next look-up runs. -/
theorem after (h : u.Awaits name factory) (hlogs : u.Logs) {steps : List (Step ω η)}
    (hsteps : ∀ s ∈ steps, ¬ s.looksUp name ∧ ¬ s.overrides name) :
    (u.after steps).Awaits name (steps.foldl (Step.factoryAfter name) factory) := by
  induction steps generalizing u factory with
  | nil => exact h
  | cons s steps ih =>
    obtain ⟨⟨hlook, hover⟩, hrest⟩ := List.forall_mem_cons.1 hsteps
    exact ih (h.run hlogs hlook hover) (hlogs.run s) hrest

end Awaits

/-! ### The registry as its users see it -/

/-- The look-up of a name fails because the registry does not know it, and not because a factory failed. -/
def IsUnknown (u : Usage ω η) (name : String) : Prop :=
  (u.get name).1 = .error (unknownName name) ∧ (u.get name).2.openings = u.openings

theorem Logs.isUnknown_iff (h : u.Logs) : u.IsUnknown name ↔ u.registry.isRegistered name = false := by
  rw [isRegistered_eq_false_iff]
  constructor
  · rintro ⟨herror, hsame⟩
    have hanswer := h.answer name
    generalize u.get name = answer at herror hsame hanswer
    cases hanswer with
    | held => exact nomatch herror
    | ran => exact absurd hsame (by simp)
    | unknown hhandle hfactory => exact ⟨hfactory, hhandle⟩
  · rintro ⟨hfactory, hhandle⟩
    rw [IsUnknown, get_of_unknown hhandle hfactory]
    exact ⟨rfl, rfl⟩

end Usage

open Usage

/--
A registry in use, after any operations.  It lists each name once; it lists a name exactly if the name is registered,
and exactly if the look-up of the name does not fail as unknown.  A look-up that fails leaves the registry as it was.
As long as a name is not registered anew or removed, a look-up after one that gave a handle gives the same handle, and
nothing runs for it; and its factory opens at most one handle.  After a name is registered with a factory, and as long
as no handle is registered under it and it is not removed, the next look-up runs the factory that was registered last
and gives what comes of this run.
-/
theorem usage_consistent (start : ω) (before : List (Step ω η)) (name : String) :
    let u := ({ world := start } : Usage ω η).after before
    u.registry.names.Nodup ∧
      (name ∈ u.registry.names ↔ u.registry.isRegistered name = true) ∧
      (name ∈ u.registry.names ↔ ¬ u.IsUnknown name) ∧
      (∀ e, (u.get name).1 = .error e → (u.get name).2.registry = u.registry) ∧
      (∀ steps, (∀ s ∈ steps, ¬ s.changes name) →
        (∀ handle, (u.get name).1 = .ok handle →
          ((u.get name).2.after steps).get name = (.ok handle, (u.get name).2.after steps)) ∧
        successes name (u.after steps).openings ≤ successes name u.openings + 1) ∧
      ∀ factory steps, (∀ s ∈ steps, ¬ s.looksUp name ∧ ¬ s.overrides name) →
        let v := ((Step.register name factory).run u).after steps
        let result := (steps.foldl (Step.factoryAfter name) factory v.world).1
        (v.get name).1 = result ∧ (v.get name).2.openings = v.openings ++ [⟨name, result⟩] := by
  intro u
  have hlogs : u.Logs := (logs_new start).after before
  refine ⟨nodup_names u.registry, mem_names_iff, ?_, fun e => (hlogs.answer name).registry_of_error,
    fun steps hsteps => ⟨fun handle hok => ?_, hlogs.successes_after_le hsteps⟩, fun factory steps hsteps => ?_⟩
  · rw [hlogs.isUnknown_iff, Bool.not_eq_false, mem_names_iff]
  · have hfound : (u.get name).2.Logs := hlogs.run (.get name)
    exact get_of_handle (handle_after hfound ((hlogs.answer name).handle_of_ok hok) hsteps)
  · exact ((awaits_register u name factory).after (hlogs.run (.register name factory)) hsteps).get

namespace Usage.Example

/-- A factory of reports that opens a handle with the number of its run, but fails at first. -/
def reports : Factory Nat Nat := fun n =>
  (if n = 0 then .error (.custom "down") else .ok n, n + 1)

/-- Reports are looked up once, and another handle is registered. -/
def before : List (Step Nat Nat) :=
  [.register "reports" reports, .registerHandle "replica" 100, .get "reports"]

/-- The registry in use. -/
def used : Usage Nat Nat := ({ world := 0 } : Usage Nat Nat).after before

/-- Two look-ups of reports, and another name that is removed between them. -/
def between : List (Step Nat Nat) := [.get "reports", .remove "replica", .get "reports"]

/-- Reports that are registered anew. -/
def renewed : Usage Nat Nat := ((Step.register "reports" reports).run used).after [.elsewhere (· + 7), .names]

end Usage.Example

open Usage.Example in
/-- The first look-up fails.  Once reports are open they stay so, and a factory that is registered anew runs. -/
theorem usage_consistent_reports :
    (∀ s ∈ between, ¬ s.changes "reports") ∧ (used.get "reports").1 = .ok 1 ∧
      "reports" ∈ used.registry.names ∧ ¬ used.IsUnknown "reports" ∧
      ((used.get "reports").2.after between).get "reports" = (.ok 1, (used.get "reports").2.after between) ∧
      successes "reports" (used.after between).openings ≤ 1 ∧ (renewed.get "reports").1 = .ok 8 := by
  obtain ⟨-, hregistered, hknown, -, hsteps, hrenewed⟩ := usage_consistent 0 before "reports"
  have hlisted : "reports" ∈ used.registry.names := hregistered.2 rfl
  have hbetween : ∀ s ∈ between, ¬ s.changes "reports" := by
    simp [between, Step.changes]
  have hopen : (used.get "reports").1 = .ok 1 := rfl
  have hrenewal : ∀ s ∈ [Step.elsewhere (· + 7), Step.names], ¬ (s : Step Nat Nat).looksUp "reports" ∧
      ¬ s.overrides "reports" := by
    simp [Step.looksUp, Step.overrides]
  obtain ⟨hsame, honce⟩ := hsteps between hbetween
  exact ⟨hbetween, hopen, hlisted, hknown.1 hlisted, hsame 1 hopen, honce, (hrenewed reports _ hrenewal).1⟩

end RecordMapper.Registry
