import RecordMapper.Proofs.Relation.Attached
import RecordMapper.Proofs.Relation.Calls
import RecordMapper.Proofs.Relation.Query

/-!
# Loading relations in place

The loader hands out new parents.  Here the parents stand in places and are changed there, and what was changed stays
changed when a later step fails.

* both ways come to the same (`Model.loadInPlace_apply`), since parents are changed only after all that can fail;
* so a load that fails has changed no parent, and one that succeeds has attached to every parent, at the cost of one
  query if any parent has a key and of none otherwise (`loadInPlace_atomic`).
-/

namespace RecordMapper

variable {σ α β : Type}

/-- An operation on parents in their places and on a database; what it changed of either stays changed if it fails. -/
abbrev InPlace (σ α β : Type) := ExceptT Error (StateM (List α × Database σ)) β

namespace InPlace

/-- The parents as they stand. -/
def parents : InPlace σ α (List α) := fun state => (.ok state.1, state)

/-- Changes every parent. -/
def changeEach (f : α → α) : InPlace σ α Unit := fun (parents, db) => (.ok (), (parents.map f, db))

/-- An operation on the database alone. -/
def onDatabase (op : Operation σ β) : InPlace σ α β := fun (parents, db) => ((op db).1, (parents, (op db).2))

theorem bind_apply {γ : Type} (op : InPlace σ α β) (next : β → InPlace σ α γ) (state : List α × Database σ) :
    (op >>= next) state =
      match op state with
      | (.ok b, state) => next b state
      | (.error e, state) => (.error e, state) := by
  simp only [bind, ExceptT.bind, ExceptT.mk, StateT.bind, ExceptT.bindCont]
  cases op state with
  | mk result state => cases result <;> rfl

end InPlace

namespace Relation

variable [Parent α]

/-- Loads a relation, declared under a name, onto parents in their places. -/
def loadInPlace (d : Driver σ) (r : Relation) (name : String) (wrap : Option Bool) : InPlace σ α Unit := do
  let target ← InPlace.onDatabase (r.target d wrap)
  let keys := r.parentKeys (← InPlace.parents)
  if keys.isEmpty then InPlace.changeEach fun p => Parent.attach p name (shape r.kind target [])
  else
    let keyed ← InPlace.onDatabase (r.fetchKeyed d keys)
    InPlace.changeEach (r.attachTo target keyed)

end Relation

/-- Loads a relation of a model onto parents in their places; a name that is no relation leaves them as they are. -/
def Model.loadInPlace [Parent α] (d : Driver σ) (m : Model) (name : String) (wrap : Option Bool) : InPlace σ α Unit :=
  match m.relation? name with
  | none => pure ()
  | some r => r.loadInPlace d name wrap

/-! ### Both ways come to the same -/

/-- What is left in the places of parents by a load: the loaded parents, or, if it fails, those that stood there. -/
def placedBy (parents : List α) : Except Error (List α) → List α
  | .ok loaded => loaded
  | .error _ => parents

theorem placedBy_of_failed {parents : List α} {loaded : Except Error (List α)} {e : Error}
    (h : loaded.map (fun _ => ()) = .error e) : placedBy parents loaded = parents := by
  cases loaded with
  | ok => exact nomatch h
  | error => rfl

theorem exists_of_succeeded {loaded : Except Error (List α)} (h : loaded.map (fun _ => ()) = .ok ()) :
    ∃ after, loaded = .ok after := by
  cases loaded with
  | ok after => exact ⟨after, rfl⟩
  | error => exact nomatch h

section Apply

variable [Parent α] (d : Driver σ) (name : String) (wrap : Option Bool) (parents : List α) (db : Database σ)

theorem Relation.loadInPlace_apply (r : Relation) :
    let loaded := r.load d name parents wrap db
    r.loadInPlace d name wrap (parents, db) = (loaded.1.map fun _ => (), (placedBy parents loaded.1, loaded.2)) := by
  unfold loadInPlace load
  rw [InPlace.bind_apply, Operation.bind_apply, InPlace.onDatabase]
  obtain ⟨_ | target, asked⟩ := r.target d wrap db
  · rfl
  · dsimp only
    rw [InPlace.bind_apply]
    dsimp only [InPlace.parents]
    split
    · rfl
    · rw [InPlace.bind_apply, Operation.bind_apply, InPlace.onDatabase]
      obtain ⟨_ | keyed, answered⟩ := r.fetchKeyed d (r.parentKeys parents) asked
      · rfl
      · rfl

/-- In their places, parents become what the loader makes of them. -/
theorem Model.loadInPlace_apply (m : Model) :
    let loaded := m.loadRelation d parents name wrap db
    m.loadInPlace d name wrap (parents, db) = (loaded.1.map fun _ => (), (placedBy parents loaded.1, loaded.2)) := by
  unfold loadInPlace loadRelation
  cases m.relation? name with
  | none => rfl
  | some r => exact r.loadInPlace_apply d name wrap parents db

theorem Model.loadInPlace_of_none {m : Model} (h : m.relation? name = none) :
    m.loadInPlace d name wrap (parents, db) = (.ok (), (parents, db)) := by
  rw [loadInPlace, h]
  rfl

end Apply

/-! ### What a load changes -/

/-- A parent that something was attached to under a name: it holds that, and all else stays. -/
structure AttachedUnder [Parent α] [LawfulParent α] (name : String) (before after : α) : Prop where
  held : ∃ related, LawfulParent.held? after name = some related
  others : ∀ other, other ≠ name → LawfulParent.held? after other = LawfulParent.held? before other
  keys : ∀ col, Parent.keyValue after col = Parent.keyValue before col

theorem attachedUnder_attach [Parent α] [LawfulParent α] (p : α) (name : String) (related : Related) :
    AttachedUnder name p (Parent.attach p name related) where
  held := ⟨related, by rw [LawfulParent.held?_attach, if_pos rfl]⟩
  others other hother := by rw [LawfulParent.held?_attach, if_neg hother.symm]
  keys col := LawfulParent.keyValue_attach ..

theorem Relation.forall₂_attachedUnder [Parent α] [LawfulParent α] {d : Driver σ} {r : Relation} {name : String}
    {parents : List α} {wrap : Option Bool} {db db' : Database σ} {loaded : List α}
    (h : r.load d name parents wrap db = (.ok loaded, db')) :
    List.Forall₂ (AttachedUnder (r.attachedName name parents)) parents loaded := by
  obtain ⟨related, rfl⟩ := load_attaches h
  rw [List.forall₂_map_right_iff, List.forall₂_same]
  exact fun p _ => attachedUnder_attach p _ (related p)

/--
A load changes all parents or none, and sends one query at most, whatever the driver answers and however many parents
there are.  In their places, parents become what the loader makes of them; if the load fails, they are as they were.  A
name that is no relation changes nothing and sends nothing.  When a declared relation is loaded, something is attached
to every parent, and just one query was sent, if any parent has a key, and otherwise none.  Nothing that writes is ever
sent.
-/
theorem loadInPlace_atomic [Parent α] [LawfulParent α] (d : Driver σ) (m : Model) (name : String) (wrap : Option Bool)
    (parents : List α) (db : Database (List Event × σ)) :
    let run := m.loadInPlace d.traced name wrap (parents, db)
    let loaded := m.loadRelation d.traced parents name wrap db
    run = (loaded.1.map fun _ => (), (placedBy parents loaded.1, loaded.2)) ∧
      ∃ events, run.2.2.events = db.events ++ events ∧ OnlyAsks events ∧ (queries events).length ≤ 1 ∧
        (∀ e, run.1 = .error e → run.2.1 = parents) ∧
        (m.relation? name = none → run = (.ok (), (parents, db)) ∧ events = []) ∧
        ∀ r, m.relation? name = some r → run.1 = .ok () →
          List.Forall₂ (AttachedUnder (r.attachedName name parents)) parents run.2.1 ∧
            (r.HasKey parents → (queries events).length = 1) ∧ (¬ r.HasKey parents → queries events = []) := by
  intro run loaded
  have hrun : run = (loaded.1.map fun _ => (), (placedBy parents loaded.1, loaded.2)) :=
    m.loadInPlace_apply d.traced name wrap parents db
  refine ⟨hrun, ?_⟩
  cases hr : m.relation? name with
  | none =>
    have hsame : run = (.ok (), (parents, db)) := Model.loadInPlace_of_none d.traced name wrap parents db hr
    rw [hsame]
    exact ⟨[], (List.append_nil _).symm, .nil, Nat.zero_le 1, fun _ _ => rfl, fun _ => ⟨rfl, rfl⟩,
      fun r h => absurd h.symm (Option.some_ne_none r)⟩
  | some r =>
    have hload : loaded = r.load d.traced name parents wrap db := by
      show m.loadRelation d.traced parents name wrap db = _
      rw [Model.loadRelation, hr]
    obtain ⟨events, htrace, hcalls⟩ := r.yields_load_calls d name parents wrap db
    rw [← hload] at htrace hcalls
    rw [hrun]
    refine ⟨events, htrace, hcalls.asks, hcalls.atMostOne, fun e he => placedBy_of_failed he,
      fun h => absurd h (Option.some_ne_none r), ?_⟩
    rintro _ ⟨⟩ hok
    obtain ⟨after, hafter⟩ := exists_of_succeeded hok
    refine ⟨?_, fun hkey => hcalls.one ⟨after, hafter⟩ (Relation.hasKey_iff.1 hkey),
      fun hkey => hcalls.none (mt Relation.hasKey_iff.2 hkey)⟩
    rw [hafter]
    exact Relation.forall₂_attachedUnder (hload.symm.trans (Prod.ext hafter rfl))

end RecordMapper
