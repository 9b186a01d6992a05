import RecordMapper.Collection.Save
import RecordMapper.Proofs.Collection.Writable
import RecordMapper.Proofs.Record.Steps

/-!
# Read-only records in use

Read-only records, alone and in collections, are looked up, loaded with relations, and asked to change, by any sequence
of uses on one database.

* `Record.Use` and `Collection.Use` are the uses, `Holding.Step` those of several records and collections at once;
* a use only asks, it is refused if it was to change something, and leaves what was there, up to columns that are filled
  in with `NULL` and to related rows (`OnlyRead`): of a record (`Record.yields_use`), of a collection
  (`Collection.yields_use`), and of all that is held (`Holding.yields_step`);
* so it is with every sequence of them (`readOnly_run_only_reads`).
-/

namespace RecordMapper

variable {σ α β : Type}

/-! ### Uses -/

/-- An operation of which only the success and what it leaves are kept. -/
def withoutValue (op : StateM (Database σ) (Except Error β × α)) : StateM (Database σ) (Except Error Unit × α) :=
  (fun p => (p.1.map fun _ => (), p.2)) <$> op

/-- A use as of something that is only read: its calls only ask, it is refused if it was to change anything, and what it
leaves is, as far as that matters, what was there. -/
structure OnlyRead (same : α → α → Prop) (changes : Prop) (before : α) (used : Except Error Unit × α)
    (events : List Event) : Prop where
  asks : OnlyAsks events
  refused : changes → ∃ message, used.1 = .error (.unsupportedOperation message)
  same : same before used.2

/-- A use that is refused before anything is done. -/
theorem OnlyRead.of_refused {same : α → α → Prop} {changes : Prop} {before : α} (message : String)
    (hsame : same before before) :
    OnlyRead same changes before (.error (.unsupportedOperation message), before) [] where
  asks := .nil
  refused _ := ⟨message, rfl⟩
  same := hsame

/-! ### Records -/

namespace Record

/-- A record that has changed by nothing but values of columns that were missing, which are now `NULL`, and by related
rows. -/
structure Unaltered (before after : Record) : Prop where
  model : after.model = before.model
  access : after.access = before.access
  initial : after.initial = before.initial
  scratch : after.scratch = before.scratch
  isNew : after.isNew = before.isNew
  value : ∀ col, (after.data.get? col).getD .null = (before.data.get? col).getD .null

namespace Unaltered

theorem refl (r : Record) : r.Unaltered r :=
  ⟨rfl, rfl, rfl, rfl, rfl, fun _ => rfl⟩

theorem trans {r s t : Record} (h : r.Unaltered s) (h' : s.Unaltered t) : r.Unaltered t where
  model := h'.model.trans h.model
  access := h'.access.trans h.access
  initial := h'.initial.trans h.initial
  scratch := h'.scratch.trans h.scratch
  isNew := h'.isNew.trans h.isNew
  value col := (h'.value col).trans (h.value col)

theorem attach (r : Record) (name : String) (related : Related) : r.Unaltered (r.attach name related) :=
  ⟨rfl, rfl, rfl, rfl, rfl, fun _ => rfl⟩

theorem of_attach {r s : Record} (h : s = r ∨ ∃ name related, s = r.attach name related) : r.Unaltered s := by
  rcases h with rfl | ⟨name, related, rfl⟩
  · exact .refl s
  · exact .attach r name related

/-- A missing value counts as `NULL`, so it may as well be filled in. -/
theorem filled {r : Record} {col : String} (hmissing : r.data.get? col = none) :
    r.Unaltered { r with data := r.data.insert col .null } where
  model := rfl
  access := rfl
  initial := rfl
  scratch := rfl
  isNew := rfl
  value other := by
    rw [OrderedMap.get?_insert]
    split
    · rename_i h
      rw [← h, hmissing]
      rfl
    · rfl

end Unaltered

theorem unaltered_get (d : Driver σ) (r : Record) (name : String) (db : Database σ) :
    r.Unaltered (r.get d name db).1.2 := by
  cases hheld : r.holds name with
  | true =>
    have hsame : (r.get d name db).1.2 = r := by
      unfold get
      rw [if_pos hheld]
      rfl
    rw [hsame]
    exact .refl r
  | false =>
    rcases get_record d r name db with hsame | ⟨-, hfilled⟩ | ⟨name', related, hattached⟩
    · rw [hsame]
      exact .refl r
    · rw [hfilled]
      simp only [holds, Bool.or_eq_false_iff] at hheld
      refine .filled (Option.not_isSome_iff_eq_none.1 ?_)
      rw [← OrderedMap.contains, hheld.1.1]
      exact Bool.false_ne_true
    · rw [hattached]
      exact .attach r name' related

/-- A use of a record of either access. -/
inductive Use where
  | lookup (name : String)
  | get (name : String)
  | attach (name : String) (related : Related)
  /-- A relation of a model is loaded onto the record and others. -/
  | loadRelation (m : Model) (before after : List Record) (name : String) (wrap : Option Bool)
  | trySet (name : String) (v : Value)
  | tryUnset (name : String)
  | trySave
  | tryDelete (clear : Bool)

namespace Use

/-- Whether the use is to change the record or its row. -/
def isChange : Use → Bool
  | .trySet .. | .tryUnset _ | .trySave | .tryDelete _ => true
  | .lookup _ | .get _ | .attach .. | .loadRelation .. => false

/-- The use of a record. -/
def run (d : Driver σ) (r : Record) : Use → StateM (Database σ) (Except Error Unit × Record)
  | .lookup _ => pure (.ok (), r)
  | .get name => withoutValue (r.get d name)
  | .attach name related => pure (.ok (), r.attach name related)
  | .loadRelation m before after name wrap => fun db =>
    match m.loadRelation d (before ++ r :: after) name wrap db with
    | (.ok loaded, db) => ((.ok (), loaded.getD before.length r), db)
    | (.error e, db) => ((.error e, r), db)
  | .trySet name v => pure ((r.trySet name v).map fun _ => (), (r.trySet name v).toOption.getD r)
  | .tryUnset name => pure ((r.tryUnset name).map fun _ => (), (r.tryUnset name).toOption.getD r)
  | .trySave => withoutValue (r.trySave d)
  | .tryDelete clear => withoutValue (r.tryDelete d clear)

end Use

/-- A read-only record refuses every change, and sends nothing. -/
theorem Use.run_of_isChange (d : Driver σ) {r : Record} (hreadOnly : r.access = .readOnly) {use : Use}
    (hchange : use.isChange = true) : use.run d r = pure (.error r.readOnlyError, r) := by
  cases use with
  | lookup | get | attach | loadRelation => exact nomatch hchange
  | trySet => simp only [run, Record.trySet, hreadOnly]; rfl
  | tryUnset => simp only [run, Record.tryUnset, hreadOnly]; rfl
  | trySave => simp only [run, Record.trySave, hreadOnly]; rfl
  | tryDelete => simp only [run, Record.tryDelete, hreadOnly]; rfl

/-- A read-only record is only read, whatever it is used for. -/
theorem yields_use (d : Driver σ) {r : Record} (hreadOnly : r.access = .readOnly) (use : Use) :
    Yields (use.run d.traced r) (OnlyRead Unaltered (use.isChange = true) r) := by
  cases hchange : use.isChange with
  | true =>
    rw [Use.run_of_isChange d.traced hreadOnly hchange]
    exact Yields.pure (.of_refused _ (.refl r))
  | false =>
    cases use with
    | trySet | tryUnset | trySave | tryDelete => exact nomatch hchange
    | lookup name => exact Yields.pure ⟨.nil, (nomatch ·), .refl r⟩
    | attach name related => exact Yields.pure ⟨.nil, (nomatch ·), .attach r name related⟩
    | get name =>
      intro db
      obtain ⟨events, htrace, hasks⟩ := yields_get_asks d r name db
      exact ⟨events, htrace, hasks, (nomatch ·), unaltered_get d.traced r name db⟩
    | loadRelation m before after name wrap =>
      intro db
      obtain ⟨events, htrace, hasks⟩ := m.yields_loadRelation_asks d (before ++ r :: after) name wrap db
      have hrecord := Unaltered.of_attach (loadRelation_record d.traced r m before after name wrap db)
      refine ⟨events, ?_, hasks, (nomatch ·), ?_⟩
      · refine Eq.trans ?_ htrace
        dsimp only [Use.run]
        generalize m.loadRelation d.traced (before ++ r :: after) name wrap db = answer
        obtain ⟨_ | _, ended⟩ := answer <;> rfl
      · dsimp only [Use.run, Step.run] at hrecord ⊢
        generalize m.loadRelation d.traced (before ++ r :: after) name wrap db = answer at hrecord ⊢
        obtain ⟨_ | _, ended⟩ := answer <;> exact hrecord

end Record

/-! ### Things in places -/

theorem forall₂_of_refl {R : α → α → Prop} (hrefl : ∀ a, R a a) (l : List α) : List.Forall₂ R l l :=
  List.forall₂_same.2 fun a _ => hrefl a

theorem forall₂_trans {R : α → α → Prop} (htrans : ∀ a b c, R a b → R b c → R a c) {l₁ l₂ l₃ : List α}
    (h : List.Forall₂ R l₁ l₂) (h' : List.Forall₂ R l₂ l₃) : List.Forall₂ R l₁ l₃ := by
  induction h generalizing l₃ with
  | nil => exact h'
  | cons hab _ ih =>
    cases h' with
    | cons hbc h' => exact .cons (htrans _ _ _ hab hbc) (ih h')

theorem exists_mem_of_forall₂ {R : α → β → Prop} {l : List α} {l' : List β} (h : List.Forall₂ R l l') {b : β}
    (hb : b ∈ l') : ∃ a ∈ l, R a b := by
  induction h with
  | nil => exact absurd hb List.not_mem_nil
  | @cons a b' l l' hab _ ih =>
    rcases List.mem_cons.1 hb with rfl | hb
    · exact ⟨a, List.mem_cons_self, hab⟩
    · obtain ⟨a', ha', hR⟩ := ih hb
      exact ⟨a', List.mem_cons_of_mem _ ha', hR⟩

theorem getElem?_of_forall₂ {R : α → β → Prop} {l : List α} {l' : List β} (h : List.Forall₂ R l l') {i : Nat} {a : α}
    (ha : l[i]? = some a) : ∃ b, l'[i]? = some b ∧ R a b := by
  induction h generalizing i with
  | nil => exact nomatch ha
  | @cons x b l l' hab _ ih =>
    cases i with
    | zero =>
      obtain rfl := Option.some.inj ha
      exact ⟨b, rfl, hab⟩
    | succ i => exact ih ha

theorem forall₂_set {R : α → α → Prop} (hrefl : ∀ a, R a a) {l : List α} {i : Nat} {a b : α} (ha : l[i]? = some a)
    (hab : R a b) : List.Forall₂ R l (l.set i b) := by
  induction l generalizing i with
  | nil => exact nomatch ha
  | cons x l ih =>
    cases i with
    | zero =>
      obtain rfl := Option.some.inj ha
      exact .cons hab (forall₂_of_refl hrefl l)
    | succ i => exact .cons (hrefl x) (ih ha)

theorem Entries.forall₂_put [DecidableEq α] {R : β → β → Prop} (hrefl : ∀ b, R b b) {es : List (α × β)} {k : α}
    {b b' : β} (hb : Entries.find? k es = some b) (hbb : R b b') :
    List.Forall₂ (fun e e' => e'.1 = e.1 ∧ R e.2 e'.2) es (Entries.put k b' es) := by
  induction es with
  | nil => exact nomatch hb
  | cons e es ih =>
    obtain ⟨a, v⟩ := e
    rw [find?] at hb
    rw [put]
    split at hb
    · rename_i hk
      obtain rfl := Option.some.inj hb
      rw [if_pos hk]
      exact .cons ⟨rfl, hbb⟩ (forall₂_of_refl (fun e => ⟨rfl, hrefl e.2⟩) es)
    · rename_i hk
      rw [if_neg hk]
      exact .cons ⟨rfl, hrefl v⟩ (ih hb)

/-- A use of what stands in a place of a list, if anything does. -/
def useAt (run : α → StateM (Database σ) (Except Error Unit × α)) (l : List α) (i : Nat) :
    StateM (Database σ) (Except Error Unit × List α) :=
  match l[i]? with
  | none => pure (.ok (), l)
  | some a => do
    let (answer, a) ← run a
    return (answer, l.set i a)

/-- A list is only read if what stands in the place is. -/
theorem yields_useAt {run : α → StateM (Database (List Event × σ)) (Except Error Unit × α)} {same : α → α → Prop}
    (changes : α → Prop) {l : List α} (hrefl : ∀ a, same a a)
    (hrun : ∀ a ∈ l, Yields (run a) (OnlyRead same (changes a) a)) (i : Nat) :
    Yields (useAt run l i) (OnlyRead (List.Forall₂ same) (∃ a, l[i]? = some a ∧ changes a) l) := by
  unfold useAt
  cases ha : l[i]? with
  | none => exact Yields.pure ⟨.nil, fun ⟨a, h, _⟩ => (nomatch h), forall₂_of_refl hrefl l⟩
  | some a =>
    refine (hrun a (List.mem_of_getElem? ha)).andThen fun used events h => Yields.pure ?_
    rw [List.append_nil]
    refine ⟨h.asks, ?_, forall₂_set hrefl ha h.same⟩
    rintro ⟨b, hb, hchanges⟩
    obtain rfl := Option.some.inj hb
    exact h.refused hchanges

/-! ### Collections -/

namespace Collection

/-- All members are read-only. -/
def IsReadOnly (c : Collection) : Prop :=
  ∀ e ∈ c.members, e.2.access = .readOnly

/-- The same key with a record that is unaltered. -/
def SameMember (before after : MemberKey × Record) : Prop :=
  after.1 = before.1 ∧ before.2.Unaltered after.2

theorem SameMember.refl (e : MemberKey × Record) : SameMember e e :=
  ⟨rfl, .refl e.2⟩

/-- A collection of the same members, each of them unaltered. -/
structure Unaltered (before after : Collection) : Prop where
  model : after.model = before.model
  access : after.access = before.access
  nextIndex : after.nextIndex = before.nextIndex
  members : List.Forall₂ SameMember before.members after.members

namespace Unaltered

theorem refl (c : Collection) : c.Unaltered c :=
  ⟨rfl, rfl, rfl, forall₂_of_refl SameMember.refl c.members⟩

theorem trans {b c e : Collection} (h : b.Unaltered c) (h' : c.Unaltered e) : b.Unaltered e where
  model := h'.model.trans h.model
  access := h'.access.trans h.access
  nextIndex := h'.nextIndex.trans h.nextIndex
  members := forall₂_trans (fun _ _ _ h h' => ⟨h'.1.trans h.1, h.2.trans h'.2⟩) h.members h'.members

theorem keys {b c : Collection} (h : b.Unaltered c) : c.keys = b.keys := by
  have hkeys (before after : List (MemberKey × Record)) (h : List.Forall₂ SameMember before after) :
      after.map Prod.fst = before.map Prod.fst := by
    induction h with
    | nil => rfl
    | cons he _ ih => rw [List.map_cons, List.map_cons, he.1, ih]
  exact hkeys _ _ h.members

theorem isReadOnly {b c : Collection} (h : b.Unaltered c) (hreadOnly : b.IsReadOnly) : c.IsReadOnly := by
  intro e he
  obtain ⟨before, hbefore, hsame⟩ := exists_mem_of_forall₂ h.members he
  rw [hsame.2.access]
  exact hreadOnly before hbefore

theorem replace {c : Collection} {key : MemberKey} {r s : Record} (hr : c.get? key = some r) (h : r.Unaltered s) :
    c.Unaltered (c.replace key s) :=
  ⟨rfl, rfl, rfl, Entries.forall₂_put Record.Unaltered.refl hr h⟩

theorem withRecords {c : Collection} {f : Record → Record} (h : ∀ r : Record, r.Unaltered (f r)) :
    c.Unaltered (c.withRecords (c.records.map f)) := by
  rw [withRecords_map]
  refine ⟨rfl, rfl, rfl, List.forall₂_map_right_iff.2 ?_⟩
  exact List.forall₂_same.2 fun e _ => ⟨rfl, h e.2⟩

end Unaltered

/-! #### Uses of collections -/

/-- A use of a collection, or of one of its members. -/
inductive Use where
  | member (key : MemberKey) (use : Record.Use)
  | eagerLoad (names : List String)
  | saveAll (grouped : Bool)
  | deleteAll

namespace Use

/-- The use is to change members of the collection or their rows. -/
def Changes (c : Collection) : Use → Prop
  | .member key use => key ∈ c.keys ∧ use.isChange = true
  | .eagerLoad _ => False
  | .saveAll _ | .deleteAll => c.keys ≠ []

/-- The use of a collection. -/
def run (d : Driver σ) (c : Collection) : Use → StateM (Database σ) (Except Error Unit × Collection)
  | .member key use =>
    match c.get? key with
    | none => pure (.error (c.noMember key), c)
    | some r => do
      let (answer, r) ← use.run d r
      return (answer, c.replace key r)
  | .eagerLoad names => c.eagerLoad d names
  | .saveAll grouped => withoutValue (c.saveAll d grouped)
  | .deleteAll => withoutValue (c.deleteAll d)

end Use

theorem Unaltered.changes_iff {b c : Collection} (h : b.Unaltered c) (use : Use) : use.Changes c ↔ use.Changes b := by
  cases use <;> simp only [Use.Changes, h.keys]

/-- The check before a change of all members fails, if there is any member. -/
theorem ensureWritable_of_isReadOnly {c : Collection} (hreadOnly : c.IsReadOnly) (hne : c.members ≠ [])
    (action : String) : ∃ message, c.ensureWritable action = .error (.unsupportedOperation message) := by
  unfold ensureWritable
  cases hmembers : c.members with
  | nil => exact absurd hmembers hne
  | cons e members =>
    have he : e.2.access = .readOnly := hreadOnly e (by rw [hmembers]; exact List.mem_cons_self)
    rw [List.find?_cons_of_pos (by simpa using he)]
    exact ⟨_, rfl⟩

theorem saveAll_of_no_members (d : Driver σ) {c : Collection} (h : c.members = []) (grouped : Bool) :
    c.saveAll d grouped = pure (.ok .allSucceeded, c) := by
  obtain ⟨m, access, members, nextIndex⟩ := c
  obtain rfl : members = [] := h
  cases grouped <;> rfl

theorem deleteAll_of_no_members (d : Driver σ) {c : Collection} (h : c.members = []) :
    c.deleteAll d = pure (.ok .allSucceeded, c) := by
  obtain ⟨m, access, members, nextIndex⟩ := c
  obtain rfl : members = [] := h
  rfl

/-- Loading relations onto all members only asks, and attaches to them, whether it fails or not. -/
theorem yields_load (d : Driver σ) (c : Collection) (names : List String) :
    Yields (c.load d.traced names) fun used events => OnlyAsks events ∧ c.Unaltered used.2 := by
  induction names generalizing c with
  | nil => exact Yields.pure ⟨.nil, .refl c⟩
  | cons name names ih =>
    intro db
    obtain ⟨events, htrace, hasks⟩ := c.model.yields_loadRelation_asks d c.records name none db
    rw [load]
    dsimp only
    cases hload : c.model.loadRelation d.traced c.records name none db with
    | mk result after =>
      rw [hload] at htrace
      cases result with
      | error e => exact ⟨events, htrace, hasks, .refl c⟩
      | ok loaded =>
        obtain ⟨f, rfl, hf⟩ := Relation.loadRelation_eq_map hload
        have hattached := Unaltered.withRecords (c := c) (f := f) fun r => .of_attach (hf r)
        obtain ⟨later, hlater, hasks', hrest⟩ := ih (c.withRecords (c.records.map f)) after
        exact ⟨events ++ later, by rw [← List.append_assoc, ← htrace]; exact hlater, hasks.append hasks',
          hattached.trans hrest⟩

/-- A collection of read-only records is only read, whatever it is used for. -/
theorem yields_use (d : Driver σ) {c : Collection} (hreadOnly : c.IsReadOnly) (use : Use) :
    Yields (use.run d.traced c) (OnlyRead Unaltered (use.Changes c) c) := by
  cases use with
  | member key use =>
    unfold Use.run
    dsimp only
    cases hr : c.get? key with
    | none =>
      refine Yields.pure ⟨.nil, fun ⟨hmem, _⟩ => ?_, .refl c⟩
      exact absurd hmem (Entries.find?_eq_none_iff.1 hr)
    | some r =>
      have haccess : r.access = .readOnly := hreadOnly (key, r) (Entries.mem_of_find? hr)
      refine (Record.yields_use d haccess use).andThen fun used events h => Yields.pure ?_
      rw [List.append_nil]
      exact ⟨h.asks, fun hchanges => h.refused hchanges.2, .replace hr h.same⟩
  | eagerLoad names =>
    unfold Use.run eagerLoad
    dsimp only
    split
    · exact Yields.pure ⟨.nil, False.elim, .refl c⟩
    · exact (yields_load d c names).mono fun used events h => ⟨h.1, False.elim, h.2⟩
  | saveAll grouped =>
    unfold Use.run
    dsimp only
    by_cases hmembers : c.members = []
    · rw [saveAll_of_no_members d.traced hmembers]
      refine Yields.pure ⟨.nil, fun hchanges => absurd ?_ hchanges, .refl c⟩
      rw [keys, hmembers, List.map_nil]
    · obtain ⟨message, hrefused⟩ := ensureWritable_of_isReadOnly hreadOnly hmembers "save"
      rw [saveAll, hrefused]
      exact Yields.pure (.of_refused message (.refl c))
  | deleteAll =>
    unfold Use.run
    dsimp only
    by_cases hmembers : c.members = []
    · rw [deleteAll_of_no_members d.traced hmembers]
      refine Yields.pure ⟨.nil, fun hchanges => absurd ?_ hchanges, .refl c⟩
      rw [keys, hmembers, List.map_nil]
    · obtain ⟨message, hrefused⟩ := ensureWritable_of_isReadOnly hreadOnly hmembers "delete"
      rw [deleteAll, hrefused]
      exact Yields.pure (.of_refused message (.refl c))

end Collection

/-! ### Sequences of uses -/

/-- Records and collections that are used together. -/
structure Holding where
  records : List Record
  collections : List Collection

namespace Holding

/-- All records are read-only, alone and in collections. -/
structure IsReadOnly (h : Holding) : Prop where
  records : ∀ r ∈ h.records, r.access = .readOnly
  collections : ∀ c ∈ h.collections, c.IsReadOnly

/-- The same records and collections, each of them unaltered. -/
structure Unaltered (before after : Holding) : Prop where
  records : List.Forall₂ Record.Unaltered before.records after.records
  collections : List.Forall₂ Collection.Unaltered before.collections after.collections

namespace Unaltered

theorem refl (h : Holding) : h.Unaltered h :=
  ⟨forall₂_of_refl Record.Unaltered.refl _, forall₂_of_refl Collection.Unaltered.refl _⟩

theorem trans {g h k : Holding} (hgh : g.Unaltered h) (hhk : h.Unaltered k) : g.Unaltered k where
  records := forall₂_trans (fun _ _ _ h h' => h.trans h') hgh.records hhk.records
  collections := forall₂_trans (fun _ _ _ h h' => h.trans h') hgh.collections hhk.collections

theorem isReadOnly {g h : Holding} (hgh : g.Unaltered h) (hreadOnly : g.IsReadOnly) : h.IsReadOnly where
  records r hr := by
    obtain ⟨before, hbefore, hsame⟩ := exists_mem_of_forall₂ hgh.records hr
    rw [hsame.access]
    exact hreadOnly.records before hbefore
  collections c hc := by
    obtain ⟨before, hbefore, hsame⟩ := exists_mem_of_forall₂ hgh.collections hc
    exact hsame.isReadOnly (hreadOnly.collections before hbefore)

end Unaltered

/-- A use of the record or the collection in a place. -/
inductive Step where
  | record (i : Nat) (use : Record.Use)
  | collection (i : Nat) (use : Collection.Use)

namespace Step

/-- The step is to change a record or its row. -/
def Changes (h : Holding) : Step → Prop
  | .record i use => ∃ r, h.records[i]? = some r ∧ use.isChange = true
  | .collection i use => ∃ c, h.collections[i]? = some c ∧ use.Changes c

/-- The step from what is held. -/
def run (d : Driver σ) (h : Holding) : Step → StateM (Database σ) (Except Error Unit × Holding)
  | .record i use => do
    let (answer, records) ← useAt (use.run d) h.records i
    return (answer, { h with records })
  | .collection i use => do
    let (answer, collections) ← useAt (use.run d) h.collections i
    return (answer, { h with collections })

end Step

/-- What a step is to change is there later if it was there before. -/
theorem Unaltered.changes {g h : Holding} (hgh : g.Unaltered h) {step : Step} (hchanges : step.Changes g) :
    step.Changes h := by
  cases step with
  | record i use =>
    obtain ⟨r, hr, hchange⟩ := hchanges
    obtain ⟨after, hafter, -⟩ := getElem?_of_forall₂ hgh.records hr
    exact ⟨after, hafter, hchange⟩
  | collection i use =>
    obtain ⟨c, hc, hchange⟩ := hchanges
    obtain ⟨after, hafter, hsame⟩ := getElem?_of_forall₂ hgh.collections hc
    exact ⟨after, hafter, (hsame.changes_iff use).2 hchange⟩

theorem yields_step (d : Driver σ) {h : Holding} (hreadOnly : h.IsReadOnly) (step : Step) :
    Yields (step.run d.traced h) (OnlyRead Unaltered (step.Changes h) h) := by
  cases step with
  | record i use =>
    have huse := yields_useAt (fun _ => use.isChange = true) Record.Unaltered.refl
      (fun r hr => Record.yields_use d (hreadOnly.records r hr) use) i
    refine huse.andThen fun used events hused => Yields.pure ?_
    rw [List.append_nil]
    exact ⟨hused.asks, hused.refused, hused.same, forall₂_of_refl Collection.Unaltered.refl _⟩
  | collection i use =>
    have huse := yields_useAt use.Changes Collection.Unaltered.refl
      (fun c hc => Collection.yields_use d (hreadOnly.collections c hc) use) i
    refine huse.andThen fun used events hused => Yields.pure ?_
    rw [List.append_nil]
    exact ⟨hused.asks, hused.refused, forall₂_of_refl Record.Unaltered.refl _, hused.same⟩

/-- The answers to steps in order, and what is held after them. -/
def run (d : Driver σ) (h : Holding) : List Step → StateM (Database σ) (List (Except Error Unit) × Holding)
  | [] => pure ([], h)
  | step :: steps => do
    let (answer, h) ← step.run d h
    let (answers, h) ← h.run d steps
    return (answer :: answers, h)

end Holding

/--
Read-only records, alone and in collections, never write.  Whatever sequence of uses they are put to, and whatever the
driver answers, the driver is only asked, by `SELECT` and for columns; every use that is to change a record or its row
is refused as unsupported; and all records stay what they were, up to `NULL` for a missing value and to related rows.
-/
theorem readOnly_run_only_reads (d : Driver σ) (h : Holding) (hreadOnly : h.IsReadOnly) (steps : List Holding.Step) :
    Yields (h.run d.traced steps) fun used events =>
      OnlyAsks events ∧ h.Unaltered used.2 ∧
        List.Forall₂ (fun step answer => step.Changes h → ∃ message, answer = .error (.unsupportedOperation message))
          steps used.1 := by
  -- records that are unaltered are still read-only, which carries the induction
  induction steps generalizing h with
  | nil => exact Yields.pure ⟨.nil, .refl h, .nil⟩
  | cons step steps ih =>
    refine (Holding.yields_step d hreadOnly step).andThen fun used events hused => ?_
    refine (ih used.2 (hused.same.isReadOnly hreadOnly)).andThen fun rest later hrest => Yields.pure ?_
    obtain ⟨hasks, hsame, hrefused⟩ := hrest
    rw [List.append_nil]
    refine ⟨hused.asks.append hasks, hused.same.trans hsame, .cons hused.refused ?_⟩
    exact hrefused.imp fun _ _ h hchanges => h (hused.same.changes hchanges)

namespace Holding.Example

open Record.Example (posts)

/-- A post without a title. -/
def row : Assignments := .ofList [("id", .int 1)]

/-- The post, alone and in a collection. -/
def held : Holding where
  records := [.ofRow posts .readOnly row]
  collections := [.ofRows posts .readOnly [row]]

/-- The title is looked up and set, and the collection is saved. -/
def steps : List Step :=
  [.record 0 (.get "title"), .record 0 (.trySet "title" (.text "a")), .collection 0 (.saveAll true)]

/-- The driver, which is not asked anything. -/
def driver : Driver (Script × Bool) := .scripted .sqlite (.idle .sqlite)

end Holding.Example

open Holding.Example in
/-- The title is found to be `NULL`; neither it nor the row is changed. -/
theorem readOnly_run_refuses_change :
    held.IsReadOnly ∧
      (held.run driver.traced steps (Record.Example.database {})).1.1 =
        [.ok (), .error (.unsupportedOperation "records of 'posts' are read-only"),
          .error (.unsupportedOperation "cannot save a collection holding read-only record '0'")] ∧
      Yields (held.run driver.traced steps) fun used events =>
        OnlyAsks events ∧ held.Unaltered used.2 ∧
          List.Forall₂
            (fun step answer => step.Changes held → ∃ message, answer = .error (.unsupportedOperation message))
            steps used.1 := by
  have hreadOnly : held.IsReadOnly :=
    ⟨by decide, show ∀ c ∈ held.collections, ∀ e ∈ c.members, e.2.access = .readOnly by decide⟩
  exact ⟨hreadOnly, rfl, readOnly_run_only_reads driver held hreadOnly steps⟩

end RecordMapper
