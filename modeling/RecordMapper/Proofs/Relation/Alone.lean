import RecordMapper.Proofs.Relation.Attached
import RecordMapper.Proofs.Relation.Query

/-!
# Parents together and alone

Loading a relation onto many parents at once asks for one key of each text and shares the rows out by the texts of
their keys, while the database compares values.  Over a driver that answers with the rows it finds for the keys
(`Evaluates`), a parent gets among others what it gets alone, as long as the database does not tell apart keys of the
parents that have one text (`KeysAgree`, `loadRelation_alone`).  Texts such as `1` and `01` are told apart, and then the
two differ (`loadRelation_alone_fails`).
-/

namespace RecordMapper.Relation

variable {σ α : Type}

/-! ### Drivers that evaluate the query -/

/-- The rows whose compared value is found for one of the keys, in their order. -/
def found (same : Value → Value → Bool) (entries : List (Value × Row)) (keys : List Value) : List Row :=
  (entries.filter fun e => keys.any (same e.1)).map Prod.snd

/-- The driver answers the query for some keys with the rows that are found for them. -/
def Evaluates (r : Relation) (d : Driver σ) (entries : σ → List (Value × Row)) (same : Value → Value → Bool)
    (keys : List Value) : Prop :=
  ∀ link sql, r.through = .ok link → (r.select link keys).sql d.quoter = .ok sql →
    ∀ s, ∃ s', (d.query sql.text sql.binds).run s = (.ok (found same (entries s) keys), s')

/-- A row with the text of one parent's key that is found for the key of another is found for the key of the first. -/
def KeysAgree [Parent α] (r : Relation) (same : Value → Value → Bool) (entries : List (Value × Row))
    (parents : List α) : Prop :=
  ∀ v ∈ r.keysOf parents, ∀ w ∈ r.keysOf parents, ∀ e ∈ entries,
    r.rowKeyText? e.2 = v.keyText? → same e.1 w = true → same e.1 v = true

/-! ### The rows of a parent -/

theorem ownRows_found [Parent α] {r : Relation} {same : Value → Value → Bool} {entries : List (Value × Row)}
    {keys : List Value} {p : α} {v : Value} (hv : Parent.keyValue p r.parentCol = some v)
    {k : String} (hk : v.keyText? = some k) :
    r.ownRows (found same entries keys) p =
      (entries.filter fun e => decide (r.rowKeyText? e.2 = some k) && keys.any (same e.1)).map
        fun e => r.attachedRow e.2 := by
  have htext : r.parentKeyText? p = some k := by simp [parentKeyText?, hv, hk]
  simp only [ownRows, htext, found, List.filter_map, List.filter_filter, List.map_map]
  rfl

/-- A parent's own rows are the same whether it is asked for alone or together with others. -/
theorem ownRows_together [Parent α] {r : Relation} {same : Value → Value → Bool} {entries : List (Value × Row)}
    {parents : List α} (hagree : r.KeysAgree same entries parents) {p : α} (hp : p ∈ parents) :
    r.ownRows (found same entries (r.parentKeys parents)) p = r.ownRows (found same entries (r.parentKeys [p])) p := by
  cases htext : r.parentKeyText? p with
  | none => simp [ownRows, htext]
  | some k =>
    obtain ⟨v, hv, hk⟩ := Option.bind_eq_some_iff.1 htext
    have hown : r.parentKeys [p] = [v] := by
      rw [parentKeys_singleton]
      simp [keysOf, hv, hk]
    have hmem : v ∈ r.keysOf parents := by
      refine List.mem_filter.2 ⟨List.mem_filterMap.2 ⟨p, hp, hv⟩, ?_⟩
      simp [hk]
    rw [ownRows_found hv hk, ownRows_found hv hk, hown]
    congr 1
    refine List.filter_congr fun e he => ?_
    by_cases hrow : r.rowKeyText? e.2 = some k
    · rw [hrow, decide_eq_true rfl, Bool.true_and, Bool.true_and, Bool.eq_iff_iff]
      simp only [List.any_eq_true, List.mem_singleton, exists_eq_left]
      constructor
      · rintro ⟨w, hw, hfound⟩
        exact hagree v hmem w (mem_keysOf_of_mem_parentKeys hw) e he (hrow.trans hk.symm) hfound
      · intro hfound
        -- the key of this text that is asked for finds the row as well
        obtain ⟨w, hw, hwk⟩ := exists_parentKeys hmem
        refine ⟨w, hw, hagree w (mem_keysOf_of_mem_parentKeys hw) v hmem e he ?_ hfound⟩
        rw [hrow, hwk, hk]
    · simp [hrow]

/-! ### Loading -/

/-- Asking for a model asks for the columns of its table at most. -/
theorem model_entries {d : Driver σ} {entries : σ → List (Value × Row)}
    (hcolumns : ∀ table s, entries ((d.columns table).run s).2 = entries s) (name : String) (db : Database σ) :
    entries (Database.model d name db).2.store = entries db.store := by
  have htable (table : String) : entries (Database.table d table db).2.store = entries db.store := by
    have hcall : entries (Database.call (d.columns table) db).2.store = entries db.store :=
      hcolumns table db.store
    unfold Database.table
    cases db.tables.get? table with
    | some t => rfl
    | none =>
      revert hcall
      match Database.call (d.columns table) db with
      | (.error e, after) => exact id
      | (.ok [], after) => exact id
      | (.ok (c :: cs), after) => exact id
  unfold Database.model
  rw [Operation.map_apply]
  exact htable _

/-- Asking for a target leaves what the store holds as it is. -/
theorem target_entries {d : Driver σ} {entries : σ → List (Value × Row)}
    (hcolumns : ∀ table s, entries ((d.columns table).run s).2 = entries s) {r : Relation} {wrap : Option Bool}
    {db asked : Database σ} {target : Target} (h : r.target d wrap db = (.ok target, asked)) :
    entries asked.store = entries db.store := by
  unfold Relation.target at h
  split at h
  · obtain ⟨m, after, hmodel, h⟩ := Operation.bind_eq_ok_iff.1 h
    obtain ⟨-, rfl⟩ := Operation.pure_eq_ok_iff.1 h
    have hentries := model_entries hcolumns r.model db
    rwa [hmodel] at hentries
  · obtain ⟨-, rfl⟩ := Operation.pure_eq_ok_iff.1 h
    rfl

@[simp] theorem found_nil (same : Value → Value → Bool) (entries : List (Value × Row)) : found same entries [] = [] := by
  simp [found]

theorem answer_found {r : Relation} {d : Driver σ} {entries : σ → List (Value × Row)} {same : Value → Value → Bool}
    {keys : List Value} {db db' : Database σ} {rows : List Row} (h : Answer d r keys db rows db')
    (hquery : keys ≠ [] → r.Evaluates d entries same keys) : rows = found same (entries db.store) keys := by
  cases h with
  | unasked db => simp [found]
  | asked hkeys hlink hsql hrows =>
    obtain ⟨s', hrun⟩ := hquery hkeys _ _ hlink hsql db.store
    unfold Database.call at hrows
    rw [hrun] at hrows
    exact (Except.ok.inj (Prod.mk.inj hrows).1).symm

theorem fetchKeyed_found {r : Relation} {d : Driver σ} {keys : List Value} {link : Option LinkTable}
    (hlink : r.through = .ok link) {sql : Sql} (hsql : (r.select link keys).sql d.quoter = .ok sql) {db : Database σ}
    {rows : List Row} {s' : σ} (hrun : (d.query sql.text sql.binds).run db.store = (.ok rows, s')) :
    r.fetchKeyed d keys db = (.ok (rows.filterMap fun row => r.keyedRow? link row.toMap), { db with store := s' }) := by
  refine Operation.bind_eq_ok_iff.2 ⟨link, db, by rw [hlink]; rfl, ?_⟩
  refine Operation.bind_eq_ok_iff.2 ⟨rows, { db with store := s' }, ?_, rfl⟩
  unfold Model.runQuery
  rw [hsql]
  show Database.call (d.query sql.text sql.binds) db = _
  rw [Database.call, hrun]

/-- Over a driver that evaluates the query, a load whose query can be written attaches the rows that are found. -/
theorem load_found [Parent α] {r : Relation} {d : Driver σ} {entries : σ → List (Value × Row)}
    {same : Value → Value → Bool} {parents : List α} {wrap : Option Bool} {db asked : Database σ} {target : Target}
    (htarget : r.target d wrap db = (.ok target, asked))
    (hquery : r.parentKeys parents ≠ [] → r.Evaluates d entries same (r.parentKeys parents))
    (hsql : r.parentKeys parents ≠ [] →
      ∃ link, r.through = .ok link ∧ ∃ sql, (r.select link (r.parentKeys parents)).sql d.quoter = .ok sql) :
    ∃ after, r.load d r.name parents wrap db =
      (.ok (parents.map fun p => Parent.attach p r.name
        (shape r.kind target (r.ownRows (found same (entries asked.store) (r.parentKeys parents)) p))), after) := by
  by_cases hkeys : r.parentKeys parents = []
  · refine ⟨asked, Operation.bind_eq_ok_iff.2 ⟨target, asked, htarget, ?_⟩⟩
    simp only [hkeys, List.isEmpty_nil, if_true]
    refine Operation.pure_eq_ok_iff.2 ⟨?_, rfl⟩
    exact List.map_congr_left fun p _ => by rw [found_nil, ownRows_of_no_rows]
  · obtain ⟨link, hlink, sql, hsql⟩ := hsql hkeys
    obtain ⟨s', hrun⟩ := hquery hkeys link sql hlink hsql asked.store
    refine ⟨{ asked with store := s' }, Operation.bind_eq_ok_iff.2 ⟨target, asked, htarget, ?_⟩⟩
    rw [if_neg (by simpa using hkeys)]
    refine Operation.bind_eq_ok_iff.2 ⟨_, _, fetchKeyed_found hlink hsql hrun, ?_⟩
    refine Operation.pure_eq_ok_iff.2 ⟨?_, rfl⟩
    exact List.map_congr_left fun p _ => by rw [attachTo, rowsOf_keyed hlink]

/-- When the query for the keys of many parents is sent, the one for the key of each of them can be written. -/
theorem written_alone [Parent α] {r : Relation} {d : Driver σ} {parents : List α} {db db' : Database σ}
    {rows : List Row} (h : Answer d r (r.parentKeys parents) db rows db') {p : α} (hp : p ∈ parents)
    (hne : r.parentKeys [p] ≠ []) :
    ∃ link, r.through = .ok link ∧ ∃ sql, (r.select link (r.parentKeys [p])).sql d.quoter = .ok sql := by
  have hscalar {ps : List α} : ∀ v ∈ r.parentKeys ps, v.isScalar := fun v hv =>
    Value.isScalar_of_keyText? (Option.isSome_iff_ne_none.1 (List.mem_filter.1 (mem_keysOf_of_mem_parentKeys hv)).2)
  obtain ⟨v, hv⟩ := List.exists_mem_of_ne_nil _ hne
  obtain ⟨hmem, hkey⟩ := List.mem_filter.1 (mem_keysOf_of_mem_parentKeys hv)
  have hv : v ∈ r.keysOf parents := by
    refine List.mem_filter.2 ⟨?_, hkey⟩
    obtain ⟨q, hq, hvalue⟩ := List.mem_filterMap.1 hmem
    obtain rfl := List.mem_singleton.1 hq
    exact List.mem_filterMap.2 ⟨q, hp, hvalue⟩
  obtain ⟨w, hw, -⟩ := exists_parentKeys hv
  generalize hkeys : r.parentKeys parents = keys at h hw
  cases h with
  | unasked => simp at hw
  | asked hasked hlink hsql hrows =>
    have hwritten := (exists_sql_select_iff hasked (hkeys ▸ hscalar)).1 ⟨_, hsql⟩
    exact ⟨_, hlink, (exists_sql_select_iff hne hscalar).2 hwritten⟩

/--
Over a driver that evaluates the query of a relation, each parent gets in a load of many what it gets in a load of its
own, provided that the database does not tell apart keys of the parents that have one text.
-/
theorem loadRelation_alone [Parent α] (d : Driver σ) (m : Model) (r : Relation) (hr : m.relation? r.name = some r)
    (parents : List α) (wrap : Option Bool) (entries : σ → List (Value × Row)) (same : Value → Value → Bool)
    (hcolumns : ∀ table s, entries ((d.columns table).run s).2 = entries s)
    (hquery : ∀ ps, ps = parents ∨ (∃ p ∈ parents, ps = [p]) → r.parentKeys ps ≠ [] →
      r.Evaluates d entries same (r.parentKeys ps))
    {db db' : Database σ} (hagree : r.KeysAgree same (entries db.store) parents) {loaded : List α}
    (h : m.loadRelation d parents r.name wrap db = (.ok loaded, db')) :
    List.Forall₂ (fun p l => ∃ after, m.loadRelation d [p] r.name wrap db = (.ok [l], after)) parents loaded := by
  simp only [Model.loadRelation, hr] at h ⊢
  obtain ⟨target, asked, rows, htarget, hanswer, rfl⟩ := load_eq_ok h
  have hentries : entries asked.store = entries db.store := target_entries hcolumns htarget
  obtain rfl := answer_found hanswer (hquery parents (.inl rfl))
  rw [List.forall₂_map_right_iff, List.forall₂_same]
  intro p hp
  obtain ⟨after, halone⟩ := load_found htarget (hquery [p] (.inr ⟨p, hp, rfl⟩)) (written_alone hanswer hp)
  refine ⟨after, ?_⟩
  rw [halone, hentries, ownRows_together hagree hp]
  rfl

/-! ### Keys with one text -/

namespace Example

/-- A database of one table, which answers a query with the rows that it finds for the parameters. -/
def lookup (same : Value → Value → Bool) : Driver (List (Value × Row)) where
  dialect := .sqlite
  query _ binds := fun entries => (.ok (found same entries binds), entries)
  execute _ _ := pure 0
  lastInsertId _ := pure .null
  begin := pure ()
  commit := pure ()
  rollback := pure ()
  inTransaction _ := false
  columns _ := pure []

/-- The items of owners, by the owner's code. -/
def items : Relation :=
  { name := "items", kind := .hasMany, foreignTable := "items", foreignCol := "owner_code", parentCol := "code"
    wraps := false }

/-- Owners with the relation. -/
def owners : Model :=
  Model.bind ((Entity.ofTable "owners").withRelation items) (.ofColumns "owners" [])

/-- An owner with what it holds of the relation. -/
def owner (code : Value) (held : Option (List Row)) : PlainRow :=
  { data := .ofList [("code", code)]
    related := match held with
      | none => []
      | some rows => [("items", .rows (rows.map Row.toMap))] }

/-- An item of an owner, as a row. -/
def item (id : Int32) (code : Value) : Row := { names := ["id", "owner_code"], values := [.int id, code] }

/-- Two items. -/
def stored (a b : Value) : Database (List (Value × Row)) :=
  { store := [(a, item 1 a), (b, item 2 b)] }

/-- The comparison of a column of numbers, for which a text that spells a number is that number. -/
def sameNumber (a b : Value) : Bool := a.keyText? == b.keyText?

/-- The comparison of a column of texts. -/
def sameText : Value → Value → Bool
  | .text s, .text t => s == t
  | _, _ => false

/-- A query that binds the key and nothing else is evaluated. -/
theorem lookup_evaluates {same : Value → Value → Bool} {key : Value} {text : String}
    (h : (items.select none [key]).sql (lookup same).quoter = .ok { text, binds := [key] }) :
    items.Evaluates (lookup same) id same [key] := by
  intro link sql hlink hsql s
  obtain rfl := Except.ok.inj hlink
  obtain rfl := Except.ok.inj (hsql.symm.trans h)
  exact ⟨s, rfl⟩

end Example

open Example in
/-- A number and a text that spells it: the database does not tell them apart. -/
theorem loadRelation_alone_number :
    owners.loadRelation (lookup sameNumber) [owner (.int 1) none, owner (.text "01") none] items.name none
        (stored (.int 1) (.int 2)) =
      (.ok [owner (.int 1) [item 1 (.int 1)], owner (.text "01") [item 1 (.int 1)]], stored (.int 1) (.int 2)) ∧
    List.Forall₂
      (fun p l => ∃ after, owners.loadRelation (lookup sameNumber) [p] items.name none (stored (.int 1) (.int 2)) =
        (.ok [l], after))
      [owner (.int 1) none, owner (.text "01") none]
      [owner (.int 1) [item 1 (.int 1)], owner (.text "01") [item 1 (.int 1)]] := by
  have h : owners.loadRelation (lookup sameNumber) [owner (.int 1) none, owner (.text "01") none] items.name none
      (stored (.int 1) (.int 2)) =
        (.ok [owner (.int 1) [item 1 (.int 1)], owner (.text "01") [item 1 (.int 1)]], stored (.int 1) (.int 2)) := rfl
  refine ⟨h, loadRelation_alone (lookup sameNumber) owners items rfl _ none id sameNumber (fun _ _ => rfl) ?_ ?_ h⟩
  · rintro _ (rfl | ⟨p, hp, rfl⟩) _
    · exact lookup_evaluates rfl
    · rcases List.mem_cons.1 hp with rfl | hp
      · exact lookup_evaluates rfl
      · obtain rfl := List.mem_singleton.1 hp
        exact lookup_evaluates rfl
  · have hkeys : ∀ v ∈ items.keysOf [owner (.int 1) none, owner (.text "01") none], v.keyText? = some "1" := by
      intro v hv
      rcases List.mem_cons.1 hv with rfl | hv
      · rfl
      · obtain rfl := List.mem_singleton.1 hv
        rfl
    intro v hv w hw e _ _ hfound
    rw [sameNumber, hkeys w hw] at hfound
    rwa [sameNumber, hkeys v hv]

open Example in
/-- Two texts that spell one number: the database tells them apart, and what is loaded together is not what is loaded
alone. -/
theorem loadRelation_alone_fails :
    (∀ s t, sameText (.text s) (.text t) = true ↔ s = t) ∧
      items.Evaluates (lookup sameText) id sameText
        (items.parentKeys [owner (.text "1") none, owner (.text "01") none]) ∧
      items.Evaluates (lookup sameText) id sameText (items.parentKeys [owner (.text "01") none]) ∧
      owners.loadRelation (lookup sameText) [owner (.text "1") none, owner (.text "01") none] items.name none
          (stored (.text "1") (.text "01")) =
        (.ok [owner (.text "1") [item 1 (.text "1")], owner (.text "01") [item 1 (.text "1")]],
          stored (.text "1") (.text "01")) ∧
      owners.loadRelation (lookup sameText) [owner (.text "01") none] items.name none
          (stored (.text "1") (.text "01")) =
        (.ok [owner (.text "01") [item 2 (.text "01")]], stored (.text "1") (.text "01")) :=
  ⟨fun _ _ => beq_iff_eq, lookup_evaluates rfl, lookup_evaluates rfl, rfl, rfl⟩

end RecordMapper.Relation
