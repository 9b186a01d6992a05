import RecordMapper.Driver.Scripted
import RecordMapper.Proofs.Record.State
import Mathlib.Data.List.Forall2
import Mathlib.Data.List.Induction

/-!
# What loading a relation attaches

Each parent holds its own rows: of the rows that the query gave those whose key has the text of the parent's key, in
their order and as often as they came; a relation to one row holds the first of them.

* `ownRows` are these rows, as they are attached, and `Related.Holds` says how a relation of each kind holds them;
* loading asks one query for the keys of all parents, and attaches to each parent its own rows of the answer
  (`loadRelation_attaches`).
-/

namespace RecordMapper

variable {σ α : Type}

/-! ### Collections of rows -/

namespace Collection

theorem ofRows_concat (m : Model) (access : Access) (rows : List Assignments) (row : Assignments) :
    ofRows m access (rows ++ [row]) = (ofRows m access rows).push (.ofRow m access row) := by
  simp [ofRows]

/-- A record is added last, when the next index is not in use. -/
theorem members_push {c : Collection} {r : Record} (h : .index c.nextIndex ∉ c.members.map Prod.fst) :
    (c.push r).members = c.members ++ [(.index c.nextIndex, r)] :=
  Entries.put_of_not_mem h

theorem model_ofRows (m : Model) (access : Access) (rows : List Assignments) :
    (ofRows m access rows).model = m ∧ (ofRows m access rows).access = access := by
  induction rows using List.reverseRecOn with
  | nil => exact ⟨rfl, rfl⟩
  | append_singleton rows row ih =>
    rw [ofRows_concat]
    exact ih

-- the next index is part of the induction: it is not in use because it is the number of the members
private theorem ofRows_eq (m : Model) (access : Access) (rows : List Assignments) (h : rows.length ≤ maxIndex) :
    (ofRows m access rows).members = rows.zipIdx.map (fun e => (MemberKey.index e.2, Record.ofRow m access e.1)) ∧
      (ofRows m access rows).nextIndex = rows.length := by
  induction rows using List.reverseRecOn with
  | nil => exact ⟨rfl, rfl⟩
  | append_singleton rows row ih =>
    rw [List.length_append, List.length_singleton] at h
    obtain ⟨hmembers, hnext⟩ := ih (by omega)
    have hnew : .index (ofRows m access rows).nextIndex ∉ (ofRows m access rows).members.map Prod.fst := by
      rw [hmembers, hnext, List.map_map]
      intro hmem
      obtain ⟨e, he, hindex⟩ := List.mem_map.1 hmem
      have hlt := List.snd_lt_of_mem_zipIdx he
      have heq : e.2 = rows.length := MemberKey.index.inj hindex
      omega
    rw [ofRows_concat, members_push hnew, hmembers, hnext, List.zipIdx_append, List.map_append]
    refine ⟨by simp, ?_⟩
    show min ((ofRows m access rows).nextIndex + 1) maxIndex = _
    rw [hnext, List.length_append, List.length_singleton]
    omega

/-- The records of rows have the positions of the rows as keys. -/
theorem members_ofRows {m : Model} {access : Access} {rows : List Assignments} (h : rows.length ≤ maxIndex) :
    (ofRows m access rows).members = rows.zipIdx.map fun e => (.index e.2, .ofRow m access e.1) :=
  (ofRows_eq m access rows h).1

end Collection

/-! ### What is held -/

/-- Rows are held in the way of a kind of relation: as they are, or as the records of a target. -/
inductive Related.Holds (kind : RelationKind) : Relation.Target → List Assignments → Related → Prop where
  | rows {rows : List Assignments} (hkind : kind.isToMany = true) : Holds kind none rows (.rows rows)
  /-- The members hold the rows one by one, under their positions; no vector has more rows than there are indices. -/
  | many {m : Model} {access : Access} {rows : List Assignments} {c : Collection} (hkind : kind.isToMany = true)
      (hmodel : c.model = m) (haccess : c.access = access)
      (hmembers : rows.length ≤ Collection.maxIndex →
        List.Forall₂ (fun row e => e.2.HoldsRow m access row) rows c.members ∧
          c.members.map Prod.fst = (List.range rows.length).map MemberKey.index) :
    Holds kind (some (m, access)) rows (.many c)
  | row {rows : List Assignments} (hkind : kind.isToMany = false) : Holds kind none rows (.row rows.head?)
  | none {m : Model} {access : Access} (hkind : kind.isToMany = false) :
    Holds kind (some (m, access)) [] (.one access none)
  | one {m : Model} {access : Access} {row : Assignments} {rows : List Assignments} {record : Record}
      (hkind : kind.isToMany = false) (hrow : record.HoldsRow m access row) :
    Holds kind (some (m, access)) (row :: rows) (.one access (some record))

/-- Parents that show what they hold of their relations. -/
class LawfulParent (α : Type) [Parent α] where
  held? : α → String → Option Related
  held?_attach : ∀ (p : α) (name other : String) (related : Related),
    held? (Parent.attach p name related) other = if name = other then some related else held? p other
  keyValue_attach : ∀ (p : α) (name col : String) (related : Related),
    Parent.keyValue (Parent.attach p name related) col = Parent.keyValue p col

instance : LawfulParent Record where
  held? r name := Entries.find? name r.related
  held?_attach _ _ _ _ := Entries.find?_put
  keyValue_attach _ _ _ _ := rfl

instance : LawfulParent PlainRow where
  held? r name := Entries.find? name r.related
  held?_attach _ _ _ _ := Entries.find?_put
  keyValue_attach _ _ _ _ := rfl

namespace Relation

/-- The column of the result with the parents' keys. -/
def keyColumn (r : Relation) : String :=
  if r.kind = .hasManyThrough then parentKeyName else r.foreignCol

/-- The text of a row's key. -/
def rowKeyText? (r : Relation) (row : Row) : Option String :=
  (row.toMap.get? r.keyColumn).bind Value.keyText?

/-- A row as it is attached: a carried key is taken out. -/
def attachedRow (r : Relation) (row : Row) : Assignments :=
  if r.kind = .hasManyThrough then row.toMap.erase parentKeyName else row.toMap

/-- The rows of a parent, among those of a result. -/
def ownRows [Parent α] (r : Relation) (rows : List Row) (parent : α) : List Assignments :=
  match r.parentKeyText? parent with
  | none => []
  | some k => (rows.filter fun row => r.rowKeyText? row = some k).map r.attachedRow

/-- What loading a relation makes of a parent: it holds its own rows, and all else stays. -/
structure Attached [Parent α] [LawfulParent α] (r : Relation) (target : Target) (rows : List Row)
    (parent loaded : α) : Prop where
  held : ∃ related, LawfulParent.held? loaded r.name = some related ∧
    related.Holds r.kind target (r.ownRows rows parent)
  others : ∀ name, name ≠ r.name → LawfulParent.held? loaded name = LawfulParent.held? parent name
  keys : ∀ col, Parent.keyValue loaded col = Parent.keyValue parent col

/-- The rows that the driver gives for the keys of some parents; it is not asked without a key. -/
inductive Answer (d : Driver σ) (r : Relation) : List Value → Database σ → List Row → Database σ → Prop where
  | unasked (db : Database σ) : Answer d r [] db [] db
  | asked {keys : List Value} (hkeys : keys ≠ []) {link : Option LinkTable} (hlink : r.through = .ok link) {sql : Sql}
      (hsql : (r.select link keys).sql d.quoter = .ok sql) {db db' : Database σ} {rows : List Row}
      (hrows : Database.call (d.query sql.text sql.binds) db = (.ok rows, db')) : Answer d r keys db rows db'

/-! ### Keys of rows -/

theorem keyedRow?_eq {r : Relation} {link : Option LinkTable} (h : r.through = .ok link) (row : Row) :
    r.keyedRow? link row.toMap = (r.rowKeyText? row).map fun k => (k, r.attachedRow row) := by
  have hdirect (hkind : r.kind ≠ .hasManyThrough) (hlink : link = none) :
      r.keyedRow? link row.toMap = (r.rowKeyText? row).map fun k => (k, r.attachedRow row) := by
    subst hlink
    simp only [keyedRow?, rowKeyText?, keyColumn, attachedRow, if_neg hkind]
  unfold through at h
  split at h
  · rename_i hkind
    split at h
    · obtain rfl := Except.ok.inj h
      simp only [keyedRow?, rowKeyText?, keyColumn, attachedRow, if_pos hkind]
    · cases h
  all_goals
    rename_i hkind
    exact hdirect (by simp [hkind]) (Except.ok.inj h).symm

/-- Looking up a parent's key among the keyed rows gives the parent's own rows. -/
theorem rowsOf_keyed [Parent α] {r : Relation} {link : Option LinkTable} (h : r.through = .ok link)
    (rows : List Row) (parent : α) :
    rowsOf (rows.filterMap fun row => r.keyedRow? link row.toMap) (r.parentKeyText? parent) =
      r.ownRows rows parent := by
  unfold rowsOf ownRows
  cases r.parentKeyText? parent with
  | none => rfl
  | some k =>
    simp only [List.filterMap_filterMap, keyedRow?_eq h]
    induction rows with
    | nil => rfl
    | cons row rows ih =>
      rw [List.filterMap_cons, List.filter_cons]
      cases hrow : r.rowKeyText? row with
      | none => simpa using ih
      | some k' =>
        by_cases hk : k' = k
        · simp [hk, ih]
        · simp [hk, ih]

/-! ### Attaching -/

theorem holds_shape (kind : RelationKind) (target : Target) (rows : List Assignments) :
    (shape kind target rows).Holds kind target rows := by
  unfold shape
  cases hkind : kind.isToMany with
  | true =>
    cases target with
    | none => exact .rows hkind
    | some target =>
      obtain ⟨m, access⟩ := target
      obtain ⟨hmodel, haccess⟩ := Collection.model_ofRows m access rows
      refine .many hkind hmodel haccess fun hlength => ?_
      rw [Collection.members_ofRows hlength]
      constructor
      · rw [List.forall₂_map_right_iff, List.forall₂_iff_get]
        refine ⟨by simp, fun i h₁ h₂ => ?_⟩
        simpa using Record.holdsRow_ofRow m access rows[i]
      · have hpositions : rows.zipIdx.map Prod.snd = List.range rows.length := by
          rw [List.zipIdx_map_snd, List.range_eq_range']
        rw [← hpositions, List.map_map, List.map_map]
        rfl
  | false =>
    cases target with
    | none => exact .row hkind
    | some target =>
      obtain ⟨m, access⟩ := target
      cases rows with
      | nil => exact .none hkind
      | cons row rows => exact .one hkind (Record.holdsRow_ofRow m access row)

theorem attached_attach [Parent α] [LawfulParent α] (r : Relation) (target : Target) (rows : List Row) (parent : α) :
    r.Attached target rows parent (Parent.attach parent r.name (shape r.kind target (r.ownRows rows parent))) where
  held := ⟨_, by rw [LawfulParent.held?_attach, if_pos rfl], holds_shape ..⟩
  others name hname := by rw [LawfulParent.held?_attach, if_neg hname.symm]
  keys col := LawfulParent.keyValue_attach ..

/-- Of no rows, none is a parent's own. -/
theorem ownRows_of_no_rows [Parent α] (r : Relation) (parent : α) : r.ownRows [] parent = [] := by
  unfold ownRows
  cases r.parentKeyText? parent <;> rfl

/-- The rows of some keys, when they are fetched: the driver's rows that have a key, each with its text. -/
theorem fetchKeyed_eq_ok {d : Driver σ} {r : Relation} {keys : List Value} {db db' : Database σ}
    {keyed : List (String × Assignments)} (h : r.fetchKeyed d keys db = (.ok keyed, db')) :
    ∃ link sql rows, r.through = .ok link ∧ (r.select link keys).sql d.quoter = .ok sql ∧
      Database.call (d.query sql.text sql.binds) db = (.ok rows, db') ∧
      keyed = rows.filterMap fun row => r.keyedRow? link row.toMap := by
  unfold fetchKeyed at h
  obtain ⟨link, db₁, hlink, h⟩ := Operation.bind_eq_ok_iff.1 h
  obtain ⟨rows, db₂, hquery, h⟩ := Operation.bind_eq_ok_iff.1 h
  obtain ⟨rfl, rfl⟩ := Operation.pure_eq_ok_iff.1 h
  obtain ⟨hthrough, rfl⟩ := Prod.mk.inj hlink
  unfold Model.runQuery at hquery
  cases hsql : (r.select link keys).sql d.quoter with
  | error fault =>
    rw [hsql] at hquery
    exact nomatch hquery
  | ok sql =>
    rw [hsql] at hquery
    exact ⟨link, sql, rows, hthrough, hsql, hquery, rfl⟩

/-- The name that a load attaches under: the relation's own, or, where no parent has a key, the one it is declared
under, which is the same in an entity made by `Entity.withRelation`. -/
def attachedName [Parent α] (r : Relation) (name : String) (parents : List α) : String :=
  if (r.parentKeys parents).isEmpty then name else r.name

/-- A load that succeeds attaches something to every parent, and does nothing else to them. -/
theorem load_attaches [Parent α] {d : Driver σ} {r : Relation} {name : String} {parents : List α} {wrap : Option Bool}
    {db db' : Database σ} {loaded : List α} (h : r.load d name parents wrap db = (.ok loaded, db')) :
    ∃ related : α → Related,
      loaded = parents.map fun p => Parent.attach p (r.attachedName name parents) (related p) := by
  unfold load at h
  obtain ⟨target, asked, -, h⟩ := Operation.bind_eq_ok_iff.1 h
  unfold attachedName
  split at h
  · rename_i hnone
    rw [if_pos hnone]
    exact ⟨_, (Operation.pure_eq_ok_iff.1 h).1.symm⟩
  · rename_i hsome
    obtain ⟨keyed, answered, -, h⟩ := Operation.bind_eq_ok_iff.1 h
    rw [if_neg hsome]
    exact ⟨_, (Operation.pure_eq_ok_iff.1 h).1.symm⟩

/-- Whatever a name means to a model, a load that succeeds leaves every parent as it is, or attaches to it. -/
theorem loadRelation_eq_map [Parent α] {d : Driver σ} {m : Model} {name : String} {parents : List α}
    {wrap : Option Bool} {db db' : Database σ} {loaded : List α}
    (h : m.loadRelation d parents name wrap db = (.ok loaded, db')) :
    ∃ f : α → α, loaded = parents.map f ∧
      ∀ p, f p = p ∨ ∃ name' related, f p = Parent.attach p name' related := by
  cases hr : m.relation? name with
  | none =>
    rw [Model.loadRelation, hr] at h
    obtain ⟨rfl, -⟩ := Operation.pure_eq_ok_iff.1 h
    exact ⟨id, (List.map_id _).symm, fun p => .inl rfl⟩
  | some r =>
    rw [Model.loadRelation, hr] at h
    obtain ⟨related, rfl⟩ := load_attaches h
    exact ⟨_, rfl, fun p => .inr ⟨_, related p, rfl⟩⟩

/-- A load that succeeds attaches to every parent its own rows of the driver's answer. -/
theorem load_eq_ok [Parent α] {d : Driver σ} {r : Relation} {parents : List α} {wrap : Option Bool}
    {db db' : Database σ} {loaded : List α} (h : r.load d r.name parents wrap db = (.ok loaded, db')) :
    ∃ target asked rows, r.target d wrap db = (.ok target, asked) ∧
      Answer d r (r.parentKeys parents) asked rows db' ∧
      loaded = parents.map fun p => Parent.attach p r.name (shape r.kind target (r.ownRows rows p)) := by
  unfold load at h
  obtain ⟨target, asked, htarget, h⟩ := Operation.bind_eq_ok_iff.1 h
  by_cases hkeys : r.parentKeys parents = []
  · simp only [hkeys, List.isEmpty_nil, if_true] at h
    obtain ⟨rfl, rfl⟩ := Operation.pure_eq_ok_iff.1 h
    refine ⟨target, asked, [], htarget, hkeys ▸ .unasked asked, ?_⟩
    exact List.map_congr_left fun p _ => by rw [ownRows_of_no_rows]
  · rw [if_neg (by simpa using hkeys)] at h
    obtain ⟨keyed, db₁, hkeyed, h⟩ := Operation.bind_eq_ok_iff.1 h
    obtain ⟨rfl, rfl⟩ := Operation.pure_eq_ok_iff.1 h
    obtain ⟨link, sql, rows, hlink, hsql, hrows, rfl⟩ := fetchKeyed_eq_ok hkeyed
    refine ⟨target, asked, rows, htarget, .asked hkeys hlink hsql hrows, ?_⟩
    exact List.map_congr_left fun p _ => by rw [attachTo, rowsOf_keyed hlink]

/--
When a declared relation is loaded onto parents, each of them holds its own rows of the driver's answer: for a relation
to many all of them, for one to one the first of them.
-/
theorem loadRelation_attaches [Parent α] [LawfulParent α] (d : Driver σ) (m : Model) (r : Relation)
    (hr : m.relation? r.name = some r) (parents : List α) (wrap : Option Bool) {db db' : Database σ} {loaded : List α}
    (h : m.loadRelation d parents r.name wrap db = (.ok loaded, db')) :
    ∃ target asked rows, r.target d wrap db = (.ok target, asked) ∧
      Answer d r (r.parentKeys parents) asked rows db' ∧
      List.Forall₂ (r.Attached target rows) parents loaded := by
  rw [Model.loadRelation, hr] at h
  obtain ⟨target, asked, rows, htarget, hrows, rfl⟩ := load_eq_ok h
  refine ⟨target, asked, rows, htarget, hrows, ?_⟩
  rw [List.forall₂_map_right_iff, List.forall₂_same]
  exact fun p _ => attached_attach r target rows p

/-! ### An example -/

namespace Example

/-- The tags of posts, through a table in between. -/
def tags : Relation :=
  { name := "tags", kind := .hasManyThrough, foreignTable := "tags", foreignCol := "id", parentCol := "id"
    wraps := false, link := some { table := "post_tags", parentCol := "post_id", foreignCol := "tag_id" } }

/-- Posts with the relation. -/
def posts : Model :=
  Model.bind ((Entity.ofTable "posts").withRelation tags) (.ofColumns "posts" [])

/-- Two posts of one key, as a number and as a text, and one without a key. -/
def parents : List PlainRow :=
  [{ data := .ofList [("id", .int 1)] }, { data := .ofList [("id", .text "01")] }, { data := .ofList [("id", .null)] }]

/-- A tag in an answer, with the key of its post. -/
def tagRow (id : Int32) (post : Value) : Row :=
  { names := ["id", "__parent_key"], values := [.int id, post] }

/-- A database that answers with three tags, the second of which is of no post at hand. -/
def db : Database (Script × Bool) :=
  { store := ({ rows := [.ok [tagRow 10 (.int 1), tagRow 11 (.int 2), tagRow 12 (.text "01")]] }, false) }

/-- The posts with their tags. -/
def loaded : List PlainRow :=
  let tags : Related := .rows [.ofList [("id", .int 10)], .ofList [("id", .int 12)]]
  [{ data := .ofList [("id", .int 1)], related := [("tags", tags)] },
    { data := .ofList [("id", .text "01")], related := [("tags", tags)] },
    { data := .ofList [("id", .null)], related := [("tags", .rows [])] }]

end Example

open Example in
/-- Both posts of the one key get both of its tags, in order; the tag of no post and the post of no key stay alone. -/
theorem loadRelation_attaches_sharedKey :
    posts.relation? tags.name = some tags ∧
      posts.loadRelation (.scripted .sqlite (.idle .sqlite)) parents tags.name none db =
        (.ok loaded, { store := ({}, false) }) ∧
      ∃ target asked rows, tags.target (.scripted .sqlite (.idle .sqlite)) none db = (.ok target, asked) ∧
        Answer (.scripted .sqlite (.idle .sqlite)) tags (tags.parentKeys parents) asked rows
          { store := ({}, false) } ∧
        List.Forall₂ (tags.Attached target rows) parents loaded := by
  have hr : posts.relation? tags.name = some tags := rfl
  have h : posts.loadRelation (.scripted .sqlite (.idle .sqlite)) parents tags.name none db =
      (.ok loaded, { store := ({}, false) }) := rfl
  exact ⟨hr, h, loadRelation_attaches (.scripted .sqlite (.idle .sqlite)) posts tags hr parents none h⟩

end Relation

end RecordMapper
