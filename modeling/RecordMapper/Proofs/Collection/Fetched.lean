import RecordMapper.Collection.Fetch
import RecordMapper.Proofs.Relation.Attached
import RecordMapper.Proofs.Relation.Query

/-!
# Fetched records and fetched rows

A fetch gives records or plain rows.  Both run the same query and load the same relations onto what it gives, but a
record has keys in columns of the table only, while a row has what the query gave under any name.

* what is loaded onto parents is loaded onto others that have the same keys (`Relation.load_map`), and so onto records
  as onto their rows, for one relation (`Model.loadRelation_toRecord`) and for several (`Collection.load_toRecord`);
* whatever is loaded, the records are those of the rows, in their order (`Collection.bare_records_load`);
* both fetches come to the same when there are rows and the records keep their keys (`fetchRecords_agrees_fetchPlain`),
  and need not otherwise (`fetchRecords_misses_alias`).
-/

namespace RecordMapper

variable {σ α β : Type}

/-! ### Loading onto other parents -/

namespace Relation

/-- Parents that have the same keys are loaded with the same rows, whatever they are. -/
theorem load_map [Parent α] [Parent β] {f : α → β}
    (hattach : ∀ p name related, f (Parent.attach p name related) = Parent.attach (f p) name related) (d : Driver σ)
    (r : Relation) (name : String) {parents : List α} (hkeys : r.parentKeys (parents.map f) = r.parentKeys parents)
    (htexts : ∀ p ∈ parents, r.parentKeyText? (f p) = r.parentKeyText? p) (wrap : Option Bool) (db : Database σ) :
    r.load d name (parents.map f) wrap db =
      ((r.load d name parents wrap db).1.map (List.map f), (r.load d name parents wrap db).2) := by
  unfold load
  rw [Operation.bind_apply, Operation.bind_apply]
  obtain ⟨_ | target, asked⟩ := r.target d wrap db
  · rfl
  · dsimp only
    rw [hkeys]
    split
    · simp only [Operation.pure_apply, Except.map, List.map_map, Function.comp_def, hattach]
    · rw [Operation.bind_apply, Operation.bind_apply]
      obtain ⟨_ | keyed, answered⟩ := r.fetchKeyed d (r.parentKeys parents) asked
      · rfl
      · simp only [Operation.pure_apply, Except.map, List.map_map]
        refine congrArg (fun loaded => (Except.ok loaded, answered)) (List.map_congr_left fun p hp => ?_)
        simp only [Function.comp_apply, attachTo, htexts p hp, hattach]

end Relation

/-! ### Records of rows -/

/-- The record of a plain row, with its related rows. -/
def PlainRow.toRecord (m : Model) (access : Access) (p : PlainRow) : Record :=
  { Record.ofRow m access p.data with related := p.related }

theorem PlainRow.toRecord_attach (m : Model) (access : Access) (p : PlainRow) (name : String) (related : Related) :
    (Parent.attach p name related).toRecord m access = Parent.attach (p.toRecord m access) name related := rfl

section Keys

variable {m : Model} {access : Access} {p : PlainRow} {col : String}

/-- A record has the keys of the row in columns of the table. -/
theorem PlainRow.keyValue_toRecord (h : m.hasColumn col = true) :
    Parent.keyValue (p.toRecord m access) col = Parent.keyValue p col := by
  show (Record.ofRow m access p.data).data.get? col = p.data.get? col
  rw [(Record.holdsRow_ofRow m access p.data).data, OrderedMap.get?_filter, h]
  cases p.data.get? col <;> rfl

/-- Everything else in the row is put aside. -/
theorem PlainRow.keyValue_toRecord_eq_none (h : m.hasColumn col = false) :
    Parent.keyValue (p.toRecord m access) col = none := by
  show (Record.ofRow m access p.data).data.get? col = none
  rw [(Record.holdsRow_ofRow m access p.data).data, OrderedMap.get?_filter, h]
  cases p.data.get? col <;> rfl

end Keys

/-- The records of rows have the keys of the rows for a relation of their model: its column is one of the table, or no
row has a key there. -/
def Model.KeepsKeys (m : Model) (rows : List Assignments) (name : String) : Prop :=
  ∀ r, m.relation? name = some r →
    m.hasColumn r.parentCol = true ∨ ∀ row ∈ rows, (row.get? r.parentCol).bind Value.keyText? = none

section Loaded

variable (d : Driver σ) {m : Model} (access : Access)

/-- Loading a relation onto records of rows comes to the same as loading it onto the rows. -/
theorem Model.loadRelation_toRecord {ps : List PlainRow} {name : String}
    (hkeeps : m.KeepsKeys (ps.map PlainRow.data) name) (wrap : Option Bool) (db : Database σ) :
    m.loadRelation d (ps.map (PlainRow.toRecord m access)) name wrap db =
      ((m.loadRelation d ps name wrap db).1.map (List.map (PlainRow.toRecord m access)),
        (m.loadRelation d ps name wrap db).2) := by
  unfold loadRelation
  cases hr : m.relation? name with
  | none => rfl
  | some r =>
    have hkeys : r.parentKeys (ps.map (PlainRow.toRecord m access)) = r.parentKeys ps ∧
        ∀ p ∈ ps, r.parentKeyText? (p.toRecord m access) = r.parentKeyText? p := by
      cases hcol : m.hasColumn r.parentCol with
      | true =>
        refine ⟨?_, fun p _ => ?_⟩
        · simp only [Relation.parentKeys, List.filterMap_map, Function.comp_def, PlainRow.keyValue_toRecord hcol]
        · rw [Relation.parentKeyText?, Relation.parentKeyText?, PlainRow.keyValue_toRecord hcol]
      | false =>
        -- neither the rows nor the records have a key, so no query is sent for either
        have hrow : ∀ p ∈ ps, r.parentKeyText? p = none := fun p hp =>
          (hkeeps r hr).resolve_left (by rw [hcol]; exact Bool.false_ne_true) p.data (List.mem_map_of_mem hp)
        have hrecord (p : PlainRow) : r.parentKeyText? (p.toRecord m access) = none := by
          rw [Relation.parentKeyText?, PlainRow.keyValue_toRecord_eq_none hcol]
          rfl
        refine ⟨?_, fun p hp => (hrecord p).trans (hrow p hp).symm⟩
        rw [Relation.parentKeys_eq_nil hrow, Relation.parentKeys_eq_nil (List.forall_mem_map.2 fun p _ => hrecord p)]
    exact Relation.load_map (PlainRow.toRecord_attach m access) d r name hkeys.1 hkeys.2 wrap db

/-- Loading a relation leaves the data of rows as they are. -/
theorem Model.data_of_loadRelation {m : Model} {ps loaded : List PlainRow} {name : String} {wrap : Option Bool}
    {db db' : Database σ} (h : m.loadRelation d ps name wrap db = (.ok loaded, db')) :
    loaded.map PlainRow.data = ps.map PlainRow.data := by
  obtain ⟨f, rfl, hf⟩ := Relation.loadRelation_eq_map h
  rw [List.map_map]
  refine List.map_congr_left fun p _ => ?_
  rcases hf p with hsame | ⟨name', related, hattached⟩
  · rw [Function.comp_apply, hsame]
  · rw [Function.comp_apply, hattached]
    rfl

/-- A fetch of records and one of rows that come to the same: the same error, or records of the rows with what is
attached to them. -/
inductive FetchedAlike (m : Model) (access : Access) :
    Except Error Collection → Except Error (List PlainRow) → Prop where
  | failed (e : Error) : FetchedAlike m access (.error e) (.error e)
  | fetched {c : Collection} {ps : List PlainRow} (hrecords : c.records = ps.map (PlainRow.toRecord m access)) :
    FetchedAlike m access (.ok c) (.ok ps)

theorem Collection.records_withRecords {c : Collection} {rs : List Record} (h : rs.length = c.records.length) :
    (c.withRecords rs).records = rs := by
  unfold withRecords records keys
  exact List.map_snd_zip (by simpa [records] using h.le)

/-- Loading relations onto a collection of records comes to the same as loading them onto rows, one after the other. -/
theorem Collection.load_toRecord {names : List String} {c : Collection} {ps : List PlainRow} (hmodel : c.model = m)
    (hrecords : c.records = ps.map (PlainRow.toRecord m access))
    (hkeeps : ∀ name ∈ names, m.KeepsKeys (ps.map PlainRow.data) name) (db : Database σ) :
    (c.load d names db).2 = (m.loadRelations d ps names db).2 ∧
      FetchedAlike m access ((c.load d names db).1.1.map fun _ => (c.load d names db).1.2)
        (m.loadRelations d ps names db).1 := by
  -- what was attached so far is part of the rows, which is why the induction is for all of them
  induction names generalizing c ps db with
  | nil => exact ⟨rfl, .fetched hrecords⟩
  | cons name names ih =>
    obtain ⟨hname, hnames⟩ := List.forall_mem_cons.1 hkeeps
    rw [load, Model.loadRelations, hmodel, hrecords]
    dsimp only
    rw [Model.loadRelation_toRecord d access hname, Operation.bind_apply]
    cases hload : m.loadRelation d ps name none db with
    | mk result after =>
      cases result with
      | error e => exact ⟨rfl, .failed e⟩
      | ok loaded =>
        have hdata := Model.data_of_loadRelation d hload
        have hlength : (loaded.map (PlainRow.toRecord m access)).length = c.records.length := by
          have hcount := congrArg List.length hdata
          simpa [hrecords] using hcount
        refine ih ?_ ?_ ?_ after
        · exact hmodel
        · exact c.records_withRecords hlength
        · rwa [hdata]

/-! ### Order -/

/-- The record without its related rows. -/
def Record.bare (r : Record) : Record :=
  { r with related := [] }

theorem Record.bare_of_attach {r s : Record} (h : s = r ∨ ∃ name related, s = r.attach name related) :
    s.bare = r.bare := by
  rcases h with rfl | ⟨name, related, rfl⟩
  · rfl
  · rfl

theorem Record.bare_ofRow (m : Model) (access : Access) (row : Assignments) :
    (ofRow m access row).bare = ofRow m access row := by
  rw [bare, ← (holdsRow_ofRow m access row).related]
  rfl

/-- Whatever becomes of a load, the records are the same, in the same order, up to related rows. -/
theorem Collection.bare_records_load (c : Collection) (names : List String) (db : Database σ) :
    (c.load d names db).1.2.records.map Record.bare = c.records.map Record.bare := by
  induction names generalizing c db with
  | nil => rfl
  | cons name names ih =>
    rw [load]
    dsimp only
    cases hload : c.model.loadRelation d c.records name none db with
    | mk result after =>
      cases result with
      | error e => rfl
      | ok loaded =>
        obtain ⟨f, rfl, hf⟩ := Relation.loadRelation_eq_map hload
        rw [ih, c.records_withRecords (List.length_map f), List.map_map]
        exact List.map_congr_left fun r _ => Record.bare_of_attach (hf r)

theorem Collection.bare_records_eagerLoad (c : Collection) (names : List String) (db : Database σ) :
    (c.eagerLoad d names db).1.2.records.map Record.bare = c.records.map Record.bare := by
  unfold eagerLoad
  split
  · rfl
  · exact bare_records_load d c names db

theorem Model.data_of_loadRelations {names : List String} {ps loaded : List PlainRow} {db db' : Database σ}
    (h : m.loadRelations d ps names db = (.ok loaded, db')) : loaded.map PlainRow.data = ps.map PlainRow.data := by
  induction names generalizing ps db with
  | nil =>
    obtain ⟨rfl, -⟩ := Operation.pure_eq_ok_iff.1 h
    rfl
  | cons name names ih =>
    obtain ⟨between, after, hload, h⟩ := Operation.bind_eq_ok_iff.1 h
    exact (ih h).trans (data_of_loadRelation d hload)

/-! ### No rows -/

/-- Binds the models that records of the relations under some names are of, as loading the relations does first. -/
def Model.bindTargets (m : Model) : List String → Operation σ Unit
  | [] => pure ()
  | name :: names =>
    match m.relation? name with
    | none => m.bindTargets names
    | some r => do
      let _ ← r.target d none
      m.bindTargets names

theorem Model.loadRelations_nil (m : Model) (names : List String) (db : Database σ) :
    m.loadRelations d [] names db =
      ((m.bindTargets d names db).1.map fun _ => [], (m.bindTargets d names db).2) := by
  induction names generalizing db with
  | nil => rfl
  | cons name names ih =>
    rw [loadRelations, bindTargets, loadRelation]
    cases m.relation? name with
    | none => exact ih db
    | some r =>
      dsimp only
      rw [Relation.load, bind_assoc, Operation.bind_apply, Operation.bind_apply]
      obtain ⟨_ | target, asked⟩ := r.target d none db
      · rfl
      · exact ih asked

end Loaded

/-! ### Fetches -/

theorem Collection.eagerLoad_nil (d : Driver σ) (c : Collection) : c.eagerLoad d [] = pure (.ok (), c) := by
  unfold eagerLoad
  split <;> rfl

theorem Collection.eagerLoad_of_no_members (d : Driver σ) {c : Collection} (h : c.members = []) (names : List String) :
    c.eagerLoad d names = pure (.ok (), c) :=
  if_pos (List.isEmpty_iff.2 h)

theorem Collection.eagerLoad_of_members (d : Driver σ) {c : Collection} (h : c.members ≠ []) (names : List String) :
    c.eagerLoad d names = c.load d names :=
  if_neg (mt List.isEmpty_iff.1 h)

/-- The records of rows, without related rows. -/
theorem Collection.records_ofRows (m : Model) (access : Access) {rows : List Assignments} (h : rows.length ≤ maxIndex) :
    (ofRows m access rows).records = rows.map (Record.ofRow m access) := by
  have hrows : rows.zipIdx.map Prod.fst = rows := List.zipIdx_map_fst 0 rows
  rw [records, members_ofRows h, List.map_map]
  conv => rhs; rw [← hrows, List.map_map]
  rfl

namespace Model

variable {d : Driver σ} {m : Model} {f : Fetch} {db fetched : Database σ}

/-- Once the rows are fetched, they become records, and relations are loaded onto these. -/
theorem fetchRecords_of_fetchRows {rows : List Assignments} (access : Access)
    (h : m.fetchRows d f db = (.ok rows, fetched)) :
    let loaded := (Collection.ofRows m access rows).eagerLoad d f.relations fetched
    m.fetchRecords d access f db = (loaded.1.1.map fun _ => loaded.1.2, loaded.2) := by
  unfold fetchRecords
  rw [Operation.bind_apply, h]
  dsimp only
  cases hnames : f.relations with
  | nil =>
    rw [Collection.eagerLoad_nil]
    rfl
  | cons name names =>
    rw [if_neg (by simp)]
    generalize (Collection.ofRows m access rows).eagerLoad d (name :: names) fetched = loaded
    obtain ⟨⟨_ | _, c⟩, after⟩ := loaded <;> rfl

theorem fetchPlain_of_fetchRows {rows : List Assignments} (h : m.fetchRows d f db = (.ok rows, fetched)) :
    m.fetchPlain d f db = m.loadRelations d (rows.map fun data => { data }) f.relations fetched := by
  unfold fetchPlain
  rw [Operation.bind_apply, h]

theorem fetch_of_fetchRows_error (access : Access) {e : Error} (h : m.fetchRows d f db = (.error e, fetched)) :
    m.fetchRecords d access f db = (.error e, fetched) ∧ m.fetchPlain d f db = (.error e, fetched) := by
  unfold fetchRecords fetchPlain
  rw [Operation.bind_apply, Operation.bind_apply, h]
  exact ⟨rfl, rfl⟩

/-- Of no rows there are no records, and nothing is loaded onto them. -/
theorem fetch_of_no_rows (access : Access) (h : m.fetchRows d f db = (.ok [], fetched)) :
    m.fetchRecords d access f db = (.ok (.empty m access), fetched) ∧
      m.fetchPlain d f db =
        ((m.bindTargets d f.relations fetched).1.map fun _ => [], (m.bindTargets d f.relations fetched).2) := by
  rw [fetchRecords_of_fetchRows access h, fetchPlain_of_fetchRows h]
  exact ⟨by rw [Collection.eagerLoad_of_no_members d rfl]; rfl, loadRelations_nil d m f.relations fetched⟩

section Rows

variable {access : Access} {rows : List Assignments}

/-- With the same keys, the same is loaded onto the records as onto the rows. -/
theorem fetchedAlike_of_keepsKeys (h : m.fetchRows d f db = (.ok rows, fetched))
    (hlength : rows.length ≤ Collection.maxIndex) (hne : rows ≠ [])
    (hkeeps : ∀ name ∈ f.relations, m.KeepsKeys rows name) :
    (m.fetchRecords d access f db).2 = (m.fetchPlain d f db).2 ∧
      FetchedAlike m access (m.fetchRecords d access f db).1 (m.fetchPlain d f db).1 := by
  have hrecords := Collection.records_ofRows m access hlength
  have hmembers : (Collection.ofRows m access rows).members ≠ [] := by
    intro hnil
    rw [Collection.records, hnil] at hrecords
    exact hne (List.map_eq_nil_iff.1 hrecords.symm)
  have hplain : rows.map (Record.ofRow m access) =
      (rows.map fun data => { data : PlainRow }).map (PlainRow.toRecord m access) := by
    rw [List.map_map]
    exact List.map_congr_left fun row _ => (Record.bare_ofRow m access row).symm
  have hdata : (rows.map fun data => { data : PlainRow }).map PlainRow.data = rows := by
    rw [List.map_map]
    exact List.map_id rows
  rw [fetchRecords_of_fetchRows access h, fetchPlain_of_fetchRows h, Collection.eagerLoad_of_members d hmembers]
  exact Collection.load_toRecord d access (Collection.model_ofRows m access rows).1 (hrecords.trans hplain)
    (by rwa [hdata]) fetched

/-- The records are those of the rows, in their order. -/
theorem bare_records_of_fetchRecords (h : m.fetchRows d f db = (.ok rows, fetched))
    (hlength : rows.length ≤ Collection.maxIndex) {c : Collection} (hc : (m.fetchRecords d access f db).1 = .ok c) :
    c.records.map Record.bare = rows.map (Record.ofRow m access) := by
  rw [fetchRecords_of_fetchRows access h] at hc
  have hbare : (rows.map (Record.ofRow m access)).map Record.bare = rows.map (Record.ofRow m access) := by
    rw [List.map_map]
    exact List.map_congr_left fun row _ => Record.bare_ofRow m access row
  have hloaded := Collection.bare_records_eagerLoad d (Collection.ofRows m access rows) f.relations fetched
  rw [Collection.records_ofRows m access hlength, hbare] at hloaded
  cases hresult : ((Collection.ofRows m access rows).eagerLoad d f.relations fetched).1.1 with
  | error e =>
    rw [hresult] at hc
    exact nomatch hc
  | ok _ =>
    rw [hresult] at hc
    obtain rfl := Except.ok.inj hc
    exact hloaded

theorem data_of_fetchPlain (h : m.fetchRows d f db = (.ok rows, fetched)) {ps : List PlainRow}
    (hps : (m.fetchPlain d f db).1 = .ok ps) : ps.map PlainRow.data = rows := by
  rw [fetchPlain_of_fetchRows h] at hps
  rw [data_of_loadRelations d (Prod.ext hps rfl), List.map_map]
  exact List.map_id rows

end Rows

end Model

/--
Records and rows of a fetch agree.  If the fetch of the rows fails, both fail with its error.  If there are no rows,
there are no records, whatever relations are included, while for the rows the models of these are bound, and may be
missing.  Otherwise, if the records have the keys of the rows for all relations that are included, both fail with one
error, or the records are those of the rows, in their order, with the same related rows; and in the end the database is
the same.  In any case records that are given are those of the rows that are given, in their order.
-/
theorem fetchRecords_agrees_fetchPlain (d : Driver σ) (m : Model) (access : Access) (f : Fetch) (db : Database σ)
    (hlength : ∀ rows fetched, m.fetchRows d f db = (.ok rows, fetched) → rows.length ≤ Collection.maxIndex) :
    let records := m.fetchRecords d access f db
    let plain := m.fetchPlain d f db
    (∀ e fetched, m.fetchRows d f db = (.error e, fetched) →
        records = (.error e, fetched) ∧ plain = (.error e, fetched)) ∧
      (∀ fetched, m.fetchRows d f db = (.ok [], fetched) → records = (.ok (.empty m access), fetched) ∧
        plain = ((m.bindTargets d f.relations fetched).1.map fun _ => [], (m.bindTargets d f.relations fetched).2)) ∧
      (∀ rows fetched, m.fetchRows d f db = (.ok rows, fetched) → rows ≠ [] →
        (∀ name ∈ f.relations, m.KeepsKeys rows name) →
          records.2 = plain.2 ∧ FetchedAlike m access records.1 plain.1) ∧
      ∀ c ps, records.1 = .ok c → plain.1 = .ok ps →
        c.records.map Record.bare = ps.map fun p => .ofRow m access p.data := by
  refine ⟨fun e fetched h => Model.fetch_of_fetchRows_error access h, fun fetched h => Model.fetch_of_no_rows access h,
    fun rows fetched h hne => Model.fetchedAlike_of_keepsKeys h (hlength rows fetched h) hne, fun c ps hc hps => ?_⟩
  cases h : m.fetchRows d f db with
  | mk result fetched =>
    cases result with
    | error e =>
      rw [(Model.fetch_of_fetchRows_error access h).1] at hc
      exact nomatch hc
    | ok rows =>
      rw [Model.bare_records_of_fetchRecords h (hlength rows fetched h) hc, ← Model.data_of_fetchPlain h hps,
        List.map_map]
      rfl

namespace FetchedAlike.Example

/-- The tag of a post, by a key that is no column of the table. -/
def tag : Relation :=
  { name := "tag", kind := .belongsTo, foreignTable := "tags", foreignCol := "id", parentCol := "tag_id",
    wraps := false }

/-- The author of a post, as a record. -/
def author : Relation :=
  { name := "author", kind := .belongsTo, foreignTable := "authors", foreignCol := "id", parentCol := "author_id" }

/-- Posts with both relations. -/
def posts : Model :=
  Model.bind (((Entity.ofTable "posts").withRelation tag).withRelation author)
    (.ofColumns "posts"
      [(Column.ofDeclaration "id" "INTEGER").asPrimaryKey false, .ofDeclaration "author_id" "INTEGER"])

/-- Posts with their authors. -/
def withAuthor : Fetch := { relations := ["author"] }

/-- Posts with tags, whose keys are another column under the name of the key. -/
def withTag : Fetch := { cols := ["id", "author_id AS tag_id"], relations := ["tag"] }

/-- A database that answers from a script. -/
def driver : Driver (Script × Bool) := .scripted .sqlite (.idle .sqlite)

/-- A database that answers with some rows for each query, and knows the table of authors or not. -/
def answering (rows : List (List Row)) (authors : List Column) : Database (Script × Bool) :=
  { store := ({ rows := rows.map .ok, tables := .ofList [("authors", .ok authors)] }, false) }

/-- Two posts of which one has an author, and the author. -/
def twoPosts : Database (Script × Bool) :=
  answering
    [[{ names := ["id", "author_id"], values := [.int 1, .int 7] },
        { names := ["id", "author_id"], values := [.int 2, .null] }],
      [{ names := ["id"], values := [.int 7] }]]
    [.ofDeclaration "id" "INTEGER"]

/-- A post with a tag, and the tag. -/
def onePost : Database (Script × Bool) :=
  answering [[{ names := ["id", "tag_id"], values := [.int 1, .int 7] }], [{ names := ["id"], values := [.int 7] }]] []

/-- No posts, and no table of authors. -/
def noPosts : Database (Script × Bool) := answering [] []

end FetchedAlike.Example

open FetchedAlike.Example in
/-- The records have the authors of the rows. -/
theorem fetchRecords_agrees_withAuthor :
    (∃ rows fetched, posts.fetchRows driver withAuthor twoPosts = (.ok rows, fetched) ∧
        rows.length ≤ Collection.maxIndex ∧ rows ≠ [] ∧ ∀ name ∈ withAuthor.relations, posts.KeepsKeys rows name) ∧
      FetchedAlike posts .readOnly (posts.fetchRecords driver .readOnly withAuthor twoPosts).1
        (posts.fetchPlain driver withAuthor twoPosts).1 := by
  obtain ⟨rows, fetched, hfetch, hlength, hne⟩ : ∃ rows fetched,
      posts.fetchRows driver withAuthor twoPosts = (.ok rows, fetched) ∧
        rows.length ≤ Collection.maxIndex ∧ rows ≠ [] :=
    ⟨_, _, rfl, by decide, by decide⟩
  have hkeeps : ∀ name ∈ withAuthor.relations, posts.KeepsKeys rows name := by
    intro name hname r hr
    obtain rfl := List.mem_singleton.1 hname
    obtain rfl : author = r := Option.some.inj hr
    exact .inl rfl
  have hlengths : ∀ rows' fetched', posts.fetchRows driver withAuthor twoPosts = (.ok rows', fetched') →
      rows'.length ≤ Collection.maxIndex := by
    intro rows' fetched' h
    obtain ⟨hrows, -⟩ := Prod.mk.inj (hfetch.symm.trans h)
    rwa [← Except.ok.inj hrows]
  have hagree := fetchRecords_agrees_fetchPlain driver posts .readOnly withAuthor twoPosts hlengths
  exact ⟨⟨rows, fetched, hfetch, hlength, hne, hkeeps⟩, (hagree.2.2.1 rows fetched hfetch hne hkeeps).2⟩

open FetchedAlike.Example in
/-- The tag of a post is found by the key of the row, and not by that of the record, which puts the key aside; and no
records come with no authors, while no rows do not. -/
theorem fetchRecords_misses_alias :
    (∃ c ps, (posts.fetchRecords driver .writable withTag onePost).1 = .ok c ∧
        (posts.fetchPlain driver withTag onePost).1 = .ok ps ∧
        c.records.map (fun r => r.related.map fun e => (e.1, e.2.size)) = [[("tag", 0)]] ∧
        ps.map (fun p => p.related.map fun e => (e.1, e.2.size)) = [[("tag", 1)]]) ∧
      (posts.fetchRecords driver .writable withAuthor noPosts).1 = .ok (.empty posts .writable) ∧
      (posts.fetchPlain driver withAuthor noPosts).1 = .error (.missing .table "authors" none) :=
  ⟨⟨_, _, rfl, rfl, rfl, rfl⟩, rfl, rfl⟩

end RecordMapper
