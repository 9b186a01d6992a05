import RecordMapper.Proofs.Relation.Attached
import RecordMapper.Proofs.Relation.Query

/-!
# Relations that ask for some columns

The constraints of a relation may ask for some columns of the related rows.  Over a driver that answers with the same
rows and with just the columns that are asked for (`NarrowsQuery`), a load then attaches to each parent the rows that it
attaches without the constraint, in the same number and order, each narrowed to these columns.  This needs the key of
every row: through a table in between it always comes along, and otherwise it must be one of the columns.  If it is not,
nothing is attached (`loadRelation_columns`, `loadRelation_columns_lost`).
-/

namespace RecordMapper

variable {σ α : Type}

/-! ### Narrowed rows -/

/-- Whether a list of columns asks for a column; an empty one asks for all. -/
def AsksFor (cols : List String) (col : String) : Prop :=
  cols = [] ∨ col ∈ cols

instance (cols : List String) (col : String) : Decidable (AsksFor cols col) :=
  inferInstanceAs (Decidable (cols = [] ∨ col ∈ cols))

/-- A row with just the columns that are asked for. -/
def NarrowedTo (cols : List String) (narrow full : Assignments) : Prop :=
  ∀ col, narrow.get? col = if AsksFor cols col then full.get? col else none

namespace Relation

/-- The relation without its constraint on the columns. -/
def allColumns (r : Relation) : Relation :=
  { r with constraints := { r.constraints with cols := [] } }

/-- Whether the query of a relation shows a column: one that is asked for, or the parents' key that comes along. -/
def Shows (r : Relation) (col : String) : Prop :=
  AsksFor r.constraints.cols col ∨ (r.kind = .hasManyThrough ∧ col = parentKeyName)

instance (r : Relation) (col : String) : Decidable (r.Shows col) :=
  inferInstanceAs (Decidable (AsksFor r.constraints.cols col ∨ (r.kind = .hasManyThrough ∧ col = parentKeyName)))

/-- A row of a result with just the columns that the query shows. -/
def NarrowedRow (r : Relation) (narrow full : Row) : Prop :=
  ∀ col, narrow.toMap.get? col = if r.Shows col then full.toMap.get? col else none

/-- The answers to the query of a relation, with its columns and with all of them: the same error, or the same rows. -/
inductive NarrowedAnswer (r : Relation) : Except Error (List Row) → Except Error (List Row) → Prop where
  | failed (e : Error) : NarrowedAnswer r (.error e) (.error e)
  | found {narrow full : List Row} (h : List.Forall₂ r.NarrowedRow narrow full) :
    NarrowedAnswer r (.ok narrow) (.ok full)

/-- The driver answers the query for some keys with the rows of the query for all columns, narrowed to those that it
shows. -/
def NarrowsQuery (r : Relation) (d : Driver σ) (keys : List Value) : Prop :=
  ∀ link narrow full, r.through = .ok link → (r.select link keys).sql d.quoter = .ok narrow →
    (r.allColumns.select link keys).sql d.quoter = .ok full →
    ∀ s, r.NarrowedAnswer ((d.query narrow.text narrow.binds).run s).1 ((d.query full.text full.binds).run s).1

/-- Whether the rows of the result show their keys. -/
def ShowsKey (r : Relation) : Prop :=
  r.kind = .hasManyThrough ∨ AsksFor r.constraints.cols r.foreignCol

theorem showsKey_iff {r : Relation} : r.ShowsKey ↔ r.Shows r.keyColumn := by
  unfold ShowsKey Shows keyColumn
  by_cases hkind : r.kind = .hasManyThrough <;> simp [hkind]

/-! ### The rows of a parent -/

variable {r : Relation}

theorem rowKeyText?_narrowed (hkey : r.ShowsKey) {narrow full : Row} (h : r.NarrowedRow narrow full) :
    r.rowKeyText? narrow = r.allColumns.rowKeyText? full := by
  have hvalue : narrow.toMap.get? r.keyColumn = full.toMap.get? r.keyColumn := by
    rw [h r.keyColumn, if_pos (showsKey_iff.1 hkey)]
  show (narrow.toMap.get? r.keyColumn).bind Value.keyText? = (full.toMap.get? r.keyColumn).bind Value.keyText?
  rw [hvalue]

theorem rowKeyText?_hidden (hkey : ¬ r.ShowsKey) {narrow full : Row} (h : r.NarrowedRow narrow full) :
    r.rowKeyText? narrow = none := by
  rw [rowKeyText?, h r.keyColumn, if_neg (mt showsKey_iff.2 hkey), Option.bind_none]

theorem attachedRow_narrowed {narrow full : Row} (h : r.NarrowedRow narrow full) :
    NarrowedTo r.constraints.cols (r.attachedRow narrow) (r.allColumns.attachedRow full) := by
  intro col
  have hfull : r.allColumns.attachedRow full = r.attachedRow full := rfl
  rw [hfull]
  unfold attachedRow
  by_cases hkind : r.kind = .hasManyThrough
  · rw [if_pos hkind, if_pos hkind, OrderedMap.get?_erase, OrderedMap.get?_erase]
    by_cases hcarried : parentKeyName = col
    · simp [hcarried]
    · rw [if_neg hcarried, if_neg hcarried, h col]
      have hshows : r.Shows col ↔ AsksFor r.constraints.cols col := by simp [Shows, Ne.symm hcarried]
      simp only [hshows]
  · have hshows : r.Shows col ↔ AsksFor r.constraints.cols col := by simp [Shows, hkind]
    rw [if_neg hkind, if_neg hkind, h col]
    simp only [hshows]

/-- With their keys, as many rows are a parent's own as without the constraint, in the same order. -/
theorem ownRows_narrowed [Parent α] (hkey : r.ShowsKey) {narrow full : List Row}
    (h : List.Forall₂ r.NarrowedRow narrow full) (parent : α) :
    List.Forall₂ (NarrowedTo r.constraints.cols) (r.ownRows narrow parent) (r.allColumns.ownRows full parent) := by
  have hparent : r.allColumns.parentKeyText? parent = r.parentKeyText? parent := rfl
  unfold ownRows
  rw [hparent]
  cases r.parentKeyText? parent with
  | none => exact .nil
  | some k =>
    have hsame : ∀ ⦃narrow full : Row⦄, r.NarrowedRow narrow full →
        (decide (r.rowKeyText? narrow = some k) = true ↔ decide (r.allColumns.rowKeyText? full = some k) = true) :=
      fun narrow full hrow => by rw [rowKeyText?_narrowed hkey hrow]
    have hfiltered := List.rel_filter hsame h
    rw [List.forall₂_map_left_iff, List.forall₂_map_right_iff]
    exact hfiltered.imp fun _ _ hrow => attachedRow_narrowed hrow

/-- Without its key no row is a parent's own. -/
theorem ownRows_hidden [Parent α] (hkey : ¬ r.ShowsKey) {narrow full : List Row}
    (h : List.Forall₂ r.NarrowedRow narrow full) (parent : α) : r.ownRows narrow parent = [] := by
  unfold ownRows
  cases r.parentKeyText? parent with
  | none => rfl
  | some k =>
    have hnone : ∀ row ∈ narrow, ¬ r.rowKeyText? row = some k := by
      intro row hrow htext
      obtain ⟨i, hi, rfl⟩ := List.getElem_of_mem hrow
      have hpair := h.get hi (h.length_eq ▸ hi)
      have hhidden : r.rowKeyText? narrow[i] = none := rowKeyText?_hidden hkey hpair
      exact nomatch hhidden.symm.trans htext
    have hfiltered : narrow.filter (fun row => decide (r.rowKeyText? row = some k)) = [] :=
      List.filter_eq_nil_iff.2 fun row hrow => by simpa using hnone row hrow
    exact congrArg (List.map r.attachedRow) hfiltered

/-! ### Loading -/

/-- The constraint on the columns has no say in whether the query can be written. -/
theorem errorOf?_sql_allColumns (r : Relation) (link : Option LinkTable) (keys : List Value) (q : Quoter) :
    errorOf? ((r.allColumns.select link keys).sql q) = errorOf? ((r.select link keys).sql q) := by
  let all := r.allColumns.select link keys
  let some := r.select link keys
  have hfilter : all.conditions q .filter " WHERE " all.fetch.filter 0 =
      some.conditions q .filter " WHERE " some.fetch.filter 0 := rfl
  have hhaving (bound : Nat) : all.conditions q .having " HAVING " all.fetch.having bound =
      some.conditions q .having " HAVING " some.fetch.having bound := rfl
  show errorOf? (all.sql q) = errorOf? (some.sql q)
  rw [Select.sql, Select.sql, hfilter]
  cases some.conditions q .filter " WHERE " some.fetch.filter 0 with
  | error fault => rfl
  | ok filter =>
    dsimp only
    rw [hhaving]
    cases some.conditions q .having " HAVING " some.fetch.having filter.binds.length <;> rfl

/-- The rows of some keys, or the error of writing the query or of asking for them. -/
theorem fetchKeyed_fst {link : Option LinkTable} (hlink : r.through = .ok link) (d : Driver σ) (keys : List Value)
    (db : Database σ) :
    (r.fetchKeyed d keys db).1 =
      match (r.select link keys).sql d.quoter with
      | .error fault => .error fault.toError
      | .ok sql =>
        ((d.query sql.text sql.binds).run db.store).1.map
          (List.filterMap fun row => r.keyedRow? link row.toMap) := by
  unfold fetchKeyed Model.runQuery
  rw [hlink]
  simp only [Operation.bind_apply, Database.result]
  cases (r.select link keys).sql d.quoter with
  | error fault => rfl
  | ok sql =>
    simp only [Database.call]
    cases (d.query sql.text sql.binds).run db.store with
    | mk result s => cases result <;> rfl

/-- The rows of some keys: with the constraint as without it they cannot be fetched, or they are the same, narrowed. -/
theorem fetchKeyed_narrowed {d : Driver σ} {keys : List Value} (hquery : r.NarrowsQuery d keys) (db : Database σ) :
    (∃ e, (r.fetchKeyed d keys db).1 = .error e ∧ (r.allColumns.fetchKeyed d keys db).1 = .error e) ∨
      ∃ link narrow full, r.through = .ok link ∧ List.Forall₂ r.NarrowedRow narrow full ∧
        (r.fetchKeyed d keys db).1 = .ok (narrow.filterMap fun row => r.keyedRow? link row.toMap) ∧
        (r.allColumns.fetchKeyed d keys db).1 =
          .ok (full.filterMap fun row => r.allColumns.keyedRow? link row.toMap) := by
  have hthrough : r.allColumns.through = r.through := rfl
  cases hlink : r.through with
  | error e =>
    refine .inl ⟨e, ?_, ?_⟩
    · rw [fetchKeyed, hlink]
      rfl
    · rw [fetchKeyed, hthrough, hlink]
      rfl
  | ok link =>
    have herror := errorOf?_sql_allColumns r link keys d.quoter
    rw [fetchKeyed_fst hlink, fetchKeyed_fst (hthrough.trans hlink)]
    cases hnarrow : (r.select link keys).sql d.quoter with
    | error fault =>
      rw [hnarrow] at herror
      rw [eq_error_iff.2 herror]
      exact .inl ⟨fault.toError, rfl, rfl⟩
    | ok narrow =>
      rw [hnarrow] at herror
      obtain ⟨full, hfull⟩ := exists_ok_iff.2 herror
      have hanswer := hquery link narrow full hlink hnarrow hfull db.store
      rw [hfull]
      dsimp only
      generalize ((d.query narrow.text narrow.binds).run db.store).1 = result at hanswer
      generalize ((d.query full.text full.binds).run db.store).1 = result' at hanswer
      cases hanswer with
      | failed e => exact .inl ⟨e, rfl, rfl⟩
      | found hrows => exact .inr ⟨link, _, _, rfl, hrows, rfl, rfl⟩

/-- The result of a load: the error of binding the target or of asking for the rows, or the parents with what is
attached to them. -/
theorem load_fst [Parent α] (d : Driver σ) (r : Relation) (parents : List α) (wrap : Option Bool) (db : Database σ) :
    (r.load d r.name parents wrap db).1 =
      match r.target d wrap db with
      | (.error e, _) => .error e
      | (.ok target, asked) =>
        if r.parentKeys parents = [] then .ok (parents.map fun p => Parent.attach p r.name (shape r.kind target []))
        else
          (r.fetchKeyed d (r.parentKeys parents) asked).1.map fun keyed => parents.map (r.attachTo target keyed) := by
  unfold load
  rw [Operation.bind_apply]
  cases r.target d wrap db with
  | mk result asked =>
    cases result with
    | error e => rfl
    | ok target =>
      dsimp only
      by_cases hkeys : r.parentKeys parents = []
      · rw [if_pos hkeys, if_pos (List.isEmpty_iff.2 hkeys)]
        rfl
      · rw [if_neg hkeys, if_neg (mt List.isEmpty_iff.1 hkeys), Operation.bind_apply]
        cases r.fetchKeyed d (r.parentKeys parents) asked with
        | mk result answered => cases result <;> rfl

/-- With the constraint on the columns as without it, a load fails, or it attaches the own rows of the same answer,
narrowed or not. -/
theorem load_narrowed [Parent α] {d : Driver σ} {parents : List α} (hquery : r.NarrowsQuery d (r.parentKeys parents))
    (wrap : Option Bool) (db : Database σ) :
    (∃ e, (r.load d r.name parents wrap db).1 = .error e ∧
        (r.allColumns.load d r.name parents wrap db).1 = .error e) ∨
      ∃ target narrow full, List.Forall₂ r.NarrowedRow narrow full ∧
        (r.load d r.name parents wrap db).1 =
          .ok (parents.map fun p => Parent.attach p r.name (shape r.kind target (r.ownRows narrow p))) ∧
        (r.allColumns.load d r.name parents wrap db).1 =
          .ok (parents.map fun p => Parent.attach p r.name (shape r.kind target (r.allColumns.ownRows full p))) := by
  have hnarrow := load_fst d r parents wrap db
  have hfull := load_fst d r.allColumns parents wrap db
  have htarget : r.allColumns.target d wrap db = r.target d wrap db := rfl
  have hkeys : r.allColumns.parentKeys parents = r.parentKeys parents := rfl
  rw [htarget, hkeys] at hfull
  cases hresult : r.target d wrap db with
  | mk result asked =>
    rw [hresult] at hnarrow hfull
    cases result with
    | error e => exact .inl ⟨e, hnarrow, hfull⟩
    | ok target =>
      dsimp only at hnarrow hfull
      by_cases hnone : r.parentKeys parents = []
      · rw [if_pos hnone] at hnarrow hfull
        refine .inr ⟨target, [], [], .nil, hnarrow.trans ?_, hfull.trans ?_⟩
        · exact congrArg _ (List.map_congr_left fun p _ => by rw [ownRows_of_no_rows])
        · exact congrArg _ (List.map_congr_left fun p _ => by rw [ownRows_of_no_rows]; rfl)
      · rw [if_neg hnone] at hnarrow hfull
        rcases fetchKeyed_narrowed hquery asked with ⟨e, hfailed, hfailed'⟩ |
          ⟨link, narrow, full, hlink, hrows, hfetched, hfetched'⟩
        · rw [hfailed] at hnarrow
          rw [hfailed'] at hfull
          exact .inl ⟨e, hnarrow, hfull⟩
        · rw [hfetched] at hnarrow
          rw [hfetched'] at hfull
          refine .inr ⟨target, narrow, full, hrows, hnarrow.trans ?_, hfull.trans ?_⟩
          · exact congrArg _ (List.map_congr_left fun p _ => by rw [attachTo, rowsOf_keyed hlink])
          · have hlink' : r.allColumns.through = .ok link := hlink
            exact congrArg _ (List.map_congr_left fun p _ => by rw [attachTo, rowsOf_keyed hlink']; rfl)

/--
A relation of a model with and without its constraint on the columns, loaded onto the same parents over a driver that
answers with the same rows, narrowed to the columns that the query shows.  Either both loads fail with one error, or
both attach to each parent its own rows of the answer.  If the rows show their keys, through a table in between or since
the key column is among the columns, these are as many rows, in the same order, each narrowed to the columns; otherwise
nothing is attached.
-/
theorem loadRelation_columns [Parent α] [LawfulParent α] (d : Driver σ) (m m' : Model) (r : Relation)
    (hr : m.relation? r.name = some r) (hr' : m'.relation? r.name = some r.allColumns) (parents : List α)
    (wrap : Option Bool) (hquery : r.NarrowsQuery d (r.parentKeys parents)) (db : Database σ) :
    let narrowed := (m.loadRelation d parents r.name wrap db).1
    let whole := (m'.loadRelation d parents r.name wrap db).1
    (∃ e, narrowed = .error e ∧ whole = .error e) ∨
      ∃ loaded loaded' target narrow full, narrowed = .ok loaded ∧ whole = .ok loaded' ∧
        List.Forall₂ (r.Attached target narrow) parents loaded ∧
        List.Forall₂ (r.allColumns.Attached target full) parents loaded' ∧
        ∀ p ∈ parents,
          (r.ShowsKey → List.Forall₂ (NarrowedTo r.constraints.cols) (r.ownRows narrow p)
            (r.allColumns.ownRows full p)) ∧
          (¬ r.ShowsKey → r.ownRows narrow p = []) := by
  have hname : r.allColumns.name = r.name := rfl
  simp only [Model.loadRelation, hr, hr']
  rcases load_narrowed hquery wrap db with hfailed | ⟨target, narrow, full, hrows, hloaded, hloaded'⟩
  · exact .inl hfailed
  · refine .inr ⟨_, _, target, narrow, full, hloaded, hloaded', ?_, ?_, fun p _ => ⟨fun hkey => ?_, fun hkey => ?_⟩⟩
    · rw [List.forall₂_map_right_iff, List.forall₂_same]
      exact fun p _ => attached_attach r target narrow p
    · rw [List.forall₂_map_right_iff, List.forall₂_same]
      exact fun p _ => attached_attach r.allColumns target full p
    · exact ownRows_narrowed hkey hrows p
    · exact ownRows_hidden hkey hrows p

/-! ### An example -/

namespace Example

/-- The posts of authors, of which some columns are asked for. -/
def someOfPosts (cols : List String) : Relation :=
  { name := "posts", kind := .hasMany, foreignTable := "posts", foreignCol := "author_id", parentCol := "id"
    wraps := false, constraints := { cols } }

/-- Authors with the relation. -/
def authors (cols : List String) : Model :=
  Model.bind ((Entity.ofTable "authors").withRelation (someOfPosts cols)) (.ofColumns "authors" [])

/-- Two authors. -/
def twoAuthors : List PlainRow :=
  [{ data := .ofList [("id", .int 1)] }, { data := .ofList [("id", .int 2)] }]

/-- A post of the second author. -/
def storedPost : Row :=
  { names := ["id", "author_id", "title"], values := [.int 7, .int 2, .text "a"] }

/-- The query for the posts of both authors, with all their columns. -/
def wholePosts : String := "SELECT posts.* FROM posts WHERE posts.author_id IN (1, 2)"

/-- The given columns of the post. -/
def columnsOf (cols : List String) : Row :=
  { names := cols, values := cols.filterMap storedPost.get? }

/-- A database of one post, which answers the query for all columns with the whole row, and any other with the given
columns of it. -/
def onePost (cols : List String) : Driver Unit where
  dialect := .sqlite
  query sql _ := pure [if sql = wholePosts then storedPost else columnsOf cols]
  execute _ _ := pure 0
  lastInsertId _ := pure .null
  begin := pure ()
  commit := pure ()
  rollback := pure ()
  inTransaction _ := false
  columns _ := pure []

/-- The database narrows the query of the posts if the columns that it gives are the ones that are asked for. -/
theorem onePost_narrows {cols : List String} (text : String)
    (hsql : ((someOfPosts cols).select none [.int 1, .int 2]).sql (onePost cols).quoter = .ok { text, binds := [] })
    (hwhole : ((someOfPosts cols).allColumns.select none [.int 1, .int 2]).sql (onePost cols).quoter =
      .ok { text := wholePosts, binds := [] })
    (hne : text ≠ wholePosts) (hrow : (someOfPosts cols).NarrowedRow (columnsOf cols) storedPost) :
    (someOfPosts cols).NarrowsQuery (onePost cols) ((someOfPosts cols).parentKeys twoAuthors) := by
  intro link narrow full hlink hnarrow hfull s
  obtain rfl := Except.ok.inj hlink
  obtain rfl := Except.ok.inj (hnarrow.symm.trans hsql)
  obtain rfl := Except.ok.inj (hfull.symm.trans hwhole)
  have hanswer : ((onePost cols).query text []).run s = (.ok [columnsOf cols], s) := by
    show (Except.ok [if text = wholePosts then storedPost else columnsOf cols], s) = _
    rw [if_neg hne]
  rw [hanswer]
  exact .found (.cons hrow .nil)

/-- The columns of the post are narrowed to those that are asked for. -/
theorem columnsOf_narrowed {cols : List String} (hcols : cols = ["author_id", "title"] ∨ cols = ["title"]) :
    (someOfPosts cols).NarrowedRow (columnsOf cols) storedPost := by
  have hstored (col : String) : storedPost.toMap.get? col =
      Entries.find? col [("id", .int 7), ("author_id", .int 2), ("title", .text "a")] := rfl
  rintro col
  rw [hstored]
  rcases hcols with rfl | rfl
  · show Entries.find? col [("author_id", Value.int 2), ("title", .text "a")] = _
    by_cases hkey : col = "author_id"
    · simp [hkey, Entries.find?, Shows, AsksFor, someOfPosts]
    · by_cases htitle : col = "title"
      · simp [htitle, Entries.find?, Shows, AsksFor, someOfPosts]
      · simp [hkey, htitle, Ne.symm hkey, Ne.symm htitle, Entries.find?, Shows, AsksFor, someOfPosts]
  · show Entries.find? col [("title", Value.text "a")] = _
    by_cases htitle : col = "title"
    · simp [htitle, Entries.find?, Shows, AsksFor, someOfPosts]
    · simp [htitle, Ne.symm htitle, Entries.find?, Shows, AsksFor, someOfPosts]

/-- An author with its posts. -/
def authorWith (id : Int32) (posts : List Assignments) : PlainRow :=
  { data := .ofList [("id", .int id)], related := [("posts", .rows posts)] }

/-- Columns with the key. -/
def keyedCols : List String := ["author_id", "title"]

/-- Columns without the key. -/
def keylessCols : List String := ["title"]

/-- The post as it is loaded with the key. -/
def keyedPost : Assignments := .ofList [("author_id", .int 2), ("title", .text "a")]

end Example

open Example in
/-- With the key among the columns the second author gets the post, narrowed to them. -/
theorem loadRelation_columns_keyed :
    (someOfPosts keyedCols).NarrowsQuery (onePost keyedCols) ((someOfPosts keyedCols).parentKeys twoAuthors) ∧
      ∃ target narrow full,
        List.Forall₂ ((someOfPosts keyedCols).Attached target narrow) twoAuthors
            [authorWith 1 [], authorWith 2 [keyedPost]] ∧
          List.Forall₂ ((someOfPosts keyedCols).allColumns.Attached target full) twoAuthors
            [authorWith 1 [], authorWith 2 [storedPost.toMap]] ∧
          ∀ p ∈ twoAuthors, List.Forall₂ (NarrowedTo keyedCols) ((someOfPosts keyedCols).ownRows narrow p)
            ((someOfPosts keyedCols).allColumns.ownRows full p) := by
  have hquery : (someOfPosts keyedCols).NarrowsQuery (onePost keyedCols)
      ((someOfPosts keyedCols).parentKeys twoAuthors) :=
    onePost_narrows "SELECT author_id, title FROM posts WHERE posts.author_id IN (1, 2)" rfl rfl (by decide)
      (columnsOf_narrowed (.inl rfl))
  have hkey : (someOfPosts keyedCols).ShowsKey := .inr (by decide)
  have hnarrowed : ((authors keyedCols).loadRelation (onePost keyedCols) twoAuthors "posts" none { store := () }).1 =
      .ok [authorWith 1 [], authorWith 2 [keyedPost]] := rfl
  have hwhole : ((authors []).loadRelation (onePost keyedCols) twoAuthors "posts" none { store := () }).1 =
      .ok [authorWith 1 [], authorWith 2 [storedPost.toMap]] := rfl
  refine ⟨hquery, ?_⟩
  rcases loadRelation_columns (onePost keyedCols) (authors keyedCols) (authors []) (someOfPosts keyedCols) rfl rfl
    twoAuthors none hquery { store := () } with
    ⟨e, hfailed, -⟩ | ⟨loaded, loaded', target, narrow, full, hloaded, hloaded', hheld, hheld', hrows⟩
  · exact nomatch hnarrowed.symm.trans hfailed
  · obtain rfl := Except.ok.inj (hnarrowed.symm.trans hloaded)
    obtain rfl := Except.ok.inj (hwhole.symm.trans hloaded')
    exact ⟨target, narrow, full, hheld, hheld', fun p hp => (hrows p hp).1 hkey⟩

open Example in
/-- Without it the post is lost, although the database answers with it. -/
theorem loadRelation_columns_lost :
    (someOfPosts keylessCols).NarrowsQuery (onePost keylessCols) ((someOfPosts keylessCols).parentKeys twoAuthors) ∧
      ((authors keylessCols).loadRelation (onePost keylessCols) twoAuthors "posts" none { store := () }).1 =
        .ok [authorWith 1 [], authorWith 2 []] ∧
      ((authors []).loadRelation (onePost keylessCols) twoAuthors "posts" none { store := () }).1 =
        .ok [authorWith 1 [], authorWith 2 [storedPost.toMap]] :=
  ⟨onePost_narrows "SELECT title FROM posts WHERE posts.author_id IN (1, 2)" rfl rfl (by decide)
    (columnsOf_narrowed (.inr rfl)), rfl, rfl⟩

end Relation

end RecordMapper
