import RecordMapper.Driver.Scripted
import RecordMapper.Proofs.Model.RowUpdate
import RecordMapper.Proofs.Record.Runs
import RecordMapper.Proofs.Record.State
import RecordMapper.Proofs.Value.Alike

/-!
# Changes are not lost

A record writes the columns that differ from its snapshot.  A column that is only spelled differently is not written,
yet its new spelling goes into the next snapshot, so the snapshot may move away from the stored row.  It stays alike
to it, column by column: this is what `Tracks` says, and what every edit of a stored record keeps, whether its saves
succeed or fail (`Tracks.edit`, `Tracks.edits`).  So after every save that succeeds the stored row is alike to the
record (`saved_row_alike`).
-/

namespace RecordMapper.Record

variable {σ : Type}

/-! ### Edits -/

/-- An edit of a record: a value is set, or the record is saved, with the values of a map or as it is. -/
inductive Edit where
  | set (col : String) (v : Value)
  | save (values : Option Assignments)

/-- The values that an edit assigns. -/
def Edit.assigned : Edit → List (String × Value)
  | .set col v => [(col, v)]
  | .save values => (values.map OrderedMap.toList).getD []

/-- A record and its database after an edit. -/
def edit (d : Driver σ) (state : Record × Database σ) : Edit → Record × Database σ
  | .set col v => (state.1.place col v, state.2)
  | .save values => ((state.1.save d values state.2).1.2, (state.1.save d values state.2).2)

/-- Values for columns other than the primary one, none of them with a floating-point reading. -/
def Assignable (m : Model) (es : List (String × Value)) : Prop :=
  ∀ e ∈ es, m.hasColumn e.1 = true ∧ e.1 ≠ m.primaryCol ∧ e.2.IsExact

/-- A stored record: its data and its snapshot are the row of its key. -/
structure IsStoredAs (r : Record) (key : Value) (row : String → Value) : Prop where
  isNew : r.isNew = false
  dataKey : r.data.get? r.model.primaryCol = some key
  initialKey : r.initial.get? r.model.primaryCol = some key
  data : ∀ col, r.model.hasColumn col = true → r.data.get? col = some (row col)
  initial : ∀ col, r.model.hasColumn col = true → r.initial.get? col = some (row col)

/-- The stored row is alike to the record in every column of the table. -/
def AgreesWith (r : Record) (row : String → Value) : Prop :=
  ∀ col, r.model.hasColumn col = true → ∃ v, r.data.get? col = some v ∧ (row col).alike v = true

/-! ### The invariant -/

/-- The snapshot of a stored record is the row of its key, up to the spelling of values. -/
structure Tracks (r : Record) (key : Value) (row : String → Value) : Prop where
  isNew : r.isNew = false
  dataKey : r.data.get? r.model.primaryCol = some key
  initialKey : r.initial.get? r.model.primaryCol = some key
  data : ∀ col, r.model.hasColumn col = true → ∃ v, r.data.get? col = some v ∧ v.IsExact
  initial : ∀ col, r.model.hasColumn col = true →
    ∃ v, r.initial.get? col = some v ∧ v.IsExact ∧ (v = row col ∨ v.alike (row col) = true)
  row : ∀ col, r.model.hasColumn col = true → (row col).IsExact

theorem IsStoredAs.tracks {r : Record} {key : Value} {row : String → Value} (h : r.IsStoredAs key row)
    (hexact : ∀ col, r.model.hasColumn col = true → (row col).IsExact) : r.Tracks key row where
  isNew := h.isNew
  dataKey := h.dataKey
  initialKey := h.initialKey
  data col hcol := ⟨row col, h.data col hcol, hexact col hcol⟩
  initial col hcol := ⟨row col, h.initial col hcol, hexact col hcol, .inl rfl⟩
  row := hexact

namespace Tracks

variable {r : Record} {key : Value} {row row' : String → Value}

theorem isUnstored (h : r.Tracks key row) (hblank : key.isBlank = false) : r.isUnstored = false := by
  have hkey : r.primaryKey = key := by simp [primaryKey, h.dataKey]
  simp [Record.isUnstored, h.isNew, hkey, hblank]

theorem storedKey? (h : r.Tracks key row) (hblank : key.isBlank = false) : r.storedKey? = some key := by
  simp [Record.storedKey?, h.initialKey, hblank]

/-- A column that does not differ from the snapshot is alike to the stored one. -/
theorem alike_of_unchanged (h : r.Tracks key row) {col : String} (hcol : r.model.hasColumn col = true)
    (hchanged : r.isChanged col = false) {v : Value} (hv : r.data.get? col = some v) :
    (row col).alike v = true := by
  obtain ⟨w, hw, hexact, hfollows⟩ := h.initial col hcol
  obtain ⟨v', hv', hv_exact⟩ := h.data col hcol
  obtain rfl : v = v' := Option.some.inj (hv.symm.trans hv')
  have halike : v.alike w = true := by simpa [isChanged, hv, hw] using hchanged
  rcases hfollows with rfl | hfollows
  · exact Value.alike_symm hv_exact hexact halike
  · have hrow := h.row col hcol
    exact Value.alike_symm hv_exact hrow (Value.alike_trans hv_exact hexact hrow halike hfollows)

theorem place (h : r.Tracks key row) {col : String} {v : Value} (hcol : r.model.hasColumn col = true)
    (hkey : col ≠ r.model.primaryCol) (hexact : v.IsExact) : (r.place col v).Tracks key row := by
  have hplace : r.place col v = { r with data := r.data.insert col v } := if_pos hcol
  rw [hplace]
  refine { isNew := h.isNew, dataKey := ?_, initialKey := h.initialKey, data := ?_, initial := h.initial, row := h.row }
  · rw [OrderedMap.get?_insert, if_neg hkey]
    exact h.dataKey
  · intro name hname
    by_cases hnew : col = name
    · exact ⟨v, by rw [OrderedMap.get?_insert, if_pos hnew], hexact⟩
    · obtain ⟨w, hw, hw_exact⟩ := h.data name hname
      exact ⟨w, by rw [OrderedMap.get?_insert, if_neg hnew, hw], hw_exact⟩

theorem merge (h : r.Tracks key row) {values : Assignments} (hvalues : Assignable r.model values.toList) :
    (r.merge values).Tracks key row := by
  unfold Record.merge
  generalize values.toList = es at hvalues ⊢
  induction es generalizing r with
  | nil => exact h
  | cons e es ih =>
    obtain ⟨⟨hcol, hkey, hexact⟩, hrest⟩ := List.forall_mem_cons.1 hvalues
    refine ih (h.place hcol hkey hexact) ?_
    rwa [(place_continues r e.1 e.2).model]

theorem merged (h : r.Tracks key row) {values : Option Assignments}
    (hvalues : Assignable r.model (Edit.save values).assigned) :
    (r.merged values).Tracks key row := by
  cases values with
  | none => exact h
  | some values => exact h.merge hvalues

/-! ### Saving -/

/-- When nothing differs from the snapshot, nothing differs from the stored row. -/
theorem agreesWith_of_unchanged (h : r.Tracks key row)
    (hchanges : r.changes.isEmpty = true) : r.AgreesWith row := by
  intro col hcol
  obtain ⟨v, hv, -⟩ := h.data col hcol
  refine ⟨v, hv, h.alike_of_unchanged hcol ?_ hv⟩
  by_contra hchanged
  have hmem : (col, v) ∈ r.changes.toList :=
    List.mem_filter.2 ⟨OrderedMap.get?_eq_some_iff.1 hv, by simpa [hcol] using hchanged⟩
  rw [List.isEmpty_iff.1 hchanges] at hmem
  cases hmem

/-- When the changes are stored, the row is alike to the record, whose data is its next snapshot. -/
theorem of_stored (h : r.Tracks key row)
    (hset : ∀ e ∈ r.changes.toList, e.2.isScalar = true ∧ row' e.1 = e.2)
    (hkept : ∀ col ∉ r.changes.keys, row' col = row col) :
    r.snapshot.Tracks key row' ∧ r.snapshot.AgreesWith row' := by
  have hcolumn : ∀ col v, r.model.hasColumn col = true → r.data.get? col = some v → v.IsExact →
      (row' col).IsExact ∧ (row' col).alike v = true := by
    intro col v hcol hv hexact
    by_cases hchanged : r.isChanged col = true
    · have hmem : (col, v) ∈ r.changes.toList :=
        List.mem_filter.2 ⟨OrderedMap.get?_eq_some_iff.1 hv, by simp [hcol, hchanged]⟩
      obtain ⟨hscalar, hstored⟩ := hset _ hmem
      rw [hstored]
      exact ⟨hexact, Value.alike_self hexact hscalar⟩
    · have hnotMem : col ∉ r.changes.keys := by
        intro hmem
        obtain ⟨e, he, rfl⟩ := List.mem_map.1 hmem
        have hpasses := (List.mem_filter.1 he).2
        simp [hchanged] at hpasses
      rw [hkept col hnotMem]
      exact ⟨h.row col hcol, h.alike_of_unchanged hcol (by simpa using hchanged) hv⟩
  constructor
  · refine
      { isNew := h.isNew, dataKey := h.dataKey, initialKey := h.dataKey, data := h.data, initial := ?_, row := ?_ }
    · intro col hcol
      obtain ⟨v, hv, hexact⟩ := h.data col hcol
      obtain ⟨hrow, halike⟩ := hcolumn col v hcol hv hexact
      exact ⟨v, hv, hexact, .inr (Value.alike_symm hrow hexact halike)⟩
    · intro col hcol
      obtain ⟨v, hv, hexact⟩ := h.data col hcol
      exact (hcolumn col v hcol hv hexact).1
  · intro col hcol
    obtain ⟨v, hv, hexact⟩ := h.data col hcol
    exact ⟨v, hv, (hcolumn col v hcol hv hexact).2⟩

/-- An update keeps the snapshot alike to the row, and if it succeeds the row is alike to the record. -/
theorem updateSelf {d : Driver σ} {row : σ → String → Value} {db : Database σ} (h : r.Tracks key (row db.store))
    (hblank : key.isBlank = false) (hscalar : key.isScalar = true) (hkeeps : r.model.KeepsRow d key row)
    (hchanges : r.changes.isEmpty = false) :
    let saved := r.updateSelf d db
    saved.1.2.Tracks key (row saved.2.store) ∧
      ∀ outcome, saved.1.1 = .ok outcome → saved.1.2.AgreesWith (row saved.2.store) := by
  have hwrite := writeChanges_of_changed (d := d) hchanges (h.storedKey? hblank)
  have hcols : ∀ col ∈ r.changes.keys, r.model.hasColumn col = true := by
    intro col hcol
    obtain ⟨e, he, rfl⟩ := List.mem_map.1 hcol
    exact (Bool.and_eq_true_iff.1 (List.mem_filter.1 he).2).1
  have hupdate := hkeeps.updateMatching hblank hscalar hcols db
  dsimp only
  unfold Record.updateSelf
  rw [hwrite, Operation.bind_apply]
  cases hrun : r.model.updateMatching d r.changes (only r.model.primaryCol key) db with
  | mk result after =>
    rw [hrun] at hupdate
    cases result with
    | error e =>
      dsimp only at hupdate ⊢
      rw [hupdate]
      exact ⟨h, fun _ hok => by cases hok⟩
    | ok n =>
      obtain ⟨hset, hkept⟩ := hupdate
      obtain ⟨htracks, hagrees⟩ := h.of_stored hset hkept
      exact ⟨htracks, fun _ _ => hagrees⟩

/-- A save keeps the snapshot alike to the row, and if it succeeds the row is alike to the record. -/
theorem saveSelf {d : Driver σ} {row : σ → String → Value} {db : Database σ} (h : r.Tracks key (row db.store))
    (hblank : key.isBlank = false) (hscalar : key.isScalar = true) (hkeeps : r.model.KeepsRow d key row) :
    let saved := r.saveSelf d db
    saved.1.2.Tracks key (row saved.2.store) ∧
      ∀ outcome, saved.1.1 = .ok outcome → saved.1.2.AgreesWith (row saved.2.store) := by
  have hdata : r.data.isEmpty = false := by
    have hmem := OrderedMap.get?_eq_some_iff.1 h.dataKey
    cases hlist : r.data.toList with
    | nil => simp [hlist] at hmem
    | cons e es => simp [OrderedMap.isEmpty, hlist]
  cases hchanges : r.changes.isEmpty with
  | true =>
    have hsaved : r.saveSelf d db = ((.ok .nothingToSave, r), db) := by
      simp [Record.saveSelf, hdata, h.isUnstored hblank, hchanges]
      rfl
    rw [hsaved]
    exact ⟨h, fun _ _ => h.agreesWith_of_unchanged hchanges⟩
  | false =>
    have hsaved : r.saveSelf d db = r.updateSelf d db := by
      simp [Record.saveSelf, hdata, h.isUnstored hblank, hchanges]
    rw [hsaved]
    exact h.updateSelf hblank hscalar hkeeps hchanges

theorem save {d : Driver σ} {row : σ → String → Value} {db : Database σ} (h : r.Tracks key (row db.store))
    (hblank : key.isBlank = false) (hscalar : key.isScalar = true) (hkeeps : r.model.KeepsRow d key row)
    {values : Option Assignments} (hvalues : Assignable r.model (Edit.save values).assigned) :
    let saved := r.save d values db
    saved.1.2.Tracks key (row saved.2.store) ∧
      ∀ outcome, saved.1.1 = .ok outcome → saved.1.2.AgreesWith (row saved.2.store) := by
  cases values with
  | none => exact h.saveSelf hblank hscalar hkeeps
  | some values =>
    have hmodel : (r.merge values).model = r.model := (merge_continues r values).model
    exact (h.merge hvalues).saveSelf hblank hscalar (hmodel ▸ hkeeps)

/-! ### Runs of edits -/

theorem edit {d : Driver σ} {row : σ → String → Value} {state : Record × Database σ}
    (h : state.1.Tracks key (row state.2.store)) (hblank : key.isBlank = false) (hscalar : key.isScalar = true)
    (hkeeps : state.1.model.KeepsRow d key row) {e : Edit} (he : Assignable state.1.model e.assigned) :
    (Record.edit d state e).1.Tracks key (row (Record.edit d state e).2.store) ∧
      (Record.edit d state e).1.model = state.1.model := by
  cases e with
  | set col v =>
    obtain ⟨hcol, hkey, hexact⟩ := he (col, v) (List.mem_singleton_self _)
    exact ⟨h.place hcol hkey hexact, (place_continues state.1 col v).model⟩
  | save values =>
    exact ⟨(h.save hblank hscalar hkeeps he).1, (save_continues d state.1 values state.2).model⟩

/-- Any run of edits keeps the snapshot alike to the stored row. -/
theorem edits {d : Driver σ} {row : σ → String → Value} {state : Record × Database σ}
    (h : state.1.Tracks key (row state.2.store)) (hblank : key.isBlank = false) (hscalar : key.isScalar = true)
    (hkeeps : state.1.model.KeepsRow d key row) {es : List Edit} (hes : ∀ e ∈ es, Assignable state.1.model e.assigned) :
    (es.foldl (Record.edit d) state).1.Tracks key (row (es.foldl (Record.edit d) state).2.store) ∧
      (es.foldl (Record.edit d) state).1.model = state.1.model := by
  induction es generalizing state with
  | nil => exact ⟨h, rfl⟩
  | cons e es ih =>
    obtain ⟨he, hes⟩ := List.forall_mem_cons.1 hes
    obtain ⟨htracks, hmodel⟩ := h.edit hblank hscalar hkeeps he
    obtain ⟨hend, hsame⟩ := ih htracks (hmodel ▸ hkeeps) (hmodel ▸ hes)
    exact ⟨hend, hsame.trans hmodel⟩

end Tracks

/--
A record that holds its stored row is edited: values without a floating-point reading are set in columns other than the
primary one, and it is saved in between, some of the saves failing.  After a save that succeeds the stored row is alike
to the record in every column.
-/
theorem saved_row_alike (d : Driver σ) (r : Record) (key : Value) (row : σ → String → Value) (db : Database σ)
    (hblank : key.isBlank = false) (hscalar : key.isScalar = true) (hkeeps : r.model.KeepsRow d key row)
    (hstored : r.IsStoredAs key (row db.store))
    (hexact : ∀ col, r.model.hasColumn col = true → (row db.store col).IsExact) (edits : List Edit)
    (hedits : ∀ e ∈ edits, Assignable r.model e.assigned) (values : Option Assignments)
    (hvalues : Assignable r.model (Edit.save values).assigned) :
    let state := edits.foldl (edit d) (r, db)
    let saved := state.1.save d values state.2
    ∀ outcome, saved.1.1 = .ok outcome → saved.1.2.AgreesWith (row saved.2.store) := by
  intro state saved outcome hok
  have hstart : (r, db).1.Tracks key (row (r, db).2.store) := hstored.tracks hexact
  obtain ⟨htracks, hmodel⟩ := hstart.edits hblank hscalar hkeeps hedits
  have hvalid : Assignable state.1.model (Edit.save values).assigned := hmodel ▸ hvalues
  exact (htracks.save hblank hscalar (hmodel ▸ hkeeps) hvalid).2 outcome hok

/-! ### An example -/

namespace Example

/-- Articles with a key, a title and a body. -/
def articles : Model :=
  Model.bind (.ofTable "articles")
    (.ofColumns "articles"
      [(Column.ofDeclaration "id" "INTEGER").asPrimaryKey false, .ofDeclaration "title" "TEXT",
        .ofDeclaration "body" "TEXT"])

/-- The lists of columns of an article, up to a length. -/
def columnLists : Nat → List (List String)
  | 0 => [[]]
  | n + 1 => [] :: ["id", "title", "body"].flatMap fun col => (columnLists n).map (col :: ·)

/-- A column of an article after a statement; one that is no update of an article changes nothing. -/
def storeUpdate (sql : String) (binds : List Value) (row : String → Value) (col : String) : Value :=
  match (columnLists 3).find? fun cols => articles.updateRowText .sqlite cols == sql with
  | some cols => (Entries.find? col (cols.zip binds)).getD (row col)
  | none => row col

/-- A database of one article, which carries out its updates, except where it is to fail. -/
def oneArticle : Driver (List Bool × (String → Value)) where
  dialect := .sqlite
  query _ _ := pure []
  execute sql binds := fun (failures, row) =>
    match failures with
    | true :: failures => (.error lost, (failures, row))
    | _ => (.ok 1, (failures.tail, storeUpdate sql binds row))
  lastInsertId _ := pure .null
  begin := pure ()
  commit := pure ()
  rollback := pure ()
  inTransaction _ := false
  columns _ := pure []

theorem mem_columnLists {cols : List String} (hcols : cols ⊆ ["id", "title", "body"]) {n : Nat}
    (hlength : cols.length ≤ n) : cols ∈ columnLists n := by
  induction cols generalizing n with
  | nil => cases n <;> simp [columnLists]
  | cons col cols ih =>
    rw [List.cons_subset] at hcols
    cases n with
    | zero => simp at hlength
    | succ n =>
      have hrest : cols ∈ columnLists n := ih hcols.2 (Nat.le_of_succ_le_succ hlength)
      refine List.mem_cons_of_mem _ (List.mem_flatMap.2 ⟨col, hcols.1, ?_⟩)
      exact List.mem_map_of_mem hrest

/-- The updates of different columns are different texts. -/
theorem find?_columnLists : ∀ cols ∈ columnLists 3,
    ((columnLists 3).find? fun c => articles.updateRowText .sqlite c == articles.updateRowText .sqlite cols) =
      some cols := by
  decide +kernel

theorem oneArticle_keepsRow : articles.KeepsRow oneArticle (.int 1) Prod.snd where
  updated {cols values s s' n} _ hnodup hcols hlength hrun := by
    have hsubset : cols ⊆ ["id", "title", "body"] := fun col hcol => OrderedMap.mem_keys_iff.2 (hcols col hcol)
    have hfind := find?_columnLists cols (mem_columnLists hsubset (hnodup.subperm hsubset).length_le)
    have hs' : s'.2 = storeUpdate (articles.updateRowText .sqlite cols) (values ++ [.int 1]) s.2 := by
      obtain ⟨_ | ⟨_ | _, failures⟩, row⟩ := s
      · exact congrArg Prod.snd (Prod.mk.inj hrun).2.symm
      · exact congrArg Prod.snd (Prod.mk.inj hrun).2.symm
      · cases hrun
    have hzip : cols.zip (values ++ [.int 1]) = cols.zip values := by
      have hsplit : (cols ++ []).zip (values ++ [Value.int 1]) = cols.zip values ++ [].zip [Value.int 1] :=
        List.zip_append hlength.symm
      simpa using hsplit
    have hrow (col : String) : s'.2 col = (Entries.find? col (cols.zip values)).getD (s.2 col) := by
      rw [hs', storeUpdate, hfind, ← hzip]
    have hkeys : (cols.zip values).map Prod.fst = cols := List.map_fst_zip hlength.ge
    have hdistinct : ((cols.zip values).map Prod.fst).Nodup := by rwa [hkeys]
    constructor
    · intro e he
      rw [hrow, (Entries.find?_eq_some_iff hdistinct).2 he]
      rfl
    · intro col hcol
      rw [hrow, Entries.find?_eq_none_iff.2 (by rwa [hkeys])]
      rfl
  failed {cols values s s' e} _ _ _ _ hrun := by
    obtain ⟨_ | ⟨_ | _, failures⟩, row⟩ := s
    · cases hrun
    · cases hrun
    · obtain rfl := (Prod.mk.inj hrun).2
      rfl

/-- A stored article. -/
def article : Record :=
  let row : Assignments := .ofList [("id", .int 1), ("title", .text "1"), ("body", .text "a")]
  { new articles .writable with data := row, initial := row, isNew := false }

/-- A database with the article, the first statement of which is to fail. -/
def articleStored : Database (List Bool × (String → Value)) :=
  { store := ([true], fun col => (article.data.get? col).getD .null) }

/-- The title is spelled anew, the body changed, and the second save succeeds. -/
def edits : List Edit :=
  [.set "title" (.int 1), .set "body" (.text "b"), .save none, .save none, .set "title" (.text "01")]

theorem isExact_of_number? {v : Value} (h : v.number? = none ∨ ∃ n, v.number? = some (.int n))
    (hproper : v.isProper = true) : v.IsExact where
  number x hx := by
    rcases h with h | ⟨n, h⟩
    · cases h.symm.trans hx
    · cases h.symm.trans hx
  proper := hproper

theorem isExact_article {col : String} (hcol : articles.hasColumn col = true) :
    ((article.data.get? col).getD .null).IsExact := by
  have hmem : col ∈ ["id", "title", "body"] := OrderedMap.mem_keys_iff.2 hcol
  simp only [List.mem_cons, List.not_mem_nil, or_false] at hmem
  rcases hmem with rfl | rfl | rfl
  · exact isExact_of_number? (.inr ⟨1, rfl⟩) rfl
  · exact isExact_of_number? (.inr ⟨1, rfl⟩) rfl
  · exact isExact_of_number? (.inl rfl) rfl

theorem article_isStoredAs : article.IsStoredAs (.int 1) (fun col => (article.data.get? col).getD .null) := by
  have hdata : ∀ col, articles.hasColumn col = true →
      article.data.get? col = some ((article.data.get? col).getD .null) := by
    intro col hcol
    have hkeys : article.data.keys = articles.table.columns.keys := rfl
    have hsome : article.data.contains col = true := by
      rw [← OrderedMap.mem_keys_iff, hkeys, OrderedMap.mem_keys_iff]
      exact hcol
    obtain ⟨v, hv⟩ := Option.isSome_iff_exists.1 hsome
    rw [hv]
    rfl
  exact { isNew := rfl, dataKey := rfl, initialKey := rfl, data := hdata, initial := hdata }

theorem edits_assignable : ∀ e ∈ edits, Assignable articles e.assigned := by
  have hset {col : String} {v : Value} (hcol : articles.hasColumn col = true) (hkey : col ≠ "id") (hv : v.IsExact) :
      Assignable articles (Edit.set col v).assigned := by
    intro e he
    obtain rfl := List.mem_singleton.1 he
    exact ⟨hcol, hkey, hv⟩
  have hsave : Assignable articles (Edit.save none).assigned := fun e he => nomatch he
  simp only [edits, List.forall_mem_cons, List.not_mem_nil, false_implies, implies_true, and_true]
  exact ⟨hset rfl (by decide) (isExact_of_number? (.inr ⟨1, rfl⟩) rfl),
    hset rfl (by decide) (isExact_of_number? (.inl rfl) rfl), hsave, hsave,
    hset rfl (by decide) (isExact_of_number? (.inr ⟨1, rfl⟩) rfl)⟩

end Example

open Example in
/-- The stored title keeps its first spelling; the snapshot has the second one and the record the third. -/
theorem saved_row_alike_respelled :
    let state := edits.foldl (edit oneArticle) (article, articleStored)
    let saved := state.1.save oneArticle none state.2
    saved.1.1 = .ok .nothingToSave ∧ saved.2.store.2 "title" = .text "1" ∧ saved.2.store.2 "body" = .text "b" ∧
      saved.1.2.initial.get? "title" = some (.int 1) ∧ saved.1.2.data.get? "title" = some (.text "01") ∧
      saved.1.2.AgreesWith saved.2.store.2 := by
  intro state saved
  have hok : saved.1.1 = .ok .nothingToSave := rfl
  have hagrees := saved_row_alike oneArticle article (.int 1) Prod.snd articleStored rfl rfl oneArticle_keepsRow
    article_isStoredAs (fun _ => isExact_article) edits edits_assignable none (fun e he => nomatch he)
  exact ⟨hok, rfl, rfl, rfl, rfl, hagrees .nothingToSave hok⟩

end RecordMapper.Record
