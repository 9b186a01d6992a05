import Mathlib.Data.List.Nodup
import RecordMapper.Proofs.Collection.Members
import RecordMapper.Proofs.Model.BulkKeys
import RecordMapper.Proofs.Relation.Query

/-!
# Rows that inserted members adopt

After a grouped insert the stored rows are read back with one query and shared out by the texts of their keys.  Over a
database that keeps the keys of its rows (`KeepsKeys`) and answers the query with the rows that have one of the keys, in
any order (`ReadsBack`), a member adopts the row that was stored for it, as long as no other inserted row has a key of
the same text (`grouped_save_adopts`).  Texts such as `1` and `01` are different keys, and then a member may adopt the
row of another one (`grouped_save_adopts_other`).
-/

namespace RecordMapper

namespace Collection

variable {σ : Type}

/-! ### Reading back -/

/-- The query for the rows with some keys. -/
def selectOfKeys (m : Model) (keys : List Value) : Select :=
  { table := m.tableName, fetch := fetchOfKeys m keys }

/-- Whether the key of a stored row is one of some keys. -/
def isFor (same : Value → Value → Bool) (keys : List Value) (e : Value × Row) : Bool :=
  keys.any (same e.1)

/-- In a state of the store, the query for some keys is answered with the rows that have one of them, in any order. -/
def ReadsBack (d : Driver σ) (m : Model) (same : Value → Value → Bool) (entries : σ → List (Value × Row))
    (keys : List Value) (s : σ) : Prop :=
  ∀ sql, (selectOfKeys m keys).sql d.quoter = .ok sql → ∃ rows s',
    (d.query sql.text sql.binds).run s = (.ok rows, s') ∧
      rows.Perm (((entries s).filter (isFor same keys)).map Prod.snd)

/-- The text of the key that a row shows. -/
def shownKey? (m : Model) (row : Row) : Option String :=
  (row.toMap.get? m.primaryCol).bind Value.keyText?

/-- A query for keys can be written. -/
theorem exists_sql_selectOfKeys {m : Model} (hcol : Text.trimmed m.primaryCol ≠ "") {keys : List Value}
    (hne : keys ≠ []) (hscalar : ∀ k ∈ keys, k.isScalar = true) (q : Quoter) : ∃ sql, (selectOfKeys m keys).sql q = .ok sql := by
  rw [Select.exists_sql_iff]
  refine ⟨fun _ => ?_, fun h => nomatch h⟩
  refine Filter.wellFormed_and_iff.2 ⟨⟨by simp, by simp⟩, .test ⟨hcol, fun _ => by simp, (nomatch ·), fun _ v hv => ?_⟩⟩
  obtain rfl := Option.some.inj hv
  exact ⟨hne, hscalar⟩

/-- A query for keys that is answered gives the rows of the keys, under the texts that they show. -/
theorem readBack_found {d : Driver σ} {m : Model} {same : Value → Value → Bool} {entries : σ → List (Value × Row)}
    {keys : List Value} (hcol : Text.trimmed m.primaryCol ≠ "") (hknown : ∀ k ∈ keys, Model.IsKnown k) (hne : keys ≠ [])
    {db : Database σ} (hreads : ReadsBack d m same entries keys db.store) :
    ∃ rows : List Row, rows.Perm (((entries db.store).filter (isFor same keys)).map Prod.snd) ∧
      (readBack d m keys db).1 = rowsByKey m (rows.map Row.toMap) := by
  have hscalar : ∀ k ∈ keys, k.isScalar = true := fun k hk =>
    Value.isScalar_of_keyText? (Option.isSome_iff_ne_none.1 (hknown k hk).1)
  obtain ⟨sql, hsql⟩ := exists_sql_selectOfKeys hcol hne hscalar d.quoter
  obtain ⟨rows, s', hrun, hrows⟩ := hreads sql hsql
  have hfilter : keys.filter (fun v => !v.isBlank) = keys :=
    List.filter_eq_self.2 fun k hk => by rw [(hknown k hk).2, Bool.not_false]
  have hfetch : m.fetchRows d (fetchOfKeys m keys) db = (.ok (rows.map Row.toMap), { db with store := s' }) := by
    refine Operation.bind_eq_ok_iff.2 ⟨rows, { db with store := s' }, ?_, rfl⟩
    show Model.runQuery d (selectOfKeys m keys) db = _
    unfold Model.runQuery
    rw [hsql]
    exact Database.call_eq_ok_iff.2 ⟨s', hrun, rfl⟩
  refine ⟨rows, hrows, ?_⟩
  rw [readBack_apply hfilter hne, hfetch]

/-! ### Rows and their keys -/

/-- A row that brings its key along is stored under a key that is found for it. -/
def KeepsOwnKey (m : Model) (same : Value → Value → Bool) (cells : List (String × Value)) (e : Value × Row) : Prop :=
  ∀ k, Entries.find? m.primaryCol cells = some k → same e.1 k = true

/--
The primary keys of stored rows: every row is found for the key that it is stored under, and each of some keys finds
one row at most, which shows a key of the same text.
-/
structure KeepsKeys (m : Model) (same : Value → Value → Bool) (entries : List (Value × Row)) (keys : List Value) :
    Prop where
  refl : ∀ e ∈ entries, same e.1 e.1 = true
  unique : ∀ k ∈ keys, ∀ e ∈ entries, ∀ f ∈ entries, same e.1 k = true → same f.1 k = true → e = f
  shown : ∀ k ∈ keys, ∀ e ∈ entries, same e.1 k = true → shownKey? m e.2 = k.keyText?

/-- A row is found for its key: the one that it brings along or the one that it got. -/
private theorem same_keyOf {m : Model} {same : Value → Value → Bool} {entries : List (Value × Row)} {keys : List Value}
    (hkeeps : KeepsKeys m same entries keys) {cells : List (String × Value)} {e : Value × Row} (he : e ∈ entries)
    (hown : KeepsOwnKey m same cells e) : same e.1 (m.keyOf cells e.1) = true := by
  unfold Model.keyOf
  cases hcell : Entries.find? m.primaryCol cells with
  | some k => exact hown k hcell
  | none => exact hkeeps.refl e he

/-- The row of a key is read back under the text of the key, if no other key has this text. -/
private theorem find?_rowsByKey {m : Model} {same : Value → Value → Bool} {entries : List (Value × Row)}
    {keys : List Value} (hkeeps : KeepsKeys m same entries keys) {rows : List Row}
    (hrows : rows.Perm ((entries.filter (isFor same keys)).map Prod.snd)) {e : Value × Row} (he : e ∈ entries)
    {k : Value} (hk : k ∈ keys) (hsame : same e.1 k = true) {t : String} (ht : k.keyText? = some t)
    (halone : ∀ k' ∈ keys, k'.keyText? = some t → k' = k) :
    Entries.find? t (rowsByKey m (rows.map Row.toMap)) = some e.2.toMap := by
  have hshown : shownKey? m e.2 = some t := (hkeeps.shown k hk e he hsame).trans ht
  refine Entries.find?_ofList_of_unique ?_ fun w hw => ?_
  · have hfound : e.2 ∈ rows :=
      hrows.mem_iff.2 (List.mem_map_of_mem (List.mem_filter.2 ⟨he, List.any_eq_true.2 ⟨k, hk, hsame⟩⟩))
    exact List.mem_filterMap.2 ⟨e.2.toMap, List.mem_map_of_mem hfound, congrArg (Option.map _) hshown⟩
  · obtain ⟨data, hdata, hkeyed⟩ := List.mem_filterMap.1 hw
    obtain ⟨row, hrow, rfl⟩ := List.mem_map.1 hdata
    obtain ⟨f, hf, rfl⟩ := List.mem_map.1 (hrows.mem_iff.1 hrow)
    obtain ⟨t', hshownf, heq⟩ := Option.map_eq_some_iff.1 hkeyed
    obtain ⟨rfl, rfl⟩ := Prod.mk.inj heq
    obtain ⟨hf, hfor⟩ := List.mem_filter.1 hf
    obtain ⟨k', hk', hsamef⟩ := List.any_eq_true.1 hfor
    obtain rfl := halone k' hk' ((hkeeps.shown k' hk' f hf hsamef).symm.trans hshownf)
    rw [hkeeps.unique k' hk' f hf e he hsamef hsame]

/-! ### Members and their rows -/

/--
What becomes of a member, with its place among those that are inserted, and of the row that is stored for it: the row
keeps what the member wrote, its key is returned in the place of the member, and the member adopts it if no other key of
the insert has the text that it shows.
-/
structure AdoptsRow (c after : Collection) (keeps : List (String × Value) → Value × Row → Prop) (keys : List Value)
    (member : (MemberKey × Record) × Nat) (e : Value × Row) : Prop where
  kept : keeps (c.model.writtenCells member.1.2.data) e
  key : keys[member.2]? = some (c.model.keyOf (c.model.writtenCells member.1.2.data) e.1)
  adopted : (∀ (i : Nat) (k : Value), keys[i]? = some k → k.keyText? = shownKey? c.model e.2 → i = member.2) →
    after.get? member.1.1 = some (member.1.2.adopt e.2.toMap)

/-- Rows that are inserted for members, in the order of the members. -/
private theorem forall₂_members {c : Collection} {P : List (String × Value) × Nat → Value × Row → Prop}
    {new : List (Value × Row)} (h : List.Forall₂ P (c.statements.flatMap Model.Batch.placed) new) :
    ∃ own, own.Perm new ∧
      List.Forall₂ (fun member e => P (c.model.writtenCells member.1.2.data, member.2) e) c.toInsert.zipIdx own := by
  obtain ⟨own, hown, hperm⟩ := List.perm_comp_forall₂ (Model.placed_inserts _).symm h
  refine ⟨own, hperm, ?_⟩
  rw [rowsToInsert, List.map_map, List.zipIdx_map, List.forall₂_map_left_iff] at hown
  exact hown

/-- A member whose key is the only one of its text adopts what is read back under the text, or what it wrote itself. -/
theorem get?_insertNew {d : Driver σ} {c : Collection} (hmembers : c.keys.Nodup) {keys : List Value}
    {db inserted : Database σ} (hinserted : c.model.insertMany d c.rowsToInsert db = (.ok keys, inserted))
    (hknown : ∀ k ∈ keys, k.keyText?.isSome = true) {member : MemberKey × Record} {place : Nat}
    (hmember : c.toInsert[place]? = some member) {k : Value} (hk : keys[place]? = some k) {t : String}
    (ht : k.keyText? = some t) (halone : ∀ (i : Nat) (k' : Value), keys[i]? = some k' → k'.keyText? = some t → i = place) :
    (c.insertNew d db).1.1.get? member.1 = some (member.2.adopt
      ((Entries.find? t (readBack d c.model keys inserted).1).getD (member.2.data.insert c.model.primaryCol k))) := by
  have hmem : member ∈ c.toInsert := List.mem_of_getElem? hmember
  have hlength := Model.length_insertMany hinserted
  have hkeyed : (member.1, k) ∈ (c.toInsert.map Prod.fst).zip keys := by
    refine List.mem_of_getElem? (List.getElem?_zip_eq_some.2 ⟨?_, hk⟩)
    rw [List.getElem?_map, hmember]
    rfl
  obtain ⟨row, hrow, honly⟩ := (adoptInserted_known c (readBack d c.model keys inserted).1 (nodup_keyed hmembers hlength)
    fun o ho => hknown o.2 (List.of_mem_zip ho).2).2 _ hkeyed member.2 t (get?_of_mem_toInsert hmembers hmem) ht
  rw [insertNew_inserted (List.ne_nil_of_mem hmem) hinserted, hrow, honly]
  -- no member before it takes the row away
  intro o ho hother ht'
  obtain ⟨i, hi⟩ := List.mem_iff_getElem?.1 ho
  obtain ⟨hfst, hsnd⟩ := List.getElem?_zip_eq_some.1 hi
  obtain rfl := halone i o.2 hsnd ht'
  rw [List.getElem?_map, hmember] at hfst
  exact hother (Option.some.inj hfst).symm

/-- A member whose key is the only one of its text adopts the row of its key. -/
private theorem insertNew_get? {d : Driver σ} {c : Collection} (hmembers : c.keys.Nodup)
    (hcol : Text.trimmed c.model.primaryCol ≠ "") {same : Value → Value → Bool} {entries : σ → List (Value × Row)}
    {keys : List Value} {db inserted : Database σ}
    (hinserted : c.model.insertMany d c.rowsToInsert db = (.ok keys, inserted)) (hknown : ∀ k ∈ keys, Model.IsKnown k)
    (hkeeps : KeepsKeys c.model same (entries inserted.store) keys)
    (hreads : ReadsBack d c.model same entries keys inserted.store) {member : MemberKey × Record} {place : Nat}
    (hmember : c.toInsert[place]? = some member) {e : Value × Row} (he : e ∈ entries inserted.store) {k : Value}
    (hk : keys[place]? = some k) (hsame : same e.1 k = true)
    (halone : ∀ (i : Nat) (k' : Value), keys[i]? = some k' → k'.keyText? = shownKey? c.model e.2 → i = place) :
    (c.insertNew d db).1.1.get? member.1 = some (member.2.adopt e.2.toMap) := by
  have hkmem : k ∈ keys := List.mem_of_getElem? hk
  obtain ⟨t, ht⟩ := Option.isSome_iff_exists.1 (hknown k hkmem).1
  rw [hkeeps.shown k hkmem e he hsame, ht] at halone
  -- the map of the rows that are read back gives the row of the member
  obtain ⟨rows, hperm, hback⟩ := readBack_found hcol hknown (List.ne_nil_of_mem hkmem) hreads
  have hfound : Entries.find? t (readBack d c.model keys inserted).1 = some e.2.toMap := by
    rw [hback]
    refine find?_rowsByKey hkeeps hperm he hkmem hsame ht fun k' hk' ht' => ?_
    obtain ⟨i, hi⟩ := List.mem_iff_getElem?.1 hk'
    obtain rfl := halone i k' hi ht'
    exact Option.some.inj (hi.symm.trans hk)
  rw [get?_insertNew hmembers hinserted (fun k' hk' => (hknown k' hk').1) hmember hk ht halone, hfound, Option.getD_some]

/-- Members that are inserted together adopt their own rows, as far as the texts of their keys are told apart. -/
private theorem insertNew_adopts {d : Driver σ} {c : Collection} (hmembers : c.keys.Nodup)
    (hcol : Text.trimmed c.model.primaryCol ≠ "") {same : Value → Value → Bool} {entries : σ → List (Value × Row)}
    {keeps : List (String × Value) → Value × Row → Prop}
    (hown : ∀ cells e, keeps cells e → KeepsOwnKey c.model same cells e)
    (hstores : ∀ b ∈ c.statements, c.model.Stores d entries keeps b) {keys : List Value} {db inserted : Database σ}
    (hinserted : c.model.insertMany d c.rowsToInsert db = (.ok keys, inserted))
    (hkeeps : KeepsKeys c.model same (entries inserted.store) keys)
    (hreads : ReadsBack d c.model same entries keys inserted.store) :
    ∃ own, (entries inserted.store).Perm (entries db.store ++ own) ∧
      List.Forall₂ (AdoptsRow c (c.insertNew d db).1.1 keeps keys) c.toInsert.zipIdx own := by
  obtain ⟨new, hnew, hrows⟩ := Model.insertMany_keys hstores hinserted
  have hknown := Model.insertMany_known (fun b hb => (hstores b hb).reportsInteger) hinserted
  obtain ⟨own, hperm, hrows⟩ := forall₂_members hrows
  refine ⟨own, hnew ▸ hperm.symm.append_left _, ?_⟩
  rw [List.forall₂_iff_zip] at hrows ⊢
  refine ⟨hrows.1, fun {member e} hmem => ?_⟩
  obtain ⟨hkept, hkey⟩ := hrows.2 hmem
  obtain ⟨hmember, he⟩ := List.of_mem_zip hmem
  have he : e ∈ entries inserted.store := hnew ▸ List.mem_append_right _ (hperm.mem_iff.1 he)
  refine { kept := hkept, key := hkey, adopted := fun halone => ?_ }
  exact insertNew_get? hmembers hcol hinserted hknown hkeeps hreads (List.mem_zipIdx_iff_getElem?.1 hmember) he hkey
    (same_keyOf hkeeps he (hown _ e hkept)) halone

/--
A grouped save that is not refused and whose insert succeeds, over a database that stores rows with their keys, tells
the keys apart as it likes, and reads the inserted rows back.  One row is stored for every member that is inserted, and
the member adopts it if no other key of the insert has the text of its key.
-/
theorem grouped_save_adopts (d : Driver σ) (c : Collection) (hmembers : c.keys.Nodup)
    (hcol : Text.trimmed c.model.primaryCol ≠ "") (same : Value → Value → Bool) (entries : σ → List (Value × Row))
    (keeps : List (String × Value) → Value × Row → Prop)
    (hown : ∀ cells e, keeps cells e → KeepsOwnKey c.model same cells e)
    (hstores : ∀ b ∈ c.statements, c.model.Stores d entries keeps b) {db inserted : Database σ} {outcome : BulkOutcome}
    {keys : List Value} (h : (c.saveAll d true db).1.1 = .ok outcome)
    (hinserted : c.model.insertMany d c.rowsToInsert (saveMembers d true c.members db).2 = (.ok keys, inserted))
    (hkeeps : KeepsKeys c.model same (entries inserted.store) keys)
    (hreads : ReadsBack d c.model same entries keys inserted.store) :
    ∃ own, (entries inserted.store).Perm (entries (saveMembers d true c.members db).2.store ++ own) ∧
      List.Forall₂ (AdoptsRow c (c.saveAll d true db).1.2 keeps keys) c.toInsert.zipIdx own := by
  obtain ⟨-, hsaved⟩ := saveAll_grouped h
  have hpassedKeys : (c.passed d db).keys.Nodup := by rwa [keys_passed]
  have hpassedRows := rowsToInsert_passed c d db
  have hpassedStatements := statements_passed c d db
  obtain ⟨own, hperm, hadopts⟩ := insertNew_adopts hpassedKeys hcol hown (hpassedStatements ▸ hstores)
    (hpassedRows.symm ▸ hinserted) hkeeps hreads
  refine ⟨own, hperm, ?_⟩
  rw [toInsert_passed] at hadopts
  rw [hsaved]
  exact hadopts.imp fun _ _ hrow => ⟨hrow.kept, hrow.key, hrow.adopted⟩

/-! ### Examples -/

namespace Example

open Model.Example

/-- New records of a model as the members of a collection. -/
def newRows (m : Model) (rows : List (List (String × Value))) : Collection :=
  { model := m, access := .writable, nextIndex := rows.length
    members := rows.zipIdx.map fun row => (.index row.2, { Record.new m .writable with data := .ofList row.1 }) }

/-- The comparison of keys by one reading of them. -/
def sameBy (f : Value → Option String) (a b : Value) : Bool := f a == f b

/-- Rows whose keys read differently are told apart. -/
theorem keepsKeys_of_nodup {m : Model} {f : Value → Option String} {entries : List (Value × Row)} {keys : List Value}
    (hdistinct : (entries.map fun e => f e.1).Nodup)
    (hshown : ∀ k ∈ keys, ∀ e ∈ entries, f e.1 = f k → shownKey? m e.2 = k.keyText?) :
    KeepsKeys m (sameBy f) entries keys where
  refl _ _ := beq_self_eq_true _
  unique _ _ _ he _ he' h h' :=
    List.inj_on_of_nodup_map hdistinct he he' ((beq_iff_eq.1 h).trans (beq_iff_eq.1 h').symm)
  shown k hk e he h := hshown k hk e he (beq_iff_eq.1 h)

theorem keepsOwnKey_of_keepsKey {m : Model} {f : Value → Option String} {cells : List (String × Value)} {e : Value × Row}
    (h : KeepsKey m cells e) : KeepsOwnKey m (sameBy f) cells e := by
  intro k hown
  obtain ⟨given, rfl⟩ := h
  have hkey : (entryOf m (m.keyOf cells given) cells).1 = k := by simp [entryOf, Model.keyOf, hown]
  rw [hkey]
  exact beq_self_eq_true _

theorem oneTable_readsBack {m : Model} {same : Value → Value → Bool} {batches : List Model.Batch}
    {queries : List (String × List Value)} {keys : List Value} {q : Quoter}
    (hquoter : (oneTable m same batches queries).quoter = q) {sql : Sql} (hsql : (selectOfKeys m keys).sql q = .ok sql)
    (hquery : Entries.find? sql.text queries = some keys) (entries : List (Value × Row)) :
    ReadsBack (oneTable m same batches queries) m same id keys entries := by
  intro sql' hsql'
  rw [hquoter, hsql] at hsql'
  obtain rfl := Except.ok.inj hsql'
  refine ⟨_, _, rfl, ?_⟩
  simp only [hquery]
  exact List.Perm.refl _

/-- Two notes that leave their key to the database, and one with a key between them. -/
def threeNotes : Collection :=
  newRows notes [[("title", .text "a")], [("id", .int 40), ("title", .text "b")], [("title", .text "c")]]

/-- The keys of these notes, in their order. -/
def threeKeys : List Value := [.bigint 1, .int 40, .bigint 2]

/-- These notes as they are stored, those without a key first. -/
def storedNotes : List (Value × Row) :=
  [entryOf notes (.bigint 1) [("title", .text "a")], entryOf notes (.bigint 2) [("title", .text "c")],
    entryOf notes (.int 40) [("title", .text "b")]]

/-- The database for these notes, which compares numbers. -/
def noteTable : Driver (List (Value × Row)) :=
  oneTable notes (sameBy Value.keyText?) threeNotes.statements
    [("SELECT notes.* FROM notes WHERE id IN (1, 40, 2)", threeKeys)]

/-- Parts with a code as their key. -/
def parts : Model :=
  Model.bind (.ofTable "parts")
    (.ofColumns "parts" [(Column.ofDeclaration "code" "TEXT").asPrimaryKey false, .ofDeclaration "title" "TEXT"])

/-- Two parts whose codes spell one number. -/
def twoParts : Collection :=
  newRows parts [[("code", .text "01"), ("title", .text "a")], [("code", .text "1"), ("title", .text "b")]]

/-- These parts as they are stored. -/
def storedParts : List (Value × Row) :=
  [entryOf parts (.text "01") [("title", .text "a")], entryOf parts (.text "1") [("title", .text "b")]]

/-- The database for these parts, which compares texts. -/
def partTable : Driver (List (Value × Row)) :=
  oneTable parts (sameBy Value.string?) twoParts.statements
    [("SELECT parts.* FROM parts WHERE code IN ('01', '1')", [.text "01", .text "1"])]

end Example

open Example Model.Example in
/-- The keys are not found in the order of the members, and each member adopts its own row. -/
theorem grouped_save_adopts_mixed :
    let saved := threeNotes.saveAll noteTable true { store := [] }
    threeNotes.keys.Nodup ∧ Text.trimmed notes.primaryCol ≠ "" ∧
      (∀ cells e, KeepsKey notes cells e → KeepsOwnKey notes (sameBy Value.keyText?) cells e) ∧
      (∀ b ∈ threeNotes.statements, notes.Stores noteTable id (KeepsKey notes) b) ∧
      saved.1.1 = .ok .allSucceeded ∧
      notes.insertMany noteTable threeNotes.rowsToInsert { store := [] } = (.ok threeKeys, { store := storedNotes }) ∧
      KeepsKeys notes (sameBy Value.keyText?) storedNotes threeKeys ∧
      ReadsBack noteTable notes (sameBy Value.keyText?) id threeKeys storedNotes ∧
      ∃ own, storedNotes.Perm own ∧
        List.Forall₂ (AdoptsRow threeNotes saved.1.2 (KeepsKey notes) threeKeys) threeNotes.toInsert.zipIdx own := by
  intro saved
  have hmembers : threeNotes.keys.Nodup := by decide
  have hcol : Text.trimmed notes.primaryCol ≠ "" := by decide
  have hown : ∀ cells e, KeepsKey notes cells e → KeepsOwnKey notes (sameBy Value.keyText?) cells e :=
    fun _ _ h => keepsOwnKey_of_keepsKey h
  have hstores : ∀ b ∈ threeNotes.statements, notes.Stores noteTable id (KeepsKey notes) b := by
    intro b hb
    refine oneTable_stores (Model.isFilled_inserts b hb) ?_
    have hbatches : threeNotes.statements =
        [(["title"], [(0, [.text "a"]), (2, [.text "c"])]), (["id", "title"], [(1, [.int 40, .text "b"])])] := rfl
    rw [hbatches] at hb ⊢
    simp only [List.mem_cons, List.not_mem_nil, or_false] at hb
    rcases hb with rfl | rfl <;> exact ⟨_, rfl, rfl⟩
  have hsaved : saved.1.1 = .ok .allSucceeded := rfl
  have hinserted : notes.insertMany noteTable threeNotes.rowsToInsert { store := [] } =
      (.ok threeKeys, { store := storedNotes }) := rfl
  have hkeeps : KeepsKeys notes (sameBy Value.keyText?) storedNotes threeKeys := by
    refine keepsKeys_of_nodup (by decide) fun k _ e he h => ?_
    simp only [storedNotes, List.mem_cons, List.not_mem_nil, or_false] at he
    rcases he with rfl | rfl | rfl <;> exact h
  have hreads : ReadsBack noteTable notes (sameBy Value.keyText?) id threeKeys storedNotes :=
    oneTable_readsBack rfl rfl rfl storedNotes
  obtain ⟨own, hperm, hadopts⟩ := grouped_save_adopts noteTable threeNotes hmembers hcol (sameBy Value.keyText?) id
    (KeepsKey notes) hown hstores hsaved hinserted hkeeps hreads
  exact ⟨hmembers, hcol, hown, hstores, hsaved, hinserted, hkeeps, hreads, own, hperm, hadopts⟩

open Example Model.Example in
/-- The database tells the two texts apart, and the part with the code `01` adopts the row of the part `1`. -/
theorem grouped_save_adopts_other :
    let saved := twoParts.saveAll partTable true { store := [] }
    (∀ s t, sameBy Value.string? (.text s) (.text t) = true ↔ s = t) ∧
      (∀ cells e, KeepsKey parts cells e → KeepsOwnKey parts (sameBy Value.string?) cells e) ∧
      (∀ b ∈ twoParts.statements, parts.Stores partTable id (KeepsKey parts) b) ∧
      parts.insertMany partTable twoParts.rowsToInsert { store := [] } =
        (.ok [.text "01", .text "1"], { store := storedParts }) ∧
      KeepsKeys parts (sameBy Value.string?) storedParts [.text "01", .text "1"] ∧
      ReadsBack partTable parts (sameBy Value.string?) id [.text "01", .text "1"] storedParts ∧
      saved.1.1 = .ok .allSucceeded ∧ saved.2.store = storedParts ∧
      (twoParts.get? (.index 0)).map (fun r => r.data.toList) = some [("code", .text "01"), ("title", .text "a")] ∧
      (saved.1.2.get? (.index 0)).map (fun r => r.data.toList) = some [("code", .text "1"), ("title", .text "b")] := by
  intro saved
  refine ⟨fun s t => ?_, fun _ _ h => keepsOwnKey_of_keepsKey h, fun b hb => ?_, rfl, keepsKeys_of_nodup (by decide) ?_,
    oneTable_readsBack rfl rfl rfl _, rfl, rfl, rfl, rfl⟩
  · simp [sameBy, Value.string?]
  · refine oneTable_stores (Model.isFilled_inserts b hb) ⟨b, ?_, rfl⟩
    have hbatches : twoParts.statements =
        [(["code", "title"], [(0, [.text "01", .text "a"]), (1, [.text "1", .text "b"])])] := rfl
    rw [hbatches] at hb ⊢
    obtain rfl := List.mem_singleton.1 hb
    rfl
  · intro k hk e he h
    simp only [storedParts, List.mem_cons, List.not_mem_nil, or_false] at hk he
    rcases hk with rfl | rfl <;> rcases he with rfl | rfl
    · rfl
    · exact absurd h (by decide)
    · exact absurd h (by decide)
    · rfl

end Collection

end RecordMapper
