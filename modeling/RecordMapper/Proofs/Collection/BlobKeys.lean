import RecordMapper.Proofs.Collection.Adopted
import RecordMapper.Proofs.Relation.Alone
import RecordMapper.Proofs.Text.Utf8

/-!
# Blobs as keys

The key text of a blob is the text that its bytes are read as, and malformed bytes are read alike.

* blobs with the bytes of texts are told apart by their key texts (`Value.IsBlobKey.keyText?_eq_iff`): each of them is
  asked for once (`Relation.parentKeys_blobs`), its parents get the rows with it (`Relation.ownRows_blobs`), and a member
  that is inserted under it adopts the row with it (`Collection.saveAll_blobs`);
* every other blob, and every one whose text holds a replacement character, shares its key text with another blob
  (`blobKeys_toldApart`): `FF` and `FE` do, and what belongs to the one key is given to the other (`blobKeys_confused`).
-/

namespace RecordMapper

open Text

variable {σ α : Type}

/-! ### The key text of a blob -/

namespace Value

/-- The bytes of a blob. -/
def blob? : Value → Option (List UInt8)
  | .bytes bs => some bs
  | _ => none

/-- A blob with the bytes of a text, or a value that is no key. -/
inductive IsBlobKey : Value → Prop where
  | text {bs : List UInt8} (h : Utf8.WellFormed bs) : IsBlobKey (.bytes bs)
  | none {v : Value} (h : v.keyText? = none) : IsBlobKey v

@[simp] theorem keyText?_bytes (bs : List UInt8) : (Value.bytes bs).keyText? = some (Utf8.readLossy bs) := rfl

theorem blob?_of_keyText? {v : Value} (h : v.keyText? = none) : v.blob? = none := by
  cases v with
  | bytes bs => exact nomatch h
  | _ => rfl

namespace IsBlobKey

variable {v w : Value} {bs : List UInt8}

theorem keyText?_eq (h : v.IsBlobKey) : v.keyText? = v.blob?.map Utf8.readLossy := by
  cases h with
  | text h => rfl
  | none h => rw [h, blob?_of_keyText? h, Option.map_none]

theorem wellFormed (h : v.IsBlobKey) (hb : v.blob? = some bs) : Utf8.WellFormed bs := by
  cases h with
  | text h => exact Option.some.inj hb ▸ h
  | none h => exact nomatch (blob?_of_keyText? h).symm.trans hb

/-- Blobs with the bytes of texts have different key texts if they are different. -/
theorem keyText?_eq_iff (hv : v.IsBlobKey) (hw : w.IsBlobKey) : v.keyText? = w.keyText? ↔ v.blob? = w.blob? := by
  rw [hv.keyText?_eq, hw.keyText?_eq]
  refine ⟨fun h => ?_, congrArg _⟩
  cases hvb : v.blob? with
  | none =>
    rw [hvb, Option.map_none, eq_comm, Option.map_eq_none_iff] at h
    exact h.symm
  | some a =>
    rw [hvb, Option.map_some, eq_comm, Option.map_eq_some_iff] at h
    obtain ⟨b, hwb, hread⟩ := h
    rw [hwb, (hv.wellFormed hvb).eq_of_readLossy (hw.wellFormed hwb) hread.symm]

end IsBlobKey

end Value

/-! ### Keys of parents -/

namespace Relation

/-- Among blobs with the bytes of texts, each one is kept once. -/
theorem distinctKeys_blobs {vs : List Value} (h : ∀ v ∈ vs, v.IsBlobKey) (seen : List String) :
    distinctKeys seen vs =
      ((vs.filterMap Value.blob?).filter fun bs => Utf8.readLossy bs ∉ seen).eraseDups.map Value.bytes := by
  induction vs generalizing seen with
  | nil => rfl
  | cons v vs ih =>
    obtain ⟨hv, hvs⟩ := List.forall_mem_cons.1 h
    cases hv with
    | none hv =>
      rw [distinctKeys, hv, List.filterMap_cons_none (Value.blob?_of_keyText? hv)]
      exact ih hvs seen
    | @text a ha =>
      have hblob : (Value.bytes a).blob? = some a := rfl
      rw [distinctKeys, Value.keyText?_bytes, List.filterMap_cons_some hblob, List.filter_cons]
      by_cases hseen : Utf8.readLossy a ∈ seen
      · simp only [List.contains_iff_mem, hseen, if_true, not_true, decide_false, Bool.false_eq_true, if_false]
        exact ih hvs seen
      · simp only [List.contains_iff_mem, hseen, if_false, not_false_iff, decide_true, if_true]
        rw [ih hvs, List.eraseDups_cons, List.map_cons, List.filter_filter]
        -- no other blob has the text of this one
        have hother : ∀ b ∈ vs.filterMap Value.blob?, Utf8.readLossy b = Utf8.readLossy a ↔ b = a := by
          intro b hb
          obtain ⟨w, hw, hblob⟩ := List.mem_filterMap.1 hb
          exact ⟨((hvs w hw).wellFormed hblob).eq_of_readLossy ha, congrArg _⟩
        congr 3
        refine List.filter_congr fun b hb => ?_
        rw [Bool.eq_iff_iff]
        simp [hother b hb]

variable [Parent α] {r : Relation} {parents : List α}

/-- The blob that a parent is matched with. -/
def parentBlob? (r : Relation) (parent : α) : Option (List UInt8) :=
  (Parent.keyValue parent r.parentCol).bind Value.blob?

/-- The blob that a row is matched with. -/
def rowBlob? (r : Relation) (row : Row) : Option (List UInt8) :=
  (row.toMap.get? r.keyColumn).bind Value.blob?

/-- The rows of a result that have the blob of a parent. -/
def blobRows (r : Relation) (rows : List Row) (parent : α) : List Assignments :=
  match r.parentBlob? parent with
  | none => []
  | some bs => (rows.filter fun row => r.rowBlob? row = some bs).map r.attachedRow

/-- Parents that are matched with blobs, each of them with the bytes of a text, or with nothing. -/
def HasBlobKeys (r : Relation) (parents : List α) : Prop :=
  ∀ p ∈ parents, ∀ v ∈ Parent.keyValue p r.parentCol, v.IsBlobKey

/-- Rows that are matched with blobs, each of them with the bytes of a text, or with nothing. -/
def HasBlobRows (r : Relation) (rows : List Row) : Prop :=
  ∀ row ∈ rows, ∀ v ∈ row.toMap.get? r.keyColumn, v.IsBlobKey

/-- Each blob of the parents is asked for once. -/
theorem parentKeys_blobs (h : r.HasBlobKeys parents) :
    r.parentKeys parents = (parents.filterMap r.parentBlob?).eraseDups.map Value.bytes := by
  have hkeys : ∀ v ∈ parents.filterMap fun p => Parent.keyValue p r.parentCol, v.IsBlobKey := by
    intro v hv
    obtain ⟨p, hp, hv⟩ := List.mem_filterMap.1 hv
    exact h p hp v hv
  rw [parentKeys, distinctKeys_blobs hkeys, List.filterMap_filterMap]
  congr 2
  exact List.filter_eq_self.2 fun bs _ => decide_eq_true List.not_mem_nil

/-- The rows with the key text of a parent are those with its blob. -/
theorem ownRows_blobs {rows : List Row} (hrows : r.HasBlobRows rows) (h : r.HasBlobKeys parents) {p : α}
    (hp : p ∈ parents) : r.ownRows rows p = r.blobRows rows p := by
  unfold ownRows blobRows parentKeyText? parentBlob?
  cases hv : Parent.keyValue p r.parentCol with
  | none => rfl
  | some v =>
    have hv := h p hp v hv
    rw [Option.bind_some, Option.bind_some, hv.keyText?_eq]
    cases hb : v.blob? with
    | none => rfl
    | some bs =>
      refine congrArg _ (List.filter_congr fun row hrow => decide_eq_decide.2 ?_)
      unfold rowKeyText? rowBlob?
      cases hw : row.toMap.get? r.keyColumn with
      | none => exact iff_of_false nofun nofun
      | some w =>
        have h := (hrows row hrow w hw).keyText?_eq_iff hv
        rw [hv.keyText?_eq, hb] at h
        exact h

theorem loadRelation_blobs {d : Driver σ} {m : Model} (hr : m.relation? r.name = some r) (hparents : r.HasBlobKeys parents)
    {wrap : Option Bool} {db db' : Database σ} {loaded : List α}
    (h : m.loadRelation d parents r.name wrap db = (.ok loaded, db')) :
    ∃ target asked rows, r.target d wrap db = (.ok target, asked) ∧
      Answer d r (r.parentKeys parents) asked rows db' ∧
      (r.HasBlobRows rows →
        loaded = parents.map fun p => Parent.attach p r.name (shape r.kind target (r.blobRows rows p))) := by
  rw [Model.loadRelation, hr] at h
  obtain ⟨target, asked, rows, htarget, hanswer, rfl⟩ := load_eq_ok h
  refine ⟨target, asked, rows, htarget, hanswer, fun hrows => List.map_congr_left fun p hp => ?_⟩
  rw [ownRows_blobs hrows hparents hp]

end Relation

/-! ### Rows that are read back -/

namespace Collection

/-- The last row with a blob as its primary key. -/
def rowOfBlob? (m : Model) (rows : List Assignments) (bs : List UInt8) : Option Assignments :=
  (rows.filter fun row => (row.get? m.primaryCol).bind Value.blob? = some bs).getLast?

/-- Rows with blobs as primary keys, each of them the bytes of a text. -/
def HasBlobRows (m : Model) (rows : List Assignments) : Prop :=
  ∀ row ∈ rows, ∀ v ∈ row.get? m.primaryCol, v.IsBlobKey

private theorem find?_keyed (key? : Assignments → Option String) (k : String) (rows : List Assignments) :
    Entries.find? k (rows.filterMap fun row => (key? row).map fun k => (k, row)) =
      (rows.filter fun row => key? row = some k).head? := by
  induction rows with
  | nil => rfl
  | cons row rows ih =>
    rw [List.filter_cons, List.filterMap_cons]
    cases hkey : key? row with
    | none => exact ih
    | some j =>
      by_cases hj : j = k
      · simp [Entries.find?, hj]
      · simp [Entries.find?, hj, ih]

/-- The row that is stored under the text of a blob is the last one with this blob. -/
theorem find?_rowsByKey_blob {m : Model} {rows : List Assignments} (hrows : HasBlobRows m rows) {bs : List UInt8}
    (hbs : Utf8.WellFormed bs) : Entries.find? (Utf8.readLossy bs) (rowsByKey m rows) = rowOfBlob? m rows bs := by
  rw [rowsByKey, Entries.find?_ofList, rowOfBlob?, List.getLast?_eq_head?_reverse, ← List.filter_reverse,
    ← List.filterMap_reverse, find?_keyed]
  refine congrArg _ (List.filter_congr fun row hrow => decide_eq_decide.2 ?_)
  cases hv : row.get? m.primaryCol with
  | none => exact iff_of_false nofun nofun
  | some v => exact (hrows row (List.mem_reverse.1 hrow) v hv).keyText?_eq_iff (.text hbs)

theorem insertNew_blobs {d : Driver σ} {c : Collection} (hmembers : c.keys.Nodup) {blobs : List (List UInt8)}
    (hblobs : ∀ bs ∈ blobs, Utf8.WellFormed bs) (hdistinct : blobs.Nodup) {rows : List Assignments}
    {db inserted read : Database σ}
    (hinserted : c.model.insertMany d c.rowsToInsert db = (.ok (blobs.map Value.bytes), inserted))
    (hread : c.model.fetchRows d (fetchOfKeys c.model (blobs.map Value.bytes)) inserted = (.ok rows, read))
    (hrows : HasBlobRows c.model rows) {place : Nat} {member : MemberKey × Record} {bs : List UInt8}
    (hmember : c.toInsert[place]? = some member) (hbs : blobs[place]? = some bs) :
    (c.insertNew d db).1.1.get? member.1 = some (member.2.adopt
      ((rowOfBlob? c.model rows bs).getD (member.2.data.insert c.model.primaryCol (.bytes bs)))) := by
  have hmem : bs ∈ blobs := List.mem_of_getElem? hbs
  have hkey : (blobs.map Value.bytes)[place]? = some (.bytes bs) := by rw [List.getElem?_map, hbs, Option.map_some]
  have hknown : ∀ k ∈ blobs.map Value.bytes, k.keyText?.isSome = true := List.forall_mem_map.2 fun _ _ => rfl
  have hback : (readBack d c.model (blobs.map Value.bytes) inserted).1 = rowsByKey c.model rows := by
    have hfilter : (blobs.map Value.bytes).filter (fun v => !v.isBlank) = blobs.map Value.bytes :=
      List.filter_eq_self.2 (List.forall_mem_map.2 fun _ _ => rfl)
    rw [readBack_apply hfilter (List.ne_nil_of_mem (List.mem_of_getElem? hkey)), hread]
  rw [get?_insertNew hmembers hinserted hknown hmember hkey rfl fun i k hi ht => ?_, hback,
    find?_rowsByKey_blob hrows (hblobs bs hmem)]
  -- the key at another place is another blob, and so has another text
  rw [List.getElem?_map, Option.map_eq_some_iff] at hi
  obtain ⟨b, hi, rfl⟩ := hi
  obtain rfl : b = bs := (hblobs b (List.mem_of_getElem? hi)).eq_of_readLossy (hblobs bs hmem) (Option.some.inj ht)
  exact (List.getElem?_inj (List.getElem?_eq_some_iff.1 hi).1 hdistinct).1 (hi.trans hbs.symm)

/-- In a grouped save members with different blobs as keys adopt the rows with their own blobs. -/
theorem saveAll_blobs {d : Driver σ} {c : Collection} (hmembers : c.keys.Nodup) {blobs : List (List UInt8)}
    (hblobs : ∀ bs ∈ blobs, Utf8.WellFormed bs) (hdistinct : blobs.Nodup) {rows : List Assignments}
    {db inserted read : Database σ} {outcome : BulkOutcome} (h : (c.saveAll d true db).1.1 = .ok outcome)
    (hinserted : c.model.insertMany d c.rowsToInsert (saveMembers d true c.members db).2 =
      (.ok (blobs.map Value.bytes), inserted))
    (hread : c.model.fetchRows d (fetchOfKeys c.model (blobs.map Value.bytes)) inserted = (.ok rows, read))
    (hrows : HasBlobRows c.model rows) {place : Nat} {member : MemberKey × Record} {bs : List UInt8}
    (hmember : c.toInsert[place]? = some member) (hbs : blobs[place]? = some bs) :
    (c.saveAll d true db).1.2.get? member.1 = some (member.2.adopt
      ((rowOfBlob? c.model rows bs).getD (member.2.data.insert c.model.primaryCol (.bytes bs)))) := by
  obtain ⟨-, hsaved⟩ := saveAll_grouped h
  have hpassedKeys : (c.passed d db).keys.Nodup := by rwa [keys_passed]
  rw [← toInsert_passed c d db] at hmember
  rw [← rowsToInsert_passed c d db] at hinserted
  rw [hsaved]
  exact insertNew_blobs hpassedKeys hblobs hdistinct hinserted hread hrows hmember hbs

end Collection

/-! ### Blobs that are told apart -/

/--
A blob with the bytes of a text has another key text than every other such blob, and another one than every other blob
at all exactly if its text holds no replacement character.  So parents with blobs of texts are asked for once for each
blob and get the rows with their own blobs, and members that are inserted together under different blobs of texts adopt
the rows with their own blobs.
-/
theorem blobKeys_toldApart [Parent α] (a : List UInt8) (d : Driver σ) (m : Model) (r : Relation)
    (hr : m.relation? r.name = some r) (parents : List α) (hparents : r.HasBlobKeys parents) (c : Collection)
    (hmembers : c.keys.Nodup) :
    (∀ b : List UInt8, Utf8.WellFormed a → Utf8.WellFormed b →
      (Value.bytes a).keyText? = (Value.bytes b).keyText? → a = b) ∧
    ((∀ b : List UInt8, (Value.bytes b).keyText? = (Value.bytes a).keyText? → b = a) ↔
      ∃ s, a = Utf8.write s ∧ '\uFFFD' ∉ s.toList) ∧
    r.parentKeys parents = (parents.filterMap r.parentBlob?).eraseDups.map Value.bytes ∧
    (∀ (wrap : Option Bool) (db db' : Database σ) (loaded : List α),
      m.loadRelation d parents r.name wrap db = (.ok loaded, db') →
      ∃ target asked rows, r.target d wrap db = (.ok target, asked) ∧
        Relation.Answer d r (r.parentKeys parents) asked rows db' ∧
        (r.HasBlobRows rows → loaded = parents.map fun p =>
          Parent.attach p r.name (Relation.shape r.kind target (r.blobRows rows p)))) ∧
    (∀ (blobs : List (List UInt8)) (rows : List Assignments) (outcome : BulkOutcome) (db inserted read : Database σ),
      (∀ bs ∈ blobs, Utf8.WellFormed bs) → blobs.Nodup → (c.saveAll d true db).1.1 = .ok outcome →
      c.model.insertMany d c.rowsToInsert (Collection.saveMembers d true c.members db).2 =
        (.ok (blobs.map Value.bytes), inserted) →
      c.model.fetchRows d (Collection.fetchOfKeys c.model (blobs.map Value.bytes)) inserted = (.ok rows, read) →
      Collection.HasBlobRows c.model rows → ∀ (place : Nat) (member : MemberKey × Record) (bs : List UInt8),
        c.toInsert[place]? = some member → blobs[place]? = some bs →
        (c.saveAll d true db).1.2.get? member.1 = some (member.2.adopt
          ((Collection.rowOfBlob? c.model rows bs).getD (member.2.data.insert c.model.primaryCol (.bytes bs))))) := by
  refine ⟨fun b ha hb h => ha.eq_of_readLossy hb (Option.some.inj h), ?_, Relation.parentKeys_blobs hparents,
    fun wrap db db' loaded h => Relation.loadRelation_blobs hr hparents h, ?_⟩
  · simp only [Value.keyText?_bytes, Option.some.injEq]
    exact Utf8.readLossy_unique_iff
  · intro blobs rows outcome db inserted read hblobs hdistinct h hinserted hread hrows place member bs hmember hbs
    exact Collection.saveAll_blobs hmembers hblobs hdistinct h hinserted hread hrows hmember hbs

/-! ### Examples -/

namespace BlobExample

open Model.Example Relation.Example Collection.Example

/-- The comparison of a column of blobs. -/
def sameBlob (a b : Value) : Bool := a.blob? == b.blob?

/-- Tags with a blob as their key. -/
def tags : Model :=
  Model.bind (.ofTable "tags")
    (.ofColumns "tags" [(Column.ofDeclaration "code" "BLOB").asPrimaryKey false, .ofDeclaration "title" "TEXT"])

/-- Two new tags. -/
def twoTags (a b : List UInt8) : Collection :=
  newRows tags [[("code", .bytes a), ("title", .text "a")], [("code", .bytes b), ("title", .text "b")]]

/-- These tags as they are stored. -/
def storedTags (a b : List UInt8) : List (Value × Row) :=
  [entryOf tags (.bytes a) [("title", .text "a")], entryOf tags (.bytes b) [("title", .text "b")]]

/-- A database of one table that inserts these tags, and answers some queries with the rows of both blobs. -/
def blobTable (a b : List UInt8) (queries : List String) : Driver (List (Value × Row)) :=
  oneTable tags sameBlob (twoTags a b).statements (queries.map fun query => (query, [.bytes a, .bytes b]))

/-- The bytes of an accented letter. -/
def acute : List UInt8 := [0xC3, 0xA9]

/-- The bytes of another one. -/
def grave : List UInt8 := [0xC3, 0xA8]

/-- Owners of which two have one code. -/
def threeOwners : List PlainRow :=
  [owner (.bytes acute) none, owner (.bytes grave) none, owner (.bytes acute) none]

/-- The items of these owners. -/
def twoItems : List Row := [item 1 (.bytes acute), item 2 (.bytes grave)]

/-- The database of these items, or of tags with the same codes. -/
def letterTable : Driver (List (Value × Row)) :=
  blobTable acute grave
    ["SELECT items.* FROM items WHERE items.owner_code IN (X'C3A9', X'C3A8')",
      "SELECT tags.* FROM tags WHERE code IN (X'C3A9', X'C3A8')"]

theorem letterTable_evaluates : items.Evaluates letterTable id sameBlob [.bytes acute, .bytes grave] := by
  have hquery : (items.select none [.bytes acute, .bytes grave]).sql letterTable.quoter =
      .ok { text := "SELECT items.* FROM items WHERE items.owner_code IN (X'C3A9', X'C3A8')", binds := [] } := rfl
  intro link sql hlink hsql s
  obtain rfl := Except.ok.inj hlink
  obtain rfl := Except.ok.inj (hsql.symm.trans hquery)
  exact ⟨s, rfl⟩

end BlobExample

open BlobExample Relation.Example in
/-- Blobs with the bytes of two letters, as the keys of owners and of new tags. -/
theorem blobKeys_toldApart_letters :
    let loaded := threeOwners.map fun p =>
      Parent.attach p items.name (Relation.shape items.kind none (items.blobRows twoItems p))
    let saved := (twoTags acute grave).saveAll letterTable true { store := [] }
    Utf8.WellFormed acute ∧ Utf8.WellFormed grave ∧ (Value.bytes acute).keyText? ≠ (Value.bytes grave).keyText? ∧
      owners.relation? items.name = some items ∧ (twoTags acute grave).keys.Nodup ∧
      items.HasBlobKeys threeOwners ∧ items.HasBlobRows twoItems ∧
      items.parentKeys threeOwners = [.bytes acute, .bytes grave] ∧
      owners.loadRelation letterTable threeOwners items.name none (stored (.bytes acute) (.bytes grave)) =
        (.ok loaded, stored (.bytes acute) (.bytes grave)) ∧
      loaded = [owner (.bytes acute) [item 1 (.bytes acute)], owner (.bytes grave) [item 2 (.bytes grave)],
        owner (.bytes acute) [item 1 (.bytes acute)]] ∧
      saved.1.1 = .ok .allSucceeded ∧ saved.2.store = storedTags acute grave ∧
      (saved.1.2.get? (.index 1)).map (fun r => r.data.toList) =
        some [("code", .bytes grave), ("title", .text "b")] := by
  intro loaded saved
  have ha : Utf8.WellFormed acute := ⟨"é", rfl⟩
  have hb : Utf8.WellFormed grave := ⟨"è", rfl⟩
  have hr : owners.relation? items.name = some items := rfl
  have hmembers : (twoTags acute grave).keys.Nodup := by decide
  have hparents : items.HasBlobKeys threeOwners := by
    intro p hp v hv
    simp only [threeOwners, List.mem_cons, List.not_mem_nil, or_false] at hp
    rcases hp with rfl | rfl | rfl
    · exact Option.some.inj hv ▸ .text ha
    · exact Option.some.inj hv ▸ .text hb
    · exact Option.some.inj hv ▸ .text ha
  have hrows : items.HasBlobRows twoItems := by
    intro row hrow v hv
    simp only [twoItems, List.mem_cons, List.not_mem_nil, or_false] at hrow
    rcases hrow with rfl | rfl
    · exact Option.some.inj hv ▸ .text ha
    · exact Option.some.inj hv ▸ .text hb
  have hback : Collection.HasBlobRows tags ((storedTags acute grave).map fun e => e.2.toMap) := by
    intro row hrow v hv
    simp only [storedTags, List.map_cons, List.map_nil, List.mem_cons, List.not_mem_nil, or_false] at hrow
    rcases hrow with rfl | rfl
    · exact Option.some.inj hv ▸ .text ha
    · exact Option.some.inj hv ▸ .text hb
  obtain ⟨hinjective, -, hkeys, hloads, hsaves⟩ :=
    blobKeys_toldApart acute letterTable owners items hr threeOwners hparents (twoTags acute grave) hmembers
  have hkeys : items.parentKeys threeOwners = [.bytes acute, .bytes grave] := hkeys.trans rfl
  have hload : owners.loadRelation letterTable threeOwners items.name none (stored (.bytes acute) (.bytes grave)) =
      (.ok [owner (.bytes acute) [item 1 (.bytes acute)], owner (.bytes grave) [item 2 (.bytes grave)],
        owner (.bytes acute) [item 1 (.bytes acute)]], stored (.bytes acute) (.bytes grave)) := rfl
  have hloaded : [owner (.bytes acute) [item 1 (.bytes acute)], owner (.bytes grave) [item 2 (.bytes grave)],
      owner (.bytes acute) [item 1 (.bytes acute)]] = loaded := by
    obtain ⟨target, asked, rows, htarget, hanswer, hattached⟩ := hloads none _ _ _ hload
    have hplain : items.target letterTable none (stored (.bytes acute) (.bytes grave)) =
        (.ok none, stored (.bytes acute) (.bytes grave)) := rfl
    obtain ⟨hnone, rfl⟩ := Prod.mk.inj (hplain.symm.trans htarget)
    obtain rfl := Except.ok.inj hnone
    rw [hkeys] at hanswer
    obtain rfl : rows = twoItems := Relation.answer_found hanswer fun _ => letterTable_evaluates
    exact hattached hrows
  have hsaved := hsaves [acute, grave] _ _ { store := [] } { store := storedTags acute grave } _
    (List.forall_mem_cons.2 ⟨ha, List.forall_mem_singleton.2 hb⟩) (by decide) rfl rfl rfl hback 1 _ grave rfl rfl
  refine ⟨ha, hb, fun h => absurd (hinjective _ ha hb h) (by decide), hr, hmembers, hparents, hrows, hkeys,
    hload.trans (by rw [hloaded]), hloaded.symm, ?_, ?_, ?_⟩
  · rfl
  · rfl
  · exact (congrArg (Option.map fun r => r.data.toList) hsaved).trans rfl

open BlobExample Relation.Example in
/-- Two bytes that stand nowhere: they are different keys of one text, and what belongs to the one is given to the
other. -/
theorem blobKeys_confused :
    let a : List UInt8 := [0xFF]
    let b : List UInt8 := [0xFE]
    let d := blobTable a b ["SELECT tags.* FROM tags WHERE code IN (X'FF', X'FE')"]
    let saved := (twoTags a b).saveAll d true { store := [] }
    a ≠ b ∧ (Value.bytes a).keyText? = (Value.bytes b).keyText? ∧
      owners.loadRelation (lookup sameBlob) [owner (.bytes a) none, owner (.bytes b) none] items.name none
          (stored (.bytes a) (.bytes b)) =
        (.ok [owner (.bytes a) [item 1 (.bytes a)], owner (.bytes b) [item 1 (.bytes a)]],
          stored (.bytes a) (.bytes b)) ∧
      owners.loadRelation (lookup sameBlob) [owner (.bytes b) none] items.name none (stored (.bytes a) (.bytes b)) =
        (.ok [owner (.bytes b) [item 2 (.bytes b)]], stored (.bytes a) (.bytes b)) ∧
      saved.1.1 = .ok .allSucceeded ∧ saved.2.store = storedTags a b ∧
      (saved.1.2.get? (.index 0)).map (fun r => r.data.toList) = some [("code", .bytes b), ("title", .text "b")] := by
  refine ⟨by decide, rfl, ?_, ?_, ?_, ?_, ?_⟩
  · rfl
  · rfl
  · rfl
  · rfl
  · rfl

end RecordMapper
