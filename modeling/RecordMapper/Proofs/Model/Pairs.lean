import RecordMapper.Driver.Scripted
import RecordMapper.Model.Query

/-!
# Pairs

A result of two columns as a map: each row puts its second value under the key text of its first.

* the last row of a key text decides, whatever the first values are (`get?_pairsOfCells_last`);
* so a text is found as it is spelled exactly if it is its own key text, unless another value of the column has this key
  text (`fetchPairs_keeps_iff`); a number that is spelled in another way than in its decimal notation is lost, and two
  spellings of one number overwrite each other (`fetchPairs_merges_spellings`).
-/

namespace RecordMapper

/-- The text under which a value is a key of pairs; `NULL` and what can be no key have the empty one. -/
def Value.pairText (k : Value) : String := k.keyText?.getD ""

theorem Value.pairText_text_iff {t : String} :
    (Value.text t).pairText = t ↔ (Value.text t).keyText? = some t := by
  simp only [pairText, keyText?, Option.getD_some, Option.some.injEq]

namespace Model

variable {σ : Type} {d : Driver σ} {m : Model} {f : Fetch} {db db' : Database σ} {rows : List Row}
  {cells : List (Value × Value)}

/-- The rows have two values each. -/
def HaveCells (rows : List Row) (cells : List (Value × Value)) : Prop :=
  rows.map Row.values = cells.map fun c => [c.1, c.2]

/-- The map holds a text of the first column as it is spelled, with the second value of the last row of this text. -/
def KeepsText (cells : List (Value × Value)) (pairs : Assignments) (t : String) : Prop :=
  ∀ before v after, cells = before ++ (.text t, v) :: after → (∀ c ∈ after, c.1 ≠ .text t) → pairs.get? t = some v

/-- The map of some rows of two values. -/
def pairsOfCells (cells : List (Value × Value)) : Assignments :=
  .ofList (cells.map fun c => (c.1.pairText, c.2))

theorem pairsOf_of_cells (h : HaveCells rows cells) : pairsOf rows = cells.map fun c => (c.1.pairText, c.2) := by
  induction rows generalizing cells with
  | nil =>
    obtain rfl : cells = [] := List.map_eq_nil_iff.1 (Eq.symm h)
    rfl
  | cons row rows ih =>
    cases cells with
    | nil => cases h
    | cons c cells =>
      obtain ⟨hrow, hrows⟩ := List.cons.inj h
      rw [pairsOf, List.filterMap_cons, hrow]
      exact congrArg ((c.1.pairText, c.2) :: ·) (ih hrows)

theorem fetchPairs_of_select (hcols : f.cols.length = 2) (hselect : m.select d f db = (.ok rows, db'))
    (hcells : HaveCells rows cells) : m.fetchPairs d f db = (.ok (pairsOfCells cells), db') := by
  rw [fetchPairs, if_pos hcols, Operation.bind_apply, hselect]
  simp only [Operation.pure_apply, pairsOf_of_cells hcells, pairsOfCells]

/-- The last row of a key text decides. -/
theorem get?_pairsOfCells_last (before : List (Value × Value)) (k v : Value) (after : List (Value × Value))
    (h : ∀ c ∈ after, c.1.pairText ≠ k.pairText) :
    (pairsOfCells (before ++ (k, v) :: after)).get? k.pairText = some v := by
  rw [pairsOfCells, List.map_append, List.map_cons]
  exact Entries.find?_ofList_of_last (List.forall_mem_map.2 h)

theorem exists_cell_of_get? {t : String} {v : Value} (h : (pairsOfCells cells).get? t = some v) :
    ∃ c ∈ cells, c.1.pairText = t := by
  obtain ⟨c, hc, he⟩ := List.mem_map.1 (Entries.mem_of_find?_ofList h)
  exact ⟨c, hc, (Prod.mk.inj he).1⟩

/-- Among some rows with a property there is a last one. -/
theorem exists_last {P : Value × Value → Prop} (h : ∃ c ∈ cells, P c) :
    ∃ before c after, cells = before ++ c :: after ∧ P c ∧ ∀ c' ∈ after, ¬ P c' := by
  induction cells with
  | nil => simp at h
  | cons c cells ih =>
    by_cases hrest : ∃ c ∈ cells, P c
    · obtain ⟨before, c', after, rfl, hc', hafter⟩ := ih hrest
      exact ⟨c :: before, c', after, rfl, hc', hafter⟩
    · obtain ⟨c', hc', hP⟩ := h
      rcases List.mem_cons.1 hc' with rfl | hmem
      · exact ⟨[], c', cells, rfl, hP, fun c'' hc'' hP' => hrest ⟨c'', hc'', hP'⟩⟩
      · exact absurd ⟨c', hmem, hP⟩ hrest

/-- A text that shares its key text with no other value of the column is kept exactly if it is its own key text. -/
theorem keepsText_iff {t : String} (hmem : ∃ v, (.text t, v) ∈ cells)
    (halone : ∀ c ∈ cells, c.1.pairText = t → c.1 = .text t) :
    KeepsText cells (pairsOfCells cells) t ↔ (Value.text t).keyText? = some t := by
  rw [← Value.pairText_text_iff]
  constructor
  · intro hkeeps
    obtain ⟨v, hv⟩ := hmem
    obtain ⟨before, ⟨k, w⟩, after, hcells, rfl, hafter⟩ :=
      exists_last (P := fun c => c.1 = .text t) ⟨_, hv, rfl⟩
    obtain ⟨c, hc, ht⟩ := exists_cell_of_get? (hkeeps before w after hcells hafter)
    rwa [halone c hc ht] at ht
  · rintro hown before v after rfl hafter
    have hlast := get?_pairsOfCells_last before (.text t) v after fun c hc hsame =>
      hafter c hc (halone c (by simp [hc]) (hsame.trans hown))
    rwa [hown] at hlast

/-- A fetch of two columns gives a map in which the last row of a key text decides, and no other keys.  A text of the
first column that shares its key text with no other value there is kept, with the value of its last row, exactly if it
is its own key text. -/
theorem fetchPairs_keeps_iff (d : Driver σ) (m : Model) (f : Fetch) (db db' : Database σ) (rows : List Row)
    (cells : List (Value × Value)) (hcols : f.cols.length = 2) (hselect : m.select d f db = (.ok rows, db'))
    (hcells : HaveCells rows cells) :
    ∃ pairs, m.fetchPairs d f db = (.ok pairs, db') ∧
      (∀ before k v after, cells = before ++ (k, v) :: after → (∀ c ∈ after, c.1.pairText ≠ k.pairText) →
        pairs.get? k.pairText = some v) ∧
      (∀ t v, pairs.get? t = some v → ∃ c ∈ cells, c.1.pairText = t) ∧
      ∀ t, (∃ v, (.text t, v) ∈ cells) → (∀ c ∈ cells, c.1.pairText = t → c.1 = .text t) →
        (KeepsText cells pairs t ↔ (Value.text t).keyText? = some t) := by
  refine ⟨pairsOfCells cells, fetchPairs_of_select hcols hselect hcells, ?_, fun t v => exists_cell_of_get?,
    fun t => keepsText_iff⟩
  rintro before k v after rfl hafter
  exact get?_pairsOfCells_last before k v after hafter

/-! ### Examples -/

namespace Example

/-- Codes with titles. -/
def codes : Model :=
  .bind (.ofTable "codes")
    (.ofColumns "codes" [.ofDeclaration "code" "TEXT", .ofDeclaration "title" "TEXT"])

/-- The fetch of all codes with their titles. -/
def allCodes : Fetch := { cols := ["code", "title"] }

/-- A row of a code and a title. -/
def codeRow (code title : Value) : Row := { names := ["code", "title"], values := [code, title] }

/-- A database that answers the next query with the given codes and titles. -/
def holding (cells : List (Value × Value)) : Database (Script × Bool) :=
  { store := ({ rows := [.ok (cells.map fun c => codeRow c.1 c.2)] }, false) }

/-- The database after the query. -/
def emptied : Database (Script × Bool) := { store := ({}, false) }

/-- The driver of these databases. -/
def scripted : Driver (Script × Bool) := .scripted .sqlite (.idle .sqlite)

/-- Titles under words and a number, some of them twice. -/
def words : List (Value × Value) :=
  [(.text "a", .text "x"), (.text "7", .text "y"), (.text "a", .text "z"), (.bigint 8, .null)]

/-- Two spellings of one number. -/
def spellings : List (Value × Value) := [(.text "1", .text "a"), (.text "01", .text "b")]

end Example

open Example

theorem fetchPairs_keeps_iff_words :
    allCodes.cols.length = 2 ∧
      codes.select scripted allCodes (holding words) = (.ok (words.map fun c => codeRow c.1 c.2), emptied) ∧
      HaveCells (words.map fun c => codeRow c.1 c.2) words ∧
      ∃ pairs, codes.fetchPairs scripted allCodes (holding words) = (.ok pairs, emptied) ∧
        KeepsText words pairs "a" ∧ pairs.get? "a" = some (.text "z") := by
  have hselect : codes.select scripted allCodes (holding words) =
      (.ok (words.map fun c => codeRow c.1 c.2), emptied) := rfl
  have hcells : HaveCells (words.map fun c => codeRow c.1 c.2) words := rfl
  obtain ⟨pairs, hpairs, -, -, hkeeps⟩ := fetchPairs_keeps_iff scripted codes allCodes _ _ _ _ rfl hselect hcells
  have halone : ∀ c ∈ words, c.1.pairText = "a" → c.1 = .text "a" := by
    intro c hc
    simp only [words, List.mem_cons, List.not_mem_nil, or_false] at hc
    rcases hc with rfl | rfl | rfl | rfl
    · exact fun _ => rfl
    · exact fun h => absurd h (by decide)
    · exact fun _ => rfl
    · exact fun h => absurd h (by decide)
  have ha := (hkeeps "a" ⟨_, List.mem_cons_self⟩ halone).2 rfl
  refine ⟨rfl, hselect, hcells, pairs, hpairs, ha, ha (words.take 2) _ [(.bigint 8, .null)] rfl ?_⟩
  exact List.forall_mem_singleton.2 nofun

/-- Of two spellings of one number one is lost, and the value of the other is overwritten. -/
theorem fetchPairs_merges_spellings :
    ∃ pairs, codes.fetchPairs scripted allCodes (holding spellings) = (.ok pairs, emptied) ∧
      pairs.toList = [("1", .text "b")] ∧
      ¬ KeepsText spellings pairs "01" ∧ ¬ KeepsText spellings pairs "1" := by
  refine ⟨pairsOfCells spellings, rfl, rfl, fun h => ?_, fun h => ?_⟩
  · exact nomatch h [(.text "1", .text "a")] (.text "b") [] rfl (List.forall_mem_nil _)
  · have hfirst := h [] (.text "a") [(.text "01", .text "b")] rfl (List.forall_mem_singleton.2 (by simp))
    have hlast : (pairsOfCells spellings).get? "1" = some (.text "b") := rfl
    simp [hlast] at hfirst

end Model

end RecordMapper
