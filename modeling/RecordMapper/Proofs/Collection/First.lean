import RecordMapper.Proofs.Collection.Fetched
import RecordMapper.Proofs.Decimal.Numeral
import RecordMapper.Proofs.Text.Cut

/-!
# The first of a fetch

The first record of a fetch, and its first value, are fetched with a limit of one row in the place of the limit that the
fetch has.

* the limit of a fetch has a say in nothing but the window of its query (`Select.sql_limit`);
* so, if the database answers a query with a limit by the first rows that it gives without one, the shortcut gives what
  comes first in the fetch itself, unless this takes no rows (`first_agrees`);
* a fetch that takes no rows has a first record all the same, and a value may come first whose column has its name from
  another one (`first_of_none`).
-/

namespace RecordMapper

/-! ### What comes first in a map -/

namespace Entries

variable {α β : Type} [DecidableEq α]

theorem head?_put {k j : α} {v w : β} {es : List (α × β)} (h : es.head? = some (k, v)) (hne : k ≠ j) :
    (put j w es).head? = some (k, v) := by
  cases es with
  | nil => exact nomatch h
  | cons e es =>
    obtain rfl := Option.some.inj h
    rw [put, if_neg hne]
    rfl

theorem head?_foldl_put {k : α} {v : β} {es : List (α × β)} (hes : ∀ e ∈ es, k ≠ e.1) :
    ∀ {m : List (α × β)}, m.head? = some (k, v) → (es.foldl (fun m e => put e.1 e.2 m) m).head? = some (k, v) := by
  induction es with
  | nil => exact fun hm => hm
  | cons e es ih =>
    obtain ⟨he, hrest⟩ := List.forall_mem_cons.1 hes
    exact fun hm => ih hrest (head?_put hm he)

end Entries

/-- The first value of a row is under a name of its own. -/
def Row.FirstNamed (row : Row) : Prop :=
  ∀ v vs, row.values = v :: vs → ∃ n ns, row.names = n :: ns ∧ n ∉ ns

/-- The first value of a row comes first in its map, if it has a name of its own. -/
theorem Row.head?_values_toMap {row : Row} (h : row.FirstNamed) : row.toMap.values.head? = row.values.head? := by
  cases hvalues : row.values with
  | nil =>
    rw [toMap, entries, hvalues, List.zip_nil_right]
    rfl
  | cons v vs =>
    obtain ⟨n, ns, hnames, hown⟩ := h v vs hvalues
    have hothers : ∀ e ∈ ns.zip vs, n ≠ e.1 := fun e he hsame => hown (hsame ▸ (List.of_mem_zip he).1)
    have hfirst : row.toMap.toList.head? = some (n, v) := by
      rw [toMap, entries, hnames, hvalues]
      exact Entries.head?_foldl_put hothers rfl
    rw [OrderedMap.values, List.head?_map, hfirst]
    rfl

/-! ### The window of a query -/

/-- But for its window, a query is written without regard to the limit. -/
theorem Select.sql_limit (table : String) (f : Fetch) (q : Quoter) :
    ∃ body : Except FilterFault Sql, ∀ limit,
      ({ table, fetch := { f with limit } } : Select).sql q =
        body.map fun sql => { sql with text := sql.text ++ windowText q.dialect limit f.offset } := by
  let s (limit : Option Nat) : Select := { table, fetch := { f with limit } }
  have hfilter : ∀ limit, (s limit).conditions q .filter " WHERE " f.filter 0 =
      (s none).conditions q .filter " WHERE " f.filter 0 := fun _ => rfl
  have hhaving : ∀ limit bound, (s limit).conditions q .having " HAVING " f.having bound =
      (s none).conditions q .having " HAVING " f.having bound := fun _ _ => rfl
  have hend : ∀ limit, (s limit).endText q.dialect =
      (if (s none).uses .order then " ORDER BY " ++ ", ".intercalate f.order else "") ++
        windowText q.dialect limit f.offset := by
    intro limit
    cases limit <;> cases hoffset : f.offset <;> simp [s, endText, uses, Fetch.isSet, hoffset]
  cases hok : (s none).conditions q .filter " WHERE " f.filter 0 with
  | error fault =>
    refine ⟨.error fault, fun limit => ?_⟩
    show (s limit).sql q = _
    rw [Select.sql, hfilter limit, hok]
    rfl
  | ok filter =>
    cases hok' : (s none).conditions q .having " HAVING " f.having filter.binds.length with
    | error fault =>
      refine ⟨.error fault, fun limit => ?_⟩
      show (s limit).sql q = _
      rw [Select.sql, hfilter limit, hok]
      dsimp only
      rw [hhaving limit, hok']
      rfl
    | ok having =>
      let order := if (s none).uses .order then " ORDER BY " ++ ", ".intercalate f.order else ""
      refine ⟨.ok ⟨(s none).headText ++ filter.text ++ (s none).groupText ++ having.text ++ order,
        filter.binds ++ having.binds⟩, fun limit => ?_⟩
      show (s limit).sql q = _
      rw [Select.sql, hfilter limit, hok]
      dsimp only
      rw [hhaving limit, hok', hend limit]
      dsimp only
      rw [← String.append_assoc]
      rfl

variable {σ : Type}

/-- A driver answers the query of a fetch, when it has a limit, by the first rows that it gives without one. -/
def Driver.TakesLimits (d : Driver σ) (table : String) (f : Fetch) (s : σ) : Prop :=
  ∀ n whole part, ({ table, fetch := { f with limit := none } } : Select).sql d.quoter = .ok whole →
    ({ table, fetch := { f with limit := some n } } : Select).sql d.quoter = .ok part →
    ((d.query part.text part.binds).run s).1 = ((d.query whole.text whole.binds).run s).1.map (List.take n)

/-- An operation whose result is worked out without the database. -/
theorem Operation.bind_pure_apply {α β : Type} (op : Operation σ α) (g : α → β) (db : Database σ) :
    (op >>= fun a => pure (g a)) db = ((op db).1.map g, (op db).2) := by
  rw [bind_apply]
  obtain ⟨_ | a, after⟩ := op db <;> rfl

namespace Model

section Limit

variable {d : Driver σ} {m : Model} {f : Fetch} {db : Database σ}

/-- A fetch with a limit has the first rows of the fetch without one. -/
theorem select_limit (h : d.TakesLimits m.tableName f db.store) (n : Nat) :
    (m.select d { f with limit := some n } db).1 =
      (m.select d { f with limit := none } db).1.map (List.take n) := by
  obtain ⟨body, hbody⟩ := Select.sql_limit m.tableName f d.quoter
  unfold select runQuery
  cases body with
  | error fault =>
    rw [hbody, hbody]
    rfl
  | ok sql =>
    have hanswers := h n _ _ (hbody none) (hbody (some n))
    rw [hbody, hbody]
    exact hanswers

/-- The rows of the fetch of the first row are the first of the rows of the fetch, unless it takes none. -/
theorem select_first (h : d.TakesLimits m.tableName f db.store) (hlimit : f.limit ≠ some 0) :
    (m.select d (first f) db).1 = (m.select d f db).1.map (List.take 1) := by
  cases hn : f.limit with
  | none =>
    have hsame : ({ f with limit := none } : Fetch) = f := by rw [← hn]
    have hfirst := select_limit h 1
    rwa [hsame] at hfirst
  | some n =>
    have hsame : ({ f with limit := some n } : Fetch) = f := by rw [← hn]
    have hwhole := select_limit h n
    have hmin : min 1 n = 1 := Nat.min_eq_left (Nat.pos_of_ne_zero fun hzero => hlimit (hzero ▸ hn))
    rw [hsame] at hwhole
    rw [hwhole, first, select_limit h 1]
    cases (m.select d { f with limit := none } db).1 with
    | error e => rfl
    | ok rows => exact congrArg Except.ok (by rw [List.take_take, hmin])

theorem fetchRows_apply (d : Driver σ) (m : Model) (f : Fetch) (db : Database σ) :
    m.fetchRows d f db = ((m.select d f db).1.map (List.map Row.toMap), (m.select d f db).2) :=
  Operation.bind_pure_apply ..

theorem fetchRows_first (h : d.TakesLimits m.tableName f db.store) (hlimit : f.limit ≠ some 0) :
    (m.fetchRows d (first f) db).1 = (m.fetchRows d f db).1.map (List.take 1) := by
  rw [fetchRows_apply, fetchRows_apply, select_first h hlimit]
  cases (m.select d f db).1 with
  | error e => rfl
  | ok rows => exact congrArg Except.ok List.map_take

theorem fetchValue_apply (d : Driver σ) (m : Model) (f : Fetch) (db : Database σ) :
    (m.fetchValue d f db).1 =
      (m.select d (first f) db).1.map fun rows => rows.head?.bind fun row => row.values.head? :=
  congrArg Prod.fst (Operation.bind_pure_apply ..)

/-- The first value is that of the first row of the fetch. -/
theorem fetchValue_first (h : d.TakesLimits m.tableName f db.store) (hlimit : f.limit ≠ some 0) :
    (m.fetchValue d f db).1 =
      (m.select d f db).1.map fun rows => rows.head?.bind fun row => row.values.head? := by
  rw [fetchValue_apply, select_first h hlimit]
  cases (m.select d f db).1 with
  | error e => rfl
  | ok rows => cases rows <;> rfl

theorem fetchValue_mapped (h : d.TakesLimits m.tableName f db.store) (hlimit : f.limit ≠ some 0)
    (hnamed : ∀ rows, (m.select d f db).1 = .ok rows → ∀ row ∈ rows.head?, row.FirstNamed) :
    (m.fetchValue d f db).1 =
      (m.fetchRows d f db).1.map fun rows => rows.head?.bind fun row => row.values.head? := by
  rw [fetchValue_first h hlimit, fetchRows_apply]
  cases hselect : (m.select d f db).1 with
  | error e => rfl
  | ok rows =>
    cases rows with
    | nil => rfl
    | cons row rows => exact congrArg Except.ok (Row.head?_values_toMap (hnamed _ hselect row rfl)).symm

theorem fetchOne_apply (d : Driver σ) (m : Model) (access : Access) (f : Fetch) (db : Database σ) :
    (m.fetchOne d access f db).1 = (m.fetchRecords d access (first f) db).1.map fun c => c.records.head? :=
  congrArg Prod.fst (Operation.bind_pure_apply ..)

end Limit

end Model

/-! ### The first record -/

namespace Collection

variable {m : Model} {access : Access}

-- the next index is past that of the first record from its push on, also where it grows no more
private theorem head?_members_ofRows (row : Assignments) (rows : List Assignments) :
    (ofRows m access (row :: rows)).members.head? = some (.index 0, .ofRow m access row) ∧
      0 < (ofRows m access (row :: rows)).nextIndex := by
  induction rows using List.reverseRecOn with
  | nil => exact ⟨rfl, Nat.lt_min.2 ⟨Nat.one_pos, by decide⟩⟩
  | append_singleton rows last ih =>
    obtain ⟨hhead, hnext⟩ := ih
    rw [← List.cons_append, ofRows_concat]
    refine ⟨Entries.head?_put hhead fun hsame => hnext.ne (MemberKey.index.inj hsame), ?_⟩
    exact Nat.lt_min.2 ⟨Nat.succ_pos _, by decide⟩

theorem head?_records_ofRows (rows : List Assignments) :
    (ofRows m access rows).records.head? = rows.head?.map (Record.ofRow m access) := by
  cases rows with
  | nil => rfl
  | cons row rows =>
    rw [records, List.head?_map, (head?_members_ofRows row rows).1]
    rfl

/-- Loading relations keeps the first record, up to related rows. -/
theorem head?_bare_eagerLoad (d : Driver σ) (m : Model) (access : Access) (rows : List Assignments)
    (names : List String) (db : Database σ) :
    ((ofRows m access rows).eagerLoad d names db).1.2.records.head?.map Record.bare =
      rows.head?.map (Record.ofRow m access) := by
  rw [← List.head?_map, bare_records_eagerLoad, List.head?_map, head?_records_ofRows]
  cases rows with
  | nil => rfl
  | cons row rows => exact congrArg some (Record.bare_ofRow m access row)

end Collection

namespace Model

section First

variable {d : Driver σ} {m : Model} {access : Access} {f : Fetch} {db fetched : Database σ} {rows : List Assignments}

/-- The first record that a fetch gives is that of its first row, whatever is loaded onto it. -/
theorem head?_bare_of_fetchRecords (h : m.fetchRows d f db = (.ok rows, fetched)) {c : Collection}
    (hc : (m.fetchRecords d access f db).1 = .ok c) :
    c.records.head?.map Record.bare = rows.head?.map (Record.ofRow m access) := by
  rw [fetchRecords_of_fetchRows access h] at hc
  obtain ⟨_, -, rfl⟩ := map_eq_ok hc
  exact Collection.head?_bare_eagerLoad d m access rows f.relations fetched

theorem fetchRecords_of_no_relations (h : m.fetchRows d f db = (.ok rows, fetched)) (hnone : f.relations = []) :
    (m.fetchRecords d access f db).1 = .ok (Collection.ofRows m access rows) := by
  rw [fetchRecords_of_fetchRows access h, hnone, Collection.eagerLoad_nil]
  rfl

/-- The first record is the first of the records that the fetch of the first row gives. -/
theorem head?_bare_of_fetchOne (h : m.fetchRows d (first f) db = (.ok rows, fetched)) {found : Option Record}
    (hfound : (m.fetchOne d access f db).1 = .ok found) :
    found.map Record.bare = rows.head?.map (Record.ofRow m access) := by
  rw [fetchOne_apply] at hfound
  obtain ⟨c, hc, rfl⟩ := map_eq_ok hfound
  exact head?_bare_of_fetchRecords h hc

/-- Of one row the first record is that of the row, unless loading relations onto it fails. -/
theorem fetchOne_of_row {row : Assignments} (h : m.fetchRows d (first f) db = (.ok [row], fetched)) :
    (m.fetchOne d access f db).1.map (Option.map Record.bare) =
      ((Collection.ofRows m access [row]).eagerLoad d f.relations fetched).1.1.map fun _ =>
        some (.ofRow m access row) := by
  have hbare := Collection.head?_bare_eagerLoad d m access [row] f.relations fetched
  rw [fetchOne_apply, fetchRecords_of_fetchRows access h]
  dsimp only [first]
  cases ((Collection.ofRows m access [row]).eagerLoad d f.relations fetched).1.1 with
  | error e => rfl
  | ok _ => exact congrArg Except.ok hbare

section Both

variable {result : Except Error (List Assignments)} {after : Database σ}
  (hrows : m.fetchRows d f db = (result, after))
  (hfirst : m.fetchRows d (first f) db = (result.map (List.take 1), fetched))

include hrows hfirst

/-- Where there is a first record, it is the first of all records, up to related rows. -/
theorem fetchOne_agrees {found : Option Record} {c : Collection} (hfound : (m.fetchOne d access f db).1 = .ok found)
    (hc : (m.fetchRecords d access f db).1 = .ok c) :
    found.map Record.bare = c.records.head?.map Record.bare := by
  cases result with
  | error e =>
    rw [(fetch_of_fetchRows_error access hrows).1] at hc
    exact nomatch hc
  | ok rows =>
    rw [head?_bare_of_fetchOne hfirst hfound, head?_bare_of_fetchRecords hrows hc, List.head?_take,
      if_neg Nat.one_ne_zero]

theorem fetchOne_of_no_relations (hnone : f.relations = []) :
    (m.fetchOne d access f db).1 = (m.fetchRecords d access f db).1.map fun c => c.records.head? := by
  rw [fetchOne_apply]
  cases result with
  | error e => rw [(fetch_of_fetchRows_error access hfirst).1, (fetch_of_fetchRows_error access hrows).1]
  | ok rows =>
    have hheads : (Collection.ofRows m access (rows.take 1)).records.head? =
        (Collection.ofRows m access rows).records.head? := by
      rw [Collection.head?_records_ofRows, Collection.head?_records_ofRows, List.head?_take, if_neg Nat.one_ne_zero]
    rw [fetchRecords_of_no_relations hfirst hnone, fetchRecords_of_no_relations hrows hnone]
    exact congrArg Except.ok hheads

end Both

end First

end Model

/-- What the first record and the first value of a fetch have to do with all that it gives. -/
structure FirstAgrees (d : Driver σ) (m : Model) (access : Access) (f : Fetch) (db : Database σ) : Prop where
  /-- If fetching the rows fails, both fetches of records fail with its error. -/
  failed : ∀ e, (m.fetchRows d f db).1 = .error e →
    (m.fetchOne d access f db).1 = .error e ∧ (m.fetchRecords d access f db).1 = .error e
  /-- Of no rows there are no records, and there is no first one. -/
  nothing : (m.fetchRows d f db).1 = .ok [] →
    (m.fetchOne d access f db).1 = .ok none ∧ (m.fetchRecords d access f db).1 = .ok (.empty m access)
  /-- The first record is that of the first row, unless loading the included relations onto this one fails. -/
  ofRow : ∀ row others, (m.fetchRows d f db).1 = .ok (row :: others) → ∃ fetched,
    m.fetchRows d (Model.first f) db = (.ok [row], fetched) ∧
      (m.fetchOne d access f db).1.map (Option.map Record.bare) =
        ((Collection.ofRows m access [row]).eagerLoad d f.relations fetched).1.1.map fun _ => some (.ofRow m access row)
  /-- Where there are both, it is the first of all records, up to related rows. -/
  both : ∀ found c, (m.fetchOne d access f db).1 = .ok found → (m.fetchRecords d access f db).1 = .ok c →
    found.map Record.bare = c.records.head?.map Record.bare
  /-- Without relations it always is. -/
  alone : f.relations = [] →
    (m.fetchOne d access f db).1 = (m.fetchRecords d access f db).1.map fun c => c.records.head?
  /-- The first value is that of the first row. -/
  value : (m.fetchValue d f db).1 = (m.select d f db).1.map fun rows => rows.head?.bind fun row => row.values.head?
  /-- It comes first in the map of the first row as well, if it has a name of its own there. -/
  mapped : (∀ rows, (m.select d f db).1 = .ok rows → ∀ row ∈ rows.head?, row.FirstNamed) →
    (m.fetchValue d f db).1 = (m.fetchRows d f db).1.map fun rows => rows.head?.bind fun row => row.values.head?

/-- The first record and the first value of a fetch that takes rows agree with all that it gives, if the database takes
limits. -/
theorem first_agrees (d : Driver σ) (m : Model) (access : Access) (f : Fetch) (db : Database σ)
    (hlimit : f.limit ≠ some 0) (htakes : d.TakesLimits m.tableName f db.store) : FirstAgrees d m access f db := by
  have hone := Model.fetchRows_first htakes hlimit
  obtain ⟨result, after, hrows⟩ : ∃ result after, m.fetchRows d f db = (result, after) := ⟨_, _, rfl⟩
  obtain ⟨cut, fetched, hfirst⟩ : ∃ cut fetched, m.fetchRows d (Model.first f) db = (cut, fetched) := ⟨_, _, rfl⟩
  rw [hrows, hfirst] at hone
  obtain rfl : cut = result.map (List.take 1) := hone
  have hresult : (m.fetchRows d f db).1 = result := congrArg Prod.fst hrows
  constructor
  case failed =>
    intro e he
    obtain rfl : result = .error e := hresult.symm.trans he
    rw [Model.fetchOne_apply, (Model.fetch_of_fetchRows_error access hfirst).1]
    exact ⟨rfl, congrArg Prod.fst (Model.fetch_of_fetchRows_error access hrows).1⟩
  case nothing =>
    intro hnone
    obtain rfl : result = .ok [] := hresult.symm.trans hnone
    rw [Model.fetchOne_apply, (Model.fetch_of_no_rows access hfirst).1]
    exact ⟨rfl, congrArg Prod.fst (Model.fetch_of_no_rows access hrows).1⟩
  case ofRow =>
    intro row others hrow
    obtain rfl : result = .ok (row :: others) := hresult.symm.trans hrow
    exact ⟨fetched, hfirst, Model.fetchOne_of_row hfirst⟩
  case both => exact fun found c => Model.fetchOne_agrees hrows hfirst
  case alone => exact Model.fetchOne_of_no_relations hrows hfirst
  case value => exact Model.fetchValue_first htakes hlimit
  case mapped => exact Model.fetchValue_mapped htakes hlimit

namespace Driver.TakesLimits.Example

open Text Decimal

/-- A text that ends in a word and a number, without these, and the number. -/
def ending? (word cs : List Char) : Option (List Char × Nat) :=
  let number := (cs.reverse.takeWhile isAsciiDigit).reverse
  match readDigits? number, withoutEnd? word (cs.take (cs.length - number.length)) with
  | some n, some rest => some (rest, n)
  | _, _ => none

/-- The words before a limit and an offset. -/
def limitWord : List Char := " LIMIT ".toList

def offsetWord : List Char := " OFFSET ".toList

/-- Cuts rows to the window at the end of a text. -/
def window (cs : List Char) (rows : List Row) : List Row :=
  let (cs, offset) := (ending? offsetWord cs).getD (cs, 0)
  match ending? limitWord cs with
  | some (_, n) => (rows.drop offset).take n
  | none => rows.drop offset

/-- A table of rows, of which a query has those in its window; it refuses a query with just one parameter. -/
def driver : Driver (List Row) where
  dialect := .sqlite
  query text binds := fun rows =>
    (if binds.length = 1 then .error (.query .database "too few parameters" none none)
      else .ok (window text.toList rows), rows)
  execute _ _ := pure 0
  lastInsertId _ := pure .null
  begin := pure ()
  commit := pure ()
  rollback := pure ()
  inTransaction _ := false
  columns _ := pure [.ofDeclaration "id" "INTEGER"]

theorem toList_natText (n : Nat) : (natText n).toList = digits n :=
  String.toList_ofList

theorem ending?_digits {word rest : List Char} (hrest : ∀ c ∈ rest.getLast?, isAsciiDigit c = false) (n : Nat) :
    ending? word (rest ++ digits n) = (withoutEnd? word rest).map (·, n) := by
  have hnumber : ((rest ++ digits n).reverse.takeWhile isAsciiDigit).reverse = digits n := by
    rw [List.reverse_append,
      List.takeWhile_append_of_pos fun c hc => isAsciiDigit_of_mem_digits (List.mem_reverse.1 hc)]
    cases hrev : rest.reverse with
    | nil => simp
    | cons c cs =>
      have hc : isAsciiDigit c = false := hrest c (by rw [List.getLast?_eq_head?_reverse, hrev]; rfl)
      simp [hc]
  rw [ending?, hnumber, readDigits?_digits, List.length_append, Nat.add_sub_cancel, List.take_left]
  cases withoutEnd? word rest <;> rfl

theorem ending?_limit (rest : List Char) (n : Nat) :
    ending? limitWord (rest ++ limitWord ++ digits n) = some (rest, n) ∧
      ending? offsetWord (rest ++ limitWord ++ digits n) = none := by
  have hlast : ∀ c ∈ (rest ++ limitWord).getLast?, isAsciiDigit c = false := by
    intro c hc
    rw [List.getLast?_append_of_ne_nil _ (by decide)] at hc
    obtain rfl : ' ' = c := Option.some.inj hc
    rfl
  have hother : withoutEnd? offsetWord (rest ++ limitWord) = none := by
    refine withoutEnd?_eq_none_iff.2 fun hends => ?_
    have hshort : limitWord <:+ offsetWord :=
      List.suffix_of_suffix_length_le (List.suffix_append _ _) hends (by decide)
    exact absurd hshort (by decide)
  rw [ending?_digits hlast, ending?_digits hlast, withoutEnd?_eq_some_iff.2 rfl, hother]
  exact ⟨rfl, rfl⟩

theorem ending?_offset (rest : List Char) (k : Nat) :
    ending? offsetWord (rest ++ offsetWord ++ digits k) = some (rest, k) := by
  have hlast : ∀ c ∈ (rest ++ offsetWord).getLast?, isAsciiDigit c = false := by
    intro c hc
    rw [List.getLast?_append_of_ne_nil _ (by decide)] at hc
    obtain rfl : ' ' = c := Option.some.inj hc
    rfl
  rw [ending?_digits hlast, withoutEnd?_eq_some_iff.2 rfl]
  rfl

theorem window_limit (rest : List Char) (n : Nat) (rows : List Row) :
    window (rest ++ limitWord ++ digits n) rows = rows.take n := by
  rw [window, (ending?_limit rest n).2]
  dsimp only [Option.getD_none]
  rw [(ending?_limit rest n).1]
  rfl

theorem window_limit_offset (rest : List Char) (n k : Nat) (rows : List Row) :
    window (rest ++ limitWord ++ digits n ++ offsetWord ++ digits k) rows = (rows.drop k).take n := by
  rw [window, ending?_offset]
  dsimp only [Option.getD_some]
  rw [(ending?_limit rest n).1]

/-- The table takes limits of a query without conditions, if it finds the window of the query without a limit. -/
theorem takesLimits (body : String) {table : String} {f : Fetch} {rows : List Row}
    (hbody : ∀ limit, ({ table, fetch := { f with limit } } : Select).sql driver.quoter =
      .ok { text := body ++ Select.windowText .sqlite limit f.offset, binds := [] })
    (hopen : window (body ++ Select.windowText .sqlite none f.offset).toList rows = rows.drop (f.offset.getD 0)) :
    driver.TakesLimits table f rows := by
  intro n whole part hwhole hpart
  obtain rfl := Except.ok.inj ((hbody none).symm.trans hwhole)
  obtain rfl := Except.ok.inj ((hbody (some n)).symm.trans hpart)
  have hpart : window (body ++ Select.windowText .sqlite (some n) f.offset).toList rows =
      (rows.drop (f.offset.getD 0)).take n := by
    cases f.offset with
    | none =>
      have htext : (body ++ Select.windowText .sqlite (some n) none).toList = body.toList ++ limitWord ++ digits n := by
        show (body ++ (" LIMIT " ++ natText n ++ "")).toList = _
        rw [String.append_empty, ← String.append_assoc, String.toList_append, String.toList_append, toList_natText]
        rfl
      rw [htext, window_limit]
      rfl
    | some k =>
      have htext : (body ++ Select.windowText .sqlite (some n) (some k)).toList =
          body.toList ++ limitWord ++ digits n ++ offsetWord ++ digits k := by
        show (body ++ (" LIMIT " ++ natText n ++ (" OFFSET " ++ natText k))).toList = _
        rw [← String.append_assoc, ← String.append_assoc, ← String.append_assoc, String.toList_append,
          String.toList_append, String.toList_append, String.toList_append, toList_natText, toList_natText]
        rfl
      rw [htext, window_limit_offset]
      rfl
  show Except.ok (window _ rows) = Except.ok ((window _ rows).take n)
  rw [hpart, hopen]

/-- The author of a post. -/
def author : Relation :=
  { name := "author", kind := .belongsTo, foreignTable := "authors", foreignCol := "id", parentCol := "author_id" }

/-- Posts with the relation. -/
def posts : Model :=
  Model.bind ((Entity.ofTable "posts").withRelation author)
    (.ofColumns "posts"
      [(Column.ofDeclaration "id" "INTEGER").asPrimaryKey false, .ofDeclaration "author_id" "INTEGER"])

/-- Three posts. -/
def threePosts : Database (List Row) :=
  { store := [{ names := ["id", "author_id"], values := [.int 1, .int 7] },
      { names := ["id", "author_id"], values := [.int 2, .int 8] },
      { names := ["id", "author_id"], values := [.int 3, .null] }] }

/-- The second post, by a window. -/
def secondPost : Fetch := { limit := some 1, offset := some 1 }

/-- No posts. -/
def noPosts : Fetch := { limit := some 0 }

/-- Posts with their authors. -/
def withAuthor : Fetch := { relations := ["author"] }

/-- Both keys of posts, under one name. -/
def keys : Fetch := { cols := ["id AS key", "author_id AS key"] }

/-- What there is under the one name. -/
def threeKeys : Database (List Row) :=
  { store := threePosts.store.map fun row => { row with names := ["key", "key"] } }

end Driver.TakesLimits.Example

open Driver.TakesLimits.Example in
/-- The second post comes first in a window that begins with it. -/
theorem first_agrees_secondPost :
    secondPost.limit ≠ some 0 ∧ driver.TakesLimits posts.tableName secondPost threePosts.store ∧
      (posts.fetchOne driver .writable secondPost threePosts).1 =
        .ok (some (.ofRow posts .writable (.ofList [("id", .int 2), ("author_id", .int 8)]))) ∧
      (posts.fetchValue driver secondPost threePosts).1 = .ok (some (.int 2)) := by
  have hlimit : secondPost.limit ≠ some 0 := by decide
  have htakes : driver.TakesLimits posts.tableName secondPost threePosts.store :=
    takesLimits "SELECT posts.* FROM posts" (fun limit => by cases limit <;> rfl) rfl
  have hfirst := first_agrees driver posts .writable secondPost threePosts hlimit htakes
  exact ⟨hlimit, htakes, (hfirst.alone rfl).trans rfl, hfirst.value.trans rfl⟩

open Driver.TakesLimits.Example in
/-- No posts have a first one; the first of two values under one name is not the one that its map has; and the author of
the first post cannot be loaded where those of all posts can. -/
theorem first_of_none :
    (driver.TakesLimits posts.tableName noPosts threePosts.store ∧
        (posts.fetchRecords driver .writable noPosts threePosts).1 = .ok (.empty posts .writable) ∧
        (posts.fetchRows driver noPosts threePosts).1 = .ok [] ∧
        (posts.fetchOne driver .writable noPosts threePosts).1 =
          .ok (some (.ofRow posts .writable (.ofList [("id", .int 1), ("author_id", .int 7)]))) ∧
        (posts.fetchValue driver noPosts threePosts).1 = .ok (some (.int 1))) ∧
      (driver.TakesLimits posts.tableName keys threeKeys.store ∧
        (posts.fetchRows driver keys threeKeys).1 =
          .ok [.ofList [("key", .int 7)], .ofList [("key", .int 8)], .ofList [("key", .null)]] ∧
        (posts.fetchValue driver keys threeKeys).1 = .ok (some (.int 1))) ∧
      driver.TakesLimits posts.tableName withAuthor threePosts.store ∧
      (∃ c, (posts.fetchRecords driver .writable withAuthor threePosts).1 = .ok c) ∧
      (posts.fetchOne driver .writable withAuthor threePosts).1 =
        .error (.query .database "too few parameters" none none) := by
  refine ⟨⟨?_, rfl, rfl, rfl, rfl⟩, ⟨?_, rfl, rfl⟩, ?_, ⟨_, rfl⟩, rfl⟩
  · exact takesLimits "SELECT posts.* FROM posts" (fun limit => by cases limit <;> rfl) rfl
  · exact takesLimits "SELECT id AS key, author_id AS key FROM posts" (fun limit => by cases limit <;> rfl) rfl
  · exact takesLimits "SELECT posts.* FROM posts" (fun limit => by cases limit <;> rfl) rfl

end RecordMapper
