import RecordMapper.Proofs.Filter.Meaning
import RecordMapper.Proofs.Relation.Query

/-!
# The rows that the query of a relation asks for

The query puts its own test for the parents' keys before the conditions of the relation, and these in parentheses.

* read as SQL reads it, the condition holds of a row exactly if the test for the keys does and the conditions of the
  relation do, whatever groups and disjunctions they are made of (`value_queryFilter`);
* limit, offset and further relations of the constraints do not show in the query, all else is as the constraints have
  it (`select_keyed`).
-/

namespace RecordMapper

open Logic

/-! ### Values of filters -/

theorem Logic.Truth.and_eq_yes_iff {a b : Truth} : a.and b = .yes ↔ a = .yes ∧ b = .yes := by
  cases a <;> cases b <;> simp [Truth.and]

mutual

private theorem value_condition_add (v : Nat → Truth) (k start : Nat) (c : Condition) :
    c.value v (k + start) = c.value (fun i => v (k + i)) start := by
  match c with
  | .test t => rw [Condition.value, Condition.value]
  | .group es => rw [Condition.value, Condition.value, entryValues_add v k start es]

private theorem entryValues_add (v : Nat → Truth) (k start : Nat) (es : Filter) :
    Filter.entryValues v (k + start) es = Filter.entryValues (fun i => v (k + i)) start es := by
  match es with
  | [] => rw [Filter.entryValues, Filter.entryValues]
  | (link, c) :: es =>
    rw [Filter.entryValues, Filter.entryValues, value_condition_add v k start c, Nat.add_assoc,
      entryValues_add v k (start + c.tests.length) es]

end

/-! ### Statements -/

namespace Filter

/-- After a leaf, the others are written as they would be after its parameter. -/
theorem leafTextAt_cons_succ (q : Quoter) (t : Test) (ts : List Test) (place : Nat) :
    leafTextAt q 0 (t :: ts) (place + 1) = leafTextAt q (binding [t]).length ts place := by
  have hbinding : binding (t :: ts.take (place + 1)) = binding [t] ++ binding (ts.take (place + 1)) :=
    binding_append [t] (ts.take (place + 1))
  simp only [leafTextAt, List.getElem?_cons_succ, List.take_succ_cons, hbinding, List.length_append, Nat.zero_add]

end Filter

namespace Select

/-- Conditions that have a say as soon as there are any: the keyword and their text. -/
theorem conditions_eq_ok {s : Select} {q : Quoter} {key : FetchKey} {keyword : String} {f : Filter} {bound : Nat}
    {sql : Sql} (hset : s.uses key = !f.isEmpty) (h : s.conditions q key keyword f bound = .ok sql) :
    ∃ inner, f.compile q bound = .ok inner ∧ sql.binds = inner.binds ∧
      sql.text = if f.isEmpty then "" else keyword ++ inner.text := by
  unfold conditions at h
  cases f with
  | nil =>
    rw [hset] at h
    obtain rfl := Except.ok.inj h
    exact ⟨⟨"", []⟩, rfl, rfl, rfl⟩
  | cons e es =>
    rw [hset] at h
    cases hsql : Filter.compile (e :: es) q bound with
    | error fault => simp [hsql] at h
    | ok inner =>
      obtain rfl : { inner with text := keyword ++ inner.text } = sql := by simpa [hsql] using h
      exact ⟨inner, rfl, rfl, rfl⟩

/-- A query that ignores none of its conditions: both parts are compiled, the second after the parameters of the first,
and stand after their keywords. -/
theorem sql_eq_ok {s : Select} {q : Quoter} {sql : Sql} (hfilter : s.uses .filter = !s.fetch.filter.isEmpty)
    (hhaving : s.uses .having = !s.fetch.having.isEmpty) (h : s.sql q = .ok sql) :
    ∃ filter having, s.fetch.filter.compile q 0 = .ok filter ∧
      s.fetch.having.compile q filter.binds.length = .ok having ∧
      sql =
        { text := s.headText ++ (if s.fetch.filter.isEmpty then "" else " WHERE " ++ filter.text) ++ s.groupText ++
            (if s.fetch.having.isEmpty then "" else " HAVING " ++ having.text) ++ s.endText q.dialect
          binds := filter.binds ++ having.binds } := by
  unfold Select.sql at h
  split at h
  · exact nomatch h
  rename_i before hbefore
  split at h
  · exact nomatch h
  rename_i after hafter
  obtain rfl := Except.ok.inj h
  obtain ⟨filter, hcompiled, hbinds, htext⟩ := conditions_eq_ok hfilter hbefore
  obtain ⟨having, hcompiled', hbinds', htext'⟩ := conditions_eq_ok hhaving hafter
  rw [hbinds] at hcompiled'
  exact ⟨filter, having, hcompiled, hcompiled', by rw [hbinds, hbinds', htext, htext']⟩

end Select

namespace Relation

/-! ### The condition -/

/-- The test for the parents' keys in SQL: equality with a single key, a list of literals otherwise. -/
def keySql (r : Relation) (link : Option LinkTable) (q : Quoter) (keys : List Value) : Sql :=
  match keys with
  | [key] => { text := r.matchedCol link ++ " = " ++ q.dialect.placeholder 1, binds := [key] }
  | keys =>
    { text := r.matchedCol link ++ " IN (" ++ ", ".intercalate (keys.map (Filter.memberText q)) ++ ")", binds := [] }

theorem exists_keyTest (r : Relation) (link : Option LinkTable) (keys : List Value) :
    ∃ t, r.keyTest link keys = .test t := by
  unfold keyTest
  split <;> exact ⟨_, rfl⟩

/-- The test for the keys is written as equality or membership. -/
theorem compile_keyTest {r : Relation} {link : Option LinkTable} {keys : List Value} (hne : keys ≠ []) {q : Quoter}
    {sql : Sql} (h : (Filter.and [] (r.keyTest link keys)).compile q 0 = .ok sql) : sql = r.keySql link q keys := by
  have hcol : ¬ Text.isBlankText (r.matchedCol link) = true := fun hblank =>
    r.trimmed_matchedCol_ne link (Text.trimmed_eq_empty_iff.2 hblank)
  have hlink : (Filter.nextLink []).isOr = false := rfl
  obtain ⟨t, ht⟩ := exists_keyTest r link keys
  match keys with
  | [] => exact absurd rfl hne
  | [key] =>
    change Filter.compile [(_, .test { col := r.matchedCol link, op := .eq, operand := some key })] q 0 = _ at h
    rw [Filter.compile_test hlink, Filter.operandOf, if_neg hcol] at h
    cases hkey : key.isScalar with
    | false => simp [Operator.takesOperand, Operator.isMembership, hkey] at h
    | true =>
      obtain rfl : _ = sql := by simpa [Operator.takesOperand, Operator.isMembership, hkey] using h
      simp [keySql, Filter.testText, Operator.sql, Piece.binds, String.append_assoc]
  | key :: key' :: keys =>
    change Filter.compile [(_, .test { col := r.matchedCol link, op := .isIn
                                       operand := some (.array (key :: key' :: keys)) })] q 0 = _ at h
    rw [Filter.compile_test hlink, Filter.operandOf, if_neg hcol] at h
    cases hkeys : (key :: key' :: keys).all Value.isScalar with
    | false => simp [Operator.takesOperand, Operator.isMembership, Filter.membershipOperand, hkeys] at h
    | true =>
      obtain rfl : _ = sql := by
        simpa [Operator.takesOperand, Operator.isMembership, Filter.membershipOperand, hkeys] using h
      simp [keySql, Filter.testText, Operator.sql, Piece.binds, String.append_assoc]

/-- The conditions of the relation are compiled on their own, and written in parentheses after the test for the keys. -/
theorem compile_queryFilter {r : Relation} {link : Option LinkTable} {keys : List Value} (hne : keys ≠ []) {q : Quoter}
    {sql : Sql} (h : (r.queryFilter link keys).compile q 0 = .ok sql) :
    ∃ own, (Filter.and [] (r.keyTest link keys)).compile q 0 = .ok (r.keySql link q keys) ∧
      r.constraints.filter.compile q (r.keySql link q keys).binds.length = .ok own ∧
      sql.text = (r.keySql link q keys).text ++
        (if r.constraints.filter.isEmpty then "" else " AND (" ++ own.text ++ ")") ∧
      sql.binds = (r.keySql link q keys).binds ++ own.binds := by
  unfold queryFilter at h
  cases hown : r.constraints.filter with
  | nil =>
    rw [hown] at h
    obtain rfl := compile_keyTest hne h
    exact ⟨⟨"", []⟩, h, rfl, by simp, by simp⟩
  | cons e es =>
    rw [hown] at h
    obtain ⟨key, own, hkey, hgroup, rfl⟩ :=
      Filter.compile_and_group (List.cons_ne_nil _ _) (List.cons_ne_nil e es) h
    obtain rfl := compile_keyTest hne hkey
    rw [Nat.zero_add] at hgroup
    exact ⟨own, hkey, hgroup, by simp [String.append_assoc], rfl⟩

/-- The condition has the value of the test for the keys and that of the conditions of the relation together. -/
theorem value_queryFilter (r : Relation) (link : Option LinkTable) (keys : List Value) (v : Nat → Truth) :
    (r.queryFilter link keys).value v = (v 0).and (r.constraints.filter.value fun i => v (i + 1)) := by
  obtain ⟨t, ht⟩ := r.exists_keyTest link keys
  unfold queryFilter
  rw [ht]
  cases r.constraints.filter with
  | nil =>
    show Truth.ofRuns [(false, v 0)] = (v 0).and .yes
    rw [Truth.ofRuns_singleton, Truth.and_yes]
  | cons e es =>
    have hshift : Filter.entryValues v 1 (e :: es) = Filter.entryValues (fun i => v (1 + i)) 0 (e :: es) :=
      entryValues_add v 1 0 (e :: es)
    show Truth.ofRuns [(false, v 0), (false, .ofRuns (Filter.entryValues v 1 (e :: es)))] = _
    rw [Truth.ofRuns_cons_and, Truth.ofRuns_singleton, hshift, Filter.value]
    simp only [Nat.add_comm 1]
    rfl

theorem tests_queryFilter {r : Relation} {link : Option LinkTable} {keys : List Value} {t : Test}
    (ht : r.keyTest link keys = .test t) : (r.queryFilter link keys).tests = t :: r.constraints.filter.tests := by
  unfold queryFilter
  rw [ht]
  cases r.constraints.filter with
  | nil => rfl
  | cons e es =>
    show [t] ++ (Filter.tests (e :: es) ++ []) = _
    rw [List.append_nil]
    rfl

/-- The leaves of the condition are the test for the keys and then those of the conditions of the relation, each as it
is written there. -/
theorem leafTextAt_queryFilter {r : Relation} {link : Option LinkTable} {keys : List Value} {q : Quoter}
    {key own : Sql} (hkey : (Filter.and [] (r.keyTest link keys)).compile q 0 = .ok key)
    (hown : r.constraints.filter.compile q key.binds.length = .ok own) :
    Filter.leafTextAt q 0 (r.queryFilter link keys).tests 0 = key.text ∧
      Filter.tokensText (fun i => Filter.leafTextAt q 0 (r.queryFilter link keys).tests (i + 1))
        (r.constraints.filter.tokens 0) = own.text := by
  obtain ⟨t, ht⟩ := r.exists_keyTest link keys
  rw [ht] at hkey
  rw [tests_queryFilter ht]
  obtain ⟨hbinds, htext⟩ := Filter.written_of_compile hkey [] r.constraints.filter.tests (n := 0) rfl
  have hlength : key.binds.length = (Filter.binding [t]).length := by
    have hcount := congrArg List.length hbinds
    rwa [List.length_map, List.length_map] at hcount
  constructor
  · rw [htext]
    exact String.empty_append.symm
  · rw [hlength] at hown
    rw [(Filter.written_of_compile hown [] [] (n := (Filter.binding [t]).length) rfl).2, List.nil_append,
      List.append_nil]
    exact congrArg (Filter.tokensText · _) (funext fun i => Filter.leafTextAt_cons_succ q t _ i)

/-! ### The query -/

theorem headText_select (r : Relation) (link : Option LinkTable) (keys : List Value) :
    (r.select link keys).headText =
      "SELECT " ++ (if r.constraints.distinct then "DISTINCT " else "") ++
        (if (r.queryCols link).isEmpty then r.foreignTable ++ ".*" else ", ".intercalate (r.queryCols link)) ++
        " FROM " ++ r.foreignTable ++ String.join ((r.queryJoins link).map Join.sql) := by
  have hcols : (r.select link keys).uses .cols = !(r.queryCols link).isEmpty := rfl
  unfold Select.headText
  rw [hcols]
  cases (r.queryCols link).isEmpty <;> rfl

theorem groupText_select (r : Relation) (link : Option LinkTable) (keys : List Value) :
    (r.select link keys).groupText =
      if r.constraints.group.isEmpty then "" else " GROUP BY " ++ ", ".intercalate r.constraints.group := by
  have hgroup : (r.select link keys).uses .group = !r.constraints.group.isEmpty := rfl
  unfold Select.groupText
  rw [hgroup]
  cases r.constraints.group.isEmpty <;> rfl

/-- The query ends with the order: it has no window. -/
theorem endText_select (r : Relation) (link : Option LinkTable) (keys : List Value) (d : Dialect) :
    (r.select link keys).endText d =
      if r.constraints.order.isEmpty then "" else " ORDER BY " ++ ", ".intercalate r.constraints.order := by
  have horder : (r.select link keys).uses .order = !r.constraints.order.isEmpty := rfl
  have hwindow : (r.select link keys).uses .limit = false ∧ (r.select link keys).uses .offset = false := ⟨rfl, rfl⟩
  unfold Select.endText
  rw [horder, hwindow.1, hwindow.2]
  cases r.constraints.order.isEmpty with
  | true => rfl
  | false => exact String.append_empty

/--
The query of a relation, when it can be written.  Its condition is the test for the keys, and in parentheses the
conditions of the relation; it can be read in one way only, and then holds exactly if both do.  Grouping, the conditions
after it, distinctness and order are those of the constraints, whose window and further relations have no effect.
-/
theorem select_keyed {r : Relation} {link : Option LinkTable} {keys : List Value} {q : Quoter} {sql : Sql}
    (hne : keys ≠ []) (h : (r.select link keys).sql q = .ok sql) :
    let c := r.constraints
    let key := r.keySql link q keys
    let tokens := (r.queryFilter link keys).tokens 0
    let leaf := Filter.leafTextAt q 0 (r.queryFilter link keys).tests
    ∃ own having,
      c.filter.compile q key.binds.length = .ok own ∧
      c.having.compile q (key.binds.length + own.binds.length) = .ok having ∧
      sql.binds = key.binds ++ own.binds ++ having.binds ∧
      sql.text =
        "SELECT " ++ (if c.distinct then "DISTINCT " else "") ++
          (if (r.queryCols link).isEmpty then r.foreignTable ++ ".*" else ", ".intercalate (r.queryCols link)) ++
          " FROM " ++ r.foreignTable ++ String.join ((r.queryJoins link).map Join.sql) ++
          " WHERE " ++ Filter.tokensText leaf tokens ++
          (if c.group.isEmpty then "" else " GROUP BY " ++ ", ".intercalate c.group) ++
          (if c.having.isEmpty then "" else " HAVING " ++ having.text) ++
          (if c.order.isEmpty then "" else " ORDER BY " ++ ", ".intercalate c.order) ∧
      -- the condition, its leaves, and what it means
      Filter.tokensText leaf tokens = key.text ++ (if c.filter.isEmpty then "" else " AND (" ++ own.text ++ ")") ∧
      leaf 0 = key.text ∧ Filter.tokensText (fun i => leaf (i + 1)) (c.filter.tokens 0) = own.text ∧
      (∃ e, ParsesClause tokens (some e) ∧ (∀ other, ParsesClause tokens other → other = some e) ∧
        ∀ v, e.value v = .yes ↔ v 0 = .yes ∧ c.filter.value (fun i => v (i + 1)) = .yes) ∧
      -- what has no effect
      ∀ limit offset relations,
        ({ r with constraints := { c with limit, offset, relations } }.select link keys).sql q = .ok sql := by
  intro c key tokens leaf
  have hfilter : (r.select link keys).fetch.filter ≠ [] := by
    show r.queryFilter link keys ≠ []
    unfold queryFilter
    split <;> simp [Filter.and, Filter.push]
  obtain ⟨condition, having, hcondition, hhaving, hsql⟩ := Select.sql_eq_ok rfl rfl h
  obtain ⟨own, hkey, hown, htext, hbinds⟩ := compile_queryFilter hne hcondition
  obtain ⟨hleaf, hleaves⟩ := leafTextAt_queryFilter hkey hown
  have htokens : condition.text = Filter.tokensText leaf tokens := by
    have hwritten := (Filter.written_of_compile hcondition [] [] (n := 0) rfl).2
    rwa [List.nil_append, List.append_nil] at hwritten
  obtain ⟨e, hparse, hvalue⟩ := Filter.parses_tokens (Filter.exists_compile_iff.1 ⟨condition, hcondition⟩) hfilter
  refine ⟨own, having, hown, ?_, ?_, ?_, ?_, hleaf, hleaves, ?_, fun limit offset relations => h⟩
  · rw [hbinds, List.length_append] at hhaving
    exact hhaving
  · rw [hsql, hbinds]
  · have hset : (r.select link keys).fetch.filter.isEmpty = false := List.isEmpty_eq_false_iff.2 hfilter
    rw [hsql, headText_select, groupText_select, endText_select, ← htokens, hset]
    simp only [Bool.false_eq_true, if_false, ← String.append_assoc]
    rfl
  · rw [← htokens, htext]
  · refine ⟨e, .expression hparse, fun other hother => hother.unique (.expression hparse), fun v => ?_⟩
    have he : e.value v = (v 0).and (c.filter.value fun i => v (i + 1)) :=
      (hvalue v).trans (r.value_queryFilter link keys v)
    rw [he, Truth.and_eq_yes_iff]

/-- The notes to posts that are hot or new, in order. -/
private def freshNotes : Relation :=
  { name := "notes", kind := .hasMany, foreignTable := "notes", foreignCol := "post", parentCol := "id"
    constraints :=
      { distinct := true
        filter :=
          [(.and "0", .test { col := "hot", op := .eq, operand := some (.bool true) }),
            (.or, .test { col := "new", op := .notNull })]
        order := ["rank"]
        limit := some 5 } }

/-- New notes to other posts are not asked for. -/
theorem select_keyed_freshNotes :
    (freshNotes.select none [.int 1, .int 2]).sql Dialect.sqlite.quoter = .ok
        ⟨"SELECT DISTINCT notes.* FROM notes WHERE notes.post IN (1, 2) AND (hot = ?1 OR new IS NOT NULL) ORDER BY rank",
          [.bool true]⟩ ∧
      ∃ e, ParsesClause ((freshNotes.queryFilter none [.int 1, .int 2]).tokens 0) (some e) ∧
        ∀ v, e.value v = .yes ↔ v 0 = .yes ∧ (v 1 = .yes ∨ v 2 = .yes) := by
  have h : (freshNotes.select none [.int 1, .int 2]).sql Dialect.sqlite.quoter = .ok
      ⟨"SELECT DISTINCT notes.* FROM notes WHERE notes.post IN (1, 2) AND (hot = ?1 OR new IS NOT NULL) ORDER BY rank",
        [.bool true]⟩ := rfl
  obtain ⟨own, having, -, -, -, -, -, -, -, ⟨e, hparse, -, hvalue⟩, -⟩ := select_keyed (List.cons_ne_nil _ _) h
  refine ⟨h, e, hparse, fun v => (hvalue v).trans ?_⟩
  have hown : freshNotes.constraints.filter.value (fun i => v (i + 1)) = .any [.all [v 1], .all [v 2]] := rfl
  rw [hown]
  cases v 1 <;> cases v 2 <;> simp [Truth.any, Truth.all, Truth.and, Truth.or]

end Relation

end RecordMapper
