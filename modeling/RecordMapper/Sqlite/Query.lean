import RecordMapper.Sqlite.Lookup

/-!
# The meaning of queries

Names are looked up before a query is run, which finds the mistakes in it whether it has rows or not; a mistake that
only a row can show is found when it is run. All tables of a statement are looked for before any column is, and of queries
that are combined the last one comes first. The recursion is bounded by fuel, of which there is more than a statement can
use up.
-/

namespace RecordMapper.Sqlite

/-- The failure of a row value that stands where a single value has to. -/
def misusedRow : Failure := .general "row value misused"

/-- The failure of a query with a wrong number of columns. -/
def wrongColumns (found expected : Nat) : Failure :=
  .general ("sub-select returns " ++ Decimal.natText found ++ " columns - expected " ++ Decimal.natText expected)

/-- A view of a name that is looked into already. -/
def circularView (name : String) : Failure := .general ("view " ++ name ++ " is circularly defined")

/-- The failure of an index that has to be used and is not there. -/
def noSuchIndex (name : String) : Failure := .general ("no such index: " ++ name)

/-- A fixed value, or a mistake that is put off. -/
def constantOr (r : Except Failure Datum) : Resolver Meaning := do
  match r with
  | .ok d => return .constant d
  | .error f =>
    Resolver.postpone f
    return .constant .null

/-- The truth value that something is tested for by `IS` and a truth value, which may be a plain word that is no column,
and whether it is negated. -/
def truthTest? (ctx : Context) (op : Comparison) (e : Expr) : Option (Bool × Bool) := do
  let wanted ← truth? e
  match op with
  | .same => some (wanted, false)
  | .notSame => some (wanted, true)
  | _ => none
where
  /-- The truth value that an expression is. -/
  truth? : Expr → Option Bool
    | .collate e _ => truth? e
    | .truth b => some b
    | .column n =>
      let isPlain := n.qualifiers.isEmpty && n.quoting = .plain && ctx.purpose != .defaultValue
      let isColumn := match (findName n 0 ctx.scopes).1 with
        | .nothing => false
        | _ => true
      match if isPlain && !isColumn then folded n.name.text else "" with
      | "true" => some true
      | "false" => some false
      | _ => none
    | _ => none

/-- Whether an expression is a name without qualifiers, perhaps with a collation. -/
def isBareName : Expr → Bool
  | .collate e _ => isBareName e
  | .column n => n.qualifiers.isEmpty
  | _ => false

/-- Refuses two expressions whose numbers of values are seen to differ. -/
def refuseWidths (ctx : Context) (a b : Expr) : Except Failure Unit :=
  match ctx.width? a, ctx.width? b with
  | some x, some y => if x = y then .ok () else .error misusedRow
  | _, _ => .ok ()

/-- Values side by side, which are compared; there are as many on both sides. -/
def sideBySide (xs ys : List Meaning) : Resolver (List (Meaning × Meaning)) := do
  if xs.length ≠ ys.length then throw misusedRow
  let pairs := xs.zip ys
  for (x, y) in pairs do Resolver.compareBy (x.comparedBy y)
  return pairs

/-- Whether an expression is written as a probability. -/
def isProbability : Expr → Bool
  | .number s =>
    match numberValue s false with
    | .ok (.real x) => ((withoutUnderscores s).toList.any fun c => !c.isDigit) && x ≤ 1.0
    | _ => false
  | _ => false

/-- An expression without its collations. -/
def uncollated : Expr → Expr
  | .collate e _ => uncollated e
  | e => e

/-- Refuses terms that count more columns than there are. -/
def checkCounts (clause : String) (columns : Nat) (terms : List Expr) : Except Failure Unit := do
  for (e, i) in terms.zipIdx do
    match countedColumn? (uncollated e) with
    | some n => if (columns : Int) < n then throw (outOfColumns i clause columns)
    | none => pure ()

/-- Whether the rows of a single table are in the wanted order as they are, or from the last one on: they are ordered by
their row ids. -/
def rowIdDirection (store : Store) (bounds : List Bound) (order : List (Meaning × SortKey)) : Option Bool := do
  let (m, key) ← order.head?
  let place ← m.place
  match bounds with
  | [b] =>
    let (schema, name) ← b.table
    let (_, t) ← store.table? ⟨some schema.text, name, 0⟩
    let isRowId := !t.withoutRowId && (place == 0 || (t.rowIdField.map (· + 1)) == some place)
    if isRowId then some key.descending else none
  | _ => none

/-- The cells by which the rows of a query are ordered as they are found: those of a single table on which there are
conditions. -/
def foundOrder (store : Store) (s : Scope) (filter : Option Expr) : List (Nat × Collation) :=
  match s.sources, filter with
  | [b], some e => (do
    let (schema, name) ← b.table
    let (_, t) ← store.table? ⟨some schema.text, name, 0⟩
    return t.order ((conjuncts e).filterMap s.restricted?)).getD []
  | _, _ => []

/-- A test of the columns of a query, or of rows of values, for some values. -/
def membership (xs : List Meaning) (columns : List OutColumn) (span : Span)
    (rows : Env → Except Failure (List (List Datum))) : Resolver Meaning := do
  let sides := (xs.zip columns).map fun (x, c) =>
    (Affinity.ofComparison x.affinity c.affinity,
      (x.chosen.or (c.chosen.or (x.collation.or c.collation))).getD Collation.binary)
  for (_, c) in sides do Resolver.use c
  return { eval := fun env => do
             let found ← rows env
             return memberOf sides (← Meaning.evalAll xs env) found
           span := (Meaning.spanOf xs).join span }

/-- What is wrong with a call as it is written: the mistake that counts of those that are seen. -/
def callMistake? (ctx : Context) (f : String) (arguments : List Expr) (star : Bool) (order : List OrderTerm)
    (filter : Option Expr) : Option Failure :=
  let name := folded f
  let n := arguments.length
  let isWindow := ((windowArities.lookup name).map fun (low, high) => decide (low ≤ n ∧ n ≤ high)).getD false
  let told (before after : String) : Option Failure := some (.general (before ++ f ++ after))
  match suitsGroup? name n star, suits? name n with
  | some true, _ => if ctx.grouping then none else told "misuse of aggregate function " "()"
  | _, some true =>
    if filter.isSome then told "FILTER may not be used with non-aggregate " "()"
    else if !order.isEmpty then told "ORDER BY may not be used with non-aggregate " "()"
    else match if changingFunctions.contains name then ctx.refuse "non-deterministic functions" [.indexFilter, .indexTerm]
        else .ok () with
      | .error f => some f
      | .ok () =>
        if name == "likelihood" && !((arguments[1]?).map isProbability).getD false then
          told "second argument to " "() must be a constant between 0.0 and 1.0"
        else none
  | known, known' =>
    if isWindow then told "misuse of window function " "()"
    else if known.isSome || known'.isSome || (windowArities.lookup name).isSome then
      told "wrong number of arguments to function " "()"
    else told "no such function: " ""

mutual

/-- The meaning of an expression. -/
def meaning : Nat → Context → Expr → Resolver Meaning
  | 0, _, _ => throw tooHigh
  | fuel + 1, ctx, e => do
    match e with
    | .column _ | .call .. | .pattern .. | .exists _ | .scalar _ | .inQuery .. => pure ()
    | _ => Resolver.settle
    match e with
    | .literal d => return .constant d
    | .number s => constantOr (numberValue s false)
    | .truth b => return .constant (.ofBool b)
    | .bind i =>
      ctx.refuse "parameters" [.check, .indexFilter, .indexTerm]
      return { eval := fun env => .ok (env.binds.getD (i - 1) .null) }
    | .column n => column fuel ctx n
    | .sign .minus (.number s) => constantOr (numberValue s true)
    | .sign op a =>
      let m ← meaning fuel ctx a
      return { eval := fun env => do return op.apply (← m.eval env), chosen := m.chosen
               collation := if op = .plus then m.collation else none, span := m.span }
    | .arith op a b => return (← meaning fuel ctx a).lift2 (← meaning fuel ctx b) op.apply
    | .and a b => return (← meaning fuel ctx a).and (← meaning fuel ctx b)
    | .or a b => return (← meaning fuel ctx a).or (← meaning fuel ctx b)
    | .compare op a b =>
      match truthTest? ctx op b with
      | some (wanted, negated) =>
        let m ← meaning fuel ctx a
        Resolver.settle
        return { eval := fun env => do return .ofBool (((← m.eval env).truth? == some wanted) != negated)
                 span := m.span }
      | none =>
        refuseWidths ctx a b
        let isTest := op = .same || op = .notSame
        match b with
        | .literal .null =>
          if isTest then return .compare op (← meaning fuel ctx a) (.constant .null)
          else return .compareAll op (← sideBySide (← vector fuel ctx a) (← vector fuel ctx b))
        | _ =>
          if isTest && isBareName b then
            let ys ← vector fuel ctx b
            return .compareAll op (← sideBySide (← vector fuel ctx a) ys)
          else return .compareAll op (← sideBySide (← vector fuel ctx a) (← vector fuel ctx b))
    | .between a low high =>
      refuseWidths ctx a low
      refuseWidths ctx a high
      let xs ← vector fuel ctx a
      let above ← sideBySide xs (← vector fuel ctx low)
      let below ← sideBySide xs (← vector fuel ctx high)
      return (Meaning.compareAll .ge above).and (Meaning.compareAll .le below)
    | .pattern f operands => called fuel ctx f false operands false [] none
    | .isIn a items =>
      let xs ← vector fuel ctx a
      let lists ← items.mapM (vector fuel ctx)
      if xs.length ≠ 1 then Resolver.yield (wrongColumns xs.length 1)
      if lists.any fun item => item.length ≠ 1 then Resolver.postpone misusedRow
      let columns := xs.map fun _ => OutColumn.mk "" none none none ""
      membership xs columns (Meaning.spanOf lists.flatten) fun env => lists.mapM fun ms => Meaning.evalAll ms env
    | .inQuery a q =>
      let o ← subquery fuel ctx q
      Resolver.settle
      let xs ← vector fuel ctx a
      if xs.length ≠ o.columns.length then Resolver.yield (wrongColumns o.columns.length xs.length)
      membership xs o.columns o.span fun env => (o.rows (env.forQuery o.span)).toList
    | .exists q =>
      let o ← subquery fuel ctx q
      return { eval := fun env => do return .ofBool (← (o.rows (env.forQuery o.span)).first?).isSome, span := o.span }
    | .scalar _ | .row _ =>
      let ms ← vector fuel ctx e
      match ms, e with
      | [m], _ => return m
      | ms, .scalar _ =>
        Resolver.yield (wrongColumns ms.length 1)
        return .constant .null
      | _, _ =>
        Resolver.postpone misusedRow
        return .constant .null
    | .cast a type =>
      let m ← meaning fuel ctx a
      let affinity := if type.isEmpty then .numeric else Affinity.ofType type
      return { m with
        eval := fun env => do return affinity.cast (← m.eval env)
        affinity := some affinity
        name := none
        type := ""
        place := none }
    | .collate a name =>
      let m ← meaning fuel ctx a
      return { m with chosen := some (Collation.ofName name), name := none, type := "" }
    | .case subject branches otherwise =>
      let tested : Option (List Meaning) ← match subject with
        | some s => some <$> vector fuel ctx s
        | none => pure none
      let pairs ← (inPairs branches).mapM fun (w, r) => do
        let c ← match tested with
          | none => meaning fuel ctx w
          | some xs =>
            let ys ← vector fuel ctx w
            if xs.length ≠ ys.length then Resolver.postpone misusedRow
            for (x, y) in xs.zip ys do Resolver.compareBy (x.comparedBy y)
            pure (Meaning.compareAll .eq (xs.zip ys))
        return (c, ← meaning fuel ctx r)
      let last ← match otherwise with
        | some e => meaning fuel ctx e
        | none => pure (.constant .null)
      return { eval := fun env => firstCase env last pairs
               span := Meaning.spanOf (last :: pairs.flatMap fun (c, r) => [c, r]) }
    | .call f distinct arguments star order filter => called fuel ctx f distinct arguments star order filter

/-- The values of an expression: those of a row, the columns of a query, or a single value. -/
def vector : Nat → Context → Expr → Resolver (List Meaning)
  | 0, _, _ => throw tooHigh
  | fuel + 1, ctx, e => do
    match e with
    | .row items => items.mapM (meaning fuel ctx)
    | .scalar q =>
      let o ← subquery fuel ctx q
      return o.columns.zipIdx.map fun (c, i) =>
        { eval := fun env => do
            return ((← (o.rows (env.forQuery o.span)).first?).bind fun row => row[i]?).getD .null
          affinity := c.affinity, collation := c.collation, chosen := c.chosen, span := o.span }
    | e => return [← meaning fuel ctx e]

/-- The meaning of a name. -/
def column : Nat → Context → ColumnName → Resolver Meaning
  | 0, _, _ => throw tooHigh
  | fuel + 1, ctx, n => do
    let unknown := Failure.general ("no such column: " ++ n.text)
    let noteTable (b : Bound) : Resolver Unit :=
      match if b.isAliased then none else n.qualifiers.getLast? with
      | some q => Resolver.mention q.place b.table none
      | none => pure ()
    let refuseDot : Except Failure Unit :=
      if n.qualifiers.isEmpty then .ok () else ctx.refuse "the \".\" operator" [.indexTerm]
    match findName n 0 ctx.scopes with
    | (.columns places, depth) =>
      refuseDot
      for (b, i) in places do
        Resolver.mention n.name.place b.table ((b.columns[i]?).map OutColumn.name)
        noteTable b
      return Bound.firstPresent depth places
    | (.rowId b, depth) =>
      if ctx.purpose = .indexTerm then throw unknown
      Resolver.mention n.name.place b.table b.rowIdName
      noteTable b
      return b.rowIdCell depth
    | (.ambiguous, _) => throw (.general ("ambiguous column name: " ++ n.text))
    | (.result e, depth) =>
      let outside : Context := { ctx with scopes := ctx.scopes.drop depth }
      let allowed := outside.grouping
      let there := { outside with scopes := outside.scopes.modifyHead fun s => { s with aliases := [], grouping := true } }
      let (m, found) ← Resolver.outward depth do
        let before := (← Resolver.totals).length
        let m ← meaning fuel there e
        return (m, (← Resolver.totals).drop before)
      if !found.isEmpty && !allowed then throw (.general ("misuse of aliased aggregate " ++ n.name.text))
      return { m with
        eval := fun env => m.eval { env with frames := env.frames.drop depth }
        place := if depth = 0 then m.place else none
        span := if m.span.isEmpty then [] else List.replicate depth 0 ++ m.span
        name := none }
    | (.nothing, _) =>
      match nameLiteral? n with
      | some d =>
        if n.quoting = .double then Resolver.noteText n.name
        return .constant d
      | none => throw unknown

/-- The meaning of a function call. -/
def called : Nat → Context → String → Bool → List Expr → Bool → List OrderTerm → Option Expr → Resolver Meaning
  | 0, _, _, _, _, _, _, _ => throw tooHigh
  | fuel + 1, ctx, f, distinct, arguments, star, order, filter => do
    let name := folded f
    let n := arguments.length
    if ctx.purpose = .defaultValue && suits? name n != some true then
      throw (.general ("unknown function: " ++ f ++ "()"))
    match callMistake? ctx f arguments star order filter with
    | some mistake =>
      Resolver.fail mistake
      let _ ← Resolver.look? (arguments.mapM (meaning fuel ctx))
      return .constant .null
    | none => pure ()
    if suitsGroup? name n star != some true then
      let some ms ← Resolver.look? (arguments.mapM (meaning fuel ctx)) | return .constant .null
      let c := ((ms.findSome? fun m => m.chosen.or m.collation)).getD .binary
      let known (m : Meaning) : Bool := match m.chosen.or m.collation with
        | some (.unknown _) | none => false
        | some _ => true
      if comparingFunctions.contains name then
        for m in ms.takeWhile fun m => !known m do Resolver.use m.order
      if name == "last_insert_rowid" then modify fun notes => { notes with asksRowId := true }
      let kept := if ["likely", "unlikely", "likelihood"].contains name then ms.head?.bind Meaning.affinity else none
      let apply (env : Env) : Except Failure Datum :=
        match name with
        | "coalesce" | "ifnull" => Meaning.firstPresent env ms
        | "if" | "iif" =>
          firstCase env ((if ms.length % 2 = 1 then ms.getLast? else none).getD (.constant .null)) (inPairs ms)
        | _ => do applyFunction name c env.tally (← Meaning.evalAll ms env)
      return { eval := apply
               affinity := kept
               span := Meaning.spanOf ms }
    let before ← Resolver.counts
    let inside := ctx.withGrouping false
    let keysOf : Resolver (List (Meaning × SortKey)) := order.mapM fun t => do
      let m ← meaning fuel inside t.expr
      Resolver.use m.order
      return (m, SortKey.mk m.order t.descending (t.nullsFirst.getD !t.descending))
    let ms? ← Resolver.look? (arguments.mapM (meaning fuel inside))
    let keys? ← Resolver.look? keysOf
    let condition? ← Resolver.look? (filter.mapM (meaning fuel inside))
    let some (ms, keys, condition) := (do return (← ms?, ← keys?, ← condition?)) | return .constant .null
    let all : List Meaning := ms ++ keys.map (·.1) ++ condition.toList
    let span := Meaning.spanOf all
    let depth := (span.findIdx? (0 < ·)).getD 0
    Resolver.misuse (((← get).totals.getD depth []).drop (before.getD depth 0))
    if distinct && n != 1 then
      Resolver.postpone (.general "DISTINCT aggregates must have exactly one argument")
    match ms.head? with
    | some m => if distinct || comparingFunctions.contains name then Resolver.use m.order
    | none => pure ()
    let call : GroupCall := { function := f, distinct, arguments := ms, order := keys, filter := condition, depth }
    let place ← Resolver.addTotal depth ((ctx.scopes[depth]?.map Scope.width).getD 0) call.total
    let cell := Meaning.cell depth place { name := "" }
    let around := span.drop (depth + 1)
    return { eval := cell.eval
             span := if around.isEmpty then cell.span else cell.span ++ around }

/-- What a query in an expression gives. -/
def subquery : Nat → Context → Select → Resolver Output
  | 0, _, _ => throw tooHigh
  | fuel + 1, ctx, q => do
    ctx.refuse "subqueries" [.check, .indexFilter, .indexTerm]
    unless ctx.sourcesFound do
      findSources fuel ctx q
      Resolver.settle
    let (o, late) ← Resolver.withheld (output fuel { ctx with sourcesFound := true } q)
    late.forM Resolver.yield
    return o

/-- The number of rows that a limit means; it is about no row. -/
def limitMeaning : Nat → Context → Option Expr → Resolver (Option Meaning)
  | 0, _, _ => throw tooHigh
  | fuel + 1, ctx, e =>
    e.mapM fun e => do
      let (m, _) ← Resolver.inScope (({ ctx with scopes := [] } : Context).wholly e fun ctx => meaning fuel ctx e)
      return m

/-- What a query gives. -/
def output : Nat → Context → Select → Resolver Output
  | 0, _, _ => throw tooHigh
  | fuel + 1, ctx, q => do
    let ctx : Context := { ctx with common := q.common ++ ctx.common }
    let count ← limitMeaning fuel ctx q.limit
    let offset ← limitMeaning fuel ctx q.offset
    let o ← match q.rest.reverse with
      | [] => do pure (← coreOutput fuel ctx q.first q.order).1
      | last :: before => do
        let (columns, queries, o) ← combined fuel ctx (!q.order.isEmpty) last before q.first
        let keys ← sortColumns columns queries q.order
        for (_, key) in keys do Resolver.use key.collation
        pure (if keys.isEmpty then o else o.sortBy keys)
    return o.limit count offset

/-- What combined queries give, the last of which is at hand with its operator, then those before it, the newest first,
then the first one. -/
def combined : Nat → Context → Bool → Compound × Core → List (Compound × Core) → Core →
    Resolver (List OutColumn × List (List Item) × Output)
  | 0, _, _, _, _, _ => throw tooHigh
  | fuel + 1, ctx, isOrdered, (op, last), before, first => do
    let (right, rightItems) ← coreOutput fuel ctx last []
    let mismatch (left : Nat) : Resolver Unit :=
      if left ≠ right.columns.length then
        throw (.general (match last with
          | .values _ => "all VALUES must have the same number of terms"
          | .select .. => "SELECTs to the left and right of " ++ op.text ++
            " do not have the same number of result columns"))
      else pure ()
    match before with
    | [] =>
      let (left, leftItems) ← coreOutput fuel ctx first []
      mismatch left.columns.length
      let o := left.combine op isOrdered right
      if op != .unionAll then Resolver.useAll o.columns
      return (o.columns, [leftItems, rightItems], o)
    | next :: earlier =>
      let (columns, queries, left) ← combined fuel ctx isOrdered next earlier first
      mismatch columns.length
      let o := left.combine op isOrdered right
      if op != .unionAll then Resolver.useAll o.columns
      return (o.columns, queries ++ [rightItems], o)

/-- What a simple query gives, its rows being in order, and its columns as they are written. -/
def coreOutput : Nat → Context → Core → List OrderTerm → Resolver (Output × List Item)
  | 0, _, _, _ => throw tooHigh
  | fuel + 1, ctx, core, order => do
    match core with
    | .values [row] =>
      coreOutput fuel ctx (.select false (row.map fun e => .expr e none "") [] none [] none) []
    | .values rows =>
      let width := (rows.headD []).length
      if rows.any fun r => r.length ≠ width then throw (.general "all VALUES must have the same number of terms")
      let outputs ← rows.reverse.mapM (rowOutput fuel ctx)
      match outputs with
      | [] => throw (.general "no tables specified")
      | (last, items) :: before => return (before.foldl (fun o (first, _) => first.combine .unionAll false o) last, items)
    | .select distinct columns sources filter group having =>
      let (bounds, joins, span) ← placed fuel ctx sources
      let items ← expanded bounds columns
      Resolver.settle
      for c in columns do
        match c with
        | .allOf table =>
          for b in bounds.filter fun b => sameName b.name table.text && !b.isAliased do
            Resolver.mention table.place b.table none
        | _ => pure ()
      let scope : Scope :=
        { sources := bounds, width := JoinStep.totalWidth (joins.map Prod.fst), grouping := true }
      let ((plan, columns), totals) ← Resolver.inScope do
        let inner : Context := { ctx with scopes := scope :: ctx.scopes }
        let (results, inResults) ← Resolver.withheld (items.mapM fun item =>
          inner.wholly item.expr fun ctx => meaning fuel ctx item.expr)
        let grouped := !group.isEmpty || !(← Resolver.totals).isEmpty
        let aliases := items.filterMap fun item => item.asName.map fun a => (a, item.expr)
        let outer : Context := { ctx with scopes := { scope with aliases, grouping := grouped } :: ctx.scopes }
        if having.isSome && !grouped then throw (.general "HAVING clause on a non-aggregate query")
        let (having, inHaving) ← Resolver.withheld (having.mapM fun e => outer.wholly e fun ctx => meaning fuel ctx e)
        let (filters, inFilters) ← Resolver.withheld (conditions fuel outer filter)
        let ((steps, late), inJoins) ← Resolver.withheld (joined fuel outer joins)
        let alone : Context := { outer with scopes := outer.scopes.take 1 }
        let (keys, inOrder) ← Resolver.withheld (order.zipIdx.mapM fun (t, i) => do
          let m ← alone.wholly t.expr fun ctx => orderMeaning fuel ctx items results t.expr i
          return (m, SortKey.mk m.order t.descending (t.nullsFirst.getD !t.descending)))
        checkCounts "ORDER" items.length (order.map OrderTerm.expr)
        let (groupKeys, inGroup) ← Resolver.withheld (group.zipIdx.mapM fun (e, i) =>
          alone.wholly e fun ctx => groupMeaning fuel ctx items e i)
        let ordered := keys.map (·.1) ++ (if distinct then results else []) ++ groupKeys
        let (_, inCollations) ← Resolver.withheld (for m in ordered do Resolver.use m.order)
        let isSingle := grouped && group.isEmpty
        Resolver.notice (inCollations.or (inFilters.or (inJoins.or
          ((if isSingle then none else inOrder).or (inResults.or (inHaving.or inGroup))))))
        checkCounts "GROUP" items.length group
        if 2000 < order.length then throw (.general "too many terms in ORDER BY clause")
        if 2000 < group.length then throw (.general "too many terms in GROUP BY clause")
        let direction := if grouped then none else rowIdDirection ctx.store bounds keys
        let plan : Plan :=
          { steps, conditions := late.append filters, grouped, groupKeys, totals := [], having, results, distinct
            order := keys, direction, path := if direction.isSome then [] else foundOrder ctx.store scope filter }
        return (plan, outColumns items results)
      let plan := { plan with totals }
      let all := plan.results ++ plan.conditions.meanings ++ plan.groupKeys ++ plan.having.toList ++ plan.order.map (·.1) ++
        plan.steps.flatMap JoinStep.on
      return ({ columns, rows := plan.rows, span := span.join (Meaning.spanOf all).tail }, items)

/-- What a row of values gives that is one of several; functions of groups have no meaning in it. -/
def rowOutput : Nat → Context → List Expr → Resolver (Output × List Item)
  | 0, _, _ => throw tooHigh
  | fuel + 1, ctx, row => do
    let inner : Context := { ctx with scopes := { sources := [], width := 0, grouping := true } :: ctx.scopes }
    let (results, totals) ← Resolver.inScope (row.mapM fun e => inner.wholly e fun ctx => meaning fuel ctx e)
    Resolver.misuse totals
    let items := row.map fun e => Item.mk e none ""
    let rows (env : Env) : Rows Tuple := (Rows.ofList [[]]).map fun row => Meaning.evalAll results (env.within row)
    return ({ columns := outColumns items results, rows, span := (Meaning.spanOf results).tail }, items)

/-- The meanings of conditions on rows, part by part; functions of groups have no meaning in them. -/
def conditions : Nat → Context → Option Expr → Resolver Conditions
  | 0, _, _ => throw tooHigh
  | _ + 1, _, none => return {}
  | fuel + 1, ctx, some e => do
    let before := (← Resolver.totals).length
    let found ← ctx.wholly e fun ctx => (conjuncts e).mapM fun e => do
      let m ← meaning fuel ctx e
      return (e.isConstant true true && m.span.isEmpty, m)
    Resolver.misuse ((← Resolver.totals).drop before)
    let (fixed, varying) := found.partition Prod.fst
    return ⟨fixed.map Prod.snd, varying.map Prod.snd⟩

/-- What a term of a grouping means: a column of the result by its number, or an expression. -/
def groupMeaning : Nat → Context → List Item → Expr → Nat → Resolver Meaning
  | 0, _, _, _, _ => throw tooHigh
  | fuel + 1, ctx, items, e, i => do
    let counted := countedColumn? (uncollated e)
    let (ctx, term) ← match counted with
      | some n =>
        if n < 1 then throw (outOfColumns i "GROUP" items.length)
        let plain := { ctx with scopes := ctx.scopes.modifyHead fun s => { s with aliases := [] } }
        pure (plain, ((items[n.toNat - 1]?).map Item.expr).getD (.literal .null))
      | none => pure (ctx, e)
    let before := (← Resolver.totals).length
    let m ← meaning fuel ctx term
    let (m, isWritten) := match counted, e with
      | some _, .collate _ c => ({ m with chosen := some (Collation.ofName c) }, false)
      | some _, _ => (m, true)
      | none, .column _ => (m, true)
      | none, e => (m, e.hasCall || !e.queries.isEmpty)
    let found := (← Resolver.totals).drop before
    if !found.isEmpty && isWritten then throw (.general "aggregate functions are not allowed in the GROUP BY clause")
    Resolver.misuse found
    return m

/-- What a term of an order means: a column of the result by its alias or its number, or an expression, in which
functions of groups are refused without a group. -/
def orderMeaning : Nat → Context → List Item → List Meaning → Expr → Nat → Resolver Meaning
  | 0, _, _, _, _, _ => throw tooHigh
  | fuel + 1, ctx, items, results, e, i => do
    let general : Resolver Meaning := do
      let before := (← Resolver.totals).length
      let m ← meaning fuel (ctx.withGrouping true) e
      unless ctx.grouping do Resolver.misuse ((← Resolver.totals).drop before)
      return m
    match countedColumn? e, e with
    | some n, _ =>
      if n < 1 then throw (outOfColumns i "ORDER" results.length)
      return (results[n.toNat - 1]?).getD (.constant .null)
    | none, .column ⟨[], n, _⟩ =>
      match items.findIdx? fun item => (item.asName.map (sameName n.text)).getD false with
      | some j => return results.getD j (.constant .null)
      | none => general
    | none, .collate inner c =>
      let m ← orderMeaning fuel ctx items results inner i
      return { m with chosen := some (Collation.ofName c) }
    | none, _ => general

/-- What a view gives, with the names of its columns. -/
def viewOutput : Nat → Context → SchemaName → View → Resolver Output
  | 0, _, _, _ => throw tooHigh
  | fuel + 1, ctx, s, v => Resolver.apart do
    let o ← output fuel (ctx.insideView s v) v.query
    if !v.columns.isEmpty && v.columns.length ≠ o.columns.length then
      throw (.general ("expected " ++ Decimal.natText v.columns.length ++ " columns for '" ++ v.name ++ "' but got " ++
        Decimal.natText o.columns.length))
    let columns := if v.columns.isEmpty then o.columns
      else (o.columns.zip v.columns).map fun (c, name) => { c with name }
    return { o with columns }

/-- What a source in a list of sources gives. -/
def origin : Nat → Context → Joined → Resolver Origin
  | 0, _, _ => throw tooHigh
  | fuel + 1, ctx, j => do
    let name := j.asName.getD ""
    match j.source with
    | .query q =>
      let o ← output fuel ctx q
      Resolver.useAll o.columns
      return .ofOutput o name none o.columns
    | .group js =>
      match j.asName with
      | some _ =>
        let (o, _) ← coreOutput fuel ctx (.select false [.all] js none [] none) []
        return .ofOutput o name none o.columns
      | none =>
        let (bounds, joins, span) ← placed fuel ctx js
        let scope : Scope := { sources := bounds, width := JoinStep.totalWidth (joins.map Prod.fst) }
        let ((steps, late), _) ← Resolver.inScope (joined fuel { ctx with scopes := scope :: ctx.scopes } joins)
        return { parts := bounds, span, rows := fun env => late.select env id (JoinStep.joinAll env steps) }
    | .function n _ =>
      if (ctx.store.table? n).isSome || (ctx.store.view? n).isSome then
        throw (.general ("'" ++ n.name ++ "' is not a function"))
      else throw (noSuchTable n)
    | .table n =>
      match if n.schema.isNone then ctx.common? n.name else none with
      | some (t, there) =>
        let o ← Resolver.apart (output fuel there t.query)
        Resolver.useAll o.columns
        if !t.columns.isEmpty && t.columns.length ≠ o.columns.length then
          throw (.general ("table " ++ t.name.text ++ " has " ++ Decimal.natText o.columns.length ++ " values for " ++
            Decimal.natText t.columns.length ++ " columns"))
        let columns := if t.columns.isEmpty then o.columns
          else (o.columns.zip t.columns).map fun (c, name) => { c with name }
        return .ofOutput o (j.asName.getD t.name.text) none columns
      | none =>
        let place := n.place
        let n : ObjectName := { n with schema := n.schema.or ctx.home }
        match ctx.store.table? n, ctx.store.view? n with
        | some (s, t), _ =>
          Resolver.mention place (some (s, t.name)) none
          Resolver.read s t.name
          return .ofTable t s j.asName
        | none, some (s, v) =>
          if ctx.opened.any (sameName v.name) then throw (circularView v.name)
          let o ← viewOutput fuel ctx s v
          Resolver.useAll o.columns
          return .ofOutput o (j.asName.getD v.name) (some s.text) o.columns
        | none, none => throw (noSuchTable n)

/-- The sources of a query in their places: how each is joined, and the condition that is written with it. -/
def placed : Nat → Context → List Joined → Resolver (List Bound × List (JoinStep × Option Expr) × Span)
  | 0, _, _ => throw tooHigh
  | fuel + 1, ctx, sources => do
    if 64 < sources.length then Resolver.postpone (.general "at most 64 tables in a join")
    let anyRight := sources.any fun j => j.shape = .right || j.shape = .full
    let origins ← sources.mapM fun j => do return (j, ← origin fuel ctx j)
    origins.foldlM (fun (bounds, steps, span) (j, o) => do
      let offset := JoinStep.totalWidth (steps.map Prod.fst)
      let having (n : String) (bs : List Bound) : List (Bound × Nat) := bs.filterMap fun b =>
        (b.columns.findIdx? fun c => sameName c.name n).map fun i => (b, i)
      if j.natural && (j.on.isSome || !j.shared.isEmpty) then
        throw (.general "a NATURAL join may not have an ON or USING clause")
      let shared := if j.natural then (o.columns.map OutColumn.name).filter fun n => !(having n bounds).isEmpty
        else j.shared.map Ident.text
      let parts := o.parts.zipIdx.map fun (b, i) =>
        let here := shared.filter fun n => b.columns.any fun c => sameName c.name n
        { b with
          offset := offset + b.offset
          shared := b.shared ++ here
          fillsLeft := if i = 0 then j.shape = .left || j.shape = .full else b.fillsLeft
          fillsRight := if i = 0 then j.shape = .right || j.shape = .full else b.fillsRight }
      let on ← shared.mapM fun n => do
        match having n bounds, having n parts with
        | (first, i) :: others, right :: _ =>
          if anyRight then
            if others.any fun (b, _) => !b.shared.any (sameName n) then
              Resolver.fail (.general ("ambiguous reference to " ++ n ++ " in USING()"))
          let left := if anyRight then (first, i) :: others else [(first, i)]
          return Meaning.compare .eq (Bound.firstPresent 0 left) (Bound.firstPresent 0 [right])
        | _, _ =>
          throw (.general ("cannot join using column " ++ n ++ " - column not present in both tables"))
      let step : JoinStep := { width := o.width, rows := o.rows, shape := j.shape, on }
      return (bounds ++ parts, steps ++ [(step, j.on)], span.join o.span)) ([], [], [])

/-- How sources are joined, their conditions being looked up, and the conditions that only all sources together can meet.
A condition of an inner join may name sources to the right of its own, or none. -/
def joined : Nat → Context → List (JoinStep × Option Expr) → Resolver (List JoinStep × Conditions)
  | 0, _, _ => throw tooHigh
  | fuel + 1, ctx, steps => do
    let anyRight := steps.any fun s => s.1.keepsRight
    let none : Conditions := {}
    let (done, late, _) ← steps.foldlM (fun (done, late, width) (step, on) => do
      let found ← conditions fuel ctx on
      let stop := width + step.width
      let isFree := step.shape = .inner && !anyRight
      let (near, far) := (if isFree then found.varying else found.meanings).partition fun m => m.span.headD 0 ≤ stop
      if !far.isEmpty && !isFree then Resolver.yield (.general "ON clause references tables to its right")
      let late := Conditions.append late ⟨if isFree then found.fixed else [], far⟩
      return (done ++ [{ step with on := step.on ++ near }], late, stop)) ([], none, 0)
    return (done, late)

/-- Looks for the sources of a query and of all queries in it. -/
def findSources : Nat → Context → Select → Resolver Unit
  | 0, _, _ => throw tooHigh
  | fuel + 1, ctx, q => do
    let ctx : Context := { ctx with common := q.common ++ ctx.common }
    let last := q.order.map OrderTerm.expr ++ q.limit.toList ++ q.offset.toList
    let cores := (q.first :: q.rest.map (·.2)).reverse
    for (core, i) in cores.zipIdx do
      match core with
      | .select _ columns sources .. =>
        findOrigins fuel ctx sources
        let named := columns.any fun c => match c with
          | .all => sources.isEmpty
          | _ => false
        if named then throw (.general "no tables specified")
      | .values _ => pure ()
      for q in Expr.queriesOf (core.expressions ++ (if i = 0 then last else [])) do findSources fuel ctx q

/-- Looks for some sources. A view is looked into as a whole. -/
def findOrigins : Nat → Context → List Joined → Resolver Unit
  | 0, _, _ => throw tooHigh
  | fuel + 1, ctx, sources => do
    for j in sources do
      match j.source with
      | .query q => findSources fuel ctx q
      | .group js => findOrigins fuel ctx js
      | .function .. => let _ ← origin fuel ctx j
      | .table n =>
        match if n.schema.isNone then ctx.common? n.name else none with
        | some (t, there) =>
          if ctx.opening.any (sameName n.name) then throw (.general ("circular reference: " ++ t.name.text))
          findSources fuel { there with opening := n.name :: ctx.opening } t.query
        | none =>
          let n : ObjectName := { n with schema := n.schema.or ctx.home }
          match ctx.store.table? n, ctx.store.view? n with
          | some (_, t), _ =>
            match j.index with
            | some i => if !t.indexes.any fun x => sameName x.name i then throw (noSuchIndex i)
            | none => pure ()
          | none, some (s, v) =>
            if ctx.opened.any (sameName v.name) then throw (circularView v.name)
            Resolver.apart (findSources fuel (ctx.insideView s v) v.query)
            let _ ← Resolver.apart (viewOutput fuel ctx s v)
          | none, none => throw (noSuchTable n)

end

/-- Looks up the names of a query. -/
def Select.resolve (store : Store) (q : Select) : Resolver Output := do
  findSources deepest { store } q
  output deepest { store, sourcesFound := true } q

/-- What a query gives in a store. -/
def Select.outputIn (store : Store) (q : Select) : Except Failure Output := do
  return (← (q.resolve store).finish).1

namespace Stored

/-- The names that an expression about a row of a table can use; such a row is the row id, then the columns. -/
def scope (t : Stored) (schema : SchemaName) (asName : Option String) : Scope :=
  { sources := (Origin.ofTable t schema asName).parts, width := t.fields.length + 1 }

/-- Looks up the names of an expression about a row of a table. -/
def resolve (t : Stored) (store : Store) (schema : SchemaName) (purpose : Purpose) (e : Expr) : Resolver Meaning := do
  let ctx : Context := { store, scopes := [t.scope schema none], purpose }
  let (m, found) ← Resolver.inScope (ctx.wholly e fun ctx => meaning deepest ctx e)
  Resolver.misuse found
  return m

/-- What an expression means in the rows of a table. -/
def meaningIn (t : Stored) (store : Store) (schema : SchemaName) (purpose : Purpose) (e : Expr) :
    Except Failure Meaning := do
  return (← (t.resolve store schema purpose e).finish).1

end Stored

/-- What the default of a column means. -/
def Expr.defaultMeaning (e : Expr) : Except Failure Meaning := do
  let ctx : Context := { store := {}, purpose := .defaultValue }
  return (← (Resolver.inScope (ctx.wholly e fun ctx => meaning deepest ctx e)).finish).1.1

end RecordMapper.Sqlite
