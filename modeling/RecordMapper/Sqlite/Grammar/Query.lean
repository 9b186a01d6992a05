import RecordMapper.Sqlite.Grammar.Cursor

/-!
# Reading expressions and queries

Operators bind from loose to tight: `OR`, `AND`, `NOT`, equality and the tests for patterns, ranges, lists and `NULL`,
order, bits, sums, products, concatenation, `COLLATE`, signs. The functions recurse on fuel, of which every token that
is left has enough.
-/

namespace RecordMapper.Sqlite.Parser

/-! ### Literals -/

/-- A number as it is written, underscores being allowed between digits only. -/
def numberOf (spelling : List Char) : Parser Expr :=
  match Token.misgrouped? spelling with
  | some text => failWith ("unrecognized token: \"" ++ text ++ "\"")
  | none => return .number (String.ofList spelling)

/-- The bytes of pairs of hexadecimal digits. -/
def blobBytes : List Char → Bytes
  | a :: b :: cs => UInt8.ofNat ((Text.hexValue? a).getD 0 * 16 + (Text.hexValue? b).getD 0) :: blobBytes cs
  | _ => []

/-! ### Joins -/

/-- The shape of a join with the given keywords in front of `JOIN`, and whether it is a natural one. -/
def joinShape (words : List String) : Parser (JoinShape × Bool) := do
  let upper := words.map fun w => String.ofList (w.toList.map Char.toUpper)
  let has (w : String) : Bool := upper.contains w
  let outer := has "LEFT" || has "RIGHT" || has "FULL" || has "OUTER"
  if upper.any (fun w => !joinWords.contains w) || (outer && (has "INNER" || has "CROSS")) ||
      (has "OUTER" && !(has "LEFT" || has "RIGHT" || has "FULL")) then
    match ← next? with
    | some t => if t.name?.isNone && t.string?.isNone && t.mark != "(" then refuse
    | none => refuse
    failWith ("unknown join type: " ++ " ".intercalate words)
  let shape : JoinShape :=
    if has "FULL" || (has "LEFT" && has "RIGHT") then .full
    else if has "LEFT" then .left
    else if has "RIGHT" then .right
    else .inner
  return (shape, has "NATURAL")

/-- The words in front of `JOIN` as they are written, if a join follows. -/
def joinWords? : Parser (Option (List String)) := do
  if ← acceptMark "," then return some []
  if ← acceptWord "JOIN" then return some []
  unless Sqlite.joinWords.contains (← word) do return none
  let first ← written
  if ← acceptWord "JOIN" then return some [first]
  let second ← written
  if ← acceptWord "JOIN" then return some [first, second]
  let third ← written
  expectWord "JOIN"
  return some [first, second, third]
where
  /-- A name as it is written. -/
  written : Parser String := do
    let s ← spelling
    let _ ← name
    return s

/-- The words of a function call of a time that is written without parentheses. -/
def timeWords : List String := ["CURRENT_DATE", "CURRENT_TIME", "CURRENT_TIMESTAMP"]

/-- A type: names, then perhaps sizes between parentheses; as it is written. -/
def typeName : Parser String := do
  let start ← position
  names (← left)
  if start < (← position) then
    if ← acceptMark "(" then
      signedNumber
      if ← acceptMark "," then signedNumber
      expectMark ")"
    textFrom start (← finish)
  else return ""
where
  /-- The names that make up a type. -/
  names : Nat → Parser Unit
    | 0 => return
    | fuel + 1 => do
      match ← next? with
      | some t =>
        if (t.string?.isSome || t.name?.isSome) && !Sqlite.joinWords.contains t.keyword && t.keyword != "GENERATED" then
          advance
          names fuel
      | none => return
  /-- A size, which may have a sign. -/
  signedNumber : Parser Unit := do
    unless ← acceptMark "-" do
      let _ ← acceptMark "+"
    match ← next? with
    | some t => if t.kind = .integer || t.kind = .float then advance else refuse
    | none => refuse

/-! ### Expressions and queries -/

/-- The comparison that a mark stands for, with its strength. -/
def comparison? : String → Option (Comparison × Nat)
  | "=" | "==" => some (.eq, 4)
  | "<>" | "!=" => some (.ne, 4)
  | "<" => some (.lt, 5)
  | "<=" => some (.le, 5)
  | ">" => some (.gt, 5)
  | ">=" => some (.ge, 5)
  | _ => none

/-- The operator that a mark stands for, with its strength. -/
def arithmetic? : String → Option (Arithmetic × Nat)
  | "&" => some (.bitAnd, 7)
  | "|" => some (.bitOr, 7)
  | "<<" => some (.shiftLeft, 7)
  | ">>" => some (.shiftRight, 7)
  | "+" => some (.add, 8)
  | "-" => some (.sub, 8)
  | "*" => some (.mul, 9)
  | "/" => some (.div, 9)
  | "%" => some (.rem, 9)
  | "||" => some (.concat, 10)
  | _ => none

/-- A condition or its negation. -/
def negatedIf (negated : Bool) (e : Expr) : Expr :=
  if negated then .sign .not e else e

/-- Whether an expression is written as an integer without any digit but zero, or is certainly false. -/
def isPlainlyFalse : Expr → Bool
  | .truth b => !b
  | .number s =>
    let digits := if Token.startsHex s.toList then s.toList.drop 2 else s.toList
    !digits.isEmpty && digits.all (· = '0')
  | _ => false

/-- Both of two conditions: zero if one of them is plainly false, unless everything is kept as it is written. -/
def bothOf (a b : Expr) : Parser Expr :=
  return if !(← get).isVerbatim && (isPlainlyFalse a || isPlainlyFalse b) then .number "0" else .and a b

/-- Membership of a list without members, which is certain. What calls a function stays a part of it. -/
def memberOfNone (negated : Bool) (e : Expr) : Expr :=
  if !e.hasCall then .truth negated
  else if negated then .or (.truth true) e
  else .and (.truth false) e

/-- A row of values as a query. -/
def rowQuery (items : List Expr) : Core :=
  .select false (items.map fun e => .expr e none "") [] none [] none

/-- Membership in a list. A single member without names and calls is compared, a single query gives its rows, and so does a
list of rows. -/
def memberOf (negated : Bool) (e : Expr) (items : List Expr) : Parser Expr := do
  match e, items with
  | e, [] => return memberOfNone negated e
  | e, [.scalar q] => return negatedIf negated (.inQuery e q)
  | .row es, items =>
    let rows := items.map fun item => match item with
      | .row xs => xs
      | x => [x]
    match rows.find? fun xs => xs.length ≠ es.length with
    | some xs =>
      failWith ("IN(...) element has " ++ Decimal.natText xs.length ++ (if 1 < xs.length then " terms" else " term") ++
        " - expected " ++ Decimal.natText es.length)
    | none => pure ()
    let query : Select := { Select.ofCore (rowQuery (rows.headD [])) with
      rest := (rows.drop 1).map fun xs => (.unionAll, rowQuery xs) }
    return negatedIf negated (.inQuery e query)
  | e, [item] =>
    return negatedIf negated (if item.isConstant false true then .compare .eq e (.sign .plus item) else .isIn e [item])
  | e, items => return negatedIf negated (.isIn e items)

/-- The words that open a query. -/
def queryWords : List String := ["SELECT", "VALUES", "WITH"]

/-- The words of tests for patterns. -/
def patternWords : List String := ["LIKE", "GLOB", "REGEXP", "MATCH"]

/-- A hint about the index to use, if there is one. -/
def indexHint : Parser (Option String) := do
  if ← acceptWord "INDEXED" then
    expectWord "BY"
    return some (← name)
  else if ← acceptWord "NOT" then
    expectWord "INDEXED"
    return none
  else return none

/-- The failure of an order or a limit in front of an operator on queries. -/
def misplaced (clause : String) (op : Compound) : Parser Unit :=
  failWith (clause ++ " clause should come after " ++ op.text ++ " not before")

/-- A column with qualifiers, the first one being read. -/
def columnAfter (n : Ident) : Parser Expr := do
  expectMark "."
  let quoting ← nextQuoting
  let m ← ident
  if ← acceptMark "." then
    let quoting ← nextQuoting
    return .column ⟨[n, m], ← ident, quoting⟩
  else return .column ⟨[n], m, quoting⟩
where
  /-- How the next name is quoted; with qualifiers it is a name in any case. -/
  nextQuoting : Parser Quoting :=
    return if ((← next?).map Token.kind) == some .word then .plain else .other

/-- An operator of one sign; a plus sign in front of its operand is dropped. -/
def signed (op : Sign) : Expr → Expr
  | .sign .plus e => .sign op e
  | e => .sign op e

/-- Sources between parentheses as one source with another name: a single one loses the name that it has there. -/
def grouped (first : Bool) (shape : JoinShape) (natural : Bool) (sources : List Joined) (asName : Option String)
    (on : Option Expr) (shared : List Ident) : List Joined :=
  if first && asName.isNone then sources
  else match sources with
    | [j] => [⟨shape, natural, j.source, asName, on, shared, none⟩]
    | js => [⟨shape, natural, .group js, asName, on, shared, none⟩]

mutual

/-- An expression of operators that bind at least as tightly as asked. -/
def expr : Nat → Nat → Parser Expr
  | 0, _ => refuse
  | fuel + 1, strength => do extended fuel strength (← operand fuel)

/-- An expression that goes on with operators. -/
def extended : Nat → Nat → Expr → Parser Expr
  | 0, _, e => return e
  | fuel + 1, strength, e => do
    match ← binary? fuel strength e with
    | some e => extended fuel strength e
    | none => return e

/-- One more operator after an expression, if there is one. -/
def binary? : Nat → Nat → Expr → Parser (Option Expr)
  | 0, _, _ => return none
  | fuel + 1, strength, e => do
    let m ← mark
    let w ← word
    match comparison? m, arithmetic? m with
    | some (op, s), _ =>
      if s < strength then return none
      advance
      return some (.compare op e (← expr fuel (s + 1)))
    | _, some (op, s) =>
      if s < strength then return none
      advance
      return some (.arith op e (← expr fuel (s + 1)))
    | none, none =>
      match w with
      | "OR" =>
        if 1 < strength then return none
        advance
        return some (.or e (← expr fuel 2))
      | "AND" =>
        if 2 < strength then return none
        advance
        let b ← expr fuel 3
        return some (← bothOf e b)
      | "COLLATE" =>
        if 11 < strength then return none
        advance
        return some (.collate e (← name))
      | "NOT" =>
        if 3 < strength then return none
        if (← wordAfter) == "NULL" then
          advance
          advance
          return some (.compare .notSame e (.literal .null))
        advance
        let w ← word
        if w == "BETWEEN" || w == "IN" || patternWords.contains w then tested? fuel true e w
        else refuse
      | w => if 4 < strength then return none else tested? fuel false e w

/-- A test after an expression, named by a keyword. -/
def tested? : Nat → Bool → Expr → String → Parser (Option Expr)
  | 0, _, _, _ => return none
  | fuel + 1, negated, e, w => do
    match w with
    | "ISNULL" => advance; return some (.compare .same e (.literal .null))
    | "NOTNULL" => advance; return some (.compare .notSame e (.literal .null))
    | "IS" =>
      advance
      let not ← acceptWord "NOT"
      let distinct ← acceptWord "DISTINCT"
      if distinct then expectWord "FROM"
      return some (.compare (if not == distinct then .same else .notSame) e (← expr fuel 5))
    | "BETWEEN" =>
      advance
      let low ← expr fuel 3
      if (← word) == "OR" then
        let _ ← extended fuel 0 low
        refuse
      expectWord "AND"
      let high ← expr fuel 5
      return some (negatedIf negated (.between e low high))
    | "IN" =>
      advance
      if ← acceptMark "(" then
        if queryWords.contains (← word) then
          let q ← query fuel
          expectMark ")"
          return some (negatedIf negated (.inQuery e q))
        let items ← listed fuel
        return some (← memberOf negated e items)
      let n ← objectName
      let arguments ← if ← acceptMark "(" then some <$> listed fuel else pure none
      let source := Joined.mk .inner false ((arguments.map (.function n)).getD (.table n)) none none [] none
      return some (negatedIf negated (.inQuery e (.ofCore (.select false [.all] [source] none [] none))))
    | w =>
      if patternWords.contains w then
        let f := ((← next?).map fun t => String.ofList t.spelling).getD w
        advance
        let p ← expr fuel 5
        let operands ← if ← acceptWord "ESCAPE" then pure [p, e, ← expr fuel 7] else pure [p, e]
        return some (negatedIf negated (.pattern f operands))
      else return none

/-- An expression without operators on two sides. -/
def operand : Nat → Parser Expr
  | 0 => refuse
  | fuel + 1 => do
    match ← next? with
    | none => refuse
    | some t =>
      match t.kind with
      | .integer | .float | .grouped => advance; numberOf t.spelling
      | .blob => advance; return .literal (.blob (blobBytes (t.spelling.drop 2)))
      | .parameter =>
        if t.spelling.head? = some '#' then refuse
        advance
        return .bind (← parameter t.spelling)
      | .string =>
        advance
        if (← mark) == "." then columnAfter ⟨(t.string?).getD "", t.start⟩
        else return .literal (.ofString ((t.string?).getD ""))
      | .mark =>
        match t.mark with
        | "-" => advance; return signed .minus (← expr fuel 12)
        | "+" => advance; return signed .plus (← expr fuel 12)
        | "~" => advance; return .sign .bitNot (← expr fuel 12)
        | "(" =>
          advance
          if queryWords.contains (← word) then
            let q ← query fuel
            expectMark ")"
            return .scalar q
          let e ← expr fuel 0
          if ← acceptMark "," then
            let items ← separated (expr fuel 0) (← left)
            expectMark ")"
            return .row (e :: items)
          expectMark ")"
          return e
        | _ => refuse
      | .invalid => refuse
      | .quoted => advance; named fuel ⟨(t.name?).getD "", t.start⟩ .double
      | .bracketed => advance; named fuel ⟨(t.name?).getD "", t.start⟩ .other
      | .word =>
        match t.keyword with
        | "NULL" => advance; return .literal .null
        | "NOT" => advance; return .sign .not (← expr fuel 3)
        | "EXISTS" =>
          advance
          expectMark "("
          let q ← query fuel
          expectMark ")"
          return .exists q
        | "CASE" => advance; caseBody fuel
        | "CAST" =>
          advance
          expectMark "("
          let e ← expr fuel 0
          expectWord "AS"
          let type ← typeName
          expectMark ")"
          return .cast e (Token.dequoted type)
        | w =>
          if timeWords.contains w then
            advance
            return .call (folded w) false [] false [] none
          match t.name? with
          | some n => advance; named fuel ⟨n, t.start⟩ .plain
          | none => refuse

/-- A column or a function call, its first name being read. -/
def named : Nat → Ident → Quoting → Parser Expr
  | 0, _, _ => refuse
  | fuel + 1, n, quoting => do
    match ← mark with
    | "." => columnAfter n
    | "(" =>
      advance
      if ← acceptMark "*" then
        expectMark ")"
        return .call n.text false [] true [] (← aggregateFilter fuel)
      if ← acceptMark ")" then return .call n.text false [] false [] (← aggregateFilter fuel)
      let distinct ← acceptWord "DISTINCT"
      unless distinct do
        let _ ← acceptWord "ALL"
      let isEmpty := (← word) == "ORDER" || (← mark) == ")"
      let arguments ← if isEmpty then pure [] else separated (expr fuel 0) (← left)
      let order ← if ← acceptWord "ORDER" then do expectWord "BY"; separated (orderTerm fuel) (← left) else pure []
      expectMark ")"
      return .call n.text distinct arguments false order (← aggregateFilter fuel)
    | _ => return .column ⟨[], n, quoting⟩

/-- The condition on the rows that a function of groups is about, if there is one. -/
def aggregateFilter : Nat → Parser (Option Expr)
  | 0 => return none
  | fuel + 1 => do
    if (← word) == "FILTER" && (← markAfter) == "(" then
      advance
      advance
      expectWord "WHERE"
      let e ← expr fuel 0
      expectMark ")"
      return some e
    return none

/-- Expressions up to a closing parenthesis, perhaps none. -/
def listed : Nat → Parser (List Expr)
  | 0 => refuse
  | fuel + 1 => do
    if ← acceptMark ")" then return []
    let items ← separated (expr fuel 0) (← left)
    expectMark ")"
    return items

/-- The rest of a case expression. -/
def caseBody : Nat → Parser Expr
  | 0 => refuse
  | fuel + 1 => do
    let subject ← if (← word) == "WHEN" then pure none else some <$> expr fuel 0
    let branches ← caseBranches fuel
    let otherwise ← if ← acceptWord "ELSE" then some <$> expr fuel 0 else pure none
    expectWord "END"
    return .case subject branches otherwise

/-- The branches of a case expression: what is tested, and the results, in turn. -/
def caseBranches : Nat → Parser (List Expr)
  | 0 => refuse
  | fuel + 1 => do
    expectWord "WHEN"
    let w ← expr fuel 0
    expectWord "THEN"
    let result ← expr fuel 0
    if (← word) == "WHEN" then return w :: result :: (← caseBranches fuel)
    else return [w, result]

/-- A query. -/
def query : Nat → Parser Select
  | 0 => refuse
  | fuel + 1 => do
    let common ← commonTables fuel
    let first ← core fuel
    let rest ← compounds fuel
    match (rest.getLast?.map (·.2)).getD first with
    | .values _ => return ⟨common, first, rest, [], none, none⟩
    | .select .. =>
      let order ← if ← acceptWord "ORDER" then do expectWord "BY"; separated (orderTerm fuel) (← left) else pure []
      let (limit, offset) ← window fuel
      if !order.isEmpty || limit.isSome then
        for (op, _) in (← compounds fuel).take 1 do misplaced (if order.isEmpty then "LIMIT" else "ORDER BY") op
      return ⟨common, first, rest, order, limit, offset⟩

/-- The common tables in front of a query or a change, if there are any. -/
def commonTables : Nat → Parser (List CommonTable)
  | 0 => return []
  | fuel + 1 => do
    unless ← acceptWord "WITH" do return []
    if (← word) == "RECURSIVE" then advance
    return (← commonTablesAfter fuel []).reverse

/-- The common tables after those of some names; no two have the same name. The last one comes first. -/
def commonTablesAfter : Nat → List CommonTable → Parser (List CommonTable)
  | 0, ts => return ts
  | fuel + 1, ts => do
    let t ← commonTable fuel
    if ts.any fun u => folded u.name.text = folded t.name.text then failWith ("duplicate WITH table name: " ++ t.name.text)
    if ← acceptMark "," then commonTablesAfter fuel (t :: ts) else return t :: ts

/-- A common table. -/
def commonTable : Nat → Parser CommonTable
  | 0 => refuse
  | fuel + 1 => do
    let n ← ident
    let columns ← if (← mark) == "(" then columnNames else pure []
    expectWord "AS"
    if ← acceptWord "NOT" then expectWord "MATERIALIZED"
    else
      let _ ← acceptWord "MATERIALIZED"
    expectMark "("
    let q ← query fuel
    expectMark ")"
    return ⟨n, columns.map Ident.text, q⟩

/-- The limit and the offset of a query, if they are given. -/
def window : Nat → Parser (Option Expr × Option Expr)
  | 0 => return (none, none)
  | fuel + 1 => do
    unless ← acceptWord "LIMIT" do return (none, none)
    let a ← expr fuel 0
    if ← acceptWord "OFFSET" then return (some a, some (← expr fuel 0))
    if ← acceptMark "," then return (some (← expr fuel 0), some a)
    return (some a, none)

/-- The simple queries that are combined with the first one. -/
def compounds : Nat → Parser (List (Compound × Core))
  | 0 => return []
  | fuel + 1 => do
    match ← word with
    | "UNION" =>
      advance
      let op : Compound := if ← acceptWord "ALL" then .unionAll else .union
      let c ← core fuel
      return (op, c) :: (← compounds fuel)
    | "INTERSECT" => advance; let c ← core fuel; return (.intersect, c) :: (← compounds fuel)
    | "EXCEPT" => advance; let c ← core fuel; return (.except, c) :: (← compounds fuel)
    | _ => return []

/-- A simple query. -/
def core : Nat → Parser Core
  | 0 => refuse
  | fuel + 1 => do
    if ← acceptWord "VALUES" then
      return .values (← separated (parenthesized (expr fuel 0)) (← left))
    expectWord "SELECT"
    let distinct ← acceptWord "DISTINCT"
    unless distinct do
      let _ ← acceptWord "ALL"
    let columns ← separated (resultColumn fuel) (← left)
    let sources ← if ← acceptWord "FROM" then sourceList fuel else pure []
    let filter ← if ← acceptWord "WHERE" then some <$> expr fuel 0 else pure none
    let group ← if ← acceptWord "GROUP" then do expectWord "BY"; separated (expr fuel 0) (← left) else pure []
    let having ← if ← acceptWord "HAVING" then some <$> expr fuel 0 else pure none
    return .select distinct columns sources filter group having

/-- A column of a result. -/
def resultColumn : Nat → Parser ResultColumn
  | 0 => refuse
  | fuel + 1 => do
    if ← acceptMark "*" then return .all
    let c ← get
    match c.tokens with
    | t :: dot :: star :: _ =>
      if (t.name?.isSome || t.string?.isSome) && dot.mark == "." && star.mark == "*" then
        let n ← ident
        advance
        advance
        return .allOf n
    | _ => pure ()
    let start ← position
    let e ← expr fuel 0
    let spelling ← textBetween start (← position)
    if ← acceptWord "AS" then return .expr e (some (← name)) spelling
    return .expr e (← asName?) spelling

/-- The sources of a query. -/
def sourceList : Nat → Parser (List Joined)
  | 0 => refuse
  | fuel + 1 => do
    let first ← source fuel true .inner false
    return first ++ (← sources fuel)

/-- A source with its alias and its condition. -/
def source : Nat → Bool → JoinShape → Bool → Parser (List Joined)
  | 0, _, _, _ => refuse
  | fuel + 1, first, shape, natural => do
    if ← acceptMark "(" then
      if queryWords.contains (← word) then
        let q ← query fuel
        expectMark ")"
        let asName ← sourceName fuel
        let (on, shared) ← joinCondition fuel first
        return [⟨shape, natural, .query q, asName, on, shared, none⟩]
      let inner ← sourceList fuel
      expectMark ")"
      let asName ← sourceName fuel
      let (on, shared) ← joinCondition fuel first
      return grouped first shape natural inner asName on shared
    let n ← objectName
    let s ← if ← acceptMark "(" then pure (Source.function n (← listed fuel)) else pure (Source.table n)
    let asName ← sourceName fuel
    let hint ← indexHint
    let (on, shared) ← joinCondition fuel first
    return [⟨shape, natural, s, asName, on, shared, hint⟩]

/-- Another name for a source, if there is one. -/
def sourceName : Nat → Parser (Option String)
  | 0 => return none
  | _ + 1 => do if ← acceptWord "AS" then return some (← name) else asName?

/-- The condition of a join, or the columns that are shared; the first source has neither. -/
def joinCondition : Nat → Bool → Parser (Option Expr × List Ident)
  | 0, _ => return (none, [])
  | fuel + 1, first => do
    if ← acceptWord "ON" then
      let e ← expr fuel 0
      if first then failWith "a JOIN clause is required before ON"
      return (some e, [])
    if ← acceptWord "USING" then
      let columns ← parenthesized ident
      if first then failWith "a JOIN clause is required before USING"
      return (none, columns)
    return (none, [])

/-- The sources that are joined to the first one. -/
def sources : Nat → Parser (List Joined)
  | 0 => return []
  | fuel + 1 => do
    match ← joinWords? with
    | none => return []
    | some words =>
      let (shape, natural) ← joinShape words
      let j ← source fuel false shape natural
      return j ++ (← sources fuel)

/-- A term that rows are ordered by. -/
def orderTerm : Nat → Parser OrderTerm
  | 0 => refuse
  | fuel + 1 => do
    let e ← expr fuel 0
    let descending ← acceptWord "DESC"
    unless descending do
      let _ ← acceptWord "ASC"
    if ← acceptWord "NULLS" then
      if ← acceptWord "FIRST" then return ⟨e, descending, some true⟩
      expectWord "LAST"
      return ⟨e, descending, some false⟩
    return ⟨e, descending, none⟩

end

/-- Fuel for whatever can follow. -/
def fuel : Parser Nat := return 4 * (← left) + 16

/-- An expression. -/
def expression : Parser Expr := do expr (← fuel) 0

/-- A query. -/
def select : Parser Select := do query (← fuel)

end RecordMapper.Sqlite.Parser
