import RecordMapper.Sqlite.Creation

/-!
# Altered definitions

A table is altered by changing texts: names are replaced where definitions mention them, a column is written into the
definition of its table or taken out of it. The objects are then read again from their texts, so that what they mean is
always what their texts say. Definitions that do not make sense, before or after, stop the change.
-/

namespace RecordMapper.Sqlite

/-- An object with a text of its own. -/
inductive Object where
  | table (t : Stored)
  | index (t : Stored) (i : Index)
  | view (v : View)

namespace Object

/-- Its place among the others. -/
def entry : Object → Entry
  | .table t => t.entry
  | .index _ i => i.entry
  | .view v => v.entry

/-- Its name. -/
def name : Object → String
  | .table t => t.name
  | .index _ i => i.name
  | .view v => v.name

/-- What it is, as messages say it. -/
def kind : Object → String
  | .table _ => "table"
  | .index .. => "index"
  | .view _ => "view"

/-- The text that defines it. -/
def text (o : Object) : String := o.entry.text.getD ""

/-- A failure in its definition. -/
def broken (o : Object) (moment : String) (f : Failure) : Failure :=
  .general ("error in " ++ o.kind ++ " " ++ o.name ++ moment ++ ": " ++ f.message)

end Object

/-- The objects of a schema that statements have made, the oldest first. -/
def Schema.objects (s : Schema) : List Object :=
  let all := s.tables.map Object.table ++ s.views.map Object.view ++ s.indexes.map fun (t, i) => .index t i
  (all.filter fun o => o.entry.text.isSome && !isReserved o.name).mergeSort fun a b => a.entry.rank ≤ b.entry.rank

/-- The statement that a text is, perhaps with everything in it as it is written. -/
def statementOf (text : String) (isVerbatim : Bool) : Except Failure Statement :=
  match Reading.ofTokens text.toList (Token.scan 0 text.toList) isVerbatim with
  | .statement p => .ok p.statement
  | .broken f _ => .error f
  | .nothing => .error (.general "incomplete input")

/-! ### What definitions mention -/

/-- Looks up what a step of the definition of a table mentions. -/
def Stored.lookAt (t : Stored) (store : Store) (schema : SchemaName) (step : TableStep) : Resolver Unit := do
  let own := some (schema, t.name)
  let parts (ps : List KeyPart) : Resolver Unit := for p in ps do let _ ← t.keyTerm store schema p
  let check (c : Check) : Resolver Unit := do let _ ← t.resolve store schema .check c.condition
  let foreign (key : ForeignKey) : Resolver Unit := do
    let parent := some (schema, key.table.text)
    for c in key.columns do Resolver.mention c.place own (some c.text)
    Resolver.mention key.table.place parent none
    for c in key.parentColumns do Resolver.mention c.place parent (some c.text)
  match step with
  | .column n _ => Resolver.mention n.place own (some n.text)
  | .columnConstraint (.check c) | .tableConstraint (.check c) => check c
  | .columnConstraint (.foreign key) | .tableConstraint (.foreign key) => foreign key
  | .tableConstraint (.primaryKey ps _ _) | .tableConstraint (.unique ps _) => parts ps
  | .columnConstraint _ => pure ()

/-- What the definition of an object mentions; it has to make sense. -/
def Object.notes (o : Object) (store : Store) (schema : SchemaName) : Except Failure Notes := do
  let looked : Resolver Unit ← match ← statementOf o.text true with
    | .createTable _ _ n (.columns steps options) _ => do
      let t ← Stored.ofDefinition store schema n.name steps options
      pure do
        Resolver.mention n.place (some (schema, t.name)) none
        for step in steps do t.lookAt store schema step
    | .createIndex _ _ _ owner parts filter _ => do
      match (store.schema schema).table? owner.text with
      | none => throw (noSuchTable ⟨some schema.text, owner.text, 0⟩)
      | some t =>
        pure do
          Resolver.mention owner.place (some (schema, t.name)) none
          let _ ← Program.indexTerms store schema t parts filter
    | .createView _ _ n columns query _ =>
      let ctx := ({ store } : Context).insideView schema { name := n.name, columns, query }
      pure do
        findSources deepest ctx query
        let _ ← output deepest ctx query
    | _ => pure (pure ())
  return (← looked.run {}).2

/-- Refuses definitions that make no sense; names in double quotes may have to mean something. -/
def Store.checkDefinitions (store : Store) (moment : String) (namesOnly : Bool) : Except Failure Unit := do
  for schema in [SchemaName.main, .temp] do
    for o in (store.schema schema).objects do
      match o.notes store schema with
      | .error f => throw (o.broken moment f)
      | .ok notes =>
        match if namesOnly then notes.texts.getLast? else none with
        | some (_, name) => throw (o.broken moment (noSuchColumn name))
        | none => pure ()

/-! ### Edited texts -/

/-- A text in which the tokens at some places are replaced; a replacement may look at the token and what follows it. -/
def replaceTokens (text : String) (places : List Nat) (new : Token → Option Char → String) : String :=
  let cs := text.toList
  let step (state : Nat × List Char) (t : Token) : Nat × List Char :=
    let stop := t.start + t.spelling.length
    (stop, state.2 ++ (cs.drop state.1).take (t.start - state.1) ++ (new t (cs.drop stop).head?).toList)
  let tokens := (Token.scan 0 cs).filter fun t => places.contains t.start
  let (stop, done) := tokens.foldl step (0, [])
  String.ofList (done ++ cs.drop stop)

/-- A text between quotes, kept apart from a quote that follows. -/
def quotedBefore (quote : Char) (text : String) (next : Option Char) : String :=
  let inner := text.toList.flatMap fun c => if c = quote then [c, c] else [c]
  String.ofList (quote :: inner ++ quote :: (if next = some quote then [' '] else []))

/-- A table read again from a changed text. -/
def Stored.reread (t : Stored) (store : Store) (schema : SchemaName) (text : String) : Except Failure Stored := do
  match ← statementOf text false with
  | .createTable _ _ n (.columns steps options) _ =>
    let u ← Stored.ofDefinition store schema n.name steps options
    let (explicit, automatic) := t.indexes.partition Index.isExplicit
    let kept := (u.indexes.zip automatic).map fun (i, old) => { i with entry := old.entry }
    return { u with
      rows := t.rows, highest := t.highest, entry := { t.entry with text := some text }, indexes := explicit ++ kept }
  | _ => return t

/-- An index of a table read again from a changed text. -/
def Index.reread (i : Index) (t : Stored) (store : Store) (schema : SchemaName) (text : String) : Except Failure Index := do
  match ← statementOf text false with
  | .createIndex _ _ _ _ parts filter _ =>
    let (terms, _) ← (Program.indexTerms store schema t parts filter).finish
    return { i with terms, filter, entry := { i.entry with text := some text } }
  | _ => return i

/-- A view read again from a changed text. -/
def View.reread (v : View) (text : String) : Except Failure View := do
  match ← statementOf text false with
  | .createView _ _ _ columns query _ => return { v with columns, query, entry := { v.entry with text := some text } }
  | _ => return v

/-- A schema whose objects have other texts. -/
def Schema.rewritten (s : Schema) (store : Store) (schema : SchemaName) (moment : String) (textOf : Object → String) :
    Except Failure Schema := do
  let reading {α : Type} (o : Object) (old : α) (read : String → Except Failure α) : Except Failure α :=
    let text := textOf o
    if o.entry.text.isNone || isReserved o.name || text == o.text then .ok old
    else (read text).mapError (o.broken moment)
  let tables ← s.tables.mapM fun t => do
    let u ← reading (.table t) t (t.reread store schema)
    let indexes ← u.indexes.mapM fun i =>
      if i.isExplicit then reading (.index t i) i (i.reread u store schema) else return i
    return { u with indexes }
  let views ← s.views.mapM fun v => reading (.view v) v v.reread
  return { s with tables, views }

/-- A store whose objects have other texts. -/
def Store.rewritten (store : Store) (moment : String) (textOf : SchemaName → Object → String) : Except Failure Store := do
  let main ← store.main.rewritten store .main moment (textOf .main)
  let temp ← store.temp.rewritten store .temp moment (textOf .temp)
  return { main, temp }

/-- A store in which tokens of the texts of objects are replaced, as the notes about the objects say. -/
def Store.edited (store : Store) (moment : String) (places : Notes → List Nat) (new : Token → Option Char → String) :
    Except Failure Store := do
  for schema in [SchemaName.main, .temp] do
    for o in (store.schema schema).objects do
      let _ ← (o.notes store schema).mapError (o.broken "")
  store.rewritten moment fun schema o =>
    match o.notes store schema with
    | .ok notes => replaceTokens o.text (places notes) new
    | .error _ => o.text

/-- A store in which texts that are written as names have the quotes of texts. -/
def Store.withTextsQuoted (store : Store) : Except Failure Store :=
  store.edited "" (fun notes => notes.texts.map (·.1)) fun t next =>
    quotedBefore '\'' ((t.name?).getD "") next

namespace Program

/-- The table that is altered, which has to be one. -/
def altered (store : Store) (n : ObjectName) (ofView : String → String) : Except Failure (SchemaName × Stored) := do
  match store.table? n, store.view? n with
  | some (schema, t), _ =>
    if isReserved t.name then throw (.general ("table " ++ t.name ++ " may not be altered")) else return (schema, t)
  | none, some (_, v) => throw (.general (ofView v.name))
  | none, none => throw (noSuchTable n)

/-- Changes the whole store. -/
def modifyStore (f : Store → Except Failure Store) : Change Unit := do
  let store ← Change.attempt (f (← get).store)
  modify fun w => { w with store }

/-- Gives a table another name. -/
def renameTable (store : Store) (n : ObjectName) (name : String) : Except Failure Program := do
  let (schema, old) ← match store.table? n, store.view? n with
    | some (s, t), _ => pure (s, t.name)
    | none, some (s, v) => pure (s, v.name)
    | none, none => throw (noSuchTable n)
  let contents := store.schema schema
  if (contents.table? name).isSome || (contents.view? name).isSome || (contents.indexed? name).isSome then
    throw (.general ("there is already another table or index with this name: " ++ name))
  if isReserved old then throw (.general ("table " ++ old ++ " may not be altered"))
  checkName name
  let _ ← altered store n fun v => "view " ++ v ++ " may not be altered"
  let isOld (m : Mention) : Bool := m.schema = schema && m.column.isNone && sameName m.table old
  let counted (c : Stored) : Stored :=
    if sameName c.name Change.counterTable then
      { c with rows := c.rows.map fun (id, row) =>
          (id, if (row.headD .null).order .binary (.ofString old) == .eq then row.set 0 (.ofString name) else row) }
    else c
  return ofDefinition schema (modifyStore fun store => do
    let store ← store.edited " after rename" (fun notes => (notes.mentions.filter isOld).map Mention.place) fun _ next =>
      quotedBefore '"' name next
    let contents := store.schema schema
    let store := store.withSchema schema { contents with tables := contents.tables.map counted }
    store.checkDefinitions " after rename" false
    return store)

/-- Gives a column another name. -/
def renameColumn (store : Store) (n : ObjectName) (column written name : String) (quoted : Bool) :
    Except Failure Program := do
  let (schema, t) ← altered store n fun v => "cannot rename columns of view " ++ inQuotes v
  if (t.fieldIndex? column).isNone then throw (noSuchColumn (inQuotes written))
  let isOld (m : Mention) : Bool :=
    m.schema = schema && sameName m.table t.name && (m.column.map (sameName column)).getD false
  let new (token : Token) (next : Option Char) : String :=
    if token.kind = .word && !quoted then name else quotedBefore '"' name next
  return ofDefinition schema (modifyStore fun store => do
    store.checkDefinitions "" false
    let store ← store.withTextsQuoted
    let store ← store.edited " after rename" (fun notes => (notes.mentions.filter isOld).map Mention.place) new
    store.checkDefinitions " after rename" true
    return store)

/-- Where columns and constraints of a table stand in its text. -/
structure Layout where
  /-- Where the columns start. -/
  columns : List Nat
  /-- Where the constraints of the table start, or its definition ends. -/
  stop : Nat

/-- The layout of the text of a table: the constraints start at the comma in front of them, or else the columns end at
a parenthesis. -/
def layoutOf (text : String) : Except Failure Layout := do
  match Reading.ofTokens text.toList (Token.scan 0 text.toList) false with
  | .statement { statement := .createTable _ _ _ (.columns steps _) _, columnsEnd, .. } =>
    let columns := steps.filterMap fun s => match s with
      | .column c _ => some c.place
      | _ => none
    return { columns, stop := columnsEnd.getD text.length }
  | .broken f _ => throw f
  | _ => throw (.general "incomplete input")

/-- A text without one of the columns that it defines. -/
def withoutColumn (text : String) (layout : Layout) (i : Nat) : String :=
  let cs := text.toList
  let start := layout.columns.getD i 0
  match layout.columns[i + 1]? with
  | some next => String.ofList (cs.take start ++ cs.drop next)
  | none =>
    let before := ((cs.take start).reverse.dropWhile fun c => c != ',').drop 1
    String.ofList (before.reverse ++ cs.drop layout.stop)

/-- Takes a column out of a table. -/
def dropColumn (store : Store) (n : ObjectName) (column written : String) : Except Failure Program := do
  let (schema, t) ← altered store n fun v => "cannot drop column from view " ++ inQuotes v
  let i ← match t.fieldIndex? column with
    | some i => pure i
    | none => throw (noSuchColumn (inQuotes written))
  match t.fields[i]? with
  | some f =>
    if 0 < f.keyPlace then throw (.general ("cannot drop PRIMARY KEY column: " ++ inQuotes column))
    if f.isUnique then throw (.general ("cannot drop UNIQUE column: " ++ inQuotes column))
  | none => pure ()
  if t.fields.length ≤ 1 then
    throw (.general ("cannot drop column " ++ inQuotes column ++ ": no other columns exist"))
  let isIt (schema' : SchemaName) (o : Object) : Bool := match o with
    | .table u => schema' = schema && sameName u.name t.name
    | _ => false
  let moment := " after drop column"
  return ofDefinition schema (modifyStore fun store => do
    store.checkDefinitions "" false
    let store ← store.withTextsQuoted
    let contents := store.schema schema
    let layout ← layoutOf (((contents.table? t.name).bind fun t => t.entry.text).getD "")
    let textOf (schema : SchemaName) (o : Object) : String :=
      if isIt schema o then withoutColumn o.text layout i else o.text
    let narrowed ← store.rewritten moment textOf
    narrowed.checkDefinitions moment true
    let contents := narrowed.schema schema
    let tables ← contents.tables.mapM fun u => do
      if !sameName u.name t.name then return u
      let indexes ← u.indexes.mapM fun x => if x.isExplicit then x.reread u narrowed schema (x.entry.text.getD "") else return x
      return { u with rows := u.rows.map fun (id, row) => (id, row.eraseIdx i), indexes }
    return narrowed.withSchema schema { contents with tables })

/-! ### New columns -/

/-- Whether a default is fixed by how it is written. -/
def isFixed : Expr → Bool
  | .literal _ | .number _ | .truth _ => true
  | .column n => (nameLiteral? n).isSome
  | .sign .plus e | .sign .minus e | .cast e _ => isFixed e
  | _ => false

/-- Finds a broken rule in the rows of a table that has a new column. -/
def checkRows (target : Target) : Change Unit := do
  let t ← Change.stored target
  let env ← Change.env
  for (id, row) in t.rows do
    for ((f, d), i) in (t.fields.zip row).zipIdx do
      if t.rowIdField != some i then
        if d.isNull && f.notNull.isSome then Change.halt (.general "NOT NULL constraint failed") .abort
        if t.strict && !Change.admits f.type d then Change.halt (.general "type mismatch on DEFAULT") .abort
    for c in t.checks do
      let m ← Change.attempt (t.meaningIn env.store target.schema .check c.condition)
      let d ← Change.attempt (m.eval (env.within (.int id :: row)))
      if d.truth? == some false then Change.halt (.general "CHECK constraint failed") .abort

/-- The table that a new column is tried out in: it has the columns of a table alone. -/
def Stored.draft (t : Stored) : Stored :=
  { name := "sqlite_altertab_" ++ t.name, fields := t.fields }

/-- The table that gets a new column. -/
def widened (store : Store) (n : ObjectName) : Except Failure (SchemaName × Stored) :=
  altered store n fun _ => "Cannot add a column to a view"

/-- Adds a column to a table. -/
def addColumn (store : Store) (settings : Settings) (n : ObjectName) (steps : List TableStep) (spelling : String) :
    Except Failure Program := do
  let (schema, t) ← widened store n
  let draft ← steps.foldlM (Stored.addStep store schema) (Stored.draft t)
  if draft.hasPrimaryKey then throw (.general "Cannot add a PRIMARY KEY column")
  if !draft.indexes.isEmpty then throw (.general "Cannot add a UNIQUE column")
  let field := draft.fields.getLast?
  let default : Option Expr := match field.bind Field.default with
    | some (.literal .null, _) => none
    | d => d.map (·.1)
  let target : Target := ⟨schema, t.name⟩
  let moment := " after add column"
  return ofDefinition schema do
    let t ← Change.stored target
    let refuseIf (broken : Bool) (message : String) : Change Unit :=
      if broken && !t.rows.isEmpty then Change.halt (.general message) .abort else pure ()
    refuseIf (settings.foreignKeys && !draft.foreignKeys.isEmpty && default.isSome)
      "Cannot add a REFERENCES column with non-NULL default value"
    refuseIf ((field.bind Field.notNull).isSome && default.isNone)
      "Cannot add a NOT NULL column with default value NULL"
    refuseIf (!(default.map isFixed).getD true) "Cannot add a column with non-constant default"
    modifyStore fun store => do
      let layout ← layoutOf (t.entry.text.getD "")
      let textOf (schema' : SchemaName) (o : Object) : String :=
        match o with
        | .table u =>
          if schema' = schema && sameName u.name t.name then
            let cs := o.text.toList
            String.ofList (cs.take layout.stop ++ [',', ' '] ++ spelling.toList ++ cs.drop layout.stop)
          else o.text
        | _ => o.text
      store.rewritten moment textOf
    let wider ← Change.stored target
    let value ← match wider.fields.getLast? with
      | some f => if t.rows.isEmpty then pure .null else f.affinity.store <$> Change.defaultOf f
      | none => pure .null
    Change.modifyTable target fun t => { t with rows := t.rows.map fun (id, row) => (id, row ++ [value]) }
    if !draft.checks.isEmpty || t.strict then checkRows target

/-- Changes the definition of a table. -/
def alter (store : Store) (settings : Settings) (n : ObjectName) : Alteration → Except Failure Program
  | .rename name => renameTable store n name
  | .renameColumn column written name quoted => renameColumn store n column written name quoted
  | .addColumn steps spelling => addColumn store settings n steps spelling
  | .dropColumn column written => dropColumn store n column written

end Program

end RecordMapper.Sqlite
