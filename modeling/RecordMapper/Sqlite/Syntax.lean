import RecordMapper.Sqlite.Affinity

/-!
# Syntax of SQL

Expressions, queries and statements as they are written: names are not looked up yet, and parameters carry the numbers
that they are bound by.
-/

namespace RecordMapper.Sqlite

/-- A name, with the number of characters in front of it in the statement. -/
structure Ident where
  text : String
  place : Nat := 0
  deriving DecidableEq, Repr, Inhabited

/-- How a name is quoted. -/
inductive Quoting where
  | plain
  /-- By double quotes, as a string could be by mistake. -/
  | double
  /-- By brackets, backquotes or the quotes of strings. -/
  | other
  deriving DecidableEq, Repr, Inhabited

/-- A name of a column, with the names of the schema and the table in front of it. -/
structure ColumnName where
  qualifiers : List Ident
  name : Ident
  quoting : Quoting
  deriving DecidableEq, Repr, Inhabited

/-- Whether a name is a word for a truth value, if no column has it. -/
def ColumnName.isTruth (n : ColumnName) : Bool :=
  n.qualifiers.isEmpty && n.quoting = .plain && ["true", "false"].contains (folded n.name.text)

/-- A name of a table or another object, with its schema. -/
structure ObjectName where
  schema : Option String
  name : String
  /-- The number of characters in front of the name. -/
  place : Nat := 0
  deriving DecidableEq, Repr, Inhabited

/-- Comparisons of two values. -/
inductive Comparison where
  | lt | le | gt | ge | eq | ne
  /-- Equality under which `NULL` equals `NULL`. -/
  | same
  | notSame
  deriving DecidableEq, Repr

/-- Operators on two values other than comparisons. -/
inductive Arithmetic where
  | add | sub | mul | div | rem | concat | bitAnd | bitOr | shiftLeft | shiftRight
  deriving DecidableEq, Repr

/-- Operators on one value. -/
inductive Sign where
  | minus | plus | bitNot | not
  deriving DecidableEq, Repr

/-- What becomes of a statement whose change breaks a constraint. -/
inductive OnConflict where
  /-- The statement is undone. -/
  | abort
  /-- The transaction is undone. -/
  | rollback
  /-- The statement stops where it is. -/
  | fail
  /-- The row is left out. -/
  | ignore
  /-- The rows in the way are deleted. -/
  | replace
  deriving DecidableEq, Repr, Inhabited

/-- How a table is joined to those in front of it. -/
inductive JoinShape where
  | inner | left | right | full
  deriving DecidableEq, Repr

/-- How the rows of two queries are combined. -/
inductive Compound where
  | union | unionAll | intersect | except
  deriving DecidableEq, Repr

/-- The name of an operator in messages. -/
def Compound.text : Compound → String
  | .union => "UNION"
  | .unionAll => "UNION ALL"
  | .intersect => "INTERSECT"
  | .except => "EXCEPT"

mutual

/-- An expression. -/
inductive Expr where
  | literal (d : Datum)
  /-- A number as it is written. -/
  | number (spelling : String)
  /-- A truth value that no column can have the name of. -/
  | truth (value : Bool)
  | bind (index : Nat)
  | column (name : ColumnName)
  | sign (op : Sign) (e : Expr)
  | arith (op : Arithmetic) (a b : Expr)
  | and (a b : Expr)
  | or (a b : Expr)
  | compare (op : Comparison) (a b : Expr)
  | between (e low high : Expr)
  /-- A test for a pattern, by the function of the given name. -/
  | pattern (function : String) (operands : List Expr)
  | isIn (e : Expr) (items : List Expr)
  | inQuery (e : Expr) (query : Select)
  | exists (query : Select)
  | scalar (query : Select)
  | cast (e : Expr) (type : String)
  | collate (e : Expr) (collation : String)
  /-- Conditions, or values that a subject is compared with, and results in turn, then the result when nothing else is. -/
  | case (subject : Option Expr) (branches : List Expr) (otherwise : Option Expr)
  /-- A function call; `count(*)` has no arguments and a star. -/
  | call (function : String) (distinct : Bool) (arguments : List Expr) (star : Bool) (order : List OrderTerm)
    (filter : Option Expr)
  /-- Several expressions between parentheses. -/
  | row (items : List Expr)

/-- A column of a result. -/
inductive ResultColumn where
  | all
  | allOf (table : Ident)
  /-- An expression with its name, if it has one, and its spelling. -/
  | expr (e : Expr) (asName : Option String) (spelling : String)

/-- Where rows come from. -/
inductive Source where
  | table (name : ObjectName)
  | query (query : Select)
  /-- A function of rows; there is none. -/
  | function (name : ObjectName) (arguments : List Expr)
  /-- Sources that are joined between parentheses. -/
  | group (sources : List Joined)

/-- A source in the list of those that are joined. -/
structure Joined where
  shape : JoinShape
  natural : Bool
  source : Source
  asName : Option String
  on : Option Expr
  shared : List Ident
  /-- The index that has to be used. -/
  index : Option String

/-- A term that rows are ordered by. -/
structure OrderTerm where
  expr : Expr
  descending : Bool
  /-- Whether `NULL` comes first, if that is said. -/
  nullsFirst : Option Bool

/-- A simple query. -/
inductive Core where
  | select (distinct : Bool) (columns : List ResultColumn) (sources : List Joined) (filter : Option Expr)
    (group : List Expr) (having : Option Expr)
  | values (rows : List (List Expr))

/-- A query under a name for the statement that it stands in. -/
structure CommonTable where
  name : Ident
  columns : List String
  query : Select

/-- A query: simple ones combined from the left, ordered and cut to a window. -/
structure Select where
  common : List CommonTable
  first : Core
  rest : List (Compound × Core)
  order : List OrderTerm
  limit : Option Expr
  offset : Option Expr

end

instance : Inhabited Expr := ⟨.literal .null⟩

/-- A column by its name alone. -/
def Expr.named (name : String) : Expr := .column ⟨[], ⟨name, 0⟩, .other⟩

/-- A simple query without order and window. -/
def Select.ofCore (core : Core) : Select := ⟨[], core, [], [], none, none⟩

mutual

/-- Whether an expression is about no row and no query; function calls and parameters can be admitted. -/
def Expr.isConstant (calls parameters : Bool) : Expr → Bool
  | .literal _ | .number _ | .truth _ => true
  | .bind _ => parameters
  | .inQuery _ _ | .exists _ | .scalar _ => false
  | .column n => n.isTruth
  | .sign _ e | .cast e _ | .collate e _ => e.isConstant calls parameters
  | .arith _ a b | .and a b | .or a b | .compare _ a b => a.isConstant calls parameters && b.isConstant calls parameters
  | .between e low high =>
    e.isConstant calls parameters && low.isConstant calls parameters && high.isConstant calls parameters
  | .pattern _ es | .call _ _ es _ _ _ => calls && Expr.areConstant calls parameters es
  | .row es => Expr.areConstant calls parameters es
  | .isIn e es => e.isConstant calls parameters && Expr.areConstant calls parameters es
  | .case none es none => Expr.areConstant calls parameters es
  | .case none es (some last) => Expr.areConstant calls parameters es && last.isConstant calls parameters
  | .case (some e) es none => e.isConstant calls parameters && Expr.areConstant calls parameters es
  | .case (some e) es (some last) =>
    e.isConstant calls parameters && Expr.areConstant calls parameters es && last.isConstant calls parameters

/-- Whether all of some expressions are constant. -/
def Expr.areConstant (calls parameters : Bool) : List Expr → Bool
  | [] => true
  | e :: es => e.isConstant calls parameters && Expr.areConstant calls parameters es

end

mutual

/-- Whether an expression calls a function, apart from the queries in it. Of a row value only the first part counts. -/
def Expr.hasCall : Expr → Bool
  | .literal _ | .number _ | .truth _ | .bind _ | .column _ | .exists _ | .scalar _ => false
  | .pattern .. | .call .. => true
  | .sign _ e | .cast e _ | .collate e _ | .inQuery e _ => e.hasCall
  | .arith _ a b | .and a b | .or a b | .compare _ a b => a.hasCall || b.hasCall
  | .between e low high => e.hasCall || low.hasCall || high.hasCall
  | .isIn e es => e.hasCall || Expr.haveCalls es
  | .case none es none => Expr.haveCalls es
  | .case none es (some last) => Expr.haveCalls es || last.hasCall
  | .case (some e) es none => e.hasCall || Expr.haveCalls es
  | .case (some e) es (some last) => e.hasCall || Expr.haveCalls es || last.hasCall
  | .row [] => false
  | .row (e :: _) => e.hasCall

/-- Whether some of the expressions call functions. -/
def Expr.haveCalls : List Expr → Bool
  | [] => false
  | e :: es => e.hasCall || Expr.haveCalls es

end

/-! ### Definitions of tables -/

/-- What becomes of rows that refer to a row which is deleted or changed. -/
inductive ForeignAction where
  | noAction | restrict | setNull | setDefault | cascade
  deriving DecidableEq, Repr, Inhabited

/-- Columns that refer to a key of another table. -/
structure ForeignKey where
  columns : List Ident
  table : Ident
  /-- The key referred to; the primary key if none is named. -/
  parentColumns : List Ident
  onDelete : ForeignAction := .noAction
  onUpdate : ForeignAction := .noAction
  deferred : Bool := false
  deriving Repr, Inhabited

/-- A condition on rows, with the text that its failure quotes. -/
structure Check where
  condition : Expr
  label : String

/-- A constraint of a column. -/
inductive ColumnConstraint where
  | primaryKey (descending : Bool) (conflict : Option OnConflict) (autoincrement : Bool)
  | unique (conflict : Option OnConflict)
  | notNull (conflict : Option OnConflict)
  | default (e : Expr) (spelling : String)
  | check (c : Check)
  | collate (name : String)
  | foreign (key : ForeignKey)
  | deferral (deferred : Bool)
  | nullable

/-- A part of a key, with its collation. -/
structure KeyPart where
  expr : Expr
  collation : Option String
  descending : Bool
  /-- Whether `NULL` comes first, if that is said; a key cannot say it. -/
  nullsFirst : Option Bool

/-- A constraint of a table. -/
inductive TableConstraint where
  | primaryKey (parts : List KeyPart) (autoincrement : Bool) (conflict : Option OnConflict)
  | unique (parts : List KeyPart) (conflict : Option OnConflict)
  | check (c : Check)
  | foreign (key : ForeignKey)

/-- A step in the definition of a table; a constraint of a column is one of the last column so far. -/
inductive TableStep where
  | column (name : Ident) (type : String)
  | columnConstraint (c : ColumnConstraint)
  | tableConstraint (c : TableConstraint)

/-- What a table is made of. -/
inductive TableBody where
  | columns (steps : List TableStep) (options : List String)
  | query (query : Select)

/-! ### Statements -/

/-- The rows that are inserted. -/
inductive InsertSource where
  | query (query : Select)
  | defaults

/-- Kinds of objects that can be dropped. -/
inductive ObjectKind where
  | table | view | index
  deriving DecidableEq, Repr

/-- A change to the definition of a table. -/
inductive Alteration where
  | rename (name : String)
  /-- Another name for a column, which is given as it is written too; the new name may be quoted. -/
  | renameColumn (column written : String) (name : String) (quoted : Bool)
  /-- A new column with its constraints, and as it is written. -/
  | addColumn (steps : List TableStep) (spelling : String)
  | dropColumn (column written : String)

/-- New values of an update: of one column, or of several columns that are given together. -/
structure Assignment where
  columns : List String
  value : Expr

/-- A statement. Those that create something carry their text from the name on. -/
inductive Statement where
  | select (query : Select)
  | insert (conflict : Option OnConflict) (table : ObjectName) (asName : Option String) (columns : List String)
    (source : InsertSource)
  /-- A change, perhaps by an index that has to be there. -/
  | update (conflict : Option OnConflict) (table : ObjectName) (asName index : Option String) (changes : List Assignment)
    (filter : Option Expr)
  | delete (table : ObjectName) (asName index : Option String) (filter : Option Expr)
  /-- A change of rows that can use common tables. -/
  | within (common : List CommonTable) (statement : Statement)
  | createTable (temporary ifNotExists : Bool) (name : ObjectName) (body : TableBody) (text : String)
  | createIndex (unique ifNotExists : Bool) (name : ObjectName) (table : Ident) (parts : List KeyPart)
    (filter : Option Expr) (text : String)
  | createView (temporary ifNotExists : Bool) (name : ObjectName) (columns : List String) (query : Select)
    (text : String)
  | drop (kind : ObjectKind) (ifExists : Bool) (name : ObjectName)
  | alter (table : ObjectName) (change : Alteration)
  | begin (writing : Bool)
  | commit
  | rollback
  | savepoint (name : String)
  | release (name : String)
  | rollbackTo (name : String)
  | pragma (schema : Option String) (name : String) (value : Option String)

/-- What is known of a definition before its end: the table that it makes or alters, and its steps so far. -/
structure Outline where
  creates : Bool
  temporary : Bool := false
  ifNotExists : Bool := false
  name : ObjectName
  steps : List TableStep := []

end RecordMapper.Sqlite
