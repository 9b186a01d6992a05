import RecordMapper.Sqlite.Failure
import RecordMapper.Sqlite.Syntax

/-!
# Heights of expressions

An expression may not be higher than a limit. The operands of an operator count, and so do the expressions of a query in
it; not counted are the bounds of a range, what is collated, the parts of a row value and the sources of a query.
-/

namespace RecordMapper.Sqlite

/-- The greatest height of an expression. -/
def heightLimit : Nat := 1000

/-- The failure of an expression that is too high. -/
def tooHigh : Failure := .general "Expression tree is too large (maximum depth 1000)"

/-- The height of an expression, and that of the highest expression anywhere in it. -/
structure Height where
  own : Nat
  highest : Nat

namespace Height

/-- Nothing at all. -/
def zero : Height := ⟨0, 0⟩

/-- Both together, one beside the other. -/
def beside (a b : Height) : Height := ⟨max a.own b.own, max a.highest b.highest⟩

/-- What stands on parts that count. -/
def above (a : Height) : Height := ⟨a.own + 1, max (a.own + 1) a.highest⟩

/-- The highest of parts that do not count. -/
def hidden (a : Height) : Height := ⟨0, a.highest⟩

end Height

open RecordMapper.Sqlite.Height

mutual

/-- The height of an expression. -/
def Expr.height : Expr → Height
  | .literal _ | .number _ | .truth _ | .bind _ => zero.above
  | .column n => ⟨n.qualifiers.length + 1, n.qualifiers.length + 1⟩
  | .sign _ e | .cast e _ => e.height.above
  | .collate e _ => e.height.hidden.above
  | .arith _ a b | .and a b | .or a b | .compare _ a b => (a.height.beside b.height).above
  | .between e low high => (e.height.beside (low.height.beside high.height).hidden).above
  | .pattern _ es => (Expr.heights es).above
  | .isIn e es => (e.height.beside (Expr.heights es)).above
  | .inQuery e q => (e.height.beside q.height).above
  | .exists q | .scalar q => q.height.above
  | .case none es none => (Expr.heights es).above
  | .case none es (some last) => ((Expr.heights es).beside last.height).above
  | .case (some e) es none => (e.height.beside (Expr.heights es)).above
  | .case (some e) es (some last) => (e.height.beside ((Expr.heights es).beside last.height)).above
  | .call _ _ es _ order none => ((Expr.heights es).beside (OrderTerm.heights order)).above
  | .call _ _ es _ order (some f) => ((Expr.heights es).beside ((OrderTerm.heights order).beside f.height.hidden)).above
  | .row es => (Expr.heights es).hidden.above

/-- The height of some expressions. -/
def Expr.heights : List Expr → Height
  | [] => zero
  | e :: es => e.height.beside (Expr.heights es)

/-- The height of terms that rows are ordered by. -/
def OrderTerm.heights : List OrderTerm → Height
  | [] => zero
  | ⟨e, _, _⟩ :: ts => e.height.beside (OrderTerm.heights ts)

/-- The height of columns of a result. -/
def ResultColumn.heights : List ResultColumn → Height
  | [] => zero
  | .expr e _ _ :: cs => e.height.beside (ResultColumn.heights cs)
  | _ :: cs => ResultColumn.heights cs

/-- The height of a source. -/
def Source.height : Source → Height
  | .table _ => zero
  | .query q => q.height.hidden
  | .function _ es => (Expr.heights es).hidden
  | .group js => Joined.heights js

/-- The height of sources, of which nothing counts. -/
def Joined.heights : List Joined → Height
  | [] => zero
  | ⟨_, _, s, _, none, _, _⟩ :: js => s.height.hidden.beside (Joined.heights js)
  | ⟨_, _, s, _, some e, _, _⟩ :: js => (s.height.beside e.height).hidden.beside (Joined.heights js)

/-- The height of rows of values. -/
def Expr.rowHeights : List (List Expr) → Height
  | [] => zero
  | es :: rows => (Expr.heights es).beside (Expr.rowHeights rows)

/-- The height of a simple query. -/
def Core.height : Core → Height
  | .select _ columns sources none group none =>
    (ResultColumn.heights columns).beside ((Joined.heights sources).beside (Expr.heights group))
  | .select _ columns sources (some f) group none =>
    (ResultColumn.heights columns).beside ((Joined.heights sources).beside (f.height.beside (Expr.heights group)))
  | .select _ columns sources none group (some h) =>
    (ResultColumn.heights columns).beside ((Joined.heights sources).beside (h.height.beside (Expr.heights group)))
  | .select _ columns sources (some f) group (some h) =>
    (ResultColumn.heights columns).beside
      ((Joined.heights sources).beside (f.height.beside (h.height.beside (Expr.heights group))))
  | .values rows => Expr.rowHeights rows

/-- The height of the simple queries that are combined with a first one. -/
def Core.heights : List (Compound × Core) → Height
  | [] => zero
  | (_, c) :: cs => c.height.beside (Core.heights cs)

/-- The height of common tables, of which nothing counts. -/
def CommonTable.heights : List CommonTable → Height
  | [] => zero
  | ⟨_, _, q⟩ :: ts => q.height.hidden.beside (CommonTable.heights ts)

/-- The height of a query. -/
def Select.height : Select → Height
  | ⟨common, first, rest, order, none, _⟩ =>
    (CommonTable.heights common).beside (first.height.beside ((Core.heights rest).beside (OrderTerm.heights order)))
  | ⟨common, first, rest, order, some l, none⟩ =>
    (CommonTable.heights common).beside
      (first.height.beside ((Core.heights rest).beside ((OrderTerm.heights order).beside l.height.above)))
  | ⟨common, first, rest, order, some l, some o⟩ =>
    (CommonTable.heights common).beside
      (first.height.beside
        ((Core.heights rest).beside ((OrderTerm.heights order).beside (l.height.beside o.height).above)))

end

/-- The height of what a step of a definition says. -/
def TableStep.height : TableStep → Height
  | .columnConstraint (.default e _) => e.height
  | .columnConstraint (.check c) | .tableConstraint (.check c) => c.condition.height
  | .tableConstraint (.primaryKey parts _ _) | .tableConstraint (.unique parts _) =>
    Expr.heights (parts.map KeyPart.expr)
  | _ => zero

/-- The height of the expressions of a statement. -/
def Statement.height : Statement → Height
  | .select q | .createView _ _ _ _ q _ | .createTable _ _ _ (.query q) _ => q.height
  | .insert _ _ _ _ (.query q) => q.height
  | .update _ _ _ _ changes filter => Expr.heights (changes.map Assignment.value ++ filter.toList)
  | .delete _ _ _ filter => Expr.heights filter.toList
  | .within common s => (CommonTable.heights common).beside s.height
  | .createTable _ _ _ (.columns steps _) _ | .alter _ (.addColumn steps _) =>
    steps.foldl (fun h s => h.beside s.height) zero
  | .createIndex _ _ _ _ parts filter _ => Expr.heights (parts.map KeyPart.expr ++ filter.toList)
  | _ => zero

end RecordMapper.Sqlite
