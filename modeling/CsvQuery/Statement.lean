import CsvQuery.Expr.Render

/-!
# Statements

One query over tables of a catalog: a base table, the tables joined to it, a predicate, the items
to show, and how to group, order and thin out the rows.
-/

namespace CsvQuery

/-- One item that a query shows. -/
inductive SelectItem
  | column (c : ColumnRef)
  | sum (s : SumCall)
  deriving DecidableEq, Repr

/-- The text of an item. -/
def SelectItem.render : SelectItem → String
  | column c => c.render
  | sum s => s.name

/-- The column name under which the value of an item is found in a tuple. -/
def SelectItem.name : SelectItem → String
  | column c => c.column
  | sum s => s.name

/-- The sum, if the item is one. -/
def SelectItem.sum? : SelectItem → Option SumCall
  | column _ => none
  | sum s => some s

/-- What a query shows of its tuples. -/
inductive Projection
  /-- Every attribute. -/
  | all
  /-- The listed items. An empty list shows every attribute. -/
  | list (items : List SelectItem)
  deriving DecidableEq, Repr

/-- The listed items; none when every attribute is shown. -/
def Projection.items : Projection → List SelectItem
  | all => []
  | list items => items

/-- Whether every attribute is shown. -/
def Projection.isAll (p : Projection) : Bool := p.items.isEmpty

/-- A table joined to the ones before it. -/
structure JoinClause where
  table : String
  /-- The predicate written with the join, if any. -/
  constraint : Option Expr
  deriving DecidableEq, Repr

/-- A query. -/
structure Statement where
  /-- The base table. -/
  base : String
  joins : List JoinClause
  /-- The predicate on the joined tuples. -/
  selection : Option Expr
  projection : Projection
  groupBy : List ColumnRef
  orderBy : List ColumnRef
  distinct : Bool
  deriving DecidableEq, Repr

namespace Statement

/-- The tables of a query, the base table first. -/
def tables (s : Statement) : List String := s.base :: s.joins.map (·.table)

/-- The sums that a query shows. -/
def sums (s : Statement) : List SumCall := s.projection.items.filterMap (·.sum?)

/-- The predicates of a query, that on the joined tuples first. -/
def predicates (s : Statement) : List Expr :=
  s.selection.toList ++ s.joins.filterMap (·.constraint)

end Statement

end CsvQuery
