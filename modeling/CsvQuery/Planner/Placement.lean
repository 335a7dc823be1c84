import CsvQuery.Statement

/-!
# Where the parts of a predicate are applied

All predicates of a statement, wherever they are written, are taken apart. Each part whose columns
name their tables is applied as soon as all of its tables have been joined; the others wait for the
end.

* `Statement.conjuncts`: the parts.
* `isAtBase`: the parts for the base table.
* `Placement.of`: what the next join takes of the parts that wait.
* `Statement.isProjectedEarly`: whether the base table can be cut down to the items to show.
-/

namespace CsvQuery

/-- Whether an item is a column of a table. -/
def SelectItem.isOf (table : String) : SelectItem → Bool
  | .column c => c.table = some table
  | .sum _ => false

namespace Statement

/-- The parts of all predicates of a statement. -/
def conjuncts (s : Statement) : List Expr := s.predicates.flatMap (·.conjuncts)

/-- The columns that a statement reads apart from the items that it shows. -/
def columnsRead (s : Statement) : List ColumnRef :=
  s.predicates.flatMap (·.columns) ++ s.groupBy ++ s.orderBy

/-- Whether nothing is lost when only the items to show are kept of the base table: they are
    columns of it, and nothing else is read. -/
def isProjectedEarly (s : Statement) : Bool :=
  !s.projection.isAll && s.projection.items.all (·.isOf s.base)
    && s.columnsRead.all fun c => s.projection.items.contains (.column c)

end Statement

/-- Whether a part can be applied to the base table: it names no other table, and no column
    without its table. -/
def isAtBase (base : String) (e : Expr) : Bool := e.isQualified && e.tables.all (· == base)

/-- What becomes of the parts that wait when one more table is joined. -/
structure Placement where
  /-- Those for the rows of the new table. -/
  right : List Expr
  /-- Those for the pairs of the join. -/
  join : List Expr
  /-- Those that go on waiting. -/
  later : List Expr
  deriving DecidableEq, Repr

namespace Placement

/-- Whether a part is for the rows of the new table alone. -/
def isRight (table : String) (e : Expr) : Bool := e.isQualified && e.tables == [table]

/-- Whether all tables of a part are at hand when a table is joined to others. -/
def isReady (joined : List String) (table : String) (e : Expr) : Bool :=
  e.isQualified && e.tables.all fun t => t == table || joined.contains t

/-- What becomes of the waiting parts when a table is joined to others. -/
def of (joined : List String) (table : String) (waiting : List Expr) : Placement where
  right := waiting.filter (isRight table)
  join := waiting.filter fun e => isReady joined table e && !isRight table e
  later := waiting.filter fun e => !isReady joined table e

end Placement

end CsvQuery
