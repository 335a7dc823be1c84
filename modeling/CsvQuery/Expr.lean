import CsvQuery.Names
import CsvQuery.Tuple
import CsvQuery.Value

/-!
# Expressions

Predicates and scalars of a query.

* `Expr.columns`, `Expr.tables`: what an expression reads.
* `Expr.conjuncts`, `Expr.conjoin?`: a conjunction taken apart, and put together again.
* `SumCall`: a sum over the tuples of a group.
-/

namespace CsvQuery

/-- How two values are compared. -/
inductive Comparison
  | equal
  | greater
  | less
  | atMost
  | atLeast
  | unequal
  deriving DecidableEq, Repr

/-- How two integers are combined. -/
inductive Arithmetic
  | add
  | subtract
  | multiply
  | divide
  deriving DecidableEq, Repr

/-- A predicate or a scalar. Nothing keeps the one from standing where the other is meant. -/
inductive Expr
  | literal (v : Value)
  | column (c : ColumnRef)
  | compare (left : Expr) (op : Comparison) (right : Expr)
  | and (left right : Expr)
  | arithmetic (left : Expr) (op : Arithmetic) (right : Expr)
  deriving DecidableEq, Repr

namespace Expr

/-- The column references of an expression, from left to right. -/
def columns : Expr → List ColumnRef
  | literal _ => []
  | column c => [c]
  | compare l _ r | and l r | arithmetic l _ r => l.columns ++ r.columns

/-- The tables that the columns of an expression name, in ascending order, each once. -/
def tables (e : Expr) : List String := Names.ofList (e.columns.filterMap (·.table))

/-- Whether every column of an expression names its table. -/
def isQualified (e : Expr) : Bool := e.columns.all (·.table.isSome)

/-- The parts of a conjunction that are no conjunctions themselves, from left to right. -/
def conjuncts : Expr → List Expr
  | and l r => l.conjuncts ++ r.conjuncts
  | e => [e]

/-- The conjunction of some expressions, nested to the left. None has no conjunction. -/
def conjoin? : List Expr → Option Expr
  | [] => none
  | e :: rest => some (rest.foldl and e)

end Expr

/-- The sum of an expression over the tuples of a group. -/
structure SumCall where
  argument : Expr
  deriving DecidableEq, Repr

end CsvQuery
