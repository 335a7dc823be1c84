import CsvQuery.QueryError
import CsvQuery.Statement

/-!
# Notices

What happens along the way of a query and does not stop it is told by notices, in the order in
which it happens.

* `Notice`: one such event, with its message.
* `Logged`: a value together with the notices that its computation gave.
* `Run`: a computation that gives notices and may fail.
-/

namespace CsvQuery

/-- An event that does not stop a query. -/
inductive Notice
  | catalogLoaded (tables : Nat) (folder : String)
  | schemaLineIgnored (line : String)
  | statisticsComputed (table : String) (rows : Nat)
  | projectedEarly (table : String)
  | pushedDown (predicate : Expr) (table : String)
  | joinOrder (base : String) (joined : List String)
  | appliedAfterJoins (predicate : Expr)
  | produced (tuples : Nat)
  /-- A column of an expression is not in a tuple. -/
  | columnMissing (column : ColumnRef) (tuple : Tuple)
  /-- An operator gives no value for a tuple: a division by zero. -/
  | notEvaluated (e : Expr) (tuple : Tuple)
  | notPredicate (e : Expr)
  | itemMissing (item : SelectItem) (tuple : Tuple)
  | leftOutOfGroups (column : ColumnRef) (tuple : Tuple)
  | leftOutOfSum (column : ColumnRef) (tuple : Tuple)
  | sortKeyIgnored (column : ColumnRef) (tuple : Tuple)
  | leftOutOfDistinct (column : ColumnRef) (tuple : Tuple)
  deriving DecidableEq, Repr

namespace Notice

/-- Whether a notice tells of something that the query did not expect. -/
def isWarning : Notice → Bool
  | catalogLoaded .. | statisticsComputed .. | projectedEarly _ | pushedDown .. | joinOrder ..
  | appliedAfterJoins _ | produced _ => false
  | schemaLineIgnored _ | columnMissing .. | notEvaluated .. | notPredicate _ | itemMissing ..
  | leftOutOfGroups .. | leftOutOfSum .. | sortKeyIgnored .. | leftOutOfDistinct .. => true

/-- The message about a column that is not in a tuple. -/
def missingText (c : ColumnRef) (t : Tuple) : String := (QueryError.columnMissing c t).message

/-- The message of a notice. -/
def message : Notice → String
  | catalogLoaded tables folder =>
    "Loaded catalog with " ++ toString tables ++ " tables from " ++ folder
  | schemaLineIgnored line => "Invalid schema line: " ++ line
  | statisticsComputed table rows =>
    "Computed statistics for " ++ table ++ " (" ++ toString rows ++ " rows)"
  | projectedEarly table => "Projecting " ++ table ++ " early"
  | pushedDown predicate table => "Pushing " ++ predicate.render ++ " down to " ++ table
  | joinOrder base joined => "Join order: " ++ base ++ " then " ++ ", ".intercalate joined
  | appliedAfterJoins predicate => "Applying " ++ predicate.render ++ " after all joins"
  | produced tuples => "Query produced " ++ toString tuples ++ " tuples"
  | columnMissing c t => missingText c t
  | notEvaluated e t => "Could not evaluate " ++ e.render ++ " for tuple (" ++ t.render ++ ")"
  | notPredicate e => "Expression " ++ e.render ++ " is not a predicate"
  | itemMissing item t =>
    ErrorKind.lookup.heading ++ "Projected item " ++ item.render ++ " not found in tuple ("
      ++ t.render ++ ")"
  | leftOutOfGroups c t => "Skipping tuple while grouping: " ++ missingText c t
  | leftOutOfSum c t => "Skipping tuple in SUM: " ++ missingText c t
  | sortKeyIgnored c t => "Sort key ignored: " ++ missingText c t
  | leftOutOfDistinct c t => "Dropping tuple from distinct: " ++ missingText c t

end Notice

/-- A value with the notices given on the way to it, the first one first. -/
structure Logged (α : Type) where
  value : α
  notices : List Notice

namespace Logged

/-- A computation goes on with the value of another one, after its notices. -/
protected def bind {α β : Type} (x : Logged α) (f : α → Logged β) : Logged β :=
  ⟨(f x.value).value, x.notices ++ (f x.value).notices⟩

instance : Monad Logged where
  pure a := ⟨a, []⟩
  bind := Logged.bind

/-- Gives some notices. -/
def tell (notices : List Notice) : Logged Unit := ⟨(), notices⟩

end Logged

/-- A computation that gives notices and may fail. -/
abbrev Run := ExceptT QueryError Logged

/-- Gives some notices in a computation that may fail. -/
def Run.tell (notices : List Notice) : Run Unit := ExceptT.lift (Logged.tell notices)

end CsvQuery
