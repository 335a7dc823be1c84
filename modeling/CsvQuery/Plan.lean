import CsvQuery.Cursor.Aggregate
import CsvQuery.Cursor.Distinct
import CsvQuery.Cursor.Join
import CsvQuery.Cursor.Project
import CsvQuery.Cursor.Scan
import CsvQuery.Cursor.Sort

/-!
# Plans

A plan is a tree of operations on tuples. Opening it reads what must be known before the first
tuple can be given: groups, sorted tuples and tuples without repeats.

* `Plan.State`, `Plan.cursor`: the cursor over the tuples of a plan.
* `Plan.open`: its first state.
* `Opened`: a plan that has been opened, with its state.
-/

namespace CsvQuery

/-- A tree of operations on tuples. -/
inductive Plan
  /-- The given tuples. -/
  | tuples (rows : List Tuple)
  /-- The rows of the table of a name. -/
  | scan (table : String)
  | filter (condition : Condition) (child : Plan)
  | project (projection : Projection) (child : Plan)
  | join (condition : Condition) (left right : Plan)
  | aggregate (columns : List ColumnRef) (sums : List SumCall) (child : Plan)
  | sort (keys : List ColumnRef) (child : Plan)
  | distinct (key : ColumnRef) (child : Plan)
  deriving DecidableEq, Repr

namespace Plan

/-- The states of the cursor of a plan. -/
def State : Plan → Type
  | tuples _ | sort .. | distinct .. => Replay
  | scan _ => Scan
  | filter _ child | project _ child => child.State
  | join _ left right => Join.State left.State right.State
  | aggregate _ _ child => Aggregate.State child.State

/-- The cursor over the tuples of a plan. -/
def cursor : (p : Plan) → Cursor p.State
  | tuples _ | sort .. | distinct .. => Replay.cursor
  | scan _ => Scan.cursor
  | filter condition child => Filter.cursor condition child.cursor
  | project projection child => Project.cursor projection child.cursor
  | join condition left right => Join.cursor condition left.cursor right.cursor
  | aggregate columns sums child => Aggregate.cursor columns sums child.cursor

/-- The first state of the cursor of a plan. Children come before their parents, from left to
    right. -/
def «open» (catalog : Catalog) (files : Files) : (p : Plan) → Run p.State
  | tuples rows => pure (Replay.start rows)
  | scan table => ExceptT.mk (pure (Scan.open catalog files table))
  | filter _ child | project _ child => child.open catalog files
  | join _ left right => do
    let l ← left.open catalog files
    let r ← right.open catalog files
    return .start l r
  | aggregate columns sums child => do
    Aggregate.open columns sums child.cursor files (← child.open catalog files)
  | sort keys child => do Sort.open keys child.cursor files (← child.open catalog files)
  | distinct key child => do Distinct.open key child.cursor files (← child.open catalog files)

end Plan

/-- A plan that has been opened, with the state of its cursor. -/
structure Opened where
  plan : Plan
  state : plan.State

namespace Opened

/-- Opens a plan. -/
def ofPlan (catalog : Catalog) (files : Files) (plan : Plan) : Run Opened := do
  return ⟨plan, ← plan.open catalog files⟩

/-- Pulls the next tuple. -/
def next (files : Files) (o : Opened) : Reply (Option Tuple) Opened :=
  (o.plan.cursor.next files o.state).mapState (⟨o.plan, ·⟩)

/-- Goes back to the first tuple. -/
def reset (files : Files) (o : Opened) : Reply Unit Opened :=
  (o.plan.cursor.reset files o.state).mapState (⟨o.plan, ·⟩)

/-- Pulls all tuples up to the end. -/
def drain (files : Files) (o : Opened) : Reply (List Tuple) Opened :=
  (o.plan.cursor.drain files o.state).mapState (⟨o.plan, ·⟩)

end Opened

end CsvQuery
