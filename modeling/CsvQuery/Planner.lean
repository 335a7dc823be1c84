import CsvQuery.Plan
import CsvQuery.Planner.JoinOrder
import CsvQuery.Planner.Placement

/-!
# From statements to plans

A plan is built from the base table upward: its rows, cut down to the items to show if nothing else
is read; the predicates on it; the joins, each with the predicates that its tables allow; what is
left of the predicates; the groups; the order; the items to show; and one tuple for each value of
the first item.

* `Statement.plan`: the plan of a statement.
-/

namespace CsvQuery

namespace Plan

/-- A plan under the conjunction of some predicates, if there are any, with a notice of it. -/
def filterBy (note : Expr → Notice) (predicates : List Expr) (child : Plan) : Logged Plan :=
  match Expr.conjoin? predicates with
  | none => pure child
  | some p => ⟨filter (some p) child, [note p]⟩

/-- A plan joined to the tables of some joins in order, and the predicates that still wait. -/
def joinAll (joined : List String) (waiting : List Expr) (root : Plan) :
    List JoinClause → Logged (Plan × List Expr)
  | [] => pure (root, waiting)
  | j :: rest => do
    let placed := Placement.of joined j.table waiting
    let right ← filterBy (.pushedDown · j.table) placed.right (scan j.table)
    joinAll (j.table :: joined) placed.later (join (Expr.conjoin? placed.join) root right) rest

end Plan

namespace Statement

/-- The column whose values are all different in the result of a statement with `DISTINCT`: that of
    the first item. The table of a column does not count, since items are found by name. -/
def distinctKey? (s : Statement) : Option ColumnRef :=
  match s.projection.items with
  | [] => none
  | .column c :: _ => some ⟨none, c.column⟩
  | .sum call :: _ => some call.output

/-- The rows of the base table, cut down if that loses nothing. -/
def baseScan (s : Statement) : Logged Plan :=
  if s.isProjectedEarly then ⟨.project s.projection (.scan s.base), [.projectedEarly s.base]⟩
  else pure (.scan s.base)

/-- The joined tuples of a statement that satisfy its predicates. -/
def joined (stats : Statistics) (s : Statement) : Logged Plan := do
  let waiting := s.conjuncts.filter fun e => !isAtBase s.base e
  let joins := joinOrder stats s.base s.joins waiting
  let base ← Plan.filterBy (.pushedDown · s.base) (s.conjuncts.filter (isAtBase s.base))
    (← s.baseScan)
  if !joins.isEmpty then Logged.tell [.joinOrder s.base (joins.map (·.table))]
  let (root, left) ← base.joinAll [s.base] waiting joins
  Plan.filterBy .appliedAfterJoins left root

/-- The groups of a plan, if a statement asks for them. -/
def grouped (s : Statement) (child : Plan) : Plan :=
  if s.groupBy.isEmpty && s.sums.isEmpty then child else .aggregate s.groupBy s.sums child

/-- The tuples of a plan in the order that a statement asks for. -/
def ordered (s : Statement) (child : Plan) : Plan :=
  if s.orderBy.isEmpty then child else .sort s.orderBy child

/-- The items to show of a plan, unless it has been cut down to them already. -/
def projected (s : Statement) (child : Plan) : Plan :=
  if s.projection.isAll || (s.isProjectedEarly && s.joins.isEmpty) then child
  else .project s.projection child

/-- A plan without repeats, if a statement asks for that and shows items. -/
def thinnedOut (s : Statement) (child : Plan) : Plan :=
  match s.distinct, s.distinctKey? with
  | true, some key => .distinct key child
  | _, _ => child

/-- The plan of a statement. -/
def plan (stats : Statistics) (s : Statement) : Logged Plan := do
  return s.thinnedOut (s.projected (s.ordered (s.grouped (← s.joined stats))))

end Statement

end CsvQuery
