import CsvQuery.Proofs.Joined

/-!
# From the joined tuples to the result

Above its joins, the plan of a statement makes groups, sorts, shows items and
drops repeats. What comes out is a function of the list of joined tuples alone
(`Statement.finish`), and only the sums of the statement can fail.

* `Statement.finished`: these operations on top of a plan.
* `Statement.rows_finished`, `Statement.checkSums_finished`: what they do to the
  tuples of the plan, and when they fail.
* `Statement.value_plan_late`: the plan of a statement in these terms, if its
  base table is not cut down early.
* `Statement.result_plan`: what pulling all tuples of a plan gives, or how it
  fails.
-/

namespace CsvQuery

/-! ## Tables and sums of the joins -/

namespace Plan

theorem tables_filterBy (note : Expr → Notice) (es : List Expr) (child : Plan) :
    (filterBy note es child).value.tables = child.tables := by
  cases es <;> rfl

theorem checkSums_filterBy (note : Expr → Notice) (es : List Expr) (child : Plan) :
    (filterBy note es child).value.checkSums = child.checkSums := by
  cases es <;> rfl

theorem tables_joinAll (joins : List JoinClause) (joined : List String) (waiting : List Expr)
    (root : Plan) :
    (joinAll joined waiting root joins).value.1.tables =
      root.tables ++ joins.map (·.table) := by
  induction joins generalizing joined waiting root with
  | nil => exact (List.append_nil _).symm
  | cons j joins ih =>
    refine (ih _ _ _).trans ?_
    rw [tables, tables_filterBy, List.append_assoc]
    rfl

theorem checkSums_joinAll (joins : List JoinClause) (joined : List String) (waiting : List Expr)
    (root : Plan) :
    (joinAll joined waiting root joins).value.1.checkSums = root.checkSums := by
  induction joins generalizing joined waiting root with
  | nil => rfl
  | cons j joins ih =>
    refine (ih _ _ _).trans ?_
    rw [checkSums, checkSums_filterBy]
    cases root.checkSums <;> rfl

theorem tables_crossed (root : Plan) (joins : List JoinClause) :
    (root.crossed joins).tables = root.tables ++ joins.map (·.table) := by
  induction joins generalizing root with
  | nil => exact (List.append_nil _).symm
  | cons j joins ih =>
    rw [crossed, ih, tables, List.append_assoc]
    rfl

theorem checkSums_crossed (root : Plan) (joins : List JoinClause) :
    (root.crossed joins).checkSums = root.checkSums := by
  induction joins generalizing root with
  | nil => rfl
  | cons j joins ih =>
    rw [crossed, ih, checkSums]
    cases root.checkSums <;> rfl

end Plan

namespace Statement

variable {k : Catalog} {files : Files} {s : Statement}

theorem tables_joinedOnto (stats : Statistics) (s : Statement) (base : Plan) :
    (s.joinedOnto stats base).tables = base.tables ++ (s.order stats).map (·.table) := by
  rw [joinedOnto, Plan.tables_filterBy, Plan.tables_joinAll, Plan.tables_filterBy]

theorem checkSums_joinedOnto (stats : Statistics) (s : Statement) (base : Plan) :
    (s.joinedOnto stats base).checkSums = base.checkSums := by
  rw [joinedOnto, Plan.checkSums_filterBy, Plan.checkSums_joinAll, Plan.checkSums_filterBy]

/-! ## Groups, order, items and repeats -/

/-- The tuples of groups, if a statement asks for them. -/
def grouping (s : Statement) (ts : List Tuple) : List Tuple :=
  if s.groupBy.isEmpty && s.sums.isEmpty then ts else Aggregate.summaries s.groupBy s.sums ts

/-- Tuples in the order that a statement asks for. -/
def ordering (s : Statement) (ts : List Tuple) : List Tuple :=
  if s.orderBy.isEmpty then ts else Sort.sorted s.orderBy ts

/-- Tuples without repeats, if a statement asks for that and shows items. -/
def thinning (s : Statement) (ts : List Tuple) : List Tuple :=
  match s.distinct, s.distinctKey? with
  | true, some key => Distinct.firsts key ts
  | _, _ => ts

/-- What a statement makes of its joined tuples. -/
def finish (s : Statement) (ts : List Tuple) : List Tuple :=
  s.thinning ((s.ordering (s.grouping ts)).map s.projection.tuple)

/-- A plan that shows the items of a statement, unless that shows every attribute. -/
def shown (s : Statement) (child : Plan) : Plan :=
  if s.projection.isAll then child else .project s.projection child

/-- The operations of a statement above its joins. -/
def finished (s : Statement) (root : Plan) : Plan :=
  s.thinnedOut (s.shown (s.ordered (s.grouped root)))

theorem rows_grouped (s : Statement) (child : Plan) :
    (s.grouped child).rows k files = s.grouping (child.rows k files) := by
  rw [grouped, grouping]
  split <;> rfl

theorem rows_ordered (s : Statement) (child : Plan) :
    (s.ordered child).rows k files = s.ordering (child.rows k files) := by
  rw [ordered, ordering]
  split <;> rfl

theorem rows_shown (s : Statement) (child : Plan) :
    (s.shown child).rows k files = (child.rows k files).map s.projection.tuple := by
  rw [shown]
  split
  · rename_i hall
    have hid : s.projection.tuple = id := funext fun t => if_pos hall
    rw [hid, List.map_id]
  · rfl

theorem rows_thinnedOut (s : Statement) (child : Plan) :
    (s.thinnedOut child).rows k files = s.thinning (child.rows k files) := by
  rw [thinnedOut, thinning]
  cases s.distinct <;> cases s.distinctKey? <;> rfl

/-- The tuples of a plan with the operations of a statement on top. -/
theorem rows_finished (s : Statement) (root : Plan) :
    (s.finished root).rows k files = s.finish (root.rows k files) := by
  rw [finished, rows_thinnedOut, rows_shown, rows_ordered, rows_grouped, finish]

theorem checkSums_thinnedOut (s : Statement) (child : Plan) :
    (s.thinnedOut child).checkSums = child.checkSums := by
  rw [thinnedOut]
  split <;> rfl

theorem checkSums_shown (s : Statement) (child : Plan) :
    (s.shown child).checkSums = child.checkSums := by
  rw [shown]
  split <;> rfl

theorem checkSums_ordered (s : Statement) (child : Plan) :
    (s.ordered child).checkSums = child.checkSums := by
  rw [ordered]
  split <;> rfl

theorem checkSums_grouped (s : Statement) {child : Plan} (h : child.checkSums = .ok ()) :
    (s.grouped child).checkSums = SumCall.check s.sums := by
  rw [grouped]
  split
  · rename_i hnone
    rw [Bool.and_eq_true, List.isEmpty_iff, List.isEmpty_iff] at hnone
    rw [h, hnone.2]
    rfl
  · rw [Plan.checkSums, h]
    rfl

/-- On top of a plan without sums, only the sums of the statement can fail. -/
theorem checkSums_finished (s : Statement) {root : Plan} (h : root.checkSums = .ok ()) :
    (s.finished root).checkSums = SumCall.check s.sums := by
  rw [finished, checkSums_thinnedOut, checkSums_shown, checkSums_ordered, checkSums_grouped s h]

theorem tables_thinnedOut (s : Statement) (child : Plan) :
    (s.thinnedOut child).tables = child.tables := by
  rw [thinnedOut]
  split <;> rfl

theorem tables_shown (s : Statement) (child : Plan) : (s.shown child).tables = child.tables := by
  rw [shown]
  split <;> rfl

theorem tables_ordered (s : Statement) (child : Plan) :
    (s.ordered child).tables = child.tables := by
  rw [ordered]
  split <;> rfl

theorem tables_grouped (s : Statement) (child : Plan) :
    (s.grouped child).tables = child.tables := by
  rw [grouped]
  split <;> rfl

theorem tables_finished (s : Statement) (root : Plan) : (s.finished root).tables = root.tables := by
  rw [finished, tables_thinnedOut, tables_shown, tables_ordered, tables_grouped]

/-! ## The plan of a statement -/

/-- The items are shown above the groups and the order, unless nothing else has been kept of the
    rows of the only table. -/
theorem projected_eq (s : Statement) (child : Plan) :
    s.projected child =
      if s.isProjectedEarly && s.joins.isEmpty then child else s.shown child := by
  rw [projected, shown]
  cases s.projection.isAll <;> cases s.isProjectedEarly && s.joins.isEmpty <;> rfl

theorem value_plan (stats : Statistics) (s : Statement) :
    (s.plan stats).value =
      s.thinnedOut (s.projected (s.ordered (s.grouped (s.joinedOnto stats s.baseScan.value)))) := by
  rw [← value_joined]
  rfl

/-- The plan of a statement whose base table is not cut down early. -/
theorem value_plan_late (stats : Statistics) (h : s.isProjectedEarly = false) :
    (s.plan stats).value = s.finished (s.joinedOnto stats (.scan s.base)) := by
  have hscan : s.baseScan.value = .scan s.base := by rw [baseScan, h]; rfl
  rw [value_plan, hscan, projected_eq, h]
  rfl

/-- A plan that scans the tables of a statement, in the order of its joins, scans sound tables if
    all of them are. -/
theorem isSound_of_mem_tables (stats : Statistics) (h : ∀ name ∈ s.tables, k.IsSound files name)
    {p : Plan} (hp : p.tables = s.base :: (s.order stats).map (·.table)) :
    ∀ name ∈ p.tables, k.IsSound files name := by
  intro name hname
  rw [hp] at hname
  exact h name ((((s.order_perm stats).map _).cons s.base).subset hname)

/-- What pulling all tuples gives of the operations of a statement on top of a plan without sums. -/
theorem result_finished (stats : Statistics) (h : ∀ name ∈ s.tables, k.IsSound files name)
    {root : Plan} (ht : root.tables = s.base :: (s.order stats).map (·.table))
    (hs : root.checkSums = .ok ()) :
    ((s.finished root).tuples? k files).result =
      (SumCall.check s.sums).map fun _ => s.finish (root.rows k files) := by
  rw [Plan.result_tuples? (isSound_of_mem_tables stats h ((tables_finished s root).trans ht)),
    checkSums_finished s hs, rows_finished]

/-- The plan of a statement scans its tables. -/
theorem tables_plan (stats : Statistics) (s : Statement) :
    (s.plan stats).value.tables = s.base :: (s.order stats).map (·.table) := by
  have hscan : s.baseScan.value.tables = [s.base] := by
    rw [baseScan]
    split <;> rfl
  have hproj : ∀ child, (s.projected child).tables = child.tables := by
    intro child
    rw [projected_eq]
    split
    · rfl
    · exact tables_shown s child
  rw [value_plan, tables_thinnedOut, hproj, tables_ordered, tables_grouped, tables_joinedOnto,
    hscan]
  rfl

/-- Only the sums of a statement can fail in its plan. -/
theorem checkSums_plan (stats : Statistics) (s : Statement) :
    (s.plan stats).value.checkSums = SumCall.check s.sums := by
  have hscan : s.baseScan.value.checkSums = .ok () := by
    rw [baseScan]
    split <;> rfl
  have hproj : ∀ child, (s.projected child).checkSums = child.checkSums := by
    intro child
    rw [projected_eq]
    split
    · rfl
    · exact checkSums_shown s child
  rw [value_plan, checkSums_thinnedOut, hproj, checkSums_ordered, checkSums_grouped s]
  rw [checkSums_joinedOnto, hscan]

/-- What pulling all tuples gives of the plan of a statement. -/
theorem result_plan (stats : Statistics) (h : ∀ name ∈ s.tables, k.IsSound files name) :
    ((s.plan stats).value.tuples? k files).result =
      (SumCall.check s.sums).map fun _ => (s.plan stats).value.rows k files := by
  rw [Plan.result_tuples? (isSound_of_mem_tables stats h (tables_plan stats s)), checkSums_plan]

end Statement

end CsvQuery
