import CsvQuery.Proofs.Finish

/-!
# Predicates applied early

The planner applies each part of the predicates as soon as its tables have been
joined. A naive plan makes the same joins without any condition and applies all
predicates at once above them. Both give the same tuples in the same order.

* `Statement.naive`: that plan.
* `Statement.pushdown_eq_naive`: both give the same tuples, or the same failure.
-/

namespace CsvQuery

namespace Statement

/-- The plan of a statement that joins the whole tables, in the order that the planner chooses, and
    then applies all predicates at once. -/
def naive (stats : Statistics) (s : Statement) : Plan :=
  s.finished (.filter (Expr.conjoin? s.predicates) ((Plan.scan s.base).crossed (s.order stats)))

variable {k : Catalog} {files : Files} {s : Statement}

/-- Over sound tables, the plan of a statement whose base table is not cut down early gives the
    same tuples in the same order as the naive plan. It gives tuples if the sums of the statement
    can be taken, and else both fail in the same way. -/
theorem pushdown_eq_naive (stats : Statistics) (h : ∀ name ∈ s.tables, k.IsSound files name)
    (late : s.isProjectedEarly = false) :
    ((s.plan stats).value.tuples? k files).result = ((s.naive stats).tuples? k files).result ∧
    (SumCall.check s.sums = .ok () →
      ∃ ts, ((s.plan stats).value.tuples? k files).result = .ok ts) := by
  have hrows : (s.joinedOnto stats (.scan s.base)).rows k files =
      (Plan.filter (Expr.conjoin? s.predicates)
        ((Plan.scan s.base).crossed (s.order stats))).rows k files := by
    rw [rows_joinedOnto, Plan.rows, Plan.rows_crossed, Condition.keeps_conjoin?]
    exact List.filter_congr fun t _ => Expr.allHold_flatMap_conjuncts s.predicates t
  have hplan : ((s.plan stats).value.tuples? k files).result =
      (SumCall.check s.sums).map fun _ =>
        s.finish ((s.joinedOnto stats (.scan s.base)).rows k files) := by
    rw [result_plan stats h, value_plan_late stats late, rows_finished]
  refine ⟨?_, fun hs => ⟨_, by rw [hplan, hs]; rfl⟩⟩
  rw [hplan, hrows]
  exact (result_finished stats h (Plan.tables_crossed _ _) (Plan.checkSums_crossed _ _)).symm

end Statement

namespace Sample

/-- `SELECT b, c FROM R JOIN S ON R.a <= S.a, R WHERE c < 7 AND S.a = 3`: the table `R` is listed
    twice, and `c` does not name its table. -/
def listedTwice : Statement where
  base := "R"
  joins := [⟨"S", some (.compare (.column ⟨some "R", "a"⟩) .atMost (.column ⟨some "S", "a"⟩))⟩,
    ⟨"R", none⟩]
  selection := some (.and (.compare (.column ⟨none, "c"⟩) .less (.literal (.int 7)))
    (.compare (.column ⟨some "S", "a"⟩) .equal (.literal (.int 3))))
  projection := .list [.column ⟨none, "b"⟩, .column ⟨none, "c"⟩]
  groupBy := []
  orderBy := []
  distinct := false

theorem listedTwice_pushdown :
    (∀ name ∈ listedTwice.tables, catalog.IsSound files name) ∧
    listedTwice.isProjectedEarly = false ∧
    (listedTwice.naive .empty).rows catalog files =
      [⟨[⟨"R", "b", 2⟩, ⟨"S", "c", 5⟩]⟩, ⟨[⟨"R", "b", 2⟩, ⟨"S", "c", 5⟩]⟩,
        ⟨[⟨"R", "b", 4⟩, ⟨"S", "c", 5⟩]⟩, ⟨[⟨"R", "b", 4⟩, ⟨"S", "c", 5⟩]⟩] ∧
    ((listedTwice.plan .empty).value.tuples? catalog files).result =
      ((listedTwice.naive .empty).tuples? catalog files).result ∧
    ∃ ts, ((listedTwice.plan .empty).value.tuples? catalog files).result = .ok ts :=
  have h := @Statement.pushdown_eq_naive catalog files listedTwice .empty (by decide) rfl
  ⟨by decide, rfl, by decide +kernel, h.1, h.2 rfl⟩

end Sample

end CsvQuery
