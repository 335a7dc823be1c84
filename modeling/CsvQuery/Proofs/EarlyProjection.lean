import CsvQuery.Proofs.Finish
import CsvQuery.Proofs.StableSort

/-!
# A base table cut down early

The planner may show only the items of a statement of each row of its base
table before it applies any predicate or makes any join. A plan that does so
only in the end gives the same tuples in the same order.

The tuples of both plans are *alike*, one by one: the columns that the statement
reads stand for the same values, and its items are found with the same values
(`Statement.Alike`). A row of the base table is like what is shown of it, since
all that is read are columns of that table among the items; putting a row of
another table behind two tuples that are alike keeps them so; and groups, order
and the items in the end cannot tell them apart.

* `Statement.alike_pick`: a row of the base table and what is shown of it.
* `Statement.forall₂_grouping`, `Statement.forall₂_ordering`: groups and order.
* `Statement.rows_plan`: the tuples of any plan, cut down early or not.
* `Statement.earlyProjection_eq_late`: both plans give the same tuples.
-/

namespace CsvQuery

open List (Forall₂)

open CsvQuery.Expr (allHold)

/-- Lists made of one list by two functions are related if their members are. -/
theorem forall₂_map {α β γ : Type} {R : β → γ → Prop} {f : α → β} {g : α → γ} {xs : List α}
    (h : ∀ x ∈ xs, R (f x) (g x)) : Forall₂ R (xs.map f) (xs.map g) :=
  List.forall₂_map_left_iff.2 (List.forall₂_map_right_iff.2 (List.forall₂_same.2 h))

/-! ## Groups of tuples with the same keys -/

namespace Aggregate

variable {R : Tuple → Tuple → Prop} {columns : List ColumnRef} {ts us : List Tuple}

theorem key?_congr {t u : Tuple} (h : ∀ c ∈ columns, t.lookup c = u.lookup c) :
    key? columns t = key? columns u := by
  induction columns with
  | nil => rfl
  | cons c columns ih =>
    have hrest : columns.mapM t.lookup = columns.mapM u.lookup :=
      ih fun c' hc' => h c' (List.mem_cons_of_mem _ hc')
    rw [key?, key?, List.mapM_cons, List.mapM_cons, h c List.mem_cons_self, hrest]

/-- Groups without sums of tuples with the same keys, one by one, are such tuples. -/
theorem forall₂_summaries (hR : ∀ t u, R t u → ∀ c ∈ columns, t.lookup c = u.lookup c)
    (h : Forall₂ R ts us) : Forall₂ R (summaries columns [] ts) (summaries columns [] us) := by
  have hkey : ∀ t u, R t u → key? columns t = key? columns u := fun t u htu =>
    key?_congr (hR t u htu)
  have hkeys : ts.filterMap (key? columns) = us.filterMap (key? columns) := by
    induction h with
    | nil => rfl
    | cons htu _ ih => rw [List.filterMap_cons, List.filterMap_cons, hkey _ _ htu, ih]
  have hgroup : ∀ key, Forall₂ R (group columns ts key) (group columns us key) := fun key =>
    List.rel_filter (fun t u htu => by simp only [hkey t u htu]) h
  have hsummary : ∀ members : List Tuple, summary? [] members = members.head? := by
    intro members
    cases members with
    | nil => rfl
    | cons t members => exact congrArg (fun as => some (Tuple.mk as)) (List.append_nil _)
  rw [summaries, summaries, groups, groups, hkeys]
  refine List.rel_filterMap (R := Forall₂ R) (fun members members' hm => ?_) ?_
  · rw [hsummary, hsummary]
    cases hm with
    | nil => exact .none
    | cons htu _ => exact .some htu
  · exact forall₂_map fun key _ => hgroup key

end Aggregate

namespace Statement

variable {k : Catalog} {files : Files} {s : Statement}

/-! ## Statements that cut down their base table -/

/-- The items of a statement that cuts down its base table are columns of that table. -/
theorem item_of_early (early : s.isProjectedEarly = true) {item : SelectItem}
    (hitem : item ∈ s.projection.items) : ∃ c, item = .column c ∧ c.table = some s.base := by
  rw [isProjectedEarly, Bool.and_eq_true, Bool.and_eq_true] at early
  have hof := List.all_eq_true.1 early.1.2 item hitem
  cases item with
  | column c => exact ⟨c, rfl, of_decide_eq_true hof⟩
  | sum call => exact absurd hof Bool.false_ne_true

/-- What a statement that cuts down its base table reads are columns of that table among its
    items. -/
theorem mem_items_of_early (early : s.isProjectedEarly = true) {c : ColumnRef}
    (hc : c ∈ s.columnsRead) :
    SelectItem.column c ∈ s.projection.items ∧ c.table = some s.base := by
  have hread := early
  rw [isProjectedEarly, Bool.and_eq_true] at hread
  have hitem := List.contains_iff_mem.1 (List.all_eq_true.1 hread.2 c hc)
  obtain ⟨c', heq, htable⟩ := item_of_early early hitem
  exact ⟨hitem, SelectItem.column.inj heq ▸ htable⟩

/-- A statement that cuts down its base table shows no sums. -/
theorem sums_of_early (early : s.isProjectedEarly = true) : s.sums = [] := by
  refine List.filterMap_eq_nil_iff.2 fun item hitem => ?_
  obtain ⟨c, rfl, _⟩ := item_of_early early hitem
  rfl

theorem tuple_of_early (early : s.isProjectedEarly = true) (t : Tuple) :
    s.projection.tuple t = Projection.pick s.projection.items t := by
  rw [isProjectedEarly, Bool.and_eq_true, Bool.and_eq_true, Bool.not_eq_true'] at early
  exact if_neg (Bool.eq_false_iff.1 early.1.1)

theorem mem_columnsRead {e : Expr} (he : e ∈ s.conjuncts) {c : ColumnRef} (hc : c ∈ e.columns) :
    c ∈ s.columnsRead := by
  obtain ⟨p, hp, he⟩ := List.mem_flatMap.1 he
  refine List.mem_append_left _ (List.mem_append_left _ (List.mem_flatMap.2 ⟨p, hp, ?_⟩))
  exact Expr.columns_of_mem_conjuncts he hc

/-- All predicates of a statement that cuts down its base table are on that table alone. -/
theorem isAtBase_of_early (early : s.isProjectedEarly = true) {e : Expr} (he : e ∈ s.conjuncts) :
    isAtBase s.base e = true :=
  Placement.isAtBase_iff.2 fun _ hc =>
    ⟨s.base, List.mem_singleton_self _, (mem_items_of_early early (mem_columnsRead he hc)).2⟩

/-- The joined tuples of such a statement are the combinations of the tuples of its base table on
    which all of its predicates hold. -/
theorem rows_joinedOnto_of_early (stats : Statistics) (early : s.isProjectedEarly = true)
    (base : Plan) :
    (s.joinedOnto stats base).rows k files =
      k.extended files ((base.rows k files).filter (allHold s.conjuncts))
        ((s.order stats).map (·.table)) := by
  have hbase : s.conjuncts.filter (isAtBase s.base) = s.conjuncts :=
    List.filter_eq_self.2 fun e he => isAtBase_of_early early he
  have hwaiting : s.waiting = [] := List.filter_eq_nil_iff.2 fun e he hnot => by
    rw [isAtBase_of_early early he] at hnot
    exact Bool.false_ne_true hnot
  rw [joinedOnto, hwaiting, hbase, Plan.value_joinAll_nil, Plan.rows_filterBy, Plan.rows_crossed,
    Plan.rows_filterBy]
  exact List.filter_true _

/-! ## Tuples that are alike -/

/-- Two tuples give the same values to all columns that a statement reads and to all of its
    items. -/
structure Alike (s : Statement) (t u : Tuple) : Prop where
  read : ∀ c ∈ s.columnsRead, t.lookup c = u.lookup c
  found : ∀ item ∈ s.projection.items, t.find? item.name = u.find? item.name

/-- What is shown of a row of the base table is like the row. -/
theorem alike_pick (early : s.isProjectedEarly = true) {u : Tuple} (hu : u ∈ k.rows files s.base) :
    s.Alike (Projection.pick s.projection.items u) u where
  read c hc := by
    -- All attributes are of the base table, so that a column of it is found by its name alone.
    obtain ⟨hitem, hbase⟩ := mem_items_of_early early hc
    have hu : ∀ a ∈ u.attributes, a.table = s.base := fun a ha => Catalog.table_of_mem_rows hu ha
    have hpick : ∀ a ∈ (Projection.pick s.projection.items u).attributes, a.table = s.base := by
      intro a ha
      obtain ⟨item, _, hfound⟩ := List.mem_filterMap.1 ha
      exact hu a (List.mem_of_find?_eq_some hfound)
    rw [Tuple.lookup_eq_find? hbase fun a ha _ => hpick a ha,
      Tuple.lookup_eq_find? hbase fun a ha _ => hu a ha]
    exact congrArg _ (Projection.find?_pick hitem u)
  found item hitem := Projection.find?_pick hitem u

namespace Alike

variable {t u : Tuple}

theorem merge (h : s.Alike t u) (v : Tuple) : s.Alike (t.merge v) (u.merge v) where
  read c hc := by rw [Tuple.lookup_merge, Tuple.lookup_merge, h.read c hc]
  found item hitem := by rw [Tuple.find?_merge, Tuple.find?_merge, h.found item hitem]

theorem allHold (h : s.Alike t u) : Expr.allHold s.conjuncts t = Expr.allHold s.conjuncts u :=
  Expr.allHold_congr fun _ he => Expr.holds_congr fun c hc => h.read c (mem_columnsRead he hc)

theorem pick_eq (h : s.Alike t u) :
    Projection.pick s.projection.items t = Projection.pick s.projection.items u :=
  congrArg Tuple.mk (List.filterMap_congr h.found)

end Alike

variable {ts us : List Tuple}

/-- Rows of more tables behind tuples that are alike, one by one, keep them so. -/
theorem forall₂_extended (k : Catalog) (files : Files) (names : List String)
    (h : Forall₂ s.Alike ts us) :
    Forall₂ s.Alike (k.extended files ts names) (k.extended files us names) := by
  induction names generalizing ts us with
  | nil => exact h
  | cons name names ih =>
    exact ih (List.rel_flatMap h fun t u htu => forall₂_map fun v _ => htu.merge v)

section
variable {R : Tuple → Tuple → Prop}

/-- Tuples that are alike, one by one, make groups that are alike. -/
theorem forall₂_grouping (hsums : s.sums = []) (hR : ∀ t u, R t u → s.Alike t u)
    (h : Forall₂ R ts us) : Forall₂ R (s.grouping ts) (s.grouping us) := by
  rw [grouping, grouping, hsums]
  split
  · exact h
  · refine Aggregate.forall₂_summaries (fun t u htu c hc => (hR t u htu).read c ?_) h
    exact List.mem_append_left _ (List.mem_append_right _ hc)

/-- Tuples that are alike, one by one, are put in the same order. -/
theorem forall₂_ordering (hR : ∀ t u, R t u → s.Alike t u) (h : Forall₂ R ts us) :
    Forall₂ R (s.ordering ts) (s.ordering us) := by
  rw [ordering, ordering]
  split
  · exact h
  · refine Sort.forall₂_sorted (fun t u htu c hc => (hR t u htu).read c ?_) h
    exact List.mem_append_right _ hc

end

/-! ## Both plans -/

/-- The plan of a statement that shows its items in the end only. -/
def projectedLate (stats : Statistics) (s : Statement) : Plan :=
  s.finished (s.joinedOnto stats (.scan s.base))

/-- The tuples of the base table that are left when the predicates have been applied, cut down and
    not. -/
theorem forall₂_base (k : Catalog) (files : Files) (early : s.isProjectedEarly = true) :
    Forall₂ (fun t u => s.Alike t u ∧ t = s.projection.tuple u)
      (((k.rows files s.base).map s.projection.tuple).filter (allHold s.conjuncts))
      ((k.rows files s.base).filter (allHold s.conjuncts)) := by
  refine List.rel_filter (fun t u htu => by simp only [htu.1.allHold]) ?_
  refine List.forall₂_map_left_iff.2 (List.forall₂_same.2 fun u hu => ⟨?_, rfl⟩)
  rw [tuple_of_early early]
  exact alike_pick early hu

/-- The plan of a statement that cuts down its base table has the tuples of the plan that shows the
    items in the end only. -/
theorem rows_plan_of_early (stats : Statistics) (early : s.isProjectedEarly = true) :
    (s.plan stats).value.rows k files = (s.projectedLate stats).rows k files := by
  have hscan : s.baseScan.value = .project s.projection (.scan s.base) := by
    rw [baseScan, if_pos early]
  have hbase := forall₂_base k files early
  rw [projectedLate, rows_finished, finish, value_plan, hscan, rows_thinnedOut, projected_eq,
    early, Bool.true_and]
  refine congrArg s.thinning ?_
  split
  · -- There are no joins, and the tuples are left as they have been cut down.
    rename_i hnone
    have horder : s.order stats = [] := by
      have hperm := s.order_perm stats
      rw [List.isEmpty_iff.1 hnone] at hperm
      exact hperm.eq_nil
    have hresult := forall₂_ordering (fun _ _ h => h.1)
      (forall₂_grouping (sums_of_early early) (fun _ _ h => h.1) hbase)
    rw [rows_ordered, rows_grouped, rows_joinedOnto_of_early stats early,
      rows_joinedOnto_of_early stats early, horder]
    have heq := List.forall₂_map_right_iff.2 (hresult.imp fun _ _ h => h.2)
    rwa [List.forall₂_eq_eq_eq] at heq
  · rw [rows_shown, rows_ordered, rows_grouped, rows_joinedOnto_of_early stats early,
      rows_joinedOnto_of_early stats early]
    have hjoined := forall₂_extended k files ((s.order stats).map (·.table))
      (hbase.imp fun _ _ h => h.1)
    have hresult := forall₂_ordering (fun _ _ h => h)
      (forall₂_grouping (sums_of_early early) (fun _ _ h => h) hjoined)
    have htuple : ∀ t u, s.Alike t u → s.projection.tuple t = s.projection.tuple u := by
      intro t u htu
      rw [tuple_of_early early, tuple_of_early early, htu.pick_eq]
    have heq := List.rel_map htuple hresult
    rwa [List.forall₂_eq_eq_eq] at heq

/-- Whether the base table is cut down early or not, the plan of a statement has what the statement
    makes of the combinations of rows on which all of its predicates hold. -/
theorem rows_plan (k : Catalog) (files : Files) (stats : Statistics) (s : Statement) :
    (s.plan stats).value.rows k files = s.finish (s.selected k files stats) := by
  rw [selected, ← rows_joinedOnto, ← rows_finished]
  cases early : s.isProjectedEarly with
  | true => exact rows_plan_of_early stats early
  | false => rw [value_plan_late stats early]

/-- Over sound tables, the plan of a statement that cuts down its base table early gives the same
    tuples in the same order as the plan that shows the items in the end only. -/
theorem earlyProjection_eq_late (stats : Statistics) (h : ∀ name ∈ s.tables, k.IsSound files name)
    (early : s.isProjectedEarly = true) :
    ∃ ts, ((s.plan stats).value.tuples? k files).result = .ok ts ∧
      ((s.projectedLate stats).tuples? k files).result = .ok ts := by
  refine ⟨(s.plan stats).value.rows k files, ?_, ?_⟩
  · rw [result_plan stats h, sums_of_early early]
    rfl
  · rw [rows_plan_of_early stats early, projectedLate, result_finished stats h
      (tables_joinedOnto stats s _) (checkSums_joinedOnto stats s _), sums_of_early early,
      rows_finished]
    rfl

end Statement

namespace Sample

/-- `SELECT DISTINCT R.a, R.c, R.b, R.a FROM R JOIN S ON R.a <= 3 WHERE R.b < 9 GROUP BY R.b
    ORDER BY R.a`: both tables have a column `a`, one item is shown twice, and one is no column of
    `R` but has the name of one of `S`. -/
def cutDown : Statement where
  base := "R"
  joins := [⟨"S", some (.compare (.column ⟨some "R", "a"⟩) .atMost (.literal (.int 3)))⟩]
  selection := some (.compare (.column ⟨some "R", "b"⟩) .less (.literal (.int 9)))
  projection := .list [.column ⟨some "R", "a"⟩, .column ⟨some "R", "c"⟩, .column ⟨some "R", "b"⟩,
    .column ⟨some "R", "a"⟩]
  groupBy := [⟨some "R", "b"⟩]
  orderBy := [⟨some "R", "a"⟩]
  distinct := true

theorem cutDown_earlyProjection :
    (∀ name ∈ cutDown.tables, catalog.IsSound files name) ∧ cutDown.isProjectedEarly = true ∧
    ((cutDown.joinedOnto .empty cutDown.baseScan.value).rows catalog files).length = 6 ∧
    ∃ ts, ((cutDown.plan .empty).value.tuples? catalog files).result = .ok ts ∧
      ((cutDown.projectedLate .empty).tuples? catalog files).result = .ok ts :=
  have early : cutDown.isProjectedEarly = true := by decide
  ⟨isSound, early, by decide +kernel, Statement.earlyProjection_eq_late .empty isSound early⟩

end Sample

end CsvQuery
