import CsvQuery.Proofs.EarlyProjection

/-!
# Where predicates are written

The parts of the predicates of a statement form one pool, whether they are
written with a join or as the selection, in whatever order, nesting and number.
All that the planner asks of the pool is which parts are members of it: the
rank of a join is a maximum over members, and a tuple is kept if all members
hold on it. Statements that differ only in how the same parts are distributed
therefore have plans with the same tuples in the same order, although the plans
may differ.

* `JoinOrder.forall₂_order`: the order of joins only depends on their tables and
  on the members of the pool.
* `Statement.result_of_same_conjuncts`: the same tuples, or the same failure.
-/

namespace CsvQuery

open List (Forall₂)

/-- A maximum over a list is bounded by what bounds its members. -/
theorem foldl_max_le {xs : List Nat} {a n : Nat} :
    xs.foldl max a ≤ n ↔ a ≤ n ∧ ∀ x ∈ xs, x ≤ n := by
  induction xs generalizing a with
  | nil => simp
  | cons x xs ih => simp [ih, and_assoc]

/-! ## The order of joins -/

namespace JoinOrder

/-- Lists whose members are related and have the same ranks have related picks, and leave related
    lists. -/
theorem forall₂_pick {α β : Type} {R : α → β → Prop} {rank : α → Nat} {rank' : β → Nat}
    (h : ∀ {a b}, R a b → rank a = rank' b) {a : α} {b : β} (hab : R a b) {xs : List α}
    {ys : List β} (hxs : Forall₂ R xs ys) :
    R (pick rank a xs).1 (pick rank' b ys).1 ∧
      Forall₂ R (pick rank a xs).2 (pick rank' b ys).2 := by
  induction hxs generalizing a b with
  | nil => exact ⟨hab, .nil⟩
  | cons hxy hxs ih =>
    obtain ⟨hbest, hrest⟩ := ih hxy
    -- Equal ranks make the same choice between the head and the best of the tail.
    rw [pick, pick]
    simp only [h hab, h hbest]
    split
    · exact ⟨hab, .cons hxy hxs⟩
    · exact ⟨hbest, .cons hab hrest⟩

/-- Joins of the same table. -/
def SameTable (j j' : JoinClause) : Prop := j.table = j'.table

theorem forall₂_sameTable {joins joins' : List JoinClause} :
    Forall₂ SameTable joins joins' ↔ joins.map (·.table) = joins'.map (·.table) := by
  rw [← List.forall₂_eq_eq_eq, List.forall₂_map_left_iff, List.forall₂_map_right_iff]
  rfl

variable {es es' : List Expr}

/-- The rank of a table is the same for predicates with the same members. -/
theorem rank_congr (h : ∀ e, e ∈ es ↔ e ∈ es') (stats : Statistics) (joined : List String)
    {j j' : JoinClause} (hj : SameTable j j') :
    rank stats es joined j = rank stats es' joined j' := by
  refine eq_of_forall_ge_iff fun n => ?_
  rw [rank, rank, foldl_max_le, foldl_max_le, hj]
  simp [h]

/-- Joins of the same tables are made in the same order, if the predicates have the same
    members. -/
theorem forall₂_order (h : ∀ e, e ∈ es ↔ e ∈ es') (stats : Statistics) (joined : List String)
    {joins joins' : List JoinClause} (hjoins : Forall₂ SameTable joins joins') :
    Forall₂ SameTable (order stats es joined joins) (order stats es' joined joins') := by
  fun_induction order stats es joined joins generalizing joins' with
  | case1 =>
    cases hjoins
    rw [order]
    exact .nil
  | case2 joined j rest best =>
    rename_i ih
    cases hjoins with
    | cons hj hrest =>
      obtain ⟨hbest, hothers⟩ :=
        forall₂_pick (R := SameTable) (rank_congr h stats joined) hj hrest
      rw [order]
      refine .cons hbest ?_
      -- The tables at hand are the same, too, when the next join is chosen.
      rw [← hbest]
      exact ih hothers

end JoinOrder

/-! ## Statements with the same parts -/

namespace Statement

variable {k : Catalog} {files : Files} {s s' : Statement}

/-- Statements on the same tables, whose predicates have the same parts, join them in the same
    order. -/
theorem tables_order (stats : Statistics) (ht : s.tables = s'.tables)
    (hc : ∀ e, e ∈ s.conjuncts ↔ e ∈ s'.conjuncts) :
    (s.order stats).map (·.table) = (s'.order stats).map (·.table) := by
  obtain ⟨hbase, hjoins⟩ := List.cons.inj ht
  have hwaiting : ∀ e, e ∈ s.waiting ↔ e ∈ s'.waiting := by
    intro e
    rw [waiting, waiting, List.mem_filter, List.mem_filter, hc, hbase]
  rw [order, order, joinOrder, joinOrder, hbase]
  exact JoinOrder.forall₂_sameTable.1
    (JoinOrder.forall₂_order hwaiting stats _ (JoinOrder.forall₂_sameTable.2 hjoins))

/-- Over sound tables, two statements on the same tables in the same order, that show, group, sort
    and thin out alike and whose predicates have the same parts, give the same tuples in the same
    order, however these parts are distributed between the selection and the joins. They give
    tuples if the sums of the statements can be taken, and else both fail in the same way. -/
theorem result_of_same_conjuncts (stats : Statistics)
    (h : ∀ name ∈ s.tables, k.IsSound files name) (ht : s.tables = s'.tables)
    (hp : s.projection = s'.projection) (hg : s.groupBy = s'.groupBy)
    (ho : s.orderBy = s'.orderBy) (hd : s.distinct = s'.distinct)
    (hc : ∀ e, e ∈ s.conjuncts ↔ e ∈ s'.conjuncts) :
    ((s.plan stats).value.tuples? k files).result =
      ((s'.plan stats).value.tuples? k files).result ∧
    (SumCall.check s.sums = .ok () →
      ∃ ts, ((s.plan stats).value.tuples? k files).result = .ok ts) := by
  have hkept : Expr.allHold s.conjuncts = Expr.allHold s'.conjuncts :=
    funext (Expr.allHold_of_mem_iff hc)
  have hselected : s.selected k files stats = s'.selected k files stats := by
    rw [selected, selected, combinations, combinations, tables_order stats ht hc,
      (List.cons.inj ht).1, hkept]
  have hsums : s.sums = s'.sums := by rw [sums, sums, hp]
  -- What is made of the joined tuples does not read the predicates.
  have hfinish : s.finish = s'.finish := by
    obtain ⟨_, _, _, _, _, _, _⟩ := s
    obtain ⟨_, _, _, _, _, _, _⟩ := s'
    cases hp; cases hg; cases ho; cases hd
    rfl
  rw [result_plan stats h, result_plan stats (ht ▸ h), rows_plan, rows_plan, hselected, hsums,
    hfinish]
  exact ⟨rfl, fun hs => ⟨_, by rw [hs]; rfl⟩⟩

end Statement

namespace Sample

/-- `SELECT R.b, S.c FROM R JOIN S WHERE R.a = S.a AND (S.c <= 6 AND R.b < 9)`. -/
def inSelection : Statement where
  base := "R"
  joins := [⟨"S", none⟩]
  selection := some (.and (.compare (.column ⟨some "R", "a"⟩) .equal (.column ⟨some "S", "a"⟩))
    (.and (.compare (.column ⟨some "S", "c"⟩) .atMost (.literal (.int 6)))
      (.compare (.column ⟨some "R", "b"⟩) .less (.literal (.int 9)))))
  projection := .list [.column ⟨some "R", "b"⟩, .column ⟨some "S", "c"⟩]
  groupBy := []
  orderBy := []
  distinct := false

/-- The same with all parts at the join in another order, one of them also as the selection. -/
def onJoins : Statement :=
  { inSelection with
    joins := [⟨"S", some (.and
      (.and (.compare (.column ⟨some "R", "b"⟩) .less (.literal (.int 9)))
        (.compare (.column ⟨some "S", "c"⟩) .atMost (.literal (.int 6))))
      (.compare (.column ⟨some "R", "a"⟩) .equal (.column ⟨some "S", "a"⟩)))⟩]
    selection := some (.compare (.column ⟨some "S", "c"⟩) .atMost (.literal (.int 6))) }

/-- Two nested conjunctions with a part in common have the parts of one. -/
theorem onJoins_result :
    (∀ name ∈ inSelection.tables, catalog.IsSound files name) ∧
    inSelection.tables = onJoins.tables ∧ inSelection.conjuncts ≠ onJoins.conjuncts ∧
    (∀ e, e ∈ inSelection.conjuncts ↔ e ∈ onJoins.conjuncts) ∧
    SumCall.check inSelection.sums = .ok () ∧
    (inSelection.plan .empty).value.rows catalog files =
      [⟨[⟨"R", "b", 2⟩, ⟨"S", "c", 6⟩]⟩, ⟨[⟨"R", "b", 4⟩, ⟨"S", "c", 5⟩]⟩] ∧
    ((inSelection.plan .empty).value.tuples? catalog files).result =
      ((onJoins.plan .empty).value.tuples? catalog files).result ∧
    ∃ ts, ((inSelection.plan .empty).value.tuples? catalog files).result = .ok ts := by
  have hconjuncts : ∀ e, e ∈ inSelection.conjuncts ↔ e ∈ onJoins.conjuncts := by
    intro e
    simp only [Statement.conjuncts, Statement.predicates, inSelection, onJoins, Expr.conjuncts,
      Option.toList_some, List.filterMap_cons, List.filterMap_nil, List.flatMap_cons,
      List.flatMap_nil, List.cons_append, List.nil_append, List.append_nil, List.mem_cons,
      List.not_mem_nil]
    tauto
  have hsound : ∀ name ∈ inSelection.tables, catalog.IsSound files name := isSound
  obtain ⟨hsame, hok⟩ := @Statement.result_of_same_conjuncts catalog files inSelection onJoins
    .empty hsound rfl rfl rfl rfl rfl hconjuncts
  exact ⟨hsound, rfl, by decide, hconjuncts, rfl, by decide +kernel, hsame, hok rfl⟩

end Sample

end CsvQuery
