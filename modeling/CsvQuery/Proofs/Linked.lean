import CsvQuery.Proofs.Distribution
import Mathlib.Combinatorics.SimpleGraph.Connectivity.Connected

/-!
# Joins of linked tables

A statement links two of its tables if one part of its predicates names these
two and no others. If the links connect all of its tables, every join of its
plan has a condition, whatever the statistics and however the joins are written:
no two tables are combined row by row.

The tables joined so far and the others are the two sides of a cut, and a
connected graph has an edge across it. So there is always a join that a
predicate links to the tables before it, and one of greatest rank is linked, too.
Its predicate cannot have been applied before, since it names the new table, and
it is no predicate on the new table alone; it is in the condition of the join.

* `Statement.graph`: the tables of a statement and their links.
* `Plan.joinConditions`: the conditions of the joins of a plan.
* `JoinOrder.IsLinked`: joins each of which is linked to the tables before it.
* `Statement.isLinked_order`: the joins of connected tables are, in the order in
  which they are made.
* `Plan.isSome_of_mem_joinConditions`: linked joins have conditions.
* `Statement.joinConditions_of_connected`: the joins of a plan of connected tables.
-/

namespace CsvQuery

/-! ## Ranks -/

namespace JoinOrder

variable {stats : Statistics} {es : List Expr} {joined : List String}

theorem one_le_spread (stats : Statistics) (e : Expr) : 1 ≤ spread stats e := by
  unfold spread
  split
  · split
    · exact Nat.le_max_left _ _
    · exact Nat.le_refl 1
  · exact Nat.le_refl 1

/-- A join has a rank above 0 if and only if a predicate links its table to those before it. -/
theorem rank_pos {j : JoinClause} :
    0 < rank stats es joined j ↔ ∃ e ∈ es, links joined j.table e = true := by
  have hzero : rank stats es joined j ≤ 0 ↔ ∀ e ∈ es, links joined j.table e = true →
      spread stats e ≤ 0 := by
    rw [rank, foldl_max_le, and_iff_right (Nat.le_refl 0), List.forall_mem_map]
    simp only [List.mem_filter, and_imp]
  rw [← Nat.not_le, hzero]
  push Not
  exact exists_congr fun e => and_congr_right fun _ =>
    and_iff_left_of_imp fun _ => one_le_spread stats e

/-- No member has a greater rank than the one that is picked. -/
theorem rank_le_rank_pick {α : Type} (rank : α → Nat) (a : α) (rest : List α) :
    ∀ b ∈ a :: rest, rank b ≤ rank (pick rank a rest).1 := by
  induction rest generalizing a with
  | nil => exact List.forall_mem_singleton.2 (Nat.le_refl _)
  | cons b rest ih =>
    rw [List.forall_mem_cons, pick]
    split
    · rename_i hle
      exact ⟨Nat.le_refl _, fun c hc => (ih b c hc).trans hle⟩
    · rename_i hlt
      exact ⟨Nat.le_of_not_le hlt, ih b⟩

/-- What a predicate that links a table names: that table, one of those before it, and no others. -/
theorem links_iff {table : String} {e : Expr} : links joined table e = true ↔
    table ∈ e.tables ∧ (∃ name ∈ e.tables, name ∈ joined) ∧
      ∀ name ∈ e.tables, name = table ∨ name ∈ joined := by
  rw [links, Bool.and_eq_true, Bool.and_eq_true, List.any_eq_true, List.all_eq_true, and_assoc]
  simp only [Bool.or_eq_true, beq_iff_eq, List.contains_iff_mem]

/-- Each of some joins is linked to the tables before it. -/
def IsLinked (es : List Expr) (joined : List String) : List JoinClause → Prop
  | [] => True
  | j :: rest => (∃ e ∈ es, links joined j.table e = true) ∧ IsLinked es (j.table :: joined) rest

end JoinOrder

/-! ## The graph of a statement -/

namespace Statement

open JoinOrder

variable {s : Statement}

/-- The tables of a statement, two of which are linked if a part of the predicates names these two
    and no others. -/
def graph (s : Statement) : SimpleGraph {name // name ∈ s.tables} where
  Adj a b := a ≠ b ∧ ∃ e ∈ s.conjuncts, ∀ name, name ∈ e.tables ↔ name = a.1 ∨ name = b.1
  symm := ⟨fun _ _ ⟨hne, e, he, hnames⟩ =>
    ⟨hne.symm, e, he, fun name => (hnames name).trans or_comm⟩⟩
  loopless := ⟨fun _ h => h.1 rfl⟩

/-- A part that names a table besides the base table waits. -/
theorem mem_waiting {e : Expr} {name : String} (he : e ∈ s.conjuncts) (hname : name ∈ e.tables)
    (hne : name ≠ s.base) : e ∈ s.waiting := by
  refine List.mem_filter.2 ⟨he, ?_⟩
  rw [Bool.not_eq_true', Bool.eq_false_iff]
  intro hbase
  have hwithin := (Placement.isWithin_iff.1 (Placement.isAtBase_iff.1 hbase)).2 name hname
  exact hne (List.mem_singleton.1 hwithin)

/-- Wherever connected tables are cut in two, with the base table on the one side, a predicate that
    waits links a join of the other side to the tables of the one. -/
theorem exists_links (hconn : s.graph.Connected) (hnodup : s.tables.Nodup) {joined : List String}
    {joins : List JoinClause} (hcut : (joined ++ joins.map (·.table)).Perm s.tables)
    (hbase : s.base ∈ joined) (hne : joins ≠ []) :
    ∃ j ∈ joins, ∃ e ∈ s.waiting, links joined j.table e = true := by
  have hapart : ∀ name ∈ joined, name ∉ joins.map (·.table) := fun name hname hmem =>
    (List.nodup_append.1 (hcut.symm.nodup hnodup)).2.2 name hname name hmem rfl
  obtain ⟨last, hlast⟩ := List.exists_mem_of_ne_nil joins hne
  have hother : last.table ∈ joins.map (·.table) := List.mem_map_of_mem hlast
  -- A walk from the base table to a join leaves the tables that are joined already.
  let start : {name // name ∈ s.tables} := ⟨s.base, List.mem_cons_self⟩
  let goal : {name // name ∈ s.tables} := ⟨last.table, hcut.subset (List.mem_append_right _ hother)⟩
  obtain ⟨walk⟩ := hconn.preconnected start goal
  obtain ⟨edge, -, hin, hout⟩ := walk.exists_boundary_dart {a | a.1 ∈ joined} hbase
    fun hmem => hapart _ hmem hother
  obtain ⟨-, e, he, hnames⟩ := edge.adj
  have hout : edge.snd.1 ∉ joined := hout
  obtain ⟨j, hj, htable⟩ := List.mem_map.1
    ((List.mem_append.1 (hcut.symm.subset edge.snd.2)).resolve_left hout)
  have hmem : edge.snd.1 ∈ e.tables := (hnames _).2 (.inr rfl)
  refine ⟨j, hj, e, mem_waiting he hmem fun heq => hout (heq ▸ hbase), links_iff.2 ⟨?_, ?_, ?_⟩⟩
  · exact htable ▸ hmem
  · exact ⟨edge.fst.1, (hnames _).2 (.inl rfl), hin⟩
  · intro name hname
    rcases (hnames name).1 hname with rfl | rfl
    · exact .inr hin
    · exact .inl htable.symm

/-- Connected tables are joined in an order in which each is linked to those before it. -/
theorem isLinked_order (hconn : s.graph.Connected) (hnodup : s.tables.Nodup) (stats : Statistics)
    {joined : List String} {joins : List JoinClause}
    (hcut : (joined ++ joins.map (·.table)).Perm s.tables) (hbase : s.base ∈ joined) :
    IsLinked s.waiting joined (JoinOrder.order stats s.waiting joined joins) := by
  fun_induction JoinOrder.order stats s.waiting joined joins with
  | case1 => trivial
  | case2 joined j rest best ih =>
    obtain ⟨linked, hmem, hlinked⟩ := exists_links hconn hnodup hcut hbase (List.cons_ne_nil j rest)
    refine ⟨?_, ih ?_ (List.mem_cons_of_mem _ hbase)⟩
    · exact rank_pos.1 ((rank_pos.2 hlinked).trans_le (rank_le_rank_pick _ j rest linked hmem))
    · -- The best join goes from the one side to the other.
      have hpick : (best.1.table :: best.2.map (·.table)).Perm ((j :: rest).map (·.table)) :=
        (pick_perm _ j rest).map JoinClause.table
      exact (List.perm_middle.symm.trans (hpick.append_left joined)).trans hcut

end Statement

/-! ## Conditions of joins -/

namespace Plan

/-- The conditions of the joins of a plan, children before their parents. -/
def joinConditions : Plan → List Condition
  | tuples _ | scan _ => []
  | filter _ child | project _ child | aggregate _ _ child | sort _ child | distinct _ child =>
    child.joinConditions
  | join condition left right => left.joinConditions ++ right.joinConditions ++ [condition]

theorem joinConditions_filterBy (note : Expr → Notice) (es : List Expr) (child : Plan) :
    (filterBy note es child).value.joinConditions = child.joinConditions := by
  cases es <;> rfl

/-- The next join puts its condition behind those of the joins before it. -/
theorem joinConditions_joinAll_cons (joined : List String) (waiting : List Expr) (root : Plan)
    (j : JoinClause) (joins : List JoinClause) :
    ∃ root', root'.joinConditions =
        root.joinConditions ++ [Expr.conjoin? (Placement.of joined j.table waiting).join] ∧
      (joinAll joined waiting root (j :: joins)).value =
        (joinAll (j.table :: joined) (Placement.of joined j.table waiting).later root'
          joins).value := by
  refine ⟨.join _ root (filterBy (.pushedDown · j.table) (Placement.of joined j.table waiting).right
    (scan j.table)).value, ?_, rfl⟩
  rw [joinConditions, joinConditions_filterBy, joinConditions, List.append_nil]

/-- Each join has one condition. -/
theorem length_joinConditions_joinAll (joins : List JoinClause) (joined : List String)
    (waiting : List Expr) (root : Plan) :
    (joinAll joined waiting root joins).value.1.joinConditions.length =
      root.joinConditions.length + joins.length := by
  induction joins generalizing joined waiting root with
  | nil => rfl
  | cons j joins ih =>
    obtain ⟨root', hroot, hjoin⟩ := joinConditions_joinAll_cons joined waiting root j joins
    rw [hjoin, ih, hroot, List.length_append, List.length_singleton, List.length_cons]
    omega

/-- A predicate that links a new table is for the pairs of the join. -/
theorem mem_join_of_links {joined : List String} {table : String} {waiting : List Expr} {e : Expr}
    (he : e ∈ waiting) (hqualified : e.isQualified = true) (htable : table ∉ joined)
    (hlinks : JoinOrder.links joined table e = true) :
    e ∈ (Placement.of joined table waiting).join := by
  obtain ⟨-, ⟨other, hother, hjoined⟩, hall⟩ := JoinOrder.links_iff.1 hlinks
  refine List.mem_filter.2 ⟨he, Bool.and_eq_true_iff.2 ⟨?_, ?_⟩⟩
  · refine Placement.isReady_iff.2 (Placement.isWithin_iff.2 ⟨hqualified, fun name hname => ?_⟩)
    exact List.mem_cons.2 (hall name hname)
  · rw [Bool.not_eq_true', Bool.eq_false_iff]
    intro hright
    have hwithin := Placement.isWithin_iff.1 (Placement.isWithin_of_isRight hright)
    exact htable (List.mem_singleton.1 (hwithin.2 other hother) ▸ hjoined)

/-- Linked joins of new tables have conditions. Of the predicates, those that are not on the tables
    joined so far alone must still be waiting. -/
theorem isSome_of_mem_joinConditions (es : List Expr)
    (hqualified : ∀ e ∈ es, e.isQualified = true) {joins : List JoinClause} {joined : List String}
    {waiting : List Expr} {root : Plan} (hnodup : (joins.map (·.table)).Nodup)
    (hapart : ∀ name ∈ joins.map (·.table), name ∉ joined)
    (hwait : ∀ e ∈ es, ¬e.IsWithin joined → e ∈ waiting)
    (hlinked : JoinOrder.IsLinked es joined joins)
    (hroot : ∀ p ∈ root.joinConditions, p.isSome = true) :
    ∀ p ∈ (joinAll joined waiting root joins).value.1.joinConditions, p.isSome = true := by
  induction joins generalizing joined waiting root with
  | nil => exact hroot
  | cons j joins ih =>
    obtain ⟨⟨e, he, hlinks⟩, hrest⟩ := hlinked
    obtain ⟨hj, hnodup⟩ := List.nodup_cons.1 hnodup
    obtain ⟨hnew, hapart⟩ := List.forall_mem_cons.1 hapart
    -- The predicate that links the new table names it, and so has not been applied yet.
    have hmem : e ∈ waiting := hwait e he fun hwithin =>
      hnew ((Placement.isWithin_iff.1 hwithin).2 _ (JoinOrder.links_iff.1 hlinks).1)
    have hjoin := mem_join_of_links hmem (hqualified e he) hnew hlinks
    obtain ⟨root', hconditions, hvalue⟩ := joinConditions_joinAll_cons joined waiting root j joins
    rw [hvalue]
    refine ih hnodup (fun name hname => ?_) (fun f hf hwithin => ?_) hrest fun p hp => ?_
    · rw [List.mem_cons, not_or]
      exact ⟨ne_of_mem_of_not_mem hname hj, hapart name hname⟩
    · refine List.mem_filter.2 ⟨hwait f hf fun hw => hwithin fun c hc => ?_, ?_⟩
      · obtain ⟨name, hname, htable⟩ := hw c hc
        exact ⟨name, List.mem_cons_of_mem _ hname, htable⟩
      · rw [Bool.not_eq_true', Bool.eq_false_iff]
        exact fun hready => hwithin (Placement.isReady_iff.1 hready)
    · rw [hconditions, List.mem_append, List.mem_singleton] at hp
      rcases hp with hp | rfl
      · exact hroot p hp
      · obtain ⟨f, fs, hcons⟩ := List.exists_cons_of_ne_nil (List.ne_nil_of_mem hjoin)
        rw [hcons]
        rfl

end Plan

namespace Statement

theorem joinConditions_thinnedOut (s : Statement) (child : Plan) :
    (s.thinnedOut child).joinConditions = child.joinConditions := by
  rw [thinnedOut]
  split <;> rfl

theorem joinConditions_projected (s : Statement) (child : Plan) :
    (s.projected child).joinConditions = child.joinConditions := by
  rw [projected]
  split <;> rfl

theorem joinConditions_ordered (s : Statement) (child : Plan) :
    (s.ordered child).joinConditions = child.joinConditions := by
  rw [ordered]
  split <;> rfl

theorem joinConditions_grouped (s : Statement) (child : Plan) :
    (s.grouped child).joinConditions = child.joinConditions := by
  rw [grouped]
  split <;> rfl

theorem joinConditions_baseScan (s : Statement) : s.baseScan.value.joinConditions = [] := by
  rw [baseScan]
  split <;> rfl

/-- All joins of the plan of a statement are those of its tables. -/
theorem joinConditions_plan (stats : Statistics) (s : Statement) :
    ∃ base : Plan, base.joinConditions = [] ∧ (s.plan stats).value.joinConditions =
      (base.joinAll [s.base] s.waiting (s.order stats)).value.1.joinConditions := by
  refine ⟨(Plan.filterBy (.pushedDown · s.base) (s.conjuncts.filter (isAtBase s.base))
    s.baseScan.value).value, ?_, ?_⟩
  · rw [Plan.joinConditions_filterBy, joinConditions_baseScan]
  · rw [value_plan, joinConditions_thinnedOut, joinConditions_projected, joinConditions_ordered,
      joinConditions_grouped, joinedOnto, Plan.joinConditions_filterBy]

/-- In the plan of a statement on different tables that its predicates connect, and whose predicates
    name the tables of all columns, there is one join for each joined table, and every join has a
    condition. -/
theorem joinConditions_of_connected {s : Statement} (hnodup : s.tables.Nodup)
    (hqualified : ∀ e ∈ s.conjuncts, e.isQualified = true) (hconn : s.graph.Connected)
    (stats : Statistics) :
    (s.plan stats).value.joinConditions.length = s.joins.length ∧
    ∀ p ∈ (s.plan stats).value.joinConditions, p.isSome = true := by
  obtain ⟨base, hbase, hplan⟩ := joinConditions_plan stats s
  have horder : ((s.order stats).map (·.table)).Perm (s.joins.map (·.table)) :=
    (s.order_perm stats).map (·.table)
  obtain ⟨hnew, hjoins⟩ := List.nodup_cons.1 hnodup
  rw [hplan]
  refine ⟨?_, ?_⟩
  · rw [Plan.length_joinConditions_joinAll, hbase, List.length_nil, Nat.zero_add,
      (s.order_perm stats).length_eq]
  · refine Plan.isSome_of_mem_joinConditions s.waiting (fun e he => ?_)
      (horder.symm.nodup hjoins) (fun name hname => ?_) (fun e he _ => he) ?_ (by simp [hbase])
    · exact hqualified e (List.mem_filter.1 he).1
    · rintro hmem
      exact hnew (List.mem_singleton.1 hmem ▸ horder.subset hname)
    · exact isLinked_order hconn hnodup stats (.refl _) (List.mem_singleton_self _)

end Statement

namespace Sample

/-- `SELECT * FROM R, T JOIN S ON R.a = S.a WHERE T.b <> S.c AND T.b < 9`: the table `T`, which is
    written before `S`, is linked to it alone. -/
def chain : Statement where
  base := "R"
  joins := [⟨"T", none⟩,
    ⟨"S", some (.compare (.column ⟨some "R", "a"⟩) .equal (.column ⟨some "S", "a"⟩))⟩]
  selection := some (.and (.compare (.column ⟨some "T", "b"⟩) .unequal (.column ⟨some "S", "c"⟩))
    (.compare (.column ⟨some "T", "b"⟩) .less (.literal (.int 9))))
  projection := .all
  groupBy := []
  orderBy := []
  distinct := false

/-- The links lead from `R` to `S` and on to `T`. -/
theorem connected_chain : chain.graph.Connected := by
  have hRS : chain.graph.Adj ⟨"R", by decide⟩ ⟨"S", by decide⟩ :=
    ⟨by decide, .compare (.column ⟨some "R", "a"⟩) .equal (.column ⟨some "S", "a"⟩), by decide,
      fun name => by simp [Expr.mem_tables, Expr.columns, eq_comm]⟩
  have hST : chain.graph.Adj ⟨"S", by decide⟩ ⟨"T", by decide⟩ :=
    ⟨by decide, .compare (.column ⟨some "T", "b"⟩) .unequal (.column ⟨some "S", "c"⟩), by decide,
      fun name => by simp [Expr.mem_tables, Expr.columns, eq_comm, or_comm]⟩
  refine SimpleGraph.connected_iff_exists_forall_reachable _ |>.2 ⟨⟨"R", by decide⟩, ?_⟩
  rintro ⟨name, hname⟩
  simp only [Statement.tables, chain, List.map_cons, List.map_nil, List.mem_cons,
    List.not_mem_nil, or_false] at hname
  rcases hname with rfl | rfl | rfl
  · exact .refl _
  · exact hRS.reachable.trans hST.reachable
  · exact hRS.reachable

/-- No join of the chain is without a condition, although `T` is not linked to the base table. -/
theorem chain_joinConditions :
    chain.tables.Nodup ∧ (∀ e ∈ chain.conjuncts, e.isQualified = true) ∧ chain.graph.Connected ∧
    (chain.plan .empty).value.joinConditions = [
      some (.compare (.column ⟨some "R", "a"⟩) .equal (.column ⟨some "S", "a"⟩)),
      some (.compare (.column ⟨some "T", "b"⟩) .unequal (.column ⟨some "S", "c"⟩))] ∧
    (chain.plan .empty).value.joinConditions.length = 2 ∧
    ∀ p ∈ (chain.plan .empty).value.joinConditions, p.isSome = true :=
  have h := Statement.joinConditions_of_connected (by decide) (by decide) connected_chain .empty
  ⟨by decide, by decide, connected_chain, by decide +kernel, h.1, h.2⟩

end Sample

end CsvQuery
