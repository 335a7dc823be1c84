import CsvQuery.Proofs.Finish
import CsvQuery.Proofs.StableSort
import Mathlib.Data.Multiset.Bind

/-!
# The order of joins

Joining the tables of a statement in another order makes the same combinations
of rows, each with its attributes in another order. A predicate whose columns
name their tables cannot tell the difference: whatever the order, a table has
only one row in a combination, in which its columns are found in the same
order.

* `Tuple.view`: what such predicates see of a tuple, with the bag of its
  attributes.
* `Catalog.views_combined_perm`: the combinations of rows are the same for any order
  of the tables, up to their views.
* `Statement.reordering`: statements on the same tables with the same predicates
  give the same bags of attributes.
-/

namespace CsvQuery

/-! ## Views -/

/-- The attributes of a tuple, in no order. -/
def Tuple.bag (t : Tuple) : Multiset Attribute := t.attributes

/-- What does not depend on the order of tables in a tuple: its attributes, in no order, and the
    values of columns that name their tables. -/
structure View where
  bag : Multiset Attribute
  value : String → String → Option Int32

/-- The view of a tuple. -/
def Tuple.view (t : Tuple) : View := ⟨t.bag, fun table column => t.lookup ⟨some table, column⟩⟩

namespace View

/-- The view of two tuples side by side. -/
def merge (v w : View) : View :=
  ⟨v.bag + w.bag, fun table column => (v.value table column).or (w.value table column)⟩

theorem view_merge (t u : Tuple) : (t.merge u).view = t.view.merge u.view := by
  have hbag : (t.merge u).bag = t.bag + u.bag := (Multiset.coe_add _ _).symm
  have hvalue : ∀ table column, (t.merge u).lookup ⟨some table, column⟩ =
      (t.lookup ⟨some table, column⟩).or (u.lookup ⟨some table, column⟩) :=
    fun table column => Tuple.lookup_merge t u _
  rw [Tuple.view, hbag, funext₂ hvalue]
  rfl

/-- Views without values for the same column may be swapped. -/
theorem merge_left_comm {v w x : View}
    (h : ∀ table column, v.value table column = none ∨ w.value table column = none) :
    v.merge (w.merge x) = w.merge (v.merge x) := by
  refine congrArg₂ View.mk (add_left_comm _ _ _) (funext₂ fun table column => ?_)
  change (v.value table column).or ((w.value table column).or (x.value table column)) =
    (w.value table column).or ((v.value table column).or (x.value table column))
  obtain hv | hw := h table column
  · rw [hv, Option.none_or, Option.none_or]
  · rw [hw, Option.none_or, Option.none_or]

end View

/-- A predicate whose columns name their tables sees no more of a tuple than its view. -/
theorem Expr.holds_of_view {e : Expr} {t u : Tuple} (he : e.isQualified = true)
    (h : t.view = u.view) : e.holds t = e.holds u := by
  refine Expr.holds_congr fun c hc => ?_
  obtain ⟨table, column⟩ := c
  obtain ⟨name, rfl⟩ := Option.isSome_iff_exists.1 (List.all_eq_true.1 he _ hc)
  exact congrFun₂ (congrArg View.value h) name column

/-- Tuples with the same views have the same ones after a test that sees no more than the view. -/
theorem View.views_filter {ts us : List Tuple} {p : Tuple → Bool}
    (h : (ts.map Tuple.view : Multiset View) = us.map Tuple.view)
    (hp : ∀ t u : Tuple, t.view = u.view → p t = p u) :
    ((ts.filter p).map Tuple.view : Multiset View) = (us.filter p).map Tuple.view := by
  classical
  -- Such a test is a test of the view.
  let q : View → Bool := fun v => decide (∃ t : Tuple, t.view = v ∧ p t = true)
  have hq : p = q ∘ Tuple.view := by
    funext t
    rw [Bool.eq_iff_iff, Function.comp_apply, decide_eq_true_iff]
    exact ⟨fun ht => ⟨t, rfl, ht⟩, fun ⟨u, hu, hpu⟩ => hp u t hu ▸ hpu⟩
  rw [hq, ← List.filter_map, ← List.filter_map]
  exact Multiset.coe_eq_coe.2 ((Multiset.coe_eq_coe.1 h).filter q)

/-! ## Combinations of rows -/

namespace Tuple

theorem pairs_assoc (ts us vs : List Tuple) :
    pairs (pairs ts us) vs = pairs ts (pairs us vs) := by
  have hmerge : ∀ t u : Tuple, (t.merge u).merge = t.merge ∘ u.merge := fun t u =>
    funext (merge_assoc t u)
  simp only [pairs, List.flatMap_assoc, List.map_flatMap, List.flatMap_map, List.map_map, hmerge]

theorem pairs_nil_attributes (ts : List Tuple) : pairs ts [⟨[]⟩] = ts := by
  have hid : ∀ t : Tuple, [⟨[]⟩].map t.merge = [t] := fun t =>
    congrArg (fun as => [(⟨as⟩ : Tuple)]) (List.append_nil _)
  simp only [pairs, hid, List.flatMap_singleton']

end Tuple

namespace Catalog

variable {k : Catalog} {files : Files}

/-- All combinations of rows of some tables, one of each. -/
def combined (k : Catalog) (files : Files) : List String → List Tuple
  | [] => [⟨[]⟩]
  | name :: names => Tuple.pairs (k.rows files name) (k.combined files names)

theorem extended_eq_pairs (ts : List Tuple) (names : List String) :
    k.extended files ts names = Tuple.pairs ts (k.combined files names) := by
  induction names generalizing ts with
  | nil => exact (Tuple.pairs_nil_attributes ts).symm
  | cons name names ih => rw [extended, ih, Tuple.pairs_assoc]; rfl

/-- The views of the combinations with one more table. -/
theorem views_combined (name : String) (names : List String) :
    ((k.combined files (name :: names)).map Tuple.view : Multiset View) =
      (k.rows files name : Multiset Tuple).bind fun t =>
        ((k.combined files names).map Tuple.view : Multiset View).map t.view.merge := by
  have hview : ∀ t : Tuple, Tuple.view ∘ t.merge = t.view.merge ∘ Tuple.view := fun t =>
    funext (View.view_merge t)
  simp only [combined, Tuple.pairs, List.map_flatMap, List.map_map, Multiset.map_coe,
    Multiset.coe_bind, hview]

/-- In any order, different tables have the same combinations of rows, up to their views. -/
theorem views_combined_perm {names names' : List String} (h : names.Perm names')
    (hd : names.Nodup) :
    ((k.combined files names).map Tuple.view : Multiset View) =
      (k.combined files names').map Tuple.view := by
  induction h with
  | nil => rfl
  | cons name _ ih => rw [views_combined, views_combined, ih (List.nodup_cons.1 hd).2]
  | swap name name' names =>
    have hne : name ≠ name' := fun heq => (List.nodup_cons.1 hd).1 (heq ▸ List.mem_cons_self)
    simp only [views_combined, Multiset.map_bind, Multiset.map_map]
    rw [Multiset.bind_bind]
    refine Multiset.bind_congr fun t ht => Multiset.bind_congr fun u hu => ?_
    refine Multiset.map_congr rfl fun v _ => View.merge_left_comm fun table column => ?_
    -- At most one of the two rows has values for columns of a given table.
    by_cases htable : table = name
    · exact .inl (lookup_of_ne hu rfl (htable ▸ hne))
    · exact .inr (lookup_of_ne ht rfl htable)
  | trans h _ ih ih' => exact (ih hd).trans (ih' (h.nodup hd))

end Catalog

/-! ## Statements on the same tables -/

namespace Statement

variable {k : Catalog} {files : Files} {s s' : Statement}

theorem combinations_eq_combined (stats : Statistics) (s : Statement) :
    s.combinations k files stats =
      k.combined files (s.base :: (s.order stats).map (·.table)) :=
  Catalog.extended_eq_pairs _ _

/-- The joined tuples of statements on the same tables with the same predicates, in any orders. -/
theorem views_joined (k : Catalog) (files : Files) (stats stats' : Statistics) (hd : s.tables.Nodup)
    (ht : s.tables.Perm s'.tables) (hq : ∀ e ∈ s.conjuncts, e.isQualified = true)
    (hc : ∀ e, e ∈ s.conjuncts ↔ e ∈ s'.conjuncts) :
    (((s.joinedOnto stats (.scan s.base)).rows k files).map Tuple.view : Multiset View) =
      ((s'.joinedOnto stats' (.scan s'.base)).rows k files).map Tuple.view := by
  have horder : (s.base :: (s.order stats).map (·.table)).Perm
      (s'.base :: (s'.order stats').map (·.table)) :=
    (((s.order_perm stats).map _).cons _).trans
      (ht.trans (((s'.order_perm stats').map _).cons _).symm)
  have hnodup : (s.base :: (s.order stats).map (·.table)).Nodup :=
    (((s.order_perm stats).map _).cons _).symm.nodup hd
  rw [rows_joinedOnto, rows_joinedOnto, funext (Expr.allHold_of_mem_iff hc) |>.symm,
    combinations_eq_combined, combinations_eq_combined]
  refine View.views_filter (Catalog.views_combined_perm horder hnodup) fun t u htu => ?_
  exact Expr.allHold_congr fun e he => Expr.holds_of_view (hq e he) htu

/-- A statement that shows every attribute and makes no groups only sorts its joined tuples. -/
theorem finish_perm (hall : s.projection.isAll = true) (hg : s.groupBy = []) (ts : List Tuple) :
    (s.finish ts).Perm ts := by
  have hitems : s.projection.items = [] := List.isEmpty_iff.1 hall
  have hkey : s.distinctKey? = none := by rw [distinctKey?, hitems]
  have hsums : s.sums = [] := by rw [sums, hitems]; rfl
  have hshow : s.projection.tuple = id := funext fun t => if_pos hall
  have hthin : ∀ us, s.thinning us = us := fun us => by
    rw [thinning, hkey]
    cases s.distinct <;> rfl
  rw [finish, hthin, hshow, List.map_id, grouping, hg, hsums, ordering]
  split
  · exact .refl _
  · exact Sort.sorted_perm _ _

/-- What pulling all tuples gives of a statement that shows every attribute and makes no groups. -/
theorem result_all (stats : Statistics) (h : ∀ name ∈ s.tables, k.IsSound files name)
    (hall : s.projection.isAll = true) :
    ((s.plan stats).value.tuples? k files).result =
      .ok (s.finish ((s.joinedOnto stats (.scan s.base)).rows k files)) := by
  have hlate : s.isProjectedEarly = false := by rw [isProjectedEarly, hall]; rfl
  have hsums : s.sums = [] := by rw [sums, List.isEmpty_iff.1 hall]; rfl
  rw [result_plan stats h, value_plan_late stats hlate, rows_finished, hsums]
  rfl

/-- Over sound tables, two statements that show every attribute of the same different tables, in
    any two orders, without groups, give the same bags of attributes, each as often, if their
    predicates have the same parts and these name the tables of their columns. The statistics that
    the joins are ordered by do not matter. -/
theorem reordering (stats stats' : Statistics) (h : ∀ name ∈ s.tables, k.IsSound files name)
    (hall : s.projection.isAll = true) (hall' : s'.projection.isAll = true) (hg : s.groupBy = [])
    (hg' : s'.groupBy = []) (hd : s.tables.Nodup) (ht : s.tables.Perm s'.tables)
    (hq : ∀ e ∈ s.conjuncts, e.isQualified = true)
    (hc : ∀ e, e ∈ s.conjuncts ↔ e ∈ s'.conjuncts) :
    ∃ ts ts', ((s.plan stats).value.tuples? k files).result = .ok ts ∧
      ((s'.plan stats').value.tuples? k files).result = .ok ts' ∧
      (ts.map Tuple.bag : Multiset (Multiset Attribute)) = ts'.map Tuple.bag := by
  have h' : ∀ name ∈ s'.tables, k.IsSound files name := fun name hname =>
    h name (ht.symm.subset hname)
  refine ⟨_, _, result_all stats h hall, result_all stats' h' hall', ?_⟩
  have hviews := congrArg (Multiset.map View.bag)
    (views_joined k files stats stats' hd ht hq hc)
  simp only [Multiset.map_coe, List.map_map] at hviews
  rw [Multiset.coe_eq_coe] at hviews ⊢
  exact ((finish_perm hall hg _).map _).trans
    (hviews.trans ((finish_perm hall' hg' _).map _).symm)

end Statement

namespace Sample

/-- `SELECT * FROM R JOIN S ON S.c < 7 WHERE R.a <= S.a ORDER BY c`. -/
def fromR : Statement where
  base := "R"
  joins := [⟨"S", some (.compare (.column ⟨some "S", "c"⟩) .less (.literal (.int 7)))⟩]
  selection := some (.compare (.column ⟨some "R", "a"⟩) .atMost (.column ⟨some "S", "a"⟩))
  projection := .all
  groupBy := []
  orderBy := [⟨none, "c"⟩]
  distinct := false

/-- `SELECT * FROM S JOIN R ON R.a <= S.a WHERE S.c < 7`. -/
def fromS : Statement where
  base := "S"
  joins := [⟨"R", some (.compare (.column ⟨some "R", "a"⟩) .atMost (.column ⟨some "S", "a"⟩))⟩]
  selection := some (.compare (.column ⟨some "S", "c"⟩) .less (.literal (.int 7)))
  projection := .all
  groupBy := []
  orderBy := []
  distinct := false

/-- Three pairs of rows are left, whose attributes the two statements give in different orders. -/
theorem fromR_reordering :
    (∀ name ∈ fromR.tables, catalog.IsSound files name) ∧ fromR.tables.Nodup ∧
    fromR.tables.Perm fromS.tables ∧ (∀ e ∈ fromR.conjuncts, e.isQualified = true) ∧
    fromR.conjuncts.Perm fromS.conjuncts ∧
    (fromS.plan .empty).value.rows catalog files =
      [⟨[⟨"S", "a", 3⟩, ⟨"S", "c", 5⟩, ⟨"R", "a", 1⟩, ⟨"R", "b", 2⟩]⟩,
        ⟨[⟨"S", "a", 3⟩, ⟨"S", "c", 5⟩, ⟨"R", "a", 3⟩, ⟨"R", "b", 4⟩]⟩,
        ⟨[⟨"S", "a", 1⟩, ⟨"S", "c", 6⟩, ⟨"R", "a", 1⟩, ⟨"R", "b", 2⟩]⟩] ∧
    ∃ ts ts', ((fromR.plan .empty).value.tuples? catalog files).result = .ok ts ∧
      ((fromS.plan .empty).value.tuples? catalog files).result = .ok ts' ∧
      (ts.map Tuple.bag : Multiset (Multiset Attribute)) = ts'.map Tuple.bag :=
  have hd : fromR.tables.Nodup := by decide
  have ht : fromR.tables.Perm fromS.tables := by decide
  have hq : ∀ e ∈ fromR.conjuncts, e.isQualified = true := by decide
  have hc : fromR.conjuncts.Perm fromS.conjuncts := by decide
  ⟨isSound, hd, ht, hq, hc, by decide +kernel,
    Statement.reordering .empty .empty isSound rfl rfl rfl rfl hd ht hq fun _ => hc.mem_iff⟩

end Sample

end CsvQuery
