import CsvQuery.Proofs.Lookup
import Mathlib.Data.List.Basic

/-!
# The joined tuples of a statement

Joining one table after the other, with each predicate applied as soon as its
tables are at hand, gives the same tuples in the same order as first making all
combinations of rows and then applying all predicates (`rows_joinedOnto`).

The reason is that a tuple made of rows of some tables *spans* them
(`Catalog.Spans`): rows put behind it never change what a column of these
tables stands for, be it that the tuple has a value for that column or that the
table has no such column, and the tuple has no value for columns of other
tables. A predicate on the tables at hand therefore holds on a tuple if and
only if it holds on all that become of it, and one on the new table alone may
be applied to its rows.

* `Catalog.extended`: all combinations of some tuples with rows of tables.
* `Plan.rows_joinAll`: the invariant of the joins.
* `JoinOrder.order_perm`: the order of joins leaves none out.
-/

namespace CsvQuery

open CsvQuery.Expr (allHold IsWithin)

/-! ## Pairs -/

namespace Tuple

variable {ts us : List Tuple} {p q : Tuple → Bool}

theorem mem_pairs {v : Tuple} : v ∈ pairs ts us ↔ ∃ t ∈ ts, ∃ u ∈ us, t.merge u = v := by
  simp only [pairs, List.mem_flatMap, List.mem_map]

/-- A test on pairs that only depends on the left tuple may be made before pairing. -/
theorem pairs_filter_left (h : ∀ t ∈ ts, ∀ u ∈ us, q (t.merge u) = p t) :
    (pairs ts us).filter q = pairs (ts.filter p) us := by
  induction ts with
  | nil => rfl
  | cons t ts ih =>
    have hts := ih fun t' ht' => h t' (List.mem_cons_of_mem _ ht')
    have ht : ∀ u ∈ us, (q ∘ t.merge) u = p t := h t List.mem_cons_self
    rw [pairs, List.flatMap_cons, List.filter_append, List.filter_map, List.filter_congr ht]
    cases hp : p t with
    | true =>
      rw [List.filter_cons_of_pos hp, List.filter_true]
      exact congrArg _ hts
    | false =>
      rw [List.filter_cons_of_neg (Bool.eq_false_iff.1 hp), List.filter_false]
      exact hts

/-- A test on pairs that only depends on the right tuple may be made before pairing. -/
theorem pairs_filter_right (h : ∀ t ∈ ts, ∀ u ∈ us, q (t.merge u) = p u) :
    (pairs ts us).filter q = pairs ts (us.filter p) := by
  induction ts with
  | nil => rfl
  | cons t ts ih =>
    have hts := ih fun t' ht' => h t' (List.mem_cons_of_mem _ ht')
    have ht : ∀ u ∈ us, (q ∘ t.merge) u = p u := h t List.mem_cons_self
    rw [pairs, List.flatMap_cons, List.filter_append, List.filter_map, List.filter_congr ht]
    exact congrArg _ hts

end Tuple

namespace Catalog

variable {k : Catalog} {files : Files}

/-- Tuples with rows of some more tables behind them, in all combinations. -/
def extended (k : Catalog) (files : Files) (ts : List Tuple) : List String → List Tuple
  | [] => ts
  | name :: rest => k.extended files (Tuple.pairs ts (k.rows files name)) rest

/-! ## Tuples made of rows -/

/-- A tuple has all that it takes to tell the values of the columns of some tables, and no values
    for columns of others. -/
structure Spans (k : Catalog) (files : Files) (tables : List String) (t : Tuple) : Prop where
  settled : ∀ {c name}, c.table = some name → name ∈ tables →
    ∀ {other}, ∀ u ∈ k.rows files other, (t.merge u).lookup c = t.lookup c
  apart : ∀ {c name}, c.table = some name → name ∉ tables → t.lookup c = none

/-- A row of a table settles the values of its columns. -/
theorem settled_of_mem_rows {name other : String} {c : ColumnRef} {u v : Tuple}
    (hu : u ∈ k.rows files name) (hc : c.table = some name) (hv : v ∈ k.rows files other) :
    (u.merge v).lookup c = u.lookup c := by
  rw [Tuple.lookup_merge]
  cases hl : u.lookup c with
  | some n => rfl
  | none =>
    rcases eq_or_ne name other with rfl | hne
    · exact Catalog.lookup_eq_none hu hv hc hl
    · exact Catalog.lookup_of_ne hv hc hne

theorem spans_of_mem_rows {name : String} {u : Tuple} (h : u ∈ k.rows files name) :
    k.Spans files [name] u where
  settled hc hmem _ v hv := by
    rw [List.mem_singleton.1 hmem] at hc
    exact settled_of_mem_rows h hc hv
  apart hc hmem := Catalog.lookup_of_ne h hc fun heq => hmem (List.mem_singleton.2 heq)

/-- A tuple with a row behind it spans one more table. -/
theorem Spans.merge {tables : List String} {name : String} {t u : Tuple}
    (h : k.Spans files tables t) (hu : u ∈ k.rows files name) :
    k.Spans files (name :: tables) (t.merge u) where
  settled {c other} hc hmem _ v hv := by
    by_cases hold : other ∈ tables
    · rw [Tuple.lookup_merge, h.settled hc hold u hu, ← Tuple.lookup_merge,
        h.settled hc hold v hv]
    · obtain rfl : other = name := (List.mem_cons.1 hmem).resolve_right hold
      rw [Tuple.merge_assoc, Tuple.lookup_merge, settled_of_mem_rows hu hc hv,
        ← Tuple.lookup_merge]
  apart hc hmem := by
    rw [Tuple.lookup_merge, h.apart hc fun hold => hmem (List.mem_cons_of_mem _ hold),
      Catalog.lookup_of_ne hu hc fun heq => hmem (heq ▸ List.mem_cons_self)]
    rfl

/-- A row behind a tuple does not change whether a predicate on its tables holds. -/
theorem Spans.holds_merge {tables : List String} {name : String} {t u : Tuple} {e : Expr}
    (h : k.Spans files tables t) (he : e.IsWithin tables) (hu : u ∈ k.rows files name) :
    e.holds (t.merge u) = e.holds t := by
  refine Expr.holds_congr fun c hc => ?_
  obtain ⟨other, hmem, hc⟩ := he c hc
  exact h.settled hc hmem u hu

/-- A predicate on a new table alone holds on a row of it if and only if it holds on the row behind
    a tuple. -/
theorem Spans.holds_merge_right {tables : List String} {name : String} {t : Tuple} {e : Expr}
    (h : k.Spans files tables t) (hname : name ∉ tables) (he : e.IsWithin [name]) (u : Tuple) :
    e.holds (t.merge u) = e.holds u := by
  refine Expr.holds_congr fun c hc => ?_
  obtain ⟨other, hmem, hc⟩ := he c hc
  obtain rfl := List.mem_singleton.1 hmem
  rw [Tuple.lookup_merge, h.apart hc hname]
  rfl

/-- Predicates on the tables of some tuples may be applied before rows of other tables are put
    behind them. -/
theorem extended_filter {tables : List String} {es : List Expr} {ts : List Tuple}
    (names : List String) (hts : ∀ t ∈ ts, k.Spans files tables t)
    (hes : ∀ e ∈ es, e.IsWithin tables) :
    k.extended files (ts.filter (allHold es)) names =
      (k.extended files ts names).filter (allHold es) := by
  induction names generalizing tables ts with
  | nil => rfl
  | cons name names ih =>
    have hpairs : ∀ v ∈ Tuple.pairs ts (k.rows files name), k.Spans files (name :: tables) v := by
      intro v hv
      obtain ⟨t, ht, u, hu, rfl⟩ := Tuple.mem_pairs.1 hv
      exact (hts t ht).merge hu
    rw [extended, ← Tuple.pairs_filter_left (q := allHold es) fun t ht u hu =>
      Expr.allHold_congr fun e he => (hts t ht).holds_merge (hes e he) hu]
    refine ih hpairs fun e he c hc => ?_
    obtain ⟨other, hmem, hc⟩ := hes e he c hc
    exact ⟨other, List.mem_cons_of_mem _ hmem, hc⟩

end Catalog

/-! ## Where predicates go -/

namespace Placement

variable {e : Expr} {joined : List String} {table : String}

theorem isWithin_iff {tables : List String} :
    e.IsWithin tables ↔ e.isQualified = true ∧ ∀ name ∈ e.tables, name ∈ tables := by
  rw [Expr.isQualified, List.all_eq_true]
  constructor
  · intro h
    refine ⟨fun c hc => ?_, fun name hname => ?_⟩
    · obtain ⟨name, _, hname⟩ := h c hc
      rw [hname]
      rfl
    · obtain ⟨c, hc, hname⟩ := Expr.mem_tables.1 hname
      obtain ⟨name', hmem, hname'⟩ := h c hc
      rw [hname', Option.some.injEq] at hname
      exact hname ▸ hmem
  · rintro ⟨hq, ht⟩ c hc
    obtain ⟨name, hname⟩ := Option.isSome_iff_exists.1 (hq c hc)
    exact ⟨name, ht name (Expr.mem_tables.2 ⟨c, hc, hname⟩), hname⟩

theorem isAtBase_iff : isAtBase table e = true ↔ e.IsWithin [table] := by
  rw [isWithin_iff, isAtBase, Bool.and_eq_true, List.all_eq_true]
  simp only [beq_iff_eq, List.mem_singleton]

theorem isReady_iff : isReady joined table e = true ↔ e.IsWithin (table :: joined) := by
  rw [isWithin_iff, isReady, Bool.and_eq_true, List.all_eq_true]
  simp only [Bool.or_eq_true, beq_iff_eq, List.contains_iff_mem, List.mem_cons]

theorem isWithin_of_isRight (h : isRight table e = true) : e.IsWithin [table] := by
  rw [isRight, Bool.and_eq_true, beq_iff_eq] at h
  exact isWithin_iff.2 ⟨h.1, fun name hname => h.2 ▸ hname⟩

theorem isReady_of_isRight (h : isRight table e = true) : isReady joined table e = true := by
  refine isReady_iff.2 fun c hc => ?_
  obtain ⟨name, hname, hc⟩ := isWithin_of_isRight h c hc
  exact ⟨name, List.mem_singleton.1 hname ▸ List.mem_cons_self, hc⟩

/-- A predicate on one more table alone is not on those joined before, unless that is one of
    them. -/
theorem not_mem_of_isRight (h : isRight table e = true) (hw : ¬e.IsWithin joined) :
    table ∉ joined := by
  intro hmem
  refine hw fun c hc => ?_
  obtain ⟨name, hname, hc⟩ := isWithin_of_isRight h c hc
  exact ⟨name, List.mem_singleton.1 hname ▸ hmem, hc⟩

/-- The predicates on the new table are those at hand that are on it alone. -/
theorem right_of (joined : List String) (table : String) (waiting : List Expr) :
    (of joined table waiting).right =
      (waiting.filter (isReady joined table)).filter (isRight table) := by
  rw [List.filter_filter]
  refine List.filter_congr fun e _ => ?_
  cases hr : isRight table e with
  | false => rfl
  | true => exact (isReady_of_isRight hr).symm

/-- The predicates on the pairs are the others at hand. -/
theorem join_of (joined : List String) (table : String) (waiting : List Expr) :
    (of joined table waiting).join =
      (waiting.filter (isReady joined table)).filter fun e => !isRight table e := by
  rw [List.filter_filter]
  exact List.filter_congr fun e _ => Bool.and_comm _ _

/-- Waiting predicates hold if and only if those on the new table, those on the pairs and those
    that go on waiting do. -/
theorem allHold_of (joined : List String) (table : String) (waiting : List Expr) (t : Tuple) :
    allHold waiting t =
      (allHold (of joined table waiting).right t && allHold (of joined table waiting).join t &&
        allHold (of joined table waiting).later t) := by
  rw [right_of, join_of, ← Expr.allHold_split]
  exact Expr.allHold_split (isReady joined table) waiting t

end Placement

/-! ## The joins of a plan -/

namespace Plan

variable {k : Catalog} {files : Files}

theorem rows_filterBy (note : Expr → Notice) (es : List Expr) (child : Plan) :
    (filterBy note es child).value.rows k files = (child.rows k files).filter (allHold es) := by
  rw [← Condition.keeps_conjoin?]
  cases es with
  | nil => exact (List.filter_true _).symm
  | cons e es => rfl

/-- One join makes the pairs of rows on which the predicates that it takes hold. -/
theorem rows_join_of {joined : List String} {waiting : List Expr} {root : Plan} (table : String)
    (note : Expr → Notice) (hroot : ∀ t ∈ root.rows k files, k.Spans files joined t)
    (hw : ∀ e ∈ waiting, ¬e.IsWithin joined) :
    (join (Expr.conjoin? (Placement.of joined table waiting).join) root
      (filterBy note (Placement.of joined table waiting).right (scan table)).value).rows k files =
    (Tuple.pairs (root.rows k files) (k.rows files table)).filter fun t =>
      allHold (Placement.of joined table waiting).join t &&
        allHold (Placement.of joined table waiting).right t := by
  rw [rows, rows_filterBy, Join.pairs, Condition.keeps_conjoin?, ← List.filter_filter,
    ← Tuple.pairs_filter_right]
  · rfl
  · refine fun t ht u _ => Expr.allHold_congr fun e he => ?_
    obtain ⟨he, hr⟩ := List.mem_filter.1 he
    exact (hroot t ht).holds_merge_right (Placement.not_mem_of_isRight hr (hw e he))
      (Placement.isWithin_of_isRight hr) u

/-- Joining tables one after the other, and applying what still waits at the end, keeps the
    combinations of rows on which all waiting predicates hold. -/
theorem rows_joinAll (joins : List JoinClause) {joined : List String} {waiting : List Expr}
    {root : Plan} (hroot : ∀ t ∈ root.rows k files, k.Spans files joined t)
    (hw : ∀ e ∈ waiting, ¬e.IsWithin joined) :
    ((joinAll joined waiting root joins).value.1.rows k files).filter
        (allHold (joinAll joined waiting root joins).value.2) =
      (k.extended files (root.rows k files) (joins.map (·.table))).filter (allHold waiting) := by
  induction joins generalizing joined waiting root with
  | nil => rfl
  | cons j joins ih =>
    have hpairs : ∀ v ∈ Tuple.pairs (root.rows k files) (k.rows files j.table),
        k.Spans files (j.table :: joined) v := by
      intro v hv
      obtain ⟨t, ht, u, hu, rfl⟩ := Tuple.mem_pairs.1 hv
      exact (hroot t ht).merge hu
    have hrows := rows_join_of j.table (.pushedDown · j.table) hroot hw
    refine (ih ?_ ?_).trans ?_
    · intro t ht
      rw [hrows] at ht
      exact hpairs t (List.mem_filter.1 ht).1
    · intro e he hin
      have hready := (List.mem_filter.1 he).2
      rw [Placement.isReady_iff.2 hin] at hready
      exact Bool.false_ne_true hready
    · -- What is applied at this join might as well be applied after all of them.
      have hin : ∀ e ∈ (Placement.of joined j.table waiting).join ++
          (Placement.of joined j.table waiting).right, e.IsWithin (j.table :: joined) := by
        intro e he
        rcases List.mem_append.1 he with he | he
        · have hready := (List.mem_filter.1 he).2
          rw [Bool.and_eq_true] at hready
          exact Placement.isReady_iff.1 hready.1
        · exact Placement.isReady_iff.1 (Placement.isReady_of_isRight (List.mem_filter.1 he).2)
      rw [hrows]
      simp only [← Expr.allHold_append]
      rw [Catalog.extended_filter _ hpairs hin, List.filter_filter]
      refine List.filter_congr fun t _ => ?_
      rw [Placement.allHold_of joined j.table waiting t, Expr.allHold_append, Bool.and_comm,
        Bool.and_comm (allHold (Placement.of joined j.table waiting).join t)]

/-- A plan joined to the tables of some joins in order, without conditions. -/
def crossed (root : Plan) : List JoinClause → Plan
  | [] => root
  | j :: joins => (join none root (scan j.table)).crossed joins

theorem rows_crossed (root : Plan) (joins : List JoinClause) :
    (root.crossed joins).rows k files =
      k.extended files (root.rows k files) (joins.map (·.table)) := by
  induction joins generalizing root with
  | nil => rfl
  | cons j joins ih =>
    rw [crossed, ih, rows, Join.pairs]
    exact congrArg (k.extended files · _) (List.filter_true _)

/-- Where no predicates wait, the joins have no conditions. -/
theorem value_joinAll_nil (joined : List String) (root : Plan) (joins : List JoinClause) :
    (joinAll joined [] root joins).value = (root.crossed joins, []) := by
  induction joins generalizing joined root with
  | nil => rfl
  | cons j joins ih => exact ih (j.table :: joined) (join none root (scan j.table))

end Plan

/-! ## The order of joins -/

namespace JoinOrder

theorem pick_perm {α : Type} (rank : α → Nat) (a : α) (rest : List α) :
    ((pick rank a rest).1 :: (pick rank a rest).2).Perm (a :: rest) := by
  induction rest generalizing a with
  | nil => exact .refl _
  | cons b rest ih =>
    rw [pick]
    split
    · exact .refl _
    · exact (List.Perm.swap _ _ _).trans ((ih b).cons a)

/-- Every join is made once. -/
theorem order_perm (stats : Statistics) (conjuncts : List Expr) (joined : List String)
    (joins : List JoinClause) : (order stats conjuncts joined joins).Perm joins := by
  fun_induction order stats conjuncts joined joins with
  | case1 => exact .refl _
  | case2 joined j rest best ih => exact (ih.cons _).trans (pick_perm _ j rest)

end JoinOrder

/-! ## The joined tuples of a statement -/

namespace Statement

/-- The predicates of a statement that are not for its base table alone. -/
def waiting (s : Statement) : List Expr := s.conjuncts.filter fun e => !isAtBase s.base e

/-- The joins of a statement in the order in which they are made. -/
def order (stats : Statistics) (s : Statement) : List JoinClause :=
  joinOrder stats s.base s.joins s.waiting

/-- The joined tuples of a statement that satisfy its predicates, if `base` gives those of its base
    table. -/
def joinedOnto (stats : Statistics) (s : Statement) (base : Plan) : Plan :=
  let filtered := Plan.filterBy (.pushedDown · s.base) (s.conjuncts.filter (isAtBase s.base)) base
  let (root, left) := (filtered.value.joinAll [s.base] s.waiting (s.order stats)).value
  (Plan.filterBy .appliedAfterJoins left root).value

theorem value_joined (stats : Statistics) (s : Statement) :
    (s.joined stats).value = s.joinedOnto stats s.baseScan.value := by
  -- Whether there is a notice of the order or not, the plan is the same.
  change Logged.value (Logged.bind s.baseScan fun base => Logged.bind _ fun base =>
    if !(s.order stats).isEmpty then _ else _) = _
  cases !(s.order stats).isEmpty <;> rfl

/-- Each join of a statement is made once. -/
theorem order_perm (stats : Statistics) (s : Statement) : (s.order stats).Perm s.joins :=
  JoinOrder.order_perm stats s.waiting [s.base] s.joins

variable {k : Catalog} {files : Files}

/-- All combinations of rows of the tables of a statement, in the order of its joins. -/
def combinations (k : Catalog) (files : Files) (stats : Statistics) (s : Statement) : List Tuple :=
  k.extended files (k.rows files s.base) ((s.order stats).map (·.table))

/-- The combinations of rows on which all predicates of a statement hold. -/
def selected (k : Catalog) (files : Files) (stats : Statistics) (s : Statement) : List Tuple :=
  (s.combinations k files stats).filter (allHold s.conjuncts)

/-- The joined tuples of a statement are the combinations of rows on which all of its predicates
    hold. -/
theorem rows_joinedOnto (stats : Statistics) (s : Statement) :
    (s.joinedOnto stats (.scan s.base)).rows k files =
      (s.combinations k files stats).filter (allHold s.conjuncts) := by
  have hbase : ∀ e ∈ s.conjuncts.filter (isAtBase s.base), e.IsWithin [s.base] := fun e he =>
    Placement.isAtBase_iff.1 (List.mem_filter.1 he).2
  rw [joinedOnto, Plan.rows_filterBy, Plan.rows_joinAll, Plan.rows_filterBy, Plan.rows,
    Catalog.extended_filter _ (fun t ht => Catalog.spans_of_mem_rows ht) hbase, List.filter_filter]
  · refine List.filter_congr fun t _ => ?_
    rw [Expr.allHold_split (isAtBase s.base) s.conjuncts t, Bool.and_comm]
    rfl
  · intro t ht
    rw [Plan.rows_filterBy] at ht
    exact Catalog.spans_of_mem_rows (List.mem_filter.1 ht).1
  · intro e he hin
    have hnot := (List.mem_filter.1 he).2
    rw [Placement.isAtBase_iff.2 hin] at hnot
    exact Bool.false_ne_true hnot

end Statement

end CsvQuery
