import CsvQuery.Proofs.EarlyProjection
import CsvQuery.Proofs.Resolution

/-!
# Rows in the order asked for

A statement on one table sorts its tuples before it picks the items to show.
Items are found by name, and in a tuple of one table the first attribute with
the name of a column is that column, so that what is shown has the values that
were sorted by, if they are among the items. What comes out is therefore in the
order asked for, unless repeats are dropped afterwards: that sorts the tuples
anew, by the first item.

* `Tuple.Ascending`: lists of tuples in lexicographic order of some columns.
* `Sort.ascending_sorted`, `Distinct.pairwise_firsts`: the order in which sorting
  and dropping repeats leave them.
* `Tuple.IsFound`: a column is found by its name alone.
* `Statement.ascending_result`: the order of the result of a statement on one
  table, and `Sample.resorted_descends`, where it is not the one asked for.
-/

namespace CsvQuery

open List (Forall₂)

/-! ## Tuples in ascending order -/

namespace Aggregate

/-- The values of some columns are those looked up one by one. -/
theorem key?_eq_some {columns : List ColumnRef} {t : Tuple} {vs : List Int32} :
    key? columns t = some vs ↔ columns.map t.lookup = vs.map some := by
  rw [key?]
  induction columns generalizing vs with
  | nil => cases vs <;> simp
  | cons c columns ih =>
    rw [List.mapM_cons, List.map_cons]
    cases hc : t.lookup c with
    | none => cases vs <;> simp
    | some v =>
      cases vs with
      | nil => cases columns.mapM t.lookup <;> simp
      | cons w vs =>
        rw [List.map_cons, List.cons.injEq, ← ih]
        cases columns.mapM t.lookup <;> simp

/-- A tuple has the values of some columns if it has a value of each. -/
theorem isSome_key? {columns : List ColumnRef} {t : Tuple} :
    (key? columns t).isSome = true ↔ ∀ c ∈ columns, (t.lookup c).isSome = true := by
  rw [key?]
  induction columns with
  | nil => simp
  | cons c columns ih =>
    rw [List.mapM_cons, List.forall_mem_cons, ← ih]
    cases t.lookup c <;> cases columns.mapM t.lookup <;> simp

end Aggregate

/-- All tuples have values of some columns, and these do not descend, in lexicographic order. -/
structure Tuple.Ascending (columns : List ColumnRef) (ts : List Tuple) : Prop where
  present : ∀ t ∈ ts, (Aggregate.key? columns t).isSome = true
  ordered : ts.Pairwise fun t u =>
    ∀ v ∈ Aggregate.key? columns t, ∀ w ∈ Aggregate.key? columns u, v ≤ w

/-- Lists of values that are all there are compared in lexicographic order. -/
theorem Sort.before_map_some {vs ws : List Int32} (h : vs.length = ws.length) :
    before (vs.map some) (ws.map some) = decide (vs ≤ ws) := by
  induction vs generalizing ws with
  | nil =>
    cases ws with
    | nil => rfl
    | cons w ws => cases h
  | cons v vs ih =>
    cases ws with
    | nil => cases h
    | cons w ws =>
      rw [List.map_cons, List.map_cons, before, ih (Nat.succ.inj h)]
      by_cases hlt : v < w
      · simp [hlt, List.cons_le_cons_iff]
      · by_cases hgt : w < v
        · have hne : v ≠ w := fun heq => Int32.lt_irrefl (heq ▸ hgt)
          simp [hlt, hgt, hne, List.cons_le_cons_iff]
        · have heq : v = w := Int32.le_antisymm (Int32.not_lt.1 hgt) (Int32.not_lt.1 hlt)
          simp [heq, Int32.lt_irrefl, List.cons_le_cons_iff]

/-- Tuples that have values of all sorting columns are sorted by these values. -/
theorem Sort.sorted_eq {keys : List ColumnRef} {ts : List Tuple}
    (h : ∀ t ∈ ts, (Aggregate.key? keys t).isSome = true) :
    sorted keys ts = StableSort.sort (fun t u => decide
      ((Aggregate.key? keys t).getD [] ≤ (Aggregate.key? keys u).getD [])) ts := by
  have hkey : ∀ t ∈ ts, key keys t = ((Aggregate.key? keys t).getD []).map some ∧
      ((Aggregate.key? keys t).getD []).length = keys.length := by
    intro t ht
    obtain ⟨vs, hvs⟩ := Option.isSome_iff_exists.1 (h t ht)
    have hmap : key keys t = vs.map some := Aggregate.key?_eq_some.1 hvs
    have hlength := congrArg List.length hmap
    rw [key, List.length_map, List.length_map] at hlength
    rw [hvs]
    exact ⟨hmap, hlength.symm⟩
  rw [sorted_eq_sort]
  refine StableSort.sort_congr fun t ht u hu => ?_
  obtain ⟨hleft, hlength⟩ := hkey t ht
  obtain ⟨hright, hlength'⟩ := hkey u hu
  rw [hleft, hright, before_map_some (hlength.trans hlength'.symm)]

/-- Sorting tuples that have values of all sorting columns puts them in ascending order. -/
theorem Sort.ascending_sorted {keys : List ColumnRef} {ts : List Tuple}
    (h : ∀ t ∈ ts, (Aggregate.key? keys t).isSome = true) :
    Tuple.Ascending keys (sorted keys ts) := by
  refine ⟨fun t ht => h t ((sorted_perm keys ts).mem_iff.1 ht), ?_⟩
  rw [sorted_eq h]
  refine (StableSort.pairwise_sort_value (fun _ _ _ => List.le_trans) List.le_total _ ts).imp
    fun hle v hv w hw => ?_
  rwa [Option.mem_def.1 hv, Option.mem_def.1 hw] at hle

namespace Tuple.Ascending

variable {c : ColumnRef} {columns : List ColumnRef} {ts : List Tuple}

/-- Any tuples are in the order of no columns. -/
theorem nil_columns (ts : List Tuple) : Ascending [] ts where
  present _ _ := rfl
  ordered := List.pairwise_of_forall fun t u v hv w hw => by
    obtain rfl : v = [] := (Option.some.inj hv).symm
    exact List.nil_le w

/-- A function that keeps the values of some columns keeps their order. -/
theorem map (h : Ascending columns ts) {f : Tuple → Tuple}
    (hf : ∀ t ∈ ts, Aggregate.key? columns (f t) = Aggregate.key? columns t) :
    Ascending columns (ts.map f) where
  present := by
    rintro _ hmem
    obtain ⟨t, ht, rfl⟩ := List.mem_map.1 hmem
    rw [hf t ht]
    exact h.present t ht
  ordered := List.pairwise_map.2 (h.ordered.imp_of_mem fun ht hu hle => by rwa [hf _ ht, hf _ hu])

/-- Tuples whose values of the first column strictly ascend are in order, whatever the other columns
    are. -/
theorem of_first_lt (hpresent : ∀ t ∈ ts, (Aggregate.key? (c :: columns) t).isSome = true)
    (h : ts.Pairwise fun t u => ∀ v ∈ t.lookup c, ∀ w ∈ u.lookup c, v < w) :
    Ascending (c :: columns) ts where
  present := hpresent
  ordered := h.imp fun {t u} hlt vs hvs ws hws => by
    have ht := Aggregate.key?_eq_some.1 (Option.mem_def.1 hvs)
    have hu := Aggregate.key?_eq_some.1 (Option.mem_def.1 hws)
    obtain ⟨v, vs, rfl⟩ := List.exists_cons_of_ne_nil (l := vs) (by rintro rfl; simp at ht)
    obtain ⟨w, ws, rfl⟩ := List.exists_cons_of_ne_nil (l := ws) (by rintro rfl; simp at hu)
    exact List.cons_le_cons_iff.2 (.inl (hlt v (List.cons.inj ht).1 w (List.cons.inj hu).1))

end Tuple.Ascending

/-- Dropping repeats leaves tuples in ascending order. -/
theorem Distinct.ascending_firsts (key : ColumnRef) (ts : List Tuple) :
    Tuple.Ascending [key] (firsts key ts) := by
  refine .of_first_lt (fun t ht => Aggregate.isSome_key?.2 ?_) (pairwise_firsts key ts)
  exact List.forall_mem_singleton.2 (of_mem_firsts ht).2

/-! ## Statements on one table -/

namespace Statement

variable {k : Catalog} {files : Files} {s : Statement} {ts : List Tuple}

/-- Sorting and grouping the rows of its only table leaves the sorting columns of a statement
    found by name. -/
theorem isFound_ordering (hs : s.IsResolved k) (hj : s.joins = []) (stats : Statistics)
    {c : ColumnRef} (hc : c ∈ s.orderBy) :
    ∀ t ∈ s.ordering (s.grouping (s.selected k files stats)), t.IsFound c := by
  have hselected : ∀ t ∈ s.selected k files stats, t.IsFound c := by
    intro t ht
    have horder : s.order stats = [] := (hj ▸ s.order_perm stats).eq_nil
    have hrow := (List.mem_filter.1 ht).1
    rw [combinations, horder] at hrow
    obtain ⟨name, hname, htable, hcolumn⟩ := (forall_mem_columnsNamed.1 hs.columns).2.2.1 c hc
    obtain rfl : name = s.base := by simpa [tables, hj] using hname
    rw [← Catalog.isSome_lookup_of_mem_rows hrow, Tuple.isSome_lookup rfl, ← htable] at hcolumn
    exact .of_mem_names hcolumn (Catalog.names_of_mem_rows hrow)
  have hgrouping : ∀ t ∈ s.grouping (s.selected k files stats), t.IsFound c := by
    rw [grouping]
    split
    · exact hselected
    · intro u hu
      obtain ⟨t, ht, _, rfl⟩ := Aggregate.exists_of_mem_summaries hu
      exact (hselected t ht).merge _
  rw [ordering]
  split
  · exact hgrouping
  · exact fun t ht => hgrouping t ((Sort.sorted_perm _ _).mem_iff.1 ht)

/-- What a statement shows of tuples in which its sorting columns are found is in the order of
    these columns, if they are shown. -/
theorem ascending_shown (hfound : ∀ c ∈ s.orderBy, ∀ t ∈ s.ordering ts, t.IsFound c)
    (hshown : s.projection.isAll = true ∨ ∀ c ∈ s.orderBy, .column c ∈ s.projection.items) :
    Tuple.Ascending s.orderBy ((s.ordering ts).map s.projection.tuple) := by
  have hsorted : Tuple.Ascending s.orderBy (s.ordering ts) := by
    rw [ordering] at hfound ⊢
    split
    · rename_i hnone
      rw [List.isEmpty_iff.1 hnone]
      exact .nil_columns ts
    · rename_i hsome
      rw [if_neg hsome] at hfound
      exact Sort.ascending_sorted fun t ht => Aggregate.isSome_key?.2 fun c hc =>
        (hfound c hc t ((Sort.sorted_perm _ _).mem_iff.2 ht)).isSome_lookup
  refine hsorted.map fun t ht => Aggregate.key?_congr fun c hc => ?_
  rw [Projection.tuple]
  split
  · rfl
  · rename_i hlist
    exact (hfound c hc t ht).lookup_pick (hshown.resolve_left hlist c hc)

/-- What a statement on one table shows has its sorting columns found by name, if they are
    shown. -/
theorem isFound_shown {c : ColumnRef} (hfound : ∀ t ∈ s.ordering ts, t.IsFound c)
    (hshown : s.projection.isAll = true ∨ .column c ∈ s.projection.items) :
    ∀ t ∈ (s.ordering ts).map s.projection.tuple, t.IsFound c := by
  rintro _ hmem
  obtain ⟨t, ht, rfl⟩ := List.mem_map.1 hmem
  rw [Projection.tuple]
  split
  · exact hfound t ht
  · rename_i hlist
    exact (hfound t ht).pick (hshown.resolve_left hlist)

/-- Dropping repeats leaves tuples in the order of the first item. -/
theorem ascending_thinning (hd : s.distinct = true) {key : ColumnRef}
    (hkey : s.distinctKey? = some key) : Tuple.Ascending [key] (s.thinning ts) := by
  rw [thinning, hd, hkey]
  exact Distinct.ascending_firsts key ts

/-- Dropping repeats keeps the order of some columns if the first one of them is the first item
    and is found by name. -/
theorem ascending_thinning_of_first {columns : List ColumnRef} (h : Tuple.Ascending columns ts)
    (hfound : ∀ c ∈ columns, ∀ t ∈ ts, t.IsFound c)
    (hfirst : s.distinct = true → ∀ item ∈ s.projection.items.head?, ∀ c ∈ columns.head?,
      item = .column c) :
    Tuple.Ascending columns (s.thinning ts) := by
  rw [thinning]
  split
  · rename_i key hd hkey
    cases columns with
    | nil => exact .nil_columns _
    | cons c columns =>
      -- The key is the first item by its name alone, and so looks up the same value.
      have hc : ∀ t ∈ Distinct.firsts key ts, t.lookup c = t.lookup key := by
        intro t ht
        rw [(hfound c List.mem_cons_self t (Distinct.of_mem_firsts ht).1).lookup_eq]
        rw [distinctKey?] at hkey
        split at hkey
        all_goals simp_all
      refine .of_first_lt (fun t ht => h.present t (Distinct.of_mem_firsts ht).1) ?_
      refine (Distinct.pairwise_firsts key ts).imp_of_mem fun ht hu hlt => ?_
      rwa [hc _ ht, hc _ hu]
  · exact h

/-- The rows of the statement of a text on one table, over a sound table, come in the order of its
    sorting columns, if it shows them all, unless it drops repeats: then they come in the order of
    the first item, which is also that of the sorting columns if the first of them is the first
    item. There are rows if the sums of the statement can be taken. -/
theorem ascending_result {text : String} (hs : Statement.ofText k text = .ok s)
    (h : ∀ name ∈ s.tables, k.IsSound files name) (hj : s.joins = [])
    (hshown : s.projection.isAll = true ∨ ∀ c ∈ s.orderBy, .column c ∈ s.projection.items)
    (stats : Statistics) :
    ∃ ts, ((s.plan stats).value.tuples? k files).result =
        (SumCall.check s.sums).map (fun _ => ts) ∧
      ((s.distinct = true → ∀ item ∈ s.projection.items.head?, ∀ c ∈ s.orderBy.head?,
        item = .column c) → Tuple.Ascending s.orderBy ts) ∧
      (s.distinct = true → ∀ key ∈ s.distinctKey?, Tuple.Ascending [key] ts) := by
  have hfound : ∀ c ∈ s.orderBy,
      ∀ t ∈ s.ordering (s.grouping (s.selected k files stats)), t.IsFound c := fun c hc =>
    isFound_ordering (isResolved_of_ofText hs) hj stats hc
  refine ⟨_, result_plan stats h, ?_⟩
  rw [rows_plan, finish]
  refine ⟨fun hfirst => ?_, fun hd key hkey => ascending_thinning hd hkey⟩
  refine ascending_thinning_of_first (ascending_shown hfound hshown) (fun c hc => ?_) hfirst
  exact isFound_shown (hfound c hc) (hshown.imp_right fun hall => hall c hc)

end Statement

namespace Sample

/-- `SELECT DISTINCT S.a, SUM(S.c), c FROM S WHERE c > 0 GROUP BY S.c ORDER BY S.a, c`. -/
def firstOfEach : Statement where
  base := "S"
  joins := []
  selection := some (.compare (.column ⟨some "S", "c"⟩) .greater (.literal (.int 0)))
  projection := .list [.column ⟨some "S", "a"⟩, .sum ⟨.column ⟨some "S", "c"⟩⟩,
    .column ⟨some "S", "c"⟩]
  groupBy := [⟨some "S", "c"⟩]
  orderBy := [⟨some "S", "a"⟩, ⟨some "S", "c"⟩]
  distinct := true

/-- The first item is the first sorting column, so that dropping repeats keeps the order. -/
theorem firstOfEach_ascending :
    Statement.ofText catalog
      "SELECT DISTINCT S.a, SUM(S.c), c FROM S WHERE c > 0 GROUP BY S.c ORDER BY S.a, c" =
      .ok firstOfEach ∧
    (∀ name ∈ firstOfEach.tables, catalog.IsSound files name) ∧ firstOfEach.joins = [] ∧
    (∀ c ∈ firstOfEach.orderBy, .column c ∈ firstOfEach.projection.items) ∧
    (firstOfEach.grouping (firstOfEach.selected catalog files .empty)).length = 3 ∧
    ∃ ts, ((firstOfEach.plan .empty).value.tuples? catalog files).result = .ok ts ∧
      Tuple.Ascending firstOfEach.orderBy ts := by
  have htext : Statement.ofText catalog
      "SELECT DISTINCT S.a, SUM(S.c), c FROM S WHERE c > 0 GROUP BY S.c ORDER BY S.a, c" =
      .ok firstOfEach := by
    decide +kernel
  have hsound : ∀ name ∈ firstOfEach.tables, catalog.IsSound files name := by decide
  have hshown : ∀ c ∈ firstOfEach.orderBy, .column c ∈ firstOfEach.projection.items := by decide
  obtain ⟨ts, hts, hordered, _⟩ :=
    Statement.ascending_result htext hsound rfl (.inr hshown) .empty
  refine ⟨htext, hsound, rfl, hshown, by decide +kernel, ts, hts, hordered fun _ => ?_⟩
  simp [firstOfEach, Projection.items]

/-- `SELECT DISTINCT a, c FROM S WHERE c < 7 ORDER BY c`. -/
def resorted : Statement where
  base := "S"
  joins := []
  selection := some (.compare (.column ⟨some "S", "c"⟩) .less (.literal (.int 7)))
  projection := .list [.column ⟨some "S", "a"⟩, .column ⟨some "S", "c"⟩]
  groupBy := []
  orderBy := [⟨some "S", "c"⟩]
  distinct := true

theorem rows_resorted : (resorted.plan .empty).value.rows catalog files =
    [⟨[⟨"S", "a", 1⟩, ⟨"S", "c", 6⟩]⟩, ⟨[⟨"S", "a", 3⟩, ⟨"S", "c", 5⟩]⟩] := by
  have hselected : resorted.selected catalog files .empty =
      [⟨[⟨"S", "a", 3⟩, ⟨"S", "c", 5⟩]⟩, ⟨[⟨"S", "a", 1⟩, ⟨"S", "c", 6⟩]⟩] := by decide +kernel
  -- Sorting by `c` leaves the two rows as they are, and dropping repeats of `a` turns them.
  have hordered : resorted.ordering
        (resorted.grouping [⟨[⟨"S", "a", 3⟩, ⟨"S", "c", 5⟩]⟩, ⟨[⟨"S", "a", 1⟩, ⟨"S", "c", 6⟩]⟩]) =
      [⟨[⟨"S", "a", 3⟩, ⟨"S", "c", 5⟩]⟩, ⟨[⟨"S", "a", 1⟩, ⟨"S", "c", 6⟩]⟩] :=
    congrArg (List.map fun p : List (Option Int32) × Tuple => p.2) (StableSort.sort_pair _ _ _)
  rw [Statement.rows_plan, hselected, Statement.finish, hordered]
  exact congrArg (Distinct.dropRepeats none) (StableSort.sort_pair _ _ _)

/-- Where the first item is not the first sorting column, dropping repeats can turn the order. -/
theorem resorted_descends :
    Statement.ofText catalog "SELECT DISTINCT a, c FROM S WHERE c < 7 ORDER BY c" = .ok resorted ∧
    (∀ name ∈ resorted.tables, catalog.IsSound files name) ∧ resorted.joins = [] ∧
    (∀ c ∈ resorted.orderBy, .column c ∈ resorted.projection.items) ∧
    ((resorted.plan .empty).value.tuples? catalog files).result =
      .ok [⟨[⟨"S", "a", 1⟩, ⟨"S", "c", 6⟩]⟩, ⟨[⟨"S", "a", 3⟩, ⟨"S", "c", 5⟩]⟩] ∧
    ¬Tuple.Ascending resorted.orderBy
      [⟨[⟨"S", "a", 1⟩, ⟨"S", "c", 6⟩]⟩, ⟨[⟨"S", "a", 3⟩, ⟨"S", "c", 5⟩]⟩] := by
  have hsound : ∀ name ∈ resorted.tables, catalog.IsSound files name := by decide
  refine ⟨by decide +kernel, hsound, rfl, by decide, ?_, fun hordered => ?_⟩
  · rw [Statement.result_plan .empty hsound, rows_resorted]
    rfl
  · have hfirst := (List.pairwise_cons.1 hordered.ordered).1 _ (List.mem_singleton_self _)
    exact absurd (hfirst [6] rfl [5] rfl) (by decide)

end Sample

end CsvQuery
