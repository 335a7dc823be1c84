import CsvQuery.Proofs.Stability

/-!
# First arrivals

Dropping repeats by a column leaves one tuple for each value of the column: the
one that came first, in ascending order of the values. The tuples are sorted by
their values, and of those that stand together with the same value only the
first one is kept. Since sorting keeps their order, that is the one that came
first of them.

Making groups by the same column, without sums, leaves the same tuples in the
order in which the values first occur. So sorting these by the column gives what
dropping repeats gives. Both lists ascend, and in both, the tuples with a value
are those with that value in the list, cut off behind the first one.

* `Distinct.group_firsts`: what is kept of the tuples with a value.
* `Aggregate.group_summaries`: the same for groups without sums.
* `Distinct.firsts_eq_sorted`: dropping repeats, and sorting the groups.
* `Plan.result_tuples?_distinct`: the tuples of a plan that drops repeats.
* `Plan.distinct_eq_sorted_groups`: the two plans have the same tuples.
-/

namespace CsvQuery

open List (Forall₂)

/-! ## Groups by one column -/

namespace Aggregate

variable {columns : List ColumnRef} {ts : List Tuple} {t : Tuple} {c : ColumnRef} {v : Int32}

theorem key?_singleton : key? [c] t = some [v] ↔ t.lookup c = some v := by
  rw [key?_eq_some, List.map_singleton, List.map_singleton, List.singleton_inj]

theorem group_singleton (c : ColumnRef) (ts : List Tuple) (v : Int32) :
    group [c] ts [v] = ts.filter fun t => t.lookup c = some v :=
  List.filter_congr fun _ _ => decide_eq_decide.2 key?_singleton

/-- Among the first tuples of groups, none but that of the group of given values has these values,
    if the groups are different ones. -/
theorem group_heads {chosen : List (List Int32)} (h : chosen.Nodup) (ts : List Tuple)
    (key : List Int32) :
    group columns (chosen.filterMap fun other => (group columns ts other).head?) key =
      if key ∈ chosen then (group columns ts key).take 1 else [] := by
  induction chosen with
  | nil => rfl
  | cons other chosen ih =>
    obtain ⟨hnew, hchosen⟩ := List.nodup_cons.1 h
    cases hgroup : group columns ts other with
    | nil =>
      rw [List.filterMap_cons_none (by rw [hgroup]; rfl), ih hchosen]
      by_cases heq : key = other
      · rw [heq, if_neg hnew, if_pos List.mem_cons_self, hgroup, List.take_nil]
      · simp [heq]
    | cons t rest =>
      have ht : key? columns t = some other :=
        (mem_group.1 (hgroup ▸ List.mem_cons_self : t ∈ group columns ts other)).2
      rw [List.filterMap_cons_some (by rw [hgroup]; rfl)]
      by_cases heq : key = other
      · subst heq
        rw [group_cons_of_eq _ ht, ih hchosen, if_neg hnew, if_pos List.mem_cons_self, hgroup]
        rfl
      · have hne : key? columns t ≠ some key := by
          rw [ht, Ne, Option.some.injEq]
          exact Ne.symm heq
        rw [group_cons_of_ne _ hne, ih hchosen]
        simp [heq]

/-- Without sums, the tuples of the groups are their first ones. -/
theorem summaries_nil (columns : List ColumnRef) (ts : List Tuple) :
    summaries columns [] ts =
      (keys columns ts).filterMap fun key => (group columns ts key).head? := by
  rw [summaries, groups_eq, List.filterMap_map]
  refine List.filterMap_congr fun key _ => ?_
  rw [Function.comp_apply, summary?]
  simp

/-- Groups without sums leave of the tuples with given values the first one. -/
theorem group_summaries (columns : List ColumnRef) (ts : List Tuple) (key : List Int32) :
    group columns (summaries columns [] ts) key = (group columns ts key).take 1 := by
  rw [summaries_nil, group_heads (nodup_keys columns ts)]
  split
  · rfl
  · rename_i hkey
    have hempty : group columns ts key = [] :=
      List.eq_nil_iff_forall_not_mem.2 fun t ht => hkey (mem_keys.2 ⟨t, mem_group.1 ht⟩)
    rw [hempty, List.take_nil]

theorem isSome_key?_of_mem_summaries (h : t ∈ summaries columns [] ts) :
    (key? columns t).isSome = true := by
  rw [summaries_nil] at h
  obtain ⟨key, -, hhead⟩ := List.mem_filterMap.1 h
  exact Option.isSome_of_mem (mem_group.1 (List.mem_of_mem_head? hhead)).2

end Aggregate

/-- Lists that ascend by one column are the same if in each of them the tuples with the same value
    stand in the same order. -/
theorem Tuple.Ascending.eq_of_group_singleton {c : ColumnRef} {ts us : List Tuple}
    (hts : Ascending [c] ts) (hus : Ascending [c] us)
    (h : ∀ v, Aggregate.group [c] ts [v] = Aggregate.group [c] us [v]) : ts = us := by
  refine hts.eq_of_group hus fun values => ?_
  have hnone (ws : List Tuple) (hlength : values.length ≠ 1) :
      Aggregate.group [c] ws values = [] := by
    refine List.eq_nil_iff_forall_not_mem.2 fun w hw => hlength ?_
    have hmap := congrArg List.length (Aggregate.key?_eq_some.1 (Aggregate.mem_group.1 hw).2)
    simpa using hmap.symm
  by_cases hlength : values.length = 1
  · obtain ⟨v, rfl⟩ := List.length_eq_one_iff.1 hlength
    exact h v
  · rw [hnone ts hlength, hnone us hlength]

/-! ## What is left when repeats are dropped -/

namespace Distinct

variable {key : ColumnRef} {ts : List Tuple} {t : Tuple} {v : Int32}

theorem filter_eq_nil_of_lt {ps : List (Int32 × Tuple)} (h : ∀ p ∈ ps, v < p.1) :
    (ps.filter fun p => p.1 = v) = [] := by
  refine List.filter_eq_nil_iff.2 fun p hp heq => ?_
  exact Int32.lt_irrefl (of_decide_eq_true heq ▸ h p hp)

/-- Dropping repeats of an ascending list keeps of the tuples with a value the first one, unless the
    value is the last one that was kept before. -/
theorem filter_dropRepeats {last : Option Int32} {ps : List (Int32 × Tuple)}
    (hps : ps.Pairwise fun p q => p.1 ≤ q.1) (hlast : ∀ w ∈ last, ∀ p ∈ ps, w ≤ p.1)
    (hkey : ∀ p ∈ ps, p.2.lookup key = some p.1) (v : Int32) :
    (dropRepeats last ps).filter (fun t => t.lookup key = some v) =
      if last = some v then [] else ((ps.filter fun p => p.1 = v).map (·.2)).take 1 := by
  induction ps generalizing last with
  | nil => simp [dropRepeats]
  | cons p ps ih =>
    obtain ⟨w, t⟩ := p
    obtain ⟨hle, hps⟩ := List.pairwise_cons.1 hps
    obtain ⟨ht, hkey⟩ := List.forall_mem_cons.1 hkey
    rw [dropRepeats]
    split
    · rename_i hw
      rw [ih hps (fun u hu p hp => hlast u hu p (List.mem_cons_of_mem _ hp)) hkey, hw]
      by_cases hv : w = v
      · rw [if_pos (congrArg some hv), if_pos (congrArg some hv)]
      · rw [if_neg (mt Option.some.inj hv), if_neg (mt Option.some.inj hv),
          List.filter_cons_of_neg (by simpa using hv)]
    · rename_i hw
      have hleast : ∀ u ∈ some w, ∀ p ∈ ps, u ≤ p.1 := fun u hu => Option.mem_some_iff.1 hu ▸ hle
      have hrest := ih hps hleast hkey
      by_cases hv : w = v
      · subst hv
        rw [List.filter_cons_of_pos (by simpa using ht), hrest, if_pos rfl, if_neg hw,
          List.filter_cons_of_pos (by simp)]
        rfl
      · rw [List.filter_cons_of_neg (by simpa [ht] using hv), hrest,
          if_neg (mt Option.some.inj hv), List.filter_cons_of_neg (by simpa using hv)]
        split
        · rename_i hlastv
          -- The rest has no smaller values than the new last one, which is greater than `v`.
          have hvw : v < w := Int32.lt_of_le_of_ne (hlast v hlastv _ List.mem_cons_self) (Ne.symm hv)
          rw [filter_eq_nil_of_lt fun p hp => Int32.lt_of_lt_of_le hvw (hle p hp)]
          rfl
        · rfl

theorem filter_keyed (key : ColumnRef) (ts : List Tuple) (v : Int32) :
    ((keyed key ts).filter fun p => p.1 = v).map (·.2) =
      ts.filter fun t => t.lookup key = some v := by
  induction ts with
  | nil => rfl
  | cons t ts ih =>
    cases ht : t.lookup key with
    | none =>
      have hskip : keyed key (t :: ts) = keyed key ts := List.filterMap_cons_none (by rw [ht]; rfl)
      rw [hskip, ih, List.filter_cons_of_neg (by simp [ht])]
    | some w =>
      have hkeyed : keyed key (t :: ts) = (w, t) :: keyed key ts :=
        List.filterMap_cons_some (by rw [ht]; rfl)
      rw [hkeyed]
      by_cases hv : w = v
      · rw [List.filter_cons_of_pos (by simpa using hv), List.map_cons, ih,
          List.filter_cons_of_pos (by simpa [ht] using hv)]
      · rw [List.filter_cons_of_neg (by simpa using hv), ih,
          List.filter_cons_of_neg (by simpa [ht] using hv)]

/-- Of the tuples with a value, the first one is kept. -/
theorem group_firsts (key : ColumnRef) (ts : List Tuple) (v : Int32) :
    Aggregate.group [key] (firsts key ts) [v] = (Aggregate.group [key] ts [v]).take 1 := by
  have hordered := StableSort.pairwise_sort_value (fun _ _ _ => Int32.le_trans) Int32.le_total
    Prod.fst (keyed key ts)
  have hsame := StableSort.filter_sort_value (fun _ _ _ => Int32.le_trans) Int32.le_total Prod.fst
    (p := fun p => decide (p.1 = v)) (fun p q hp hq => by simp_all) (keyed key ts)
  rw [Aggregate.group_singleton, Aggregate.group_singleton, firsts,
    filter_dropRepeats hordered (by simp) fun p hp =>
      (mem_keyed ((StableSort.sort_perm _ _).mem_iff.1 hp)).2,
    if_neg (Option.some_ne_none v).symm, hsame, filter_keyed]

/-- The tuple that is kept of those with a value is the first one in the list. -/
theorem mem_firsts : t ∈ firsts key ts ∧ t.lookup key = some v ↔
    ts.find? (fun u => u.lookup key = some v) = some t := by
  rw [← List.head?_filter, ← Aggregate.group_singleton, ← Aggregate.key?_singleton,
    ← Aggregate.mem_group, group_firsts]
  cases Aggregate.group [key] ts [v] <;> simp [eq_comm]

/-- Each value that a tuple has is that of one that is kept. -/
theorem exists_mem_firsts :
    (∃ t ∈ firsts key ts, t.lookup key = some v) ↔ ∃ t ∈ ts, t.lookup key = some v := by
  constructor
  · rintro ⟨t, ht, hv⟩
    exact ⟨t, (of_mem_firsts ht).1, hv⟩
  · rintro ⟨t, ht, hv⟩
    have hfound : (ts.find? fun u => u.lookup key = some v).isSome = true :=
      List.find?_isSome.2 ⟨t, ht, by simpa using hv⟩
    obtain ⟨u, hu⟩ := Option.isSome_iff_exists.1 hfound
    exact ⟨u, mem_firsts.2 hu⟩

/-- Dropping repeats once more changes nothing. -/
theorem firsts_firsts (key : ColumnRef) (ts : List Tuple) :
    firsts key (firsts key ts) = firsts key ts := by
  refine (ascending_firsts key _).eq_of_group_singleton (ascending_firsts key ts) fun v => ?_
  rw [group_firsts, group_firsts, List.take_take, Nat.min_self]

/-- Tuples without the column do not count. -/
theorem firsts_filter (key : ColumnRef) (ts : List Tuple) :
    firsts key (ts.filter fun t => (t.lookup key).isSome) = firsts key ts := by
  refine (ascending_firsts key _).eq_of_group_singleton (ascending_firsts key ts) fun v => ?_
  rw [group_firsts, group_firsts, Aggregate.group_singleton, Aggregate.group_singleton,
    List.filter_filter]
  refine congrArg _ (List.filter_congr fun t _ => ?_)
  cases t.lookup key <;> simp

/-- Dropping repeats by a column gives what sorting the groups by that column gives. -/
theorem firsts_eq_sorted (key : ColumnRef) (ts : List Tuple) :
    firsts key ts = Sort.sorted [key] (Aggregate.summaries [key] [] ts) := by
  have hkeys : ∀ t ∈ Aggregate.summaries [key] [] ts, (Aggregate.key? [key] t).isSome = true :=
    fun _ => Aggregate.isSome_key?_of_mem_summaries
  refine (ascending_firsts key ts).eq_of_group_singleton (Sort.ascending_sorted hkeys) fun v => ?_
  rw [group_firsts, Sort.group_sorted hkeys, Aggregate.group_summaries]

end Distinct

/-! ## Plans without repeats -/

/-- Dropping repeats of some tuples by a column gives one tuple for each value that a tuple has in
    that column, in strictly ascending order of the values: the first tuple with the value. The
    tuples without the column might as well not be there, and dropping repeats of what comes out
    changes nothing. -/
theorem Plan.result_tuples?_distinct (k : Catalog) (files : Files) (key : ColumnRef)
    (ts : List Tuple) :
    ∃ (values : List Int32) (us : List Tuple),
      ((Plan.distinct key (.tuples ts)).tuples? k files).result = .ok us ∧
      values.Pairwise (· < ·) ∧
      (∀ v, v ∈ values ↔ ∃ t ∈ ts, t.lookup key = some v) ∧
      Forall₂ (fun v u => u.lookup key = some v ∧
        ts.find? (fun t => t.lookup key = some v) = some u) values us ∧
      ((Plan.distinct key (.tuples (ts.filter fun t => (t.lookup key).isSome))).tuples? k
        files).result = .ok us ∧
      ((Plan.distinct key (.distinct key (.tuples ts))).tuples? k files).result = .ok us := by
  refine ⟨_, Distinct.firsts key ts, Plan.result_of_checkSums (by simp [Plan.tables]) rfl,
    List.pairwise_filterMap.2 (Distinct.pairwise_firsts key ts),
    fun v => List.mem_filterMap.trans Distinct.exists_mem_firsts, ?_, ?_, ?_⟩
  · refine List.Forall₂.flip (Aggregate.forall₂_filterMap fun u hu => ?_)
    obtain ⟨v, hv⟩ := Option.isSome_iff_exists.1 (Distinct.of_mem_firsts hu).2
    exact ⟨v, hv, hv, Distinct.mem_firsts.1 ⟨hu, hv⟩⟩
  · rw [← Distinct.firsts_filter key ts]
    exact Plan.result_of_checkSums (by simp [Plan.tables]) rfl
  · rw [← Distinct.firsts_firsts key ts]
    exact Plan.result_of_checkSums (by simp [Plan.tables]) rfl

/-- Dropping repeats by a column gives the same tuples as grouping by that column without sums and
    sorting by it. -/
theorem Plan.distinct_eq_sorted_groups (k : Catalog) (files : Files) (key : ColumnRef)
    (ts : List Tuple) :
    ∃ us, ((Plan.distinct key (.tuples ts)).tuples? k files).result = .ok us ∧
      ((Plan.sort [key] (.aggregate [key] [] (.tuples ts))).tuples? k files).result = .ok us := by
  refine ⟨Distinct.firsts key ts, Plan.result_of_checkSums (by simp [Plan.tables]) rfl, ?_⟩
  rw [Distinct.firsts_eq_sorted]
  exact Plan.result_of_checkSums (by simp [Plan.tables]) rfl

end CsvQuery
