import CsvQuery.Proofs.SumNames
import Mathlib.Data.List.Nodup

/-!
# Groups

The tuples that have all grouping columns fall into groups, one for each list of
values that occurs. The groups stand in the order in which their values first
occur, and each has all tuples with its values, in order. So a group is known
from its values and the list alone, and the groups together are the tuples that
have the columns, each once.

Reading the tuples one after the other, and putting each into the group of its
values or else into a new one behind the others, gives the same groups, if a map
from the values to the positions of the groups is kept in step with them.

* `Aggregate.arrival`: where the first tuple with given values stands.
* `Aggregate.pairwise_arrival`: the order of the groups.
* `Aggregate.flatMap_group_perm`: no tuple is left out or in two groups.
* `Aggregate.Found.isOf_foldl`: the groups, found in one pass.
* `Plan.result_tuples?_aggregate`: all of this about a plan that makes groups.
-/

namespace CsvQuery

open List (Forall₂)

namespace Aggregate

variable {columns : List ColumnRef} {ts : List Tuple} {t : Tuple} {key : List Int32}

/-! ## One group -/

theorem mem_group : t ∈ group columns ts key ↔ t ∈ ts ∧ key? columns t = some key := by
  rw [group, List.mem_filter, decide_eq_true_iff]

theorem group_cons_of_eq (ts : List Tuple) (h : key? columns t = some key) :
    group columns (t :: ts) key = t :: group columns ts key :=
  List.filter_cons_of_pos (decide_eq_true h)

theorem group_cons_of_ne (ts : List Tuple) (h : key? columns t ≠ some key) :
    group columns (t :: ts) key = group columns ts key :=
  List.filter_cons_of_neg (by rwa [decide_eq_true_iff])

theorem group_concat (ts : List Tuple) (t : Tuple) (key : List Int32) :
    group columns (ts ++ [t]) key =
      if key? columns t = some key then group columns ts key ++ [t] else group columns ts key := by
  rw [group, List.filter_append]
  split <;> simp [group, *]

theorem head?_group :
    (group columns ts key).head? = ts.find? fun t => key? columns t = some key :=
  List.head?_filter

/-! ## The values of the groups -/

/-- The values of the groups of a list, in order. -/
def keys (columns : List ColumnRef) (ts : List Tuple) : List (List Int32) :=
  firstOccurrences (ts.filterMap (key? columns))

theorem mem_keys : key ∈ keys columns ts ↔ ∃ t ∈ ts, key? columns t = some key := by
  rw [keys, mem_firstOccurrences, List.mem_filterMap]

theorem keys_eq_nil : keys columns ts = [] ↔ ∀ t ∈ ts, key? columns t = none := by
  rw [List.eq_nil_iff_forall_not_mem]
  constructor
  · intro h t ht
    cases hkey : key? columns t with
    | none => rfl
    | some key => exact absurd (mem_keys.2 ⟨t, ht, hkey⟩) (h key)
  · intro h key hmem
    obtain ⟨t, ht, hkey⟩ := mem_keys.1 hmem
    rw [h t ht] at hkey
    cases hkey

theorem keys_cons_of_none (ts : List Tuple) (h : key? columns t = none) :
    keys columns (t :: ts) = keys columns ts := by
  rw [keys, List.filterMap_cons_none h, keys]

theorem keys_cons_of_some (ts : List Tuple) (h : key? columns t = some key) :
    keys columns (t :: ts) = key :: (keys columns ts).filter (· ≠ key) := by
  rw [keys, List.filterMap_cons_some h, firstOccurrences, keys]

/-- The place of the first tuple with given values of the grouping columns. -/
def arrival (columns : List ColumnRef) (ts : List Tuple) (key : List Int32) : Nat :=
  ts.findIdx fun t => key? columns t = some key

theorem arrival_cons_of_eq (ts : List Tuple) (h : key? columns t = some key) :
    arrival columns (t :: ts) key = 0 := by
  simp [arrival, List.findIdx_cons, h]

theorem arrival_cons_of_ne (ts : List Tuple) (h : key? columns t ≠ some key) :
    arrival columns (t :: ts) key = arrival columns ts key + 1 := by
  simp [arrival, List.findIdx_cons, h]

/-- The values of the groups stand in the order in which they first occur. -/
theorem pairwise_arrival (columns : List ColumnRef) (ts : List Tuple) :
    (keys columns ts).Pairwise fun key key' =>
      arrival columns ts key < arrival columns ts key' := by
  induction ts with
  | nil => exact .nil
  | cons t ts ih =>
    cases ht : key? columns t with
    | none =>
      have hne (key : List Int32) : key? columns t ≠ some key := by simp [ht]
      rw [keys_cons_of_none ts ht]
      refine ih.imp fun {key key'} hlt => ?_
      rw [arrival_cons_of_ne ts (hne key), arrival_cons_of_ne ts (hne key')]
      exact Nat.succ_lt_succ hlt
    | some first =>
      have hne {key : List Int32} (hkey : key ∈ (keys columns ts).filter (· ≠ first)) :
          key? columns t ≠ some key := by
        rw [ht, Ne, Option.some.injEq]
        exact fun heq => of_decide_eq_true (List.mem_filter.1 hkey).2 heq.symm
      -- The values of the new first tuple come first; all others occur one place later than before.
      rw [keys_cons_of_some ts ht, List.pairwise_cons]
      refine ⟨fun key hkey => ?_, (ih.filter _).imp_of_mem fun {key key'} hkey hkey' hlt => ?_⟩
      · rw [arrival_cons_of_eq ts ht, arrival_cons_of_ne ts (hne hkey)]
        exact Nat.succ_pos _
      · rw [arrival_cons_of_ne ts (hne hkey), arrival_cons_of_ne ts (hne hkey')]
        exact Nat.succ_lt_succ hlt

theorem nodup_keys (columns : List ColumnRef) (ts : List Tuple) : (keys columns ts).Nodup :=
  nodup_firstOccurrences _

/-! ## All groups -/

theorem groups_eq (columns : List ColumnRef) (ts : List Tuple) :
    groups columns ts = (keys columns ts).map (group columns ts) :=
  rfl

/-- The groups of different values are together the tuples that have one of them. -/
theorem flatMap_group_perm_of_nodup {chosen : List (List Int32)} (h : chosen.Nodup)
    (ts : List Tuple) : (chosen.flatMap (group columns ts)).Perm
      (ts.filter fun t => (key? columns t).any (· ∈ chosen)) := by
  induction chosen with
  | nil => simp
  | cons key others ih =>
    obtain ⟨hnew, hothers⟩ := List.nodup_cons.1 h
    -- The first group is a part of the tuples with chosen values; the rest has the other values.
    have hfirst : group columns ts key =
        (ts.filter fun t => (key? columns t).any (· ∈ key :: others)).filter
          fun t => key? columns t = some key := by
      rw [List.filter_filter, group]
      refine List.filter_congr fun t _ => ?_
      by_cases ht : key? columns t = some key <;> simp [ht]
    have hrest : (ts.filter fun t => (key? columns t).any (· ∈ others)) =
        (ts.filter fun t => (key? columns t).any (· ∈ key :: others)).filter
          fun t => !decide (key? columns t = some key) := by
      rw [List.filter_filter]
      refine List.filter_congr fun t _ => ?_
      cases ht : key? columns t with
      | none => rfl
      | some other =>
        by_cases heq : other = key
        · simp [heq, hnew]
        · simp [heq]
    rw [List.flatMap_cons, hfirst]
    refine ((ih hothers).append_left _).trans ?_
    rw [hrest]
    exact List.filter_append_perm _ _

/-- The groups of a list are together its tuples that have all grouping columns, each as often as
    in the list. -/
theorem flatMap_group_perm (columns : List ColumnRef) (ts : List Tuple) :
    ((keys columns ts).flatMap (group columns ts)).Perm
      (ts.filter fun t => (key? columns t).isSome) := by
  have hall : (ts.filter fun t => (key? columns t).any (· ∈ keys columns ts)) =
      ts.filter fun t => (key? columns t).isSome := by
    refine List.filter_congr fun t ht => ?_
    cases hkey : key? columns t with
    | none => rfl
    | some key => simpa using mem_keys.2 ⟨t, ht, hkey⟩
  rw [← hall]
  exact flatMap_group_perm_of_nodup (nodup_keys columns ts) ts

/-- Tuples that lack a grouping column do not count. -/
theorem groups_filter (columns : List ColumnRef) (ts : List Tuple) :
    groups columns (ts.filter fun t => (key? columns t).isSome) = groups columns ts := by
  have hgroup (key : List Int32) :
      group columns (ts.filter fun t => (key? columns t).isSome) key = group columns ts key := by
    rw [group, List.filter_filter, group]
    refine List.filter_congr fun t _ => ?_
    by_cases ht : key? columns t = some key <;> simp [ht]
  have hkeys : keys columns (ts.filter fun t => (key? columns t).isSome) = keys columns ts := by
    rw [keys, keys, List.filterMap_filter]
    refine congrArg firstOccurrences (List.filterMap_congr fun t _ => ?_)
    cases key? columns t <;> rfl
  rw [groups_eq, groups_eq, hkeys]
  exact List.map_congr_left fun key _ => hgroup key

/-! ## Groups in one pass -/

theorem firstOccurrences_concat {α : Type} [DecidableEq α] (as : List α) (a : α) :
    firstOccurrences (as ++ [a]) =
      if a ∈ as then firstOccurrences as else firstOccurrences as ++ [a] := by
  induction as with
  | nil => rfl
  | cons b as ih =>
    rw [List.cons_append, firstOccurrences, ih, firstOccurrences]
    by_cases hmem : a ∈ as
    · rw [if_pos hmem, if_pos (List.mem_cons_of_mem b hmem)]
    · rw [if_neg hmem, List.filter_append]
      by_cases heq : a = b <;> simp [heq, hmem]

theorem keys_concat (ts : List Tuple) (h : key? columns t = some key) :
    keys columns (ts ++ [t]) =
      if key ∈ keys columns ts then keys columns ts else keys columns ts ++ [key] := by
  rw [keys, List.filterMap_append, List.filterMap_cons_some h, List.filterMap_nil,
    firstOccurrences_concat, ← keys]
  by_cases hold : key ∈ keys columns ts
  · rw [if_pos hold, if_pos (mem_firstOccurrences.1 hold)]
  · rw [if_neg hold, if_neg (mt mem_firstOccurrences.2 hold)]

theorem keys_concat_of_none (ts : List Tuple) (ht : key? columns t = none) :
    keys columns (ts ++ [t]) = keys columns ts := by
  rw [keys, List.filterMap_append, List.filterMap_cons_none ht, List.filterMap_nil, List.append_nil,
    keys]

/-- A tuple whose values have occurred comes to the group at the position of the values. -/
theorem groups_concat_of_idxOf? (ht : key? columns t = some key) {i : Nat}
    (hi : (keys columns ts).idxOf? key = some i) :
    groups columns (ts ++ [t]) = (groups columns ts).modify i (· ++ [t]) := by
  obtain ⟨hlt, rfl, -⟩ := List.idxOf?_eq_some_iff.1 hi
  have hold := List.getElem_mem hlt
  -- The values are all different, so that no other place has those of the tuple.
  refine List.ext_getElem? fun j => ?_
  rw [groups_eq, keys_concat ts ht, if_pos hold, List.getElem?_map, List.getElem?_modify, groups_eq,
    List.getElem?_map]
  rcases Nat.lt_or_ge j (keys columns ts).length with hj | hj
  · have hplace : key? columns t = some (keys columns ts)[j] ↔ i = j := by
      rw [ht, Option.some.injEq, (nodup_keys columns ts).getElem_inj_iff]
    rw [List.getElem?_eq_getElem hj]
    by_cases heq : i = j
    · simp [group_concat, hplace, heq]
    · simp [group_concat, hplace, heq]
  · rw [List.getElem?_eq_none hj]
    rfl

/-- A tuple whose values have not occurred makes a new group behind the others. -/
theorem groups_concat_of_notMem (ht : key? columns t = some key) (hnew : key ∉ keys columns ts) :
    groups columns (ts ++ [t]) = groups columns ts ++ [[t]] := by
  have hempty : group columns ts key = [] :=
    List.eq_nil_iff_forall_not_mem.2 fun u hu => hnew (mem_keys.2 ⟨u, mem_group.1 hu⟩)
  rw [groups_eq, keys_concat ts ht, if_neg hnew, List.map_append, List.map_singleton, group_concat,
    if_pos ht, hempty, groups_eq]
  refine congrArg (· ++ [[t]]) (List.map_congr_left fun other hother => ?_)
  rw [group_concat, if_neg]
  rw [ht, Option.some.injEq]
  exact fun heq => hnew (heq ▸ hother)

theorem groups_concat_of_none (ts : List Tuple) (ht : key? columns t = none) :
    groups columns (ts ++ [t]) = groups columns ts := by
  rw [groups_eq, groups_eq, keys_concat_of_none ts ht]
  refine List.map_congr_left fun key _ => ?_
  rw [group_concat, ht, if_neg (Option.some_ne_none key).symm]

/-- The position of a new member is behind the others. -/
theorem idxOf?_concat {α : Type} [BEq α] [LawfulBEq α] {as : List α} {a : α} (h : a ∉ as) (b : α) :
    (as ++ [a]).idxOf? b = if a == b then some as.length else as.idxOf? b := by
  rw [List.idxOf?, List.findIdx?_append, List.findIdx?_singleton]
  by_cases heq : a = b
  · have hnone : as.findIdx? (· == b) = none := List.idxOf?_eq_none_iff.2 (heq ▸ h)
    simp [hnone, heq]
  · simp [heq]

/-- Groups that have been found, and the position of each by its values. -/
structure Found where
  groups : List (List Tuple)
  positions : Std.HashMap (List Int32) Nat

namespace Found

variable {found : Found}

/-- One more tuple comes to the group of its values, or into a new one behind the others. -/
def add (columns : List ColumnRef) (found : Found) (t : Tuple) : Found :=
  match key? columns t with
  | none => found
  | some key =>
    match found.positions[key]? with
    | some i => { found with groups := found.groups.modify i (· ++ [t]) }
    | none => ⟨found.groups ++ [[t]], found.positions.insert key found.groups.length⟩

/-- What is found are the groups of a list, and the positions are those of their values. -/
structure IsOf (columns : List ColumnRef) (ts : List Tuple) (found : Found) : Prop where
  groups : found.groups = Aggregate.groups columns ts
  positions : ∀ key, found.positions[key]? = (keys columns ts).idxOf? key

/-- One more tuple makes of the groups of a list those of the longer list. -/
theorem IsOf.add (h : found.IsOf columns ts) (t : Tuple) :
    (found.add columns t).IsOf columns (ts ++ [t]) := by
  rw [Found.add]
  cases ht : key? columns t with
  | none =>
    refine ⟨?_, fun key => ?_⟩
    · rw [groups_concat_of_none ts ht, ← h.groups]
    · rw [keys_concat_of_none ts ht, ← h.positions]
  | some key =>
    simp only
    -- The map tells whether the values have occurred, as it holds the place of each.
    rw [h.positions]
    cases hi : (keys columns ts).idxOf? key with
    | some i =>
      have hold : key ∈ keys columns ts := List.isSome_idxOf?.1 (Option.isSome_of_mem hi)
      refine ⟨?_, fun other => ?_⟩
      · rw [groups_concat_of_idxOf? ht hi, ← h.groups]
      · rw [keys_concat ts ht, if_pos hold]
        exact h.positions other
    | none =>
      have hnew : key ∉ keys columns ts := List.idxOf?_eq_none_iff.1 hi
      refine ⟨?_, fun other => ?_⟩
      · rw [groups_concat_of_notMem ht hnew, ← h.groups]
      · rw [keys_concat ts ht, if_neg hnew, Std.HashMap.getElem?_insert, h.positions, h.groups,
          groups_eq, List.length_map, idxOf?_concat hnew]

/-- Going through a list once finds its groups. -/
theorem isOf_foldl (columns : List ColumnRef) (ts : List Tuple) :
    (ts.foldl (Found.add columns) ⟨[], ∅⟩).IsOf columns ts := by
  induction ts using List.reverseRecOn with
  | nil => exact ⟨rfl, fun key => Std.HashMap.getElem?_empty⟩
  | append_singleton ts t ih =>
    rw [List.foldl_concat]
    exact ih.add t

end Found

/-! ## The tuples of the groups -/

/-- Members of a list are related to what they are mapped to, if each is mapped to something. -/
theorem forall₂_filterMap {α β : Type} {R : α → β → Prop} {f : α → Option β} {xs : List α}
    (h : ∀ x ∈ xs, ∃ y, f x = some y ∧ R x y) : Forall₂ R xs (xs.filterMap f) := by
  induction xs with
  | nil => exact .nil
  | cons x xs ih =>
    obtain ⟨⟨y, hy, hxy⟩, hxs⟩ := List.forall_mem_cons.1 h
    rw [List.filterMap_cons_some hy]
    exact .cons hxy (ih hxs)

/-- Each group gives one tuple: its first one, and the totals behind it. -/
theorem forall₂_groups (columns : List ColumnRef) (sums : List SumCall) (ts : List Tuple) :
    Forall₂ (fun members u => ∃ t, members.head? = some t ∧
        u.attributes = t.attributes ++
          sums.map fun call => ⟨sumTable, call.name, call.total members⟩)
      (groups columns ts) (summaries columns sums ts) := by
  refine forall₂_filterMap fun members hmembers => ?_
  obtain ⟨t, -, hhead⟩ := of_mem_groups hmembers
  refine ⟨_, ?_, t, hhead, rfl⟩
  rw [summary?, hhead]
  rfl

/-- The tuples of the groups stand in the order of the values of the groups. -/
theorem forall₂_keys (columns : List ColumnRef) (sums : List SumCall) (ts : List Tuple) :
    Forall₂ (fun key u => ∃ t, (ts.find? fun t => key? columns t = some key) = some t ∧
        u.attributes = t.attributes ++ sums.map fun call =>
          ⟨sumTable, call.name, call.total (group columns ts key)⟩)
      (keys columns ts) (summaries columns sums ts) := by
  have hgroups := forall₂_groups columns sums ts
  rw [groups_eq, List.forall₂_map_left_iff] at hgroups
  refine hgroups.imp fun key u => ?_
  rintro ⟨t, ht, hu⟩
  exact ⟨t, head?_group.symm.trans ht, hu⟩

end Aggregate

/-- A plan that makes groups gives their tuples, if its sums can be taken. -/
theorem Plan.result_summaries (k : Catalog) (files : Files) (columns : List ColumnRef)
    {sums : List SumCall} (hsums : SumCall.check sums = .ok ()) (ts : List Tuple) :
    ((Plan.aggregate columns sums (.tuples ts)).tuples? k files).result =
      .ok (Aggregate.summaries columns sums ts) :=
  Plan.result_of_checkSums (by simp [Plan.tables]) hsums

/-- The tuples of the groups of a list, if its sums can be taken. There is one for each list of
    values of the grouping columns that a tuple of the list has, in the order in which these values
    first occur: the first tuple with the values, and behind it one attribute for each sum, with the
    name of the sum and its total over the tuples with the values. Each tuple that has the grouping
    columns counts in one group and once, and going through the list with a map of positions finds
    these groups; the other tuples might as well not be there. -/
theorem Plan.result_tuples?_aggregate (k : Catalog) (files : Files) (columns : List ColumnRef)
    {sums : List SumCall} (hsums : SumCall.check sums = .ok ()) (ts : List Tuple) :
    ∃ (keys : List (List Int32)) (us : List Tuple),
      ((Plan.aggregate columns sums (.tuples ts)).tuples? k files).result = .ok us ∧
      (∀ key, key ∈ keys ↔ ∃ t ∈ ts, Aggregate.key? columns t = some key) ∧
      (keys.Pairwise fun key key' =>
        Aggregate.arrival columns ts key < Aggregate.arrival columns ts key') ∧
      Forall₂ (fun key u =>
        ∃ t, (ts.find? fun t => Aggregate.key? columns t = some key) = some t ∧
          u.attributes = t.attributes ++ sums.map fun call =>
            ⟨sumTable, call.name, call.total (Aggregate.group columns ts key)⟩) keys us ∧
      (keys.flatMap (Aggregate.group columns ts)).Perm
        (ts.filter fun t => (Aggregate.key? columns t).isSome) ∧
      (ts.foldl (Aggregate.Found.add columns) ⟨[], ∅⟩).groups =
        keys.map (Aggregate.group columns ts) ∧
      ((Plan.aggregate columns sums
        (.tuples (ts.filter fun t => (Aggregate.key? columns t).isSome))).tuples? k files).result =
          .ok us ∧
      (us = [] ↔ ∀ t ∈ ts, Aggregate.key? columns t = none) := by
  have hkeys := Aggregate.forall₂_keys columns sums ts
  refine ⟨Aggregate.keys columns ts, Aggregate.summaries columns sums ts,
    Plan.result_summaries k files columns hsums ts, fun key => Aggregate.mem_keys,
    Aggregate.pairwise_arrival columns ts, hkeys, Aggregate.flatMap_group_perm columns ts,
    (Aggregate.Found.isOf_foldl columns ts).groups, ?_, ?_⟩
  · rw [Plan.result_summaries k files columns hsums, Aggregate.summaries, Aggregate.groups_filter,
      Aggregate.summaries]
  · rw [← List.length_eq_zero_iff, ← hkeys.length_eq, List.length_eq_zero_iff]
    exact Aggregate.keys_eq_nil

namespace Sample

/-- Rows of `S` and one of `R`, which lacks the columns of `S`. -/
def mixed : List Tuple :=
  [.ofRow "S" ["a", "c"] [3, 5], .ofRow "R" ["a", "b"] [1, 2], .ofRow "S" ["a", "c"] [1, 6],
    .ofRow "S" ["a", "c"] [3, 7]]

/-- The rows of `S` form two groups, and the row of `R` is in none of them. -/
theorem mixed_aggregate :
    SumCall.check [⟨.column ⟨some "S", "c"⟩⟩] = .ok () ∧
    ((Plan.aggregate [⟨some "S", "a"⟩] [⟨.column ⟨some "S", "c"⟩⟩] (.tuples mixed)).tuples?
      catalog files).result = .ok [
        ⟨[⟨"S", "a", 3⟩, ⟨"S", "c", 5⟩, ⟨"SUM_RESULT", "SUM(S.c)", 12⟩]⟩,
        ⟨[⟨"S", "a", 1⟩, ⟨"S", "c", 6⟩, ⟨"SUM_RESULT", "SUM(S.c)", 6⟩]⟩] ∧
    ∃ keys : List (List Int32), keys.length = 2 ∧
      ∀ key, key ∈ keys ↔ ∃ t ∈ mixed, Aggregate.key? [⟨some "S", "a"⟩] t = some key := by
  have hsums : SumCall.check [⟨.column ⟨some "S", "c"⟩⟩] = .ok () := rfl
  have hrows : (Plan.aggregate [⟨some "S", "a"⟩] [⟨.column ⟨some "S", "c"⟩⟩] (.tuples mixed)).rows
      catalog files = [⟨[⟨"S", "a", 3⟩, ⟨"S", "c", 5⟩, ⟨"SUM_RESULT", "SUM(S.c)", 12⟩]⟩,
        ⟨[⟨"S", "a", 1⟩, ⟨"S", "c", 6⟩, ⟨"SUM_RESULT", "SUM(S.c)", 6⟩]⟩] := by decide
  obtain ⟨keys, us, hresult, hkeys, -, htuples, -⟩ :=
    Plan.result_tuples?_aggregate catalog files [⟨some "S", "a"⟩] hsums mixed
  have hrun := @Plan.result_tuples? catalog files
    (.aggregate [⟨some "S", "a"⟩] [⟨.column ⟨some "S", "c"⟩⟩] (.tuples mixed)) (by decide)
  rw [hrows] at hrun
  obtain rfl := Except.ok.inj (hresult.symm.trans hrun)
  exact ⟨hsums, hrun, keys, htuples.length_eq, hkeys⟩

end Sample

end CsvQuery
