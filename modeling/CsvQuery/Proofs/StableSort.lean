import CsvQuery.Cursor.Distinct
import CsvQuery.Cursor.Sort
import Mathlib.Data.List.Chain
import Mathlib.Data.List.Forall2

/-!
# Sorted lists

Sorting only changes the order of a list, and it only looks at the members
through its comparison: lists whose members compare alike, one by one, are
sorted alike. Nothing is asked of the comparison, which need not be an order.
If of two members one at least may stand before the other, each member of a
sorted list may stand before the next one. If the comparison is an order, the
members stand in that order, and those that tie as they stood in the list.

* `StableSort.sort_perm`: a sorted list has the members of the list.
* `StableSort.isChain_sort`: each member may stand before the next one.
* `StableSort.sort_pairwise`: they stand in order.
* `StableSort.filter_sort`: those that tie keep their order.
* `StableSort.forall₂_sort`: lists that are related member by member stay so.
* `Sort.sorted_perm`, `Sort.forall₂_sorted`: the same for tuples sorted by columns.
-/

namespace CsvQuery

namespace StableSort

open List (Forall₂)

variable {α β : Type} {R : α → β → Prop} {before : α → α → Bool} {before' : β → β → Bool}

/-- A sorted list has the same members as the list, each as often. -/
theorem sort_perm (before : α → α → Bool) (xs : List α) : (sort before xs).Perm xs := by
  fun_induction sort before xs with
  | case1 xs hlen => exact .refl _
  | case2 xs hlen half ihl ihr =>
    have hhalves := ihl.append ihr
    rw [List.take_append_drop] at hhalves
    exact (List.merge_perm_append before).trans hhalves

/-- Two members are put the other way round unless the first one may stand before the second. -/
theorem sort_pair (before : α → α → Bool) (a b : α) :
    sort before [a, b] = if before a b then [a, b] else [b, a] := by
  rw [sort]
  simp [sort, List.cons_merge_cons]

/-- A merge starts with the first member of the one list or of the other. -/
theorem head?_merge (before : α → α → Bool) (l r : List α) {c : α}
    (hc : c ∈ (l.merge r before).head?) : c ∈ l.head? ∨ c ∈ r.head? := by
  cases l with
  | nil => exact .inr (by rwa [List.nil_merge] at hc)
  | cons a l =>
    cases r with
    | nil => exact .inl (by rwa [List.merge_right] at hc)
    | cons b r =>
      rw [List.cons_merge_cons] at hc
      split at hc
      · exact .inl hc
      · exact .inr hc

/-- Merging lists in which each member may stand before the next one gives such a list. The
    comparison need not be transitive: what becomes next to each other has been next to each other
    before, or has been compared. -/
theorem isChain_merge (htotal : ∀ a b, (before a b || before b a) = true) {l r : List α}
    (hl : l.IsChain fun a b => before a b = true) (hr : r.IsChain fun a b => before a b = true) :
    (l.merge r before).IsChain fun a b => before a b = true := by
  induction l generalizing r with
  | nil => rwa [List.nil_merge]
  | cons a l ihl =>
    induction r with
    | nil => rwa [List.merge_right]
    | cons b r ihr =>
      obtain ⟨ha, hl'⟩ := List.isChain_cons.1 hl
      obtain ⟨hb, hr'⟩ := List.isChain_cons.1 hr
      rw [List.cons_merge_cons]
      split
      · rename_i hab
        refine List.isChain_cons.2 ⟨fun c hc => ?_, ihl hl' hr⟩
        rcases head?_merge before l (b :: r) hc with hc | hc
        · exact ha c hc
        · exact Option.mem_some_iff.1 hc ▸ hab
      · rename_i hab
        have hba : before b a = true := by simpa [hab] using htotal a b
        refine List.isChain_cons.2 ⟨fun c hc => ?_, ihr hr'⟩
        rcases head?_merge before (a :: l) r hc with hc | hc
        · exact Option.mem_some_iff.1 hc ▸ hba
        · exact hb c hc

/-- Each member of a sorted list may stand before the next one, if of any two members one may stand
    before the other. -/
theorem isChain_sort (htotal : ∀ a b, (before a b || before b a) = true) (xs : List α) :
    (sort before xs).IsChain fun a b => before a b = true := by
  fun_induction sort before xs with
  | case1 xs hlen =>
    match xs, hlen with
    | [], _ => exact .nil
    | [a], _ => exact .singleton a
  | case2 xs hlen half ihl ihr => exact isChain_merge htotal ihl ihr

/-- The members of a sorted list stand in the order of the comparison, if it is an order. -/
theorem sort_pairwise (htrans : ∀ a b c, before a b = true → before b c = true → before a c = true)
    (htotal : ∀ a b, (before a b || before b a) = true) (xs : List α) :
    (sort before xs).Pairwise fun a b => before a b = true := by
  fun_induction sort before xs with
  | case1 xs hlen =>
    match xs, hlen with
    | [], _ => exact .nil
    | [a], _ => exact List.pairwise_singleton _ a
  | case2 xs hlen half ihl ihr => exact List.pairwise_merge htrans htotal _ _ ihl ihr

/-- Merging keeps members that tie in the order of the two lists, those of the first one first. -/
theorem filter_merge (htrans : ∀ a b c, before a b = true → before b c = true → before a c = true)
    {p : α → Bool} (htie : ∀ a b, p a = true → p b = true → before a b = true) {l : List α}
    (hl : l.Pairwise fun a b => before a b = true) (r : List α) :
    (l.merge r before).filter p = l.filter p ++ r.filter p := by
  induction l generalizing r with
  | nil => rw [List.nil_merge, List.filter_nil, List.nil_append]
  | cons a l ihl =>
    obtain ⟨ha, hl'⟩ := List.pairwise_cons.1 hl
    induction r with
    | nil => rw [List.merge_right, List.filter_nil, List.append_nil]
    | cons b r ihr =>
      rw [List.cons_merge_cons]
      split
      · have hrest := ihl hl' (b :: r)
        cases hpa : p a with
        | false => simpa [hpa] using hrest
        | true => simpa [hpa] using hrest
      · rename_i hab
        cases hb : p b with
        | false => simpa [hb] using ihr
        | true =>
          -- The first list has no members left that tie with `b`, for `a` would stand before them.
          have hnone : (a :: l).filter p = [] := by
            refine List.filter_eq_nil_iff.2 fun c hc hpc => hab ?_
            rcases List.mem_cons.1 hc with rfl | hc
            · exact htie c b hpc hb
            · exact htrans a c b (ha c hc) (htie c b hpc hb)
          rw [List.filter_cons_of_pos hb, ihr, hnone, List.filter_cons_of_pos hb]
          rfl

/-- Members of a list that tie stand in a sorted list as they stand in the list. -/
theorem filter_sort (htrans : ∀ a b c, before a b = true → before b c = true → before a c = true)
    (htotal : ∀ a b, (before a b || before b a) = true) {p : α → Bool}
    (htie : ∀ a b, p a = true → p b = true → before a b = true) (xs : List α) :
    (sort before xs).filter p = xs.filter p := by
  fun_induction sort before xs with
  | case1 xs hlen => rfl
  | case2 xs hlen half ihl ihr =>
    rw [filter_merge htrans htie (sort_pairwise htrans htotal _), ihl, ihr, ← List.filter_append,
      List.take_append_drop]

section

variable [LE α] [DecidableLE α] (htrans : ∀ a b c : α, a ≤ b → b ≤ c → a ≤ c)
  (htotal : ∀ a b : α, a ≤ b ∨ b ≤ a) (value : β → α)

include htrans in
theorem value_trans (a b c : β) (hab : decide (value a ≤ value b) = true)
    (hbc : decide (value b ≤ value c) = true) : decide (value a ≤ value c) = true :=
  decide_eq_true (htrans _ _ _ (of_decide_eq_true hab) (of_decide_eq_true hbc))

include htotal in
theorem value_total (a b : β) :
    (decide (value a ≤ value b) || decide (value b ≤ value a)) = true := by
  rw [Bool.or_eq_true, decide_eq_true_iff, decide_eq_true_iff]
  exact htotal _ _

include htrans htotal

/-- Members that are sorted by values have these in ascending order. -/
theorem pairwise_sort_value (xs : List β) :
    (sort (fun a b => decide (value a ≤ value b)) xs).Pairwise fun a b => value a ≤ value b :=
  (sort_pairwise (value_trans htrans value) (value_total htotal value) xs).imp of_decide_eq_true

/-- Members that are sorted by values and have the same one keep their order. -/
theorem filter_sort_value {p : β → Bool}
    (hsame : ∀ a b, p a = true → p b = true → value a = value b) (xs : List β) :
    (sort (fun a b => decide (value a ≤ value b)) xs).filter p = xs.filter p := by
  refine filter_sort (value_trans htrans value) (value_total htotal value) (fun a b ha hb => ?_) xs
  rw [decide_eq_true_iff, hsame a b ha hb]
  exact (htotal _ _).elim id id

end

theorem forall₂_merge (h : ∀ {a b a' b'}, R a b → R a' b' → before a a' = before' b b')
    {xs xs' : List α} {ys ys' : List β} (hl : Forall₂ R xs ys) (hr : Forall₂ R xs' ys') :
    Forall₂ R (xs.merge xs' before) (ys.merge ys' before') := by
  induction hl generalizing xs' ys' with
  | nil => rwa [List.nil_merge, List.nil_merge]
  | cons hab hl ihl =>
    induction hr with
    | nil => rw [List.merge_right, List.merge_right]; exact .cons hab hl
    | cons hab' hr ihr =>
      -- Both merges take their next member from the same side.
      rw [List.cons_merge_cons, List.cons_merge_cons, h hab hab']
      split
      · exact .cons hab (ihl (.cons hab' hr))
      · exact .cons hab' ihr

/-- Lists whose related members compare alike stay related member by member when they are
    sorted. -/
theorem forall₂_sort (h : ∀ {a b a' b'}, R a b → R a' b' → before a a' = before' b b')
    {xs : List α} {ys : List β} (hxs : Forall₂ R xs ys) :
    Forall₂ R (sort before xs) (sort before' ys) := by
  fun_induction sort before xs generalizing ys with
  | case1 xs hlen => rwa [sort, if_pos (hxs.length_eq ▸ hlen)]
  | @case2 xs hlen half ihl ihr =>
    have hleft := ihl (List.forall₂_take half hxs)
    have hright := ihr (List.forall₂_drop half hxs)
    rw [sort.eq_def before' ys, if_neg (hxs.length_eq ▸ hlen), ← hxs.length_eq]
    exact forall₂_merge (R := R) h hleft hright

/-- Comparisons that agree on the members of a list sort it alike. -/
theorem sort_congr {before' : α → α → Bool} {xs : List α}
    (h : ∀ a ∈ xs, ∀ b ∈ xs, before a b = before' a b) : sort before xs = sort before' xs := by
  have hself : Forall₂ (fun a b => a = b ∧ a ∈ xs) xs xs :=
    List.forall₂_same.2 fun a ha => ⟨rfl, ha⟩
  have hsort : Forall₂ (fun a b => a = b ∧ a ∈ xs) (sort before xs) (sort before' xs) :=
    forall₂_sort (fun ⟨hab, ha⟩ ⟨hab', ha'⟩ => hab ▸ hab' ▸ h _ ha _ ha') hself
  rw [← List.forall₂_eq_eq_eq]
  exact hsort.imp fun _ _ hab => hab.1

end StableSort

/-! ## Sorted tuples -/

/-- Tuples are sorted by comparing their values of the sorting columns. -/
theorem Sort.sorted_eq_sort (keys : List ColumnRef) (ts : List Tuple) :
    sorted keys ts = StableSort.sort (fun t u => before (key keys t) (key keys u)) ts := by
  let Keyed (p : List (Option Int32) × Tuple) (t : Tuple) : Prop := p = (key keys t, t)
  have hkeyed : List.Forall₂ Keyed (ts.map fun t => (key keys t, t)) ts :=
    List.forall₂_map_left_iff.2 (List.forall₂_same.2 fun _ _ => rfl)
  have hsort : List.Forall₂ Keyed
      (StableSort.sort (fun p q => before p.1 q.1) (ts.map fun t => (key keys t, t)))
      (StableSort.sort (fun t u => before (key keys t) (key keys u)) ts) :=
    StableSort.forall₂_sort (fun hp hq => by rw [hp, hq]) hkeyed
  rw [sorted, ← List.forall₂_eq_eq_eq, List.forall₂_map_left_iff]
  exact hsort.imp fun _ _ hp => congrArg Prod.snd hp

/-- Sorted tuples are the same tuples. -/
theorem Sort.sorted_perm (keys : List ColumnRef) (ts : List Tuple) : (sorted keys ts).Perm ts := by
  rw [sorted_eq_sort]
  exact StableSort.sort_perm _ ts

/-- Tuples with the same values of the sorting columns, one by one, are sorted alike. -/
theorem Sort.forall₂_sorted {R : Tuple → Tuple → Prop} {keys : List ColumnRef}
    (hR : ∀ t u, R t u → ∀ c ∈ keys, t.lookup c = u.lookup c) {ts us : List Tuple}
    (h : List.Forall₂ R ts us) : List.Forall₂ R (sorted keys ts) (sorted keys us) := by
  have hkey {t u : Tuple} (htu : R t u) : key keys t = key keys u :=
    List.map_congr_left (hR t u htu)
  rw [sorted_eq_sort, sorted_eq_sort]
  exact StableSort.forall₂_sort (fun htu htu' => by rw [hkey htu, hkey htu']) h

/-! ## One tuple for each value -/

namespace Distinct

/-- Dropping repeats of an ascending list whose members are no smaller than the last value leaves
    greater ones. -/
theorem lt_of_mem_dropRepeats {last : Int32} {ps : List (Int32 × Tuple)}
    (hps : ps.Pairwise fun p q => p.1 ≤ q.1) (hlast : ∀ p ∈ ps, last ≤ p.1) {t : Tuple}
    (ht : t ∈ dropRepeats (some last) ps) : ∃ v, (v, t) ∈ ps ∧ last < v := by
  induction ps generalizing last with
  | nil => cases ht
  | cons p ps ih =>
    obtain ⟨w, u⟩ := p
    obtain ⟨hw, hps⟩ := List.pairwise_cons.1 hps
    have hlw : last ≤ w := hlast _ List.mem_cons_self
    rw [dropRepeats] at ht
    split at ht
    · obtain ⟨v, hmem, hlt⟩ := ih hps (fun q hq => hlast q (List.mem_cons_of_mem _ hq)) ht
      exact ⟨v, List.mem_cons_of_mem _ hmem, hlt⟩
    · rename_i hne
      have hlt : last < w := Int32.lt_of_le_of_ne hlw fun heq => hne (heq ▸ rfl)
      rcases List.mem_cons.1 ht with rfl | ht
      · exact ⟨w, List.mem_cons_self, hlt⟩
      · obtain ⟨v, hmem, hwv⟩ := ih hps hw ht
        exact ⟨v, List.mem_cons_of_mem _ hmem, Int32.lt_trans hlt hwv⟩

/-- Dropping repeats of an ascending list leaves values in strictly ascending order. -/
theorem pairwise_dropRepeats {key : ColumnRef} {last : Option Int32} {ps : List (Int32 × Tuple)}
    (hps : ps.Pairwise fun p q => p.1 ≤ q.1) (hkey : ∀ p ∈ ps, p.2.lookup key = some p.1) :
    (dropRepeats last ps).Pairwise fun t u =>
      ∀ v ∈ t.lookup key, ∀ w ∈ u.lookup key, v < w := by
  induction ps generalizing last with
  | nil => exact .nil
  | cons p ps ih =>
    obtain ⟨v, t⟩ := p
    obtain ⟨hle, hps⟩ := List.pairwise_cons.1 hps
    have hrest : ∀ q ∈ ps, q.2.lookup key = some q.1 := fun q hq =>
      hkey q (List.mem_cons_of_mem _ hq)
    have ht : t.lookup key = some v := hkey _ List.mem_cons_self
    rw [dropRepeats]
    split
    · exact ih hps hrest
    · refine List.pairwise_cons.2 ⟨fun u hu a ha b hb => ?_, ih hps hrest⟩
      obtain ⟨w, hw, hlt⟩ := lt_of_mem_dropRepeats hps hle hu
      rw [ht, Option.mem_some_iff] at ha
      rw [hrest _ hw, Option.mem_some_iff] at hb
      rwa [← ha, ← hb]

theorem dropRepeats_sublist (last : Option Int32) (ps : List (Int32 × Tuple)) :
    (dropRepeats last ps).Sublist (ps.map (·.2)) := by
  induction ps generalizing last with
  | nil => exact .refl _
  | cons p ps ih =>
    obtain ⟨v, t⟩ := p
    rw [dropRepeats, List.map_cons]
    split
    · exact (ih last).cons t
    · exact (ih (some v)).cons_cons t

theorem mem_keyed {key : ColumnRef} {ts : List Tuple} {p : Int32 × Tuple}
    (hp : p ∈ keyed key ts) : p.2 ∈ ts ∧ p.2.lookup key = some p.1 := by
  obtain ⟨t, ht, hmap⟩ := List.mem_filterMap.1 hp
  obtain ⟨v, hv, rfl⟩ := Option.map_eq_some_iff.1 hmap
  exact ⟨ht, hv⟩

/-- The tuples that are kept are some of those that have a value. -/
theorem of_mem_firsts {key : ColumnRef} {ts : List Tuple} {t : Tuple} (ht : t ∈ firsts key ts) :
    t ∈ ts ∧ (t.lookup key).isSome = true := by
  obtain ⟨p, hp, rfl⟩ := List.mem_map.1 ((dropRepeats_sublist _ _).subset ht)
  obtain ⟨hmem, hvalue⟩ := mem_keyed ((StableSort.sort_perm _ _).mem_iff.1 hp)
  exact ⟨hmem, by rw [hvalue]; rfl⟩

/-- The tuples that are kept have their values in strictly ascending order. -/
theorem pairwise_firsts (key : ColumnRef) (ts : List Tuple) :
    (firsts key ts).Pairwise fun t u => ∀ v ∈ t.lookup key, ∀ w ∈ u.lookup key, v < w := by
  have hordered := StableSort.pairwise_sort_value (fun _ _ _ => Int32.le_trans) Int32.le_total
    Prod.fst (keyed key ts)
  refine pairwise_dropRepeats hordered fun p hp => ?_
  exact (mem_keyed ((StableSort.sort_perm _ _).mem_iff.1 hp)).2

end Distinct

end CsvQuery
