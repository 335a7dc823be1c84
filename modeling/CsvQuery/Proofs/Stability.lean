import CsvQuery.Proofs.Ascending
import CsvQuery.Proofs.Grouping

/-!
# What sorting makes of tuples

Tuples are compared by the first sorting column that both have and in which they
differ. Where columns are missing this is no order: a tuple may tie with two
others that do not tie with each other. Sorting by halves still leaves no tuple
in front of one that it exceeds, since tuples that become neighbours have been
compared or have been neighbours before.

Where all tuples have the same ones of the sorting columns, only these count,
and the comparison is the lexicographic order of their values. The sorted list
is then the only one that ascends in this order and has the tuples with the same
values in the order in which they came.

* `Tuple.Exceeds`: how tuples are compared.
* `Sort.isChain_sorted`: no tuple exceeds the next one.
* `Sort.sorted_filter`: columns that all tuples lack do not count.
* `Sort.group_sorted`: tuples with the same values keep their order.
* `Tuple.Ascending.eq_of_group`: there is one such list at most.
* `Plan.result_tuples?_sort`: all of this about a plan that sorts.
-/

namespace CsvQuery

/-! ## How tuples are compared -/

/-- A tuple exceeds another one by some columns if it is greater in the first of them that both have
    and in which they differ. -/
inductive Tuple.Exceeds (t u : Tuple) : List ColumnRef → Prop
  | here {c : ColumnRef} {columns : List ColumnRef} {v w : Int32} (ht : t.lookup c = some v)
    (hu : u.lookup c = some w) (hlt : w < v) : Exceeds t u (c :: columns)
  | later {c : ColumnRef} {columns : List ColumnRef}
    (htie : ∀ v ∈ t.lookup c, ∀ w ∈ u.lookup c, v = w) (h : Exceeds t u columns) :
    Exceeds t u (c :: columns)

section

variable {c : ColumnRef} {keys : List ColumnRef} {ts : List Tuple} {t u : Tuple} {v w : Int32}
  {present : ColumnRef → Bool}

theorem Tuple.not_exceeds_nil : ¬t.Exceeds u [] := nofun

/-- Tuples that do not differ in a column are compared by those behind it. -/
theorem Tuple.exceeds_cons_of_tie (htie : ∀ v ∈ t.lookup c, ∀ w ∈ u.lookup c, v = w) :
    t.Exceeds u (c :: keys) ↔ t.Exceeds u keys := by
  refine ⟨fun h => ?_, .later htie⟩
  cases h with
  | here ht hu hlt => exact absurd hlt (htie _ ht _ hu ▸ Int32.lt_irrefl)
  | later _ h => exact h

/-- Tuples that differ in a column are compared by it. -/
theorem Tuple.exceeds_cons_of_ne (ht : t.lookup c = some v) (hu : u.lookup c = some w)
    (hne : v ≠ w) : t.Exceeds u (c :: keys) ↔ w < v := by
  refine ⟨fun h => ?_, .here ht hu⟩
  cases h with
  | here ht' hu' hlt =>
    rw [ht, Option.some.injEq] at ht'
    rw [hu, Option.some.injEq] at hu'
    exact ht' ▸ hu' ▸ hlt
  | later htie _ => exact absurd (htie v ht w hu) hne

theorem Sort.key_cons (c : ColumnRef) (keys : List ColumnRef) (t : Tuple) :
    key (c :: keys) t = t.lookup c :: key keys t :=
  rfl

theorem Sort.before_nil (right : List (Option Int32)) : before [] right = true := by
  cases right <;> rfl

theorem Sort.before_none_left (b : Option Int32) (left right : List (Option Int32)) :
    before (none :: left) (b :: right) = before left right := by
  cases b <;> rfl

theorem Sort.before_none_right (a : Option Int32) (left right : List (Option Int32)) :
    before (a :: left) (none :: right) = before left right := by
  cases a <;> rfl

theorem Sort.before_same (v : Int32) (left right : List (Option Int32)) :
    before (some v :: left) (some v :: right) = before left right := by
  rw [before, if_neg Int32.lt_irrefl, if_neg Int32.lt_irrefl]

theorem Sort.before_of_ne (hne : v ≠ w) (left right : List (Option Int32)) :
    before (some v :: left) (some w :: right) = true ↔ ¬w < v := by
  rw [before]
  by_cases hlt : v < w
  · exact iff_of_true (if_pos hlt) (Int32.lt_asymm hlt)
  · have hgt : w < v := Int32.lt_of_le_of_ne (Int32.not_lt.1 hlt) hne.symm
    rw [if_neg hlt, if_pos hgt]
    exact iff_of_false Bool.false_ne_true (not_not_intro hgt)

/-- A tuple may stand before another one unless it exceeds it. -/
theorem Sort.before_key : before (key keys t) (key keys u) = true ↔ ¬t.Exceeds u keys := by
  induction keys with
  | nil => exact iff_of_true rfl Tuple.not_exceeds_nil
  | cons c keys ih =>
    rw [key_cons, key_cons]
    -- A value that is missing on either side makes a tie, as equal values do.
    cases ht : t.lookup c with
    | none => rw [before_none_left, ih, Tuple.exceeds_cons_of_tie (by simp [ht])]
    | some v =>
      cases hu : u.lookup c with
      | none => rw [before_none_right, ih, Tuple.exceeds_cons_of_tie (by simp [hu])]
      | some w =>
        by_cases heq : v = w
        · rw [heq, before_same, ih, Tuple.exceeds_cons_of_tie (by simp [ht, hu, heq])]
        · rw [before_of_ne heq, Tuple.exceeds_cons_of_ne ht hu heq]

/-- Of two tuples, one at least may stand before the other. -/
theorem Sort.before_total (left right : List (Option Int32)) :
    before left right = true ∨ before right left = true := by
  induction left generalizing right with
  | nil => exact .inl (before_nil right)
  | cons a left ih =>
    cases right with
    | nil => exact .inr (before_nil _)
    | cons b right =>
      cases a with
      | none => rw [before_none_left, before_none_right]; exact ih right
      | some v =>
        cases b with
        | none => rw [before_none_left, before_none_right]; exact ih right
        | some w =>
          by_cases heq : v = w
          · rw [heq, before_same, before_same]
            exact ih right
          · rw [before_of_ne heq, before_of_ne (Ne.symm heq), ← not_and_or]
            exact fun h => Int32.lt_asymm h.1 h.2

/-- No tuple of a sorted list exceeds the next one. -/
theorem Sort.isChain_sorted (keys : List ColumnRef) (ts : List Tuple) :
    (sorted keys ts).IsChain fun t u => ¬t.Exceeds u keys := by
  rw [sorted_eq_sort]
  refine (StableSort.isChain_sort (fun t u => ?_) ts).imp fun t u h => before_key.1 h
  rw [Bool.or_eq_true]
  exact before_total _ _

/-! ## Tuples with the same ones of the sorting columns -/

/-- A column that two tuples lack does not count between them. -/
theorem Sort.before_key_filter (ht : ∀ c ∈ keys, (t.lookup c).isSome = present c)
    (hu : ∀ c ∈ keys, (u.lookup c).isSome = present c) :
    before (key keys t) (key keys u) =
      before (key (keys.filter present) t) (key (keys.filter present) u) := by
  induction keys with
  | nil => rfl
  | cons c keys ih =>
    obtain ⟨htc, ht⟩ := List.forall_mem_cons.1 ht
    obtain ⟨huc, hu⟩ := List.forall_mem_cons.1 hu
    cases hc : present c with
    | false =>
      rw [hc, Option.isSome_eq_false_iff, Option.isNone_iff_eq_none] at htc
      rw [List.filter_cons_of_neg (Bool.eq_false_iff.1 hc), ← ih ht hu, key_cons, key_cons, htc,
        before_none_left]
    | true =>
      rw [hc, Option.isSome_iff_exists] at htc huc
      obtain ⟨v, hv⟩ := htc
      obtain ⟨w, hw⟩ := huc
      rw [List.filter_cons_of_pos hc, key_cons, key_cons, key_cons, key_cons, hv, hw, before,
        before, ih ht hu]

/-- Columns that all tuples lack do not count. -/
theorem Sort.sorted_filter (h : ∀ t ∈ ts, ∀ c ∈ keys, (t.lookup c).isSome = present c) :
    sorted keys ts = sorted (keys.filter present) ts := by
  rw [sorted_eq_sort, sorted_eq_sort]
  exact StableSort.sort_congr fun t ht u hu => before_key_filter (h t ht) (h u hu)

/-- Tuples with the same values of the sorting columns keep their order. -/
theorem Sort.group_sorted (h : ∀ t ∈ ts, (Aggregate.key? keys t).isSome = true)
    (values : List Int32) :
    Aggregate.group keys (sorted keys ts) values = Aggregate.group keys ts values := by
  rw [sorted_eq h, Aggregate.group, Aggregate.group]
  refine StableSort.filter_sort_value (fun _ _ _ => List.le_trans) List.le_total _
    (fun t u ht hu => ?_) ts
  rw [of_decide_eq_true ht, of_decide_eq_true hu]

end

/-! ## The only list in ascending order -/

namespace Tuple.Ascending

open Aggregate

variable {columns : List ColumnRef} {ts us : List Tuple}

theorem of_cons {t : Tuple} (h : Ascending columns (t :: ts)) : Ascending columns ts :=
  ⟨fun u hu => h.present u (List.mem_cons_of_mem t hu), h.ordered.of_cons⟩

/-- The first tuple has no greater values than any other one. -/
theorem le_of_mem {t u : Tuple} (h : Ascending columns (t :: ts)) (hu : u ∈ t :: ts)
    {vs ws : List Int32} (hvs : key? columns t = some vs) (hws : key? columns u = some ws) :
    vs ≤ ws := by
  rcases List.mem_cons.1 hu with rfl | hu
  · rw [Option.some.inj (hvs.symm.trans hws)]
    exact List.le_refl _
  · exact (List.pairwise_cons.1 h.ordered).1 u hu vs hvs ws hws

/-- Lists in ascending order are the same if in each of them the tuples with the same values stand
    in the same order. -/
theorem eq_of_group (hts : Ascending columns ts) (hus : Ascending columns us)
    (h : ∀ values, group columns ts values = group columns us values) : ts = us := by
  induction ts generalizing us with
  | nil =>
    refine (List.eq_nil_iff_forall_not_mem.2 fun u hu => ?_).symm
    obtain ⟨ws, hws⟩ := Option.isSome_iff_exists.1 (hus.present u hu)
    have hmem : u ∈ group columns us ws := mem_group.2 ⟨hu, hws⟩
    rw [← h ws] at hmem
    cases hmem
  | cons t ts ih =>
    obtain ⟨vs, hvs⟩ := Option.isSome_iff_exists.1 (hts.present t List.mem_cons_self)
    have ht : t ∈ us := by
      have hmem : t ∈ group columns (t :: ts) vs := mem_group.2 ⟨List.mem_cons_self, hvs⟩
      rw [h vs] at hmem
      exact (mem_group.1 hmem).1
    cases us with
    | nil => cases ht
    | cons u us =>
      obtain ⟨ws, hws⟩ := Option.isSome_iff_exists.1 (hus.present u List.mem_cons_self)
      have hu : u ∈ t :: ts := by
        have hmem : u ∈ group columns (u :: us) ws := mem_group.2 ⟨List.mem_cons_self, hws⟩
        rw [← h ws] at hmem
        exact (mem_group.1 hmem).1
      -- Both first tuples have the least values, and so they are the first ones with these.
      obtain rfl : vs = ws := List.le_antisymm (hts.le_of_mem hu hvs hws) (hus.le_of_mem ht hws hvs)
      have hfirst := h vs
      rw [group_cons_of_eq ts hvs, group_cons_of_eq us hws, List.cons.injEq] at hfirst
      obtain ⟨rfl, hrest⟩ := hfirst
      refine congrArg _ (ih hts.of_cons hus.of_cons fun values => ?_)
      by_cases heq : values = vs
      · rw [heq, hrest]
      · have hne : key? columns t ≠ some values := fun hv =>
          heq (Option.some.inj (hv.symm.trans hvs))
        have hvalues := h values
        rwa [group_cons_of_ne ts hne, group_cons_of_ne us hne] at hvalues

end Tuple.Ascending

/-! ## Plans that sort -/

/-- Sorting tuples gives these tuples in an order in which none exceeds the next one. If all of them
    have the same ones of the sorting columns, it gives the only list that ascends by these columns
    and has the tuples with the same values in the order in which they came. -/
theorem Plan.result_tuples?_sort (k : Catalog) (files : Files) (keys : List ColumnRef)
    (ts : List Tuple) :
    ∃ us, ((Plan.sort keys (.tuples ts)).tuples? k files).result = .ok us ∧ us.Perm ts ∧
      (us.IsChain fun t u => ¬t.Exceeds u keys) ∧
      ∀ present : ColumnRef → Bool,
        (∀ t ∈ ts, ∀ c ∈ keys, (t.lookup c).isSome = present c) →
        ∀ vs, vs = us ↔ Tuple.Ascending (keys.filter present) vs ∧ ∀ values,
          Aggregate.group (keys.filter present) vs values =
            Aggregate.group (keys.filter present) ts values := by
  refine ⟨Sort.sorted keys ts, ?_, Sort.sorted_perm keys ts, Sort.isChain_sorted keys ts,
    fun present hpresent vs => ?_⟩
  · exact Plan.result_tuples? (by simp [Plan.tables])
  · rw [Sort.sorted_filter hpresent]
    have hkeys : ∀ t ∈ ts, (Aggregate.key? (keys.filter present) t).isSome = true := by
      refine fun t ht => Aggregate.isSome_key?.2 fun c hc => ?_
      obtain ⟨hc, hsome⟩ := List.mem_filter.1 hc
      rw [hpresent t ht c hc, hsome]
    have hsorted := Sort.ascending_sorted hkeys
    constructor
    · rintro rfl
      exact ⟨hsorted, Sort.group_sorted hkeys⟩
    · rintro ⟨hvs, hgroup⟩
      refine hvs.eq_of_group hsorted fun values => ?_
      rw [hgroup, Sort.group_sorted hkeys]

namespace Sample

/-- A row of `S`. -/
def rowOfS (a c : Int32) : Tuple := .ofRow "S" ["a", "c"] [a, c]

/-- Sorting by a column that all rows of `S` lack and by `a` moves the row with the smaller `a` to
    the front and leaves the others as they are. -/
theorem byMissingColumn_sort :
    (∀ t ∈ [rowOfS 3 5, rowOfS 1 6, rowOfS 3 7], ∀ c ∈ [⟨some "R", "b"⟩, ⟨some "S", "a"⟩],
      (t.lookup c).isSome = decide (c = ⟨some "S", "a"⟩)) ∧
    ((Plan.sort [⟨some "R", "b"⟩, ⟨some "S", "a"⟩]
      (.tuples [rowOfS 3 5, rowOfS 1 6, rowOfS 3 7])).tuples? catalog files).result =
      .ok [rowOfS 1 6, rowOfS 3 5, rowOfS 3 7] := by
  have hpresent : ∀ t ∈ [rowOfS 3 5, rowOfS 1 6, rowOfS 3 7],
      ∀ c ∈ ([⟨some "R", "b"⟩, ⟨some "S", "a"⟩] : List ColumnRef),
        (t.lookup c).isSome = decide (c = ⟨some "S", "a"⟩) := by decide
  obtain ⟨us, hresult, -, -, hunique⟩ := Plan.result_tuples?_sort catalog files
    [⟨some "R", "b"⟩, ⟨some "S", "a"⟩] [rowOfS 3 5, rowOfS 1 6, rowOfS 3 7]
  have hsorted : [rowOfS 1 6, rowOfS 3 5, rowOfS 3 7] = us := by
    refine (hunique _ hpresent _).2 ⟨⟨by decide, by decide⟩, fun values => ?_⟩
    by_cases h : values = [1]
    · rw [h]
      decide
    · have hkey (a c : Int32) : Aggregate.key? [⟨some "S", "a"⟩] (rowOfS a c) = some [a] := rfl
      simp [Aggregate.group, List.filter_cons, hkey, Ne.symm h]
  rw [hresult, hsorted]
  exact ⟨hpresent, rfl⟩

end Sample

end CsvQuery
