import CsvQuery.Proofs.Grouping
import Mathlib.Algebra.BigOperators.Group.List.Basic
import Mathlib.Algebra.BigOperators.ModEq

/-!
# Totals of sums

Sums wrap around, at every product and at every step from one tuple to the next.
Cutting an integer down to 32 bits goes with sums and products, so it makes no
difference when it is done: a total is the exact sum over the tuples that have
all columns of the sum, of the exact products of the leaves, cut down once at
the end. Neither the order of the tuples nor the parentheses of a product count,
and the totals over groups add up to the total over all tuples, up to multiples
of 2 ^ 32.

* `SumCall.exactTotal`: the exact sum.
* `Expr.IsSummable.share?_eq_ofInt`, `SumCall.total_eq_ofInt`: what is computed is
  the exact value, cut down.
* `SumCall.exactTotal_perm`, `SumCall.exactTotal_flatten`: the exact sum in another
  order, and over several lists.
* `SumCall.sum_total_groups`: the totals over groups, added up.
* `Plan.result_tuples?_totals`: all of this about a plan that makes groups.
-/

namespace CsvQuery

open List (Forall₂)

/-! ## Exact values -/

namespace Expr

variable {e f : Expr}

/-- The integer that a leaf of a product stands for on a tuple that has its column. -/
def leafValue (t : Tuple) : Expr → Int
  | literal (.int n) => n.toInt
  | column c => ((t.lookup c).map (·.toInt)).getD 0
  | _ => 0

/-- The product of the leaves of a product, which does not wrap around. -/
def exactShare (t : Tuple) (e : Expr) : Int := (e.factors.map (leafValue t)).prod

/-- Whether a tuple has all columns of an expression. -/
def isCarriedBy (t : Tuple) (e : Expr) : Bool := e.columns.all fun c => (t.lookup c).isSome

/-- What a tuple adds to a sum is the exact product, cut down to 32 bits, if it has all columns. -/
theorem IsSummable.share?_eq_ofInt (he : e.IsSummable) (t : Tuple) :
    e.share? t = if e.isCarriedBy t then some (Int32.ofInt (e.exactShare t)) else none := by
  induction he with
  | literal n => simp [share?, isCarriedBy, columns, exactShare, factors, leafValue]
  | column c =>
    cases h : t.lookup c <;>
      simp [share?, isCarriedBy, columns, exactShare, factors, leafValue, h]
  | @product l r hl hr ihl ihr =>
    -- A product needs the columns of both factors, and has the leaves of both.
    have hcarried : (arithmetic l .multiply r).isCarriedBy t =
        (l.isCarriedBy t && r.isCarriedBy t) :=
      List.all_append
    have hshare : (arithmetic l .multiply r).exactShare t = l.exactShare t * r.exactShare t := by
      rw [exactShare, factors, List.map_append, List.prod_append]
      rfl
    rw [share?, ihl, ihr, hcarried, hshare]
    cases l.isCarriedBy t with
    | false => rfl
    | true =>
      cases r.isCarriedBy t with
      | false => rfl
      | true => exact congrArg some (Int32.ofInt_mul _ _).symm

theorem columns_eq_flatMap (e : Expr) : e.columns = e.factors.flatMap columns := by
  fun_induction factors e with
  | case1 l r ihl ihr => rw [columns, ihl, ihr, List.flatMap_append]
  | case2 e => rw [List.flatMap_singleton]

/-- Which tuples have all columns of a product does not depend on how it is written. -/
theorem isCarriedBy_congr (h : e.factors.Perm f.factors) (t : Tuple) :
    e.isCarriedBy t = f.isCarriedBy t := by
  rw [isCarriedBy, isCarriedBy, columns_eq_flatMap e, columns_eq_flatMap f]
  exact (h.flatMap_right columns).all_eq

/-- The product of the leaves does not depend on how the product is written. -/
theorem exactShare_congr (h : e.factors.Perm f.factors) (t : Tuple) :
    e.exactShare t = f.exactShare t :=
  (h.map _).prod_eq

end Expr

/-! ## Totals -/

namespace SumCall

variable {call call' : SumCall} {ts us : List Tuple}

/-- The sum over the tuples that have all of its columns, which does not wrap around. -/
def exactTotal (call : SumCall) (ts : List Tuple) : Int :=
  ((ts.filter (call.argument.isCarriedBy ·)).map (call.argument.exactShare ·)).sum

theorem exactTotal_append (call : SumCall) (ts us : List Tuple) :
    call.exactTotal (ts ++ us) = call.exactTotal ts + call.exactTotal us := by
  rw [exactTotal, List.filter_append, List.map_append, List.sum_append]
  rfl

/-- The exact sum does not depend on the order of the tuples. -/
theorem exactTotal_perm (call : SumCall) (h : ts.Perm us) :
    call.exactTotal ts = call.exactTotal us :=
  ((h.filter _).map _).sum_eq

/-- The exact sums over some lists add up to that over all of them. -/
theorem exactTotal_flatten (call : SumCall) (groups : List (List Tuple)) :
    call.exactTotal groups.flatten = (groups.map call.exactTotal).sum := by
  induction groups with
  | nil => rfl
  | cons members groups ih =>
    rw [List.flatten_cons, exactTotal_append, ih, List.map_cons, List.sum_cons]

/-- The exact sum does not depend on how the product is written. -/
theorem exactTotal_congr (h : call.argument.factors.Perm call'.argument.factors)
    (ts : List Tuple) : call.exactTotal ts = call'.exactTotal ts := by
  have hcarried : (fun t => call.argument.isCarriedBy t) = fun t => call'.argument.isCarriedBy t :=
    funext fun t => Expr.isCarriedBy_congr h t
  have hshare : (fun t => call.argument.exactShare t) = fun t => call'.argument.exactShare t :=
    funext fun t => Expr.exactShare_congr h t
  rw [exactTotal, exactTotal, hcarried, hshare]

/-- Adding up integers that are cut down is adding them up and then cutting down. -/
theorem foldl_add_ofInt (ns : List Int) (start : Int) :
    (ns.map Int32.ofInt).foldl (· + ·) (Int32.ofInt start) = Int32.ofInt (start + ns.sum) := by
  induction ns generalizing start with
  | nil => rw [List.sum_nil, Int.add_zero]; rfl
  | cons n ns ih =>
    rw [List.map_cons, List.foldl_cons, ← Int32.ofInt_add, ih, List.sum_cons, Int.add_assoc]

/-- A total is the exact sum, cut down to 32 bits. -/
theorem total_eq_ofInt (h : call.argument.IsSummable) (ts : List Tuple) :
    call.total ts = Int32.ofInt (call.exactTotal ts) := by
  -- The tuples that count are those that have all columns, and what they add is cut down already.
  have hshares : ts.filterMap call.argument.share? =
      ((ts.filter (call.argument.isCarriedBy ·)).map (call.argument.exactShare ·)).map
        Int32.ofInt := by
    rw [List.map_map, ← List.filterMap_eq_map, List.filterMap_filter]
    exact List.filterMap_congr fun t _ => h.share?_eq_ofInt t
  rw [total, hshares]
  exact (foldl_add_ofInt _ 0).trans (congrArg Int32.ofInt (Int.zero_add _))

/-- A total is congruent to the exact sum. -/
theorem toInt_total_modEq (h : call.argument.IsSummable) (ts : List Tuple) :
    (call.total ts).toInt ≡ call.exactTotal ts [ZMOD 2 ^ 32] := by
  rw [total_eq_ofInt h, Int32.toInt_ofInt]
  exact Int.bmod_emod

/-- The totals over the groups of a list add up to the total over the list, if no tuple lacks a
    grouping column. -/
theorem sum_total_groups (h : call.argument.IsSummable) {columns : List ColumnRef}
    (hkeys : ∀ t ∈ ts, (Aggregate.key? columns t).isSome = true) :
    ((Aggregate.groups columns ts).map fun members => (call.total members).toInt).sum ≡
      (call.total ts).toInt [ZMOD 2 ^ 32] := by
  have hperm : (Aggregate.groups columns ts).flatten.Perm ts := by
    have hall := Aggregate.flatMap_group_perm columns ts
    rwa [List.filter_eq_self.2 hkeys] at hall
  calc ((Aggregate.groups columns ts).map fun members => (call.total members).toInt).sum
      ≡ ((Aggregate.groups columns ts).map call.exactTotal).sum [ZMOD 2 ^ 32] :=
        Int.ModEq.listSum_map fun members _ => toInt_total_modEq h members
    _ = call.exactTotal (Aggregate.groups columns ts).flatten := (exactTotal_flatten call _).symm
    _ = call.exactTotal ts := exactTotal_perm call hperm
    _ ≡ (call.total ts).toInt [ZMOD 2 ^ 32] := (toInt_total_modEq h ts).symm

end SumCall

/-! ## Totals in tuples -/

namespace Aggregate

variable {ts : List Tuple}

/-- Without grouping columns all tuples are in one group, if there are any. -/
theorem groups_nil (hne : ts ≠ []) : groups [] ts = [ts] := by
  have hgroup : group [] ts [] = ts := List.filter_eq_self.2 fun _ _ => decide_eq_true rfl
  have hkeys : keys [] ts = [[]] := by
    obtain ⟨t, rest, rfl⟩ := List.exists_cons_of_ne_nil hne
    rw [keys_cons_of_some rest rfl, List.cons_eq_cons]
    refine ⟨rfl, List.filter_eq_nil_iff.2 fun key hkey => ?_⟩
    obtain ⟨u, -, hu⟩ := mem_keys.1 hkey
    simp [← Option.some.inj hu]
  rw [groups_eq, hkeys, List.map_singleton, hgroup]

end Aggregate

/-- The totals of a plan that makes groups, if its sums can be taken. Each tuple of a group shows
    the totals over that group, and without grouping columns there is one group of all tuples. A
    total is congruent to the exact sum of the exact products of the leaves; so it depends neither
    on the order of the tuples nor on how the product is written, and if no tuple lacks a grouping
    column, the totals over the groups add up to the one over all tuples. -/
theorem Plan.result_tuples?_totals (k : Catalog) (files : Files) (columns : List ColumnRef)
    {sums : List SumCall} (hsums : SumCall.check sums = .ok ()) (ts : List Tuple) :
    (∃ us, ((Plan.aggregate columns sums (.tuples ts)).tuples? k files).result = .ok us ∧
      Forall₂ (fun members u => ∃ t, members.head? = some t ∧ u.attributes = t.attributes ++
        sums.map fun call => ⟨sumTable, call.name, call.total members⟩)
        (Aggregate.groups columns ts) us) ∧
    (ts ≠ [] → Aggregate.groups [] ts = [ts]) ∧
    ∀ call ∈ sums,
      (∀ members, (call.total members).toInt ≡ call.exactTotal members [ZMOD 2 ^ 32]) ∧
      (∀ members members' : List Tuple, members.Perm members' →
        call.total members = call.total members') ∧
      (∀ call' : SumCall, SumCall.check [call'] = .ok () →
        call.argument.factors.Perm call'.argument.factors →
          ∀ members, call.total members = call'.total members) ∧
      ((∀ t ∈ ts, (Aggregate.key? columns t).isSome = true) →
        ((Aggregate.groups columns ts).map fun members => (call.total members).toInt).sum ≡
          (call.total ts).toInt [ZMOD 2 ^ 32]) := by
  refine ⟨⟨_, Plan.result_summaries k files columns hsums ts,
    Aggregate.forall₂_groups columns sums ts⟩, Aggregate.groups_nil, fun call hcall => ?_⟩
  have h := (SumCall.decides_check sums).ok_iff.1 ⟨(), hsums⟩ call hcall
  refine ⟨SumCall.toInt_total_modEq h, fun members members' hperm => ?_,
    fun call' hcheck hfactors members => ?_, SumCall.sum_total_groups h⟩
  · rw [SumCall.total_eq_ofInt h, SumCall.total_eq_ofInt h, SumCall.exactTotal_perm call hperm]
  · have h' := (SumCall.decides_check [call']).ok_iff.1 ⟨(), hcheck⟩ call'
      (List.mem_singleton_self call')
    rw [SumCall.total_eq_ofInt h, SumCall.total_eq_ofInt h', SumCall.exactTotal_congr hfactors]

namespace Sample

/-- Rows of `S`, one of which is cut short. -/
def large : List Tuple :=
  [.ofRow "S" ["a", "c"] [1, 2147483647], .ofRow "S" ["a", "c"] [2, 3], .ofRow "S" ["a"] [1],
    .ofRow "S" ["a", "c"] [1, -5]]

/-- `SUM(S.a * (S.c * 3))`, whose products wrap around. -/
def nested : SumCall :=
  ⟨.arithmetic (.column ⟨some "S", "a"⟩) .multiply
    (.arithmetic (.column ⟨some "S", "c"⟩) .multiply (.literal (.int 3)))⟩

/-- The same sum, written `SUM(S.a * S.c * 3)`. -/
def unnested : SumCall :=
  ⟨.arithmetic (.arithmetic (.column ⟨some "S", "a"⟩) .multiply (.column ⟨some "S", "c"⟩)) .multiply
    (.literal (.int 3))⟩

/-- The exact sum over all rows does not fit into 32 bits, nor do the totals of the two groups,
    added up; both are congruent to the total over all rows. -/
theorem nested_totals :
    SumCall.check [nested] = .ok () ∧
    ((Plan.aggregate [⟨some "S", "a"⟩] [nested] (.tuples large)).tuples? catalog files).result =
      .ok [⟨[⟨"S", "a", 1⟩, ⟨"S", "c", 2147483647⟩,
          ⟨"SUM_RESULT", "SUM(S.a * S.c * 3)", 2147483630⟩]⟩,
        ⟨[⟨"S", "a", 2⟩, ⟨"S", "c", 3⟩, ⟨"SUM_RESULT", "SUM(S.a * S.c * 3)", 18⟩]⟩] ∧
    nested.total large = -2147483648 ∧
    -2147483648 ≡ nested.exactTotal large [ZMOD 2 ^ 32] ∧ nested.exactTotal large = 6442450944 ∧
    2147483630 + 18 ≡ -2147483648 [ZMOD 2 ^ 32] ∧
    nested.total large = nested.total large.reverse ∧
    nested.total large = unnested.total large := by
  have hsums : SumCall.check [nested] = .ok () := rfl
  have hkeys : ∀ t ∈ large, (Aggregate.key? [⟨some "S", "a"⟩] t).isSome = true := by decide
  have hrows : (Plan.aggregate [⟨some "S", "a"⟩] [nested] (.tuples large)).rows catalog files = [
      ⟨[⟨"S", "a", 1⟩, ⟨"S", "c", 2147483647⟩, ⟨"SUM_RESULT", "SUM(S.a * S.c * 3)", 2147483630⟩]⟩,
      ⟨[⟨"S", "a", 2⟩, ⟨"S", "c", 3⟩, ⟨"SUM_RESULT", "SUM(S.a * S.c * 3)", 18⟩]⟩] := by
    decide +kernel
  have htotal : nested.total large = -2147483648 := by decide +kernel
  have htotals : (Aggregate.groups [⟨some "S", "a"⟩] large).map
      (fun members => (nested.total members).toInt) = [2147483630, 18] := by decide +kernel
  obtain ⟨-, -, hcalls⟩ := Plan.result_tuples?_totals catalog files [⟨some "S", "a"⟩] hsums large
  obtain ⟨hexact, hperm, hwritten, hsum⟩ := hcalls nested (List.mem_singleton_self nested)
  have hrun := @Plan.result_tuples? catalog files
    (.aggregate [⟨some "S", "a"⟩] [nested] (.tuples large)) (by decide)
  rw [hrows] at hrun
  refine ⟨hsums, hrun, htotal, ?_, by decide +kernel, ?_, ?_, ?_⟩
  · have hlarge := hexact large
    rwa [htotal] at hlarge
  · have hadded := hsum hkeys
    rwa [htotals, htotal] at hadded
  · exact hperm large large.reverse (List.reverse_perm large).symm
  · exact hwritten unnested rfl (by decide) large

end Sample

end CsvQuery
