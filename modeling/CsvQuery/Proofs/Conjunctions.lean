import CsvQuery.Proofs.Coverage

/-!
# Conjunctions taken apart and put together

Taking a conjunction apart forgets how it is nested, and putting parts together
nests them to the left. Both keep the parts and their order, so that an
expression put together from the parts of another one is evaluated like it. As
all parts are looked at, whatever the ones before them give, the parts may also
be put together in another order: the conjunction holds on the same tuples, and
gives the same notices in another order. A part that is no predicate, such as a
column, does not hold; it is kept like any other.

* `Expr.and_notMem_conjuncts`: parts are not taken apart any further.
* `Expr.conjuncts_of_conjoin?`: the parts of what is put together.
* `Expr.holds_of_conjoin?`, `Expr.holdsNotices_of_conjoin?`: how it is evaluated.
* `Expr.exists_conjoin?_conjuncts`: an expression taken apart and put together
  again.
* `Expr.split_and_rejoined`: all of this, and the order of the parts.
-/

namespace CsvQuery

namespace Expr

variable {e : Expr} {es es' : List Expr}

/-! ## The parts of an expression -/

theorem holds_iff_conjuncts (e : Expr) (t : Tuple) :
    e.holds t = true ↔ ∀ p ∈ e.conjuncts, p.holds t = true := by
  rw [← allHold_conjuncts, allHold, List.all_eq_true]

/-- No part is a conjunction. -/
theorem and_notMem_conjuncts (e l r : Expr) : and l r ∉ e.conjuncts := by
  fun_induction conjuncts e with
  | case1 l' r' ihl ihr => exact fun h => (List.mem_append.1 h).elim ihl ihr
  | case2 e hother => exact fun h => hother l r (List.mem_singleton.1 h).symm

theorem conjuncts_ne_nil (e : Expr) : e.conjuncts ≠ [] := by
  fun_induction conjuncts e with
  | case1 l r ihl ihr => exact List.append_ne_nil_of_left_ne_nil ihl _
  | case2 e hother => exact List.cons_ne_nil e []

theorem conjuncts_of_mem_conjuncts {p : Expr} (h : p ∈ e.conjuncts) : p.conjuncts = [p] := by
  cases p with
  | and l r => exact absurd h (and_notMem_conjuncts e l r)
  | _ => rfl

/-- The parts of an expression are all parts of its parts. -/
theorem flatMap_conjuncts_conjuncts (e : Expr) : e.conjuncts.flatMap conjuncts = e.conjuncts := by
  calc e.conjuncts.flatMap conjuncts
      = e.conjuncts.flatMap fun p => [p] :=
        List.flatMap_congr fun p hp => conjuncts_of_mem_conjuncts hp
    _ = e.conjuncts := List.flatMap_singleton' _

/-- The notices of an expression are those of its parts, one after the other. -/
theorem flatMap_holdsNotices_conjuncts (e : Expr) (t : Tuple) :
    e.conjuncts.flatMap (·.holdsNotices t) = e.holdsNotices t := by
  fun_induction conjuncts e with
  | case1 l r ihl ihr => rw [List.flatMap_append, ihl, ihr, holdsNotices]
  | case2 e hother => exact List.flatMap_singleton _ e

/-! ## Parts put together -/

theorem conjuncts_foldl_and (e : Expr) (es : List Expr) :
    (es.foldl and e).conjuncts = e.conjuncts ++ es.flatMap conjuncts := by
  induction es generalizing e with
  | nil => exact (List.append_nil _).symm
  | cons e' es ih => rw [List.foldl_cons, ih, conjuncts, List.flatMap_cons, List.append_assoc]

theorem exists_conjoin? (h : es ≠ []) : ∃ e, conjoin? es = some e := by
  cases es with
  | nil => exact absurd rfl h
  | cons e es => exact ⟨_, rfl⟩

theorem exists_of_conjoin? (h : conjoin? es = some e) :
    ∃ first rest, es = first :: rest ∧ e = rest.foldl and first := by
  cases es with
  | nil => cases h
  | cons first rest => exact ⟨first, rest, rfl, (Option.some.inj h).symm⟩

/-- The parts of some expressions put together are the parts of all of them, in order. -/
theorem conjuncts_of_conjoin? (h : conjoin? es = some e) : e.conjuncts = es.flatMap conjuncts := by
  obtain ⟨first, rest, rfl, rfl⟩ := exists_of_conjoin? h
  exact conjuncts_foldl_and first rest

/-- Some expressions put together hold where all of them do. -/
theorem holds_of_conjoin? (h : conjoin? es = some e) (t : Tuple) : e.holds t = allHold es t := by
  obtain ⟨first, rest, rfl, rfl⟩ := exists_of_conjoin? h
  exact holds_foldl_and first rest t

/-- Some expressions put together give the notices of all of them, one after the other. -/
theorem holdsNotices_of_conjoin? (h : conjoin? es = some e) (t : Tuple) :
    e.holdsNotices t = es.flatMap (·.holdsNotices t) := by
  obtain ⟨first, rest, rfl, rfl⟩ := exists_of_conjoin? h
  exact holdsNotices_foldl_and first rest t

/-- An expression taken apart can be put together again. It has the same parts, then, and is
    evaluated as before. -/
theorem exists_conjoin?_conjuncts (e : Expr) :
    ∃ e', conjoin? e.conjuncts = some e' ∧ e'.conjuncts = e.conjuncts ∧
      ∀ t, e'.check t = e.check t := by
  obtain ⟨e', he'⟩ := exists_conjoin? e.conjuncts_ne_nil
  refine ⟨e', he', ?_, fun t => ?_⟩
  · rw [conjuncts_of_conjoin? he', flatMap_conjuncts_conjuncts]
  · rw [check, check, holds_of_conjoin? he', holdsNotices_of_conjoin? he', allHold_conjuncts,
      flatMap_holdsNotices_conjuncts]

/-- The order in which expressions are put together shows in the order of notices only. -/
theorem exists_conjoin?_perm (h : conjoin? es = some e) (hperm : es.Perm es') :
    ∃ e', conjoin? es' = some e' ∧
      ∀ t, e'.holds t = e.holds t ∧ (e'.holdsNotices t).Perm (e.holdsNotices t) := by
  have hne : es' ≠ [] := by
    rintro rfl
    rw [hperm.eq_nil] at h
    cases h
  obtain ⟨e', he'⟩ := exists_conjoin? hne
  refine ⟨e', he', fun t => ⟨?_, ?_⟩⟩
  · rw [holds_of_conjoin? h, holds_of_conjoin? he']
    exact allHold_of_mem_iff (fun _ => hperm.symm.mem_iff) t
  · rw [holdsNotices_of_conjoin? h, holdsNotices_of_conjoin? he']
    exact hperm.symm.flatMap_right _

/-- An expression holds exactly where all of its parts do, none of which is a conjunction; put
    together again, the parts are evaluated as the expression. If there are any expressions, they
    can be put together. The parts, then, are those of all of the expressions, in order, and in
    whatever order the expressions are put together, the result holds on the same tuples, with the
    same notices in some order. -/
theorem split_and_rejoined :
    (∀ (e : Expr) (t : Tuple), e.holds t = true ↔ ∀ p ∈ e.conjuncts, p.holds t = true) ∧
    (∀ e l r : Expr, and l r ∉ e.conjuncts) ∧
    (∀ e : Expr, ∃ e', conjoin? e.conjuncts = some e' ∧ e'.conjuncts = e.conjuncts ∧
      ∀ t, e'.check t = e.check t) ∧
    ∀ es : List Expr, es ≠ [] → ∃ e, conjoin? es = some e ∧
      e.conjuncts = es.flatMap conjuncts ∧
      ∀ es' : List Expr, es.Perm es' → ∃ e', conjoin? es' = some e' ∧
        ∀ t, e'.holds t = e.holds t ∧ (e'.holdsNotices t).Perm (e.holdsNotices t) := by
  refine ⟨holds_iff_conjuncts, and_notMem_conjuncts, exists_conjoin?_conjuncts, fun es hes => ?_⟩
  obtain ⟨e, he⟩ := exists_conjoin? hes
  exact ⟨e, he, conjuncts_of_conjoin? he, fun _ => exists_conjoin?_perm he⟩

end Expr

namespace Sample

/-- `R.a = 1`. -/
def isOne : Expr := .compare (.column ⟨some "R", "a"⟩) .equal (.literal (.int 1))

/-- `S.c = 6`. -/
def isSix : Expr := .compare (.column ⟨some "S", "c"⟩) .equal (.literal (.int 6))

/-- A conjunction nested to the right, with a column where a predicate is meant. -/
def withColumn : Expr := .and isOne (.and (.column ⟨some "R", "b"⟩) isSix)

/-- Four parts, one of them twice and one of them no predicate, hold nowhere. In either order, they
    are put together to what gives the same notices. -/
theorem withColumn_rejoined :
    (∀ t : Tuple, withColumn.holds t = false) ∧
    [withColumn, isOne] ≠ [] ∧ [withColumn, isOne].Perm [isOne, withColumn] ∧
    ∃ e e', Expr.conjoin? [withColumn, isOne] = some e ∧
      Expr.conjoin? [isOne, withColumn] = some e' ∧
      e.conjuncts = [isOne, .column ⟨some "R", "b"⟩, isSix, isOne] ∧
      ∀ t, e'.holds t = e.holds t ∧ (e'.holdsNotices t).Perm (e.holdsNotices t) := by
  obtain ⟨hholds, -, -, hjoined⟩ := Expr.split_and_rejoined
  have hne : [withColumn, isOne] ≠ [] := List.cons_ne_nil _ _
  have hperm : [withColumn, isOne].Perm [isOne, withColumn] := .swap _ _ _
  obtain ⟨e, he, hparts, hany⟩ := hjoined _ hne
  obtain ⟨e', he', hsame⟩ := hany _ hperm
  refine ⟨fun t => ?_, hne, hperm, e, e', he, he', hparts, hsame⟩
  rw [Bool.eq_false_iff, Ne, hholds]
  exact fun h => Bool.false_ne_true (h (.column ⟨some "R", "b"⟩) (by decide))

end Sample

end CsvQuery
