import CsvQuery.Tuple
import Mathlib.Data.List.Perm.Basic

/-!
# Bags of tuples

Two lists hold the same tuples, each as often, if one is a permutation of the
other. To find out, the tuples of the one are looked for in the other, one by
one, and each that is found is removed. The last tuple takes its place, so what
is left changes its order at every step. It is the rest of the same bag all the
same (`Tuple.perm_cons_swapRemove`).

* `Tuple.usesUp_iff`: one list uses up another one if they are permutations of each other.
* `Tuple.sameBag_iff_perm`: being the same bag decides being a permutation, so it is an
  equivalence, and no order of either list matters.
-/

namespace CsvQuery

open scoped List

namespace Tuple

variable {ts others : List Tuple} {i : Nat}

/-- The last tuple of a list is removed as it is. -/
theorem swapRemove_length (ts : List Tuple) (last : Tuple) :
    swapRemove (ts ++ [last]) ts.length = ts := by
  rw [swapRemove, List.getLast?_concat]
  change ((ts ++ [last]).set ts.length last).dropLast = ts
  rw [List.set_append_right _ _ (Nat.le_refl _), Nat.sub_self, List.set_cons_zero,
    List.dropLast_concat]

/-- Where any other tuple was, there is the last one now. -/
theorem swapRemove_of_lt (h : i < ts.length) (last : Tuple) :
    swapRemove (ts ++ [last]) i = ts.set i last := by
  rw [swapRemove, List.getLast?_concat]
  change ((ts ++ [last]).set i last).dropLast = ts.set i last
  rw [List.set_append_left _ _ h, List.dropLast_concat]

/-- What is removed and what is left are the list again, in some order. -/
theorem perm_cons_swapRemove (h : i < ts.length) : ts.Perm (ts[i] :: swapRemove ts i) := by
  rcases ts.eq_nil_or_concat with rfl | ⟨ts, last, rfl⟩
  · exact absurd h (Nat.not_lt_zero i)
  have hi : i < ts.length + 1 := by rwa [List.length_concat] at h
  simp only [List.concat_eq_append]
  rcases Nat.lt_succ_iff_lt_or_eq.1 hi with hlt | rfl
  · rw [swapRemove_of_lt hlt, List.getElem_append_left hlt]
    calc ts ++ [last]
      _ ~ last :: ts := List.perm_append_singleton last ts
      _ ~ last :: ts[i] :: ts.eraseIdx i := (List.getElem_cons_eraseIdx_perm hlt).symm.cons last
      _ ~ ts[i] :: last :: ts.eraseIdx i := .swap _ _ _
      _ ~ ts[i] :: ts.set i last := (List.set_perm_cons_eraseIdx hlt last).symm.cons _
  · rw [swapRemove_length, List.getElem_concat_length rfl]
    exact List.perm_append_singleton last ts

/-- The tuples of a list use up another one if that is a permutation of the list. -/
theorem usesUp_iff : usesUp ts others = true ↔ others.Perm ts := by
  induction ts generalizing others with
  | nil => rw [usesUp, List.isEmpty_iff, List.perm_nil]
  | cons t ts ih =>
    rw [usesUp]
    cases h : others.idxOf? t with
    | none =>
      -- A tuple that is not there is in no permutation either.
      have hnot : t ∉ others := List.idxOf?_eq_none_iff.1 h
      exact ⟨nofun, fun hperm => absurd (hperm.mem_iff.2 List.mem_cons_self) hnot⟩
    | some i =>
      obtain ⟨hi, rfl, -⟩ := List.idxOf?_eq_some_iff.1 h
      have hperm := perm_cons_swapRemove hi
      calc usesUp ts (swapRemove others i) = true
        _ ↔ (swapRemove others i).Perm ts := ih
        _ ↔ (others[i] :: swapRemove others i).Perm (others[i] :: ts) :=
          (List.perm_cons others[i]).symm
        _ ↔ others.Perm (others[i] :: ts) := ⟨hperm.trans, hperm.symm.trans⟩

theorem sameBag_eq_true : sameBag ts others = true ↔ others.Perm ts := by
  rw [sameBag, Bool.and_eq_true, beq_iff_eq, usesUp_iff]
  exact and_iff_right_of_imp fun h => h.length_eq.symm

/-- Two lists are the same bag if and only if the second one is a permutation of the first one. So
    each list is the same bag as itself, if one is the same bag as another, then the other is the
    same bag as the one, and so on for a third one. Reordering either list makes no difference. -/
theorem sameBag_iff_perm :
    (∀ ts others, sameBag ts others = true ↔ others.Perm ts) ∧
    Equivalence (fun ts others => sameBag ts others = true) ∧
    ∀ ts ts' others others' : List Tuple, ts.Perm ts' → others.Perm others' →
      sameBag ts others = sameBag ts' others' := by
  refine ⟨fun _ _ => sameBag_eq_true, ⟨fun ts => ?_, fun {ts others} h => ?_,
    fun {ts us others} h h' => ?_⟩, fun ts ts' others others' h h' => ?_⟩
  · exact sameBag_eq_true.2 (List.Perm.refl ts)
  · exact sameBag_eq_true.2 (sameBag_eq_true.1 h).symm
  · exact sameBag_eq_true.2 ((sameBag_eq_true.1 h').trans (sameBag_eq_true.1 h))
  · rw [Bool.eq_iff_iff, sameBag_eq_true, sameBag_eq_true]
    exact ⟨fun hperm => (h'.symm.trans hperm).trans h, fun hperm => (h'.trans hperm).trans h.symm⟩

end Tuple

namespace Sample

/-- Three rows, two of which are the same. -/
def repeatedRows : List Tuple :=
  [.ofRow "R" ["x", "y"] [1, 2], .ofRow "R" ["x", "y"] [3, 4], .ofRow "R" ["x", "y"] [1, 2]]

/-- A bag can be told from another one by how often a tuple is in it, and in no other way. -/
theorem sameBag_repeatedRows :
    Tuple.sameBag repeatedRows repeatedRows.reverse = true ∧
      Tuple.sameBag (repeatedRows.rotate 1) (repeatedRows.rotate 2) = true ∧
      Tuple.sameBag repeatedRows (repeatedRows.take 2 ++ repeatedRows.tail.take 1) = false := by
  obtain ⟨hiff, hequivalence, hreordered⟩ := Tuple.sameBag_iff_perm
  refine ⟨(hiff _ _).2 (List.reverse_perm _), ?_, ?_⟩
  · rw [hreordered _ repeatedRows _ repeatedRows (by decide) (by decide)]
    exact hequivalence.refl repeatedRows
  · rw [Bool.eq_false_iff, ne_eq, hiff]
    decide

end Sample

end CsvQuery
