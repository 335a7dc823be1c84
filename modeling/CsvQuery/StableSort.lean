/-!
# Stable sorting

Sorting by halves: the two halves of a list are sorted and then merged, and of two members that may
stand either way round the earlier one stays first. This is also defined where the comparison is no
order, and the result then depends on where the halves meet: the first half is the shorter one.

* `StableSort.sort`: a list sorted by a comparison.
-/

namespace CsvQuery.StableSort

/-- A list sorted by a comparison, which tells whether a member may stand before a later one. -/
def sort {α : Type} (before : α → α → Bool) (xs : List α) : List α :=
  if xs.length ≤ 1 then xs
  else
    let half := xs.length / 2
    List.merge (sort before (xs.take half)) (sort before (xs.drop half)) before
termination_by xs.length
decreasing_by all_goals grind

end CsvQuery.StableSort
