import CsvQuery.Cursor.Replay
import CsvQuery.StableSort

/-!
# One tuple for each value

Of all tuples with the same value of a column the first one is kept, and those kept are sorted by
that value. Tuples without the column are left out.

* `Distinct.firsts`: the tuples of a list that are kept, in order.
* `Distinct.open`: the tuples of a cursor that are kept.
-/

namespace CsvQuery.Distinct

/-- The members of a sorted list that do not have the same key as the one before them. -/
def dropRepeats (last : Option Int32) : List (Int32 × Tuple) → List Tuple
  | [] => []
  | (v, t) :: rest =>
    if last = some v then dropRepeats last rest else t :: dropRepeats (some v) rest

/-- The tuples of a list that have the column, each with its value. -/
def keyed (key : ColumnRef) (ts : List Tuple) : List (Int32 × Tuple) :=
  ts.filterMap fun t => (t.lookup key).map (·, t)

/-- The first tuple with each value of a column, in ascending order of the values. -/
def firsts (key : ColumnRef) (ts : List Tuple) : List Tuple :=
  dropRepeats none (StableSort.sort (fun p q => decide (p.1 ≤ q.1)) (keyed key ts))

/-- The notice on a tuple without the column. -/
def notices (key : ColumnRef) (t : Tuple) : List Notice :=
  if (t.lookup key).isNone then [.leftOutOfDistinct key t] else []

/-- The first tuple of a cursor with each value of a column, in ascending order of the values. -/
def «open» {σ : Type} (key : ColumnRef) (c : Cursor σ) (files : Files) (s : σ) :
    Run Replay := do
  let ts ← (c.collect (notices key) files s).run
  return .start (firsts key ts)

end CsvQuery.Distinct
