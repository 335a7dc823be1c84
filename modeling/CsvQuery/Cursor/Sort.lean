import CsvQuery.Cursor.Replay
import CsvQuery.StableSort

/-!
# Tuples in ascending order

Tuples are sorted by the values of some columns, the first one first. A column that either of two
tuples lacks does not count between them.

* `Sort.sorted`: a list of tuples, sorted.
* `Sort.open`: all tuples of a cursor, sorted.
-/

namespace CsvQuery.Sort

/-- Whether a tuple may stand before a later one, given their values of the sorting columns. -/
def before : List (Option Int32) → List (Option Int32) → Bool
  | some a :: left, some b :: right =>
    if a < b then true else if b < a then false else before left right
  | _ :: left, _ :: right => before left right
  | _, _ => true

/-- The values of the sorting columns. -/
def key (keys : List ColumnRef) (t : Tuple) : List (Option Int32) := keys.map t.lookup

/-- A list of tuples sorted by some columns. Tuples that tie keep their order. -/
def sorted (keys : List ColumnRef) (ts : List Tuple) : List Tuple :=
  (StableSort.sort (fun p q => before p.1 q.1) (ts.map fun t => (key keys t, t))).map (·.2)

/-- The notices on the sorting columns that a tuple lacks. -/
def notices (keys : List ColumnRef) (t : Tuple) : List Notice :=
  (keys.filter fun c => (t.lookup c).isNone).map (.sortKeyIgnored · t)

/-- All tuples of a cursor, sorted. -/
def «open» {σ : Type} (keys : List ColumnRef) (c : Cursor σ) (files : Files) (s : σ) :
    Run Replay := do
  let ts ← (c.collect (notices keys) files s).run
  return .start (sorted keys ts)

end CsvQuery.Sort
