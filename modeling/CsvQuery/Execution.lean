import CsvQuery.Plan

/-!
# Running a plan

* `Outcome`: the text of a result, with a line for each tuple, and how many there are.
* `Opened.execute`: the outcome of an opened plan. There is none unless all tuples can be pulled.
-/

namespace CsvQuery

/-- What a query delivers. -/
structure Outcome where
  text : String
  rows : Nat
  deriving DecidableEq, Repr

/-- The lines that show some tuples. -/
def Outcome.ofTuples (ts : List Tuple) : Outcome :=
  ⟨String.join (ts.map fun t => t.render ++ "\n"), ts.length⟩

/-- The outcome of the tuples that are left of an opened plan. -/
def Opened.execute (files : Files) (o : Opened) : Reply Outcome Opened :=
  match o.drain files with
  | ⟨.ok ts, o', ns⟩ => ⟨.ok (.ofTuples ts), o', ns ++ [.produced ts.length]⟩
  | ⟨.error e, o', ns⟩ => ⟨.error e, o', ns⟩

end CsvQuery
