import CsvQuery.Execution
import CsvQuery.Planner

/-!
# Answering a statement

* `Statement.open`: the opened plan of a statement, from fresh statistics of its tables.
* `Statement.answer`: the outcome of a statement.
-/

namespace CsvQuery.Statement

/-- The opened plan of a statement. -/
def «open» (catalog : Catalog) (files : Files) (s : Statement) : Run Opened := do
  let stats ← Statistics.build catalog files s.tables
  let plan ← ExceptT.lift (s.plan stats)
  Opened.ofPlan catalog files plan

/-- The outcome of a statement. -/
def answer (catalog : Catalog) (files : Files) (s : Statement) : Run Outcome := do
  let opened ← s.open catalog files
  (opened.execute files).run

end CsvQuery.Statement
