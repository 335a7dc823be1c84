import CsvQuery.Sql.Literal

/-!
# Sequences of numbers

A sequence gives the numbers of rows. It stands on its own, or in a column.

* `parseSequenceOptions`: how the numbers follow one another. The options come in a fixed order.
-/

namespace CsvQuery.Sql

open Parse

/-- The least or the greatest number of a sequence, or that there is none. -/
def parseSequenceEnd (word : String) : Parse Unit := do
  if ← acceptWord word then discard parseQuantity else optionally ["NO", word]

/-- How the numbers of a sequence follow one another. -/
def parseSequenceOptions : Parse Unit := do
  if ← acceptWord "INCREMENT" then
    optionally ["BY"]
    discard parseQuantity
  parseSequenceEnd "MINVALUE"
  parseSequenceEnd "MAXVALUE"
  if ← acceptWord "START" then
    optionally ["WITH"]
    discard parseQuantity
  if ← acceptWord "CACHE" then discard parseQuantity
  optionally ["NO"]
  optionally ["CYCLE"]

end CsvQuery.Sql
