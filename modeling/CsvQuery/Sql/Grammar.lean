import CsvQuery.Sql.Change
import CsvQuery.Sql.Query

/-!
# The whole grammar

Expressions contain queries, and queries contain expressions. `Grammar.upTo` unrolls this a number
of times; a parser that goes deeper than that fails. Apart from this, each expression and each query
takes up a level of the text.

* `Grammar.upTo`: the grammar, unrolled so many times.
* `Grammar.fuelFor`: how often is often enough for a list of tokens.
-/

namespace CsvQuery.Sql

open Parse

/-- The grammar, unrolled `fuel` times. -/
def Grammar.upTo : (fuel : Nat) → Grammar
  | 0 => .none
  | fuel + 1 => {
    term := levelled fun r => parseTerm (upTo fuel) 0 r
    tighter := fun least r => parseTerm (upTo fuel) least r
    query := levelled fun r => parseQuery (upTo fuel) (parseChange? (upTo fuel)) r
    body := fun least r => parseBody (upTo fuel) least r
    joined := fun r => parseJoined (upTo fuel) r }

/-- How often the grammar is unrolled for a list of tokens. Each parser takes a token before it
    calls another one, except that a query calls its body at once. -/
def Grammar.fuelFor (tokens : List Token) : Nat := 2 * tokens.length + 4

end CsvQuery.Sql
