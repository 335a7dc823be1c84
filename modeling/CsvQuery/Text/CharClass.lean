/-!
# Classes of characters

A property that Unicode assigns to characters by a table is kept as the ascending list of the code
points at which membership flips: the characters below the first one are outside, those from the
first up to the second are inside, and so on.

* `CharClass.contains`: membership, by the parity of the flips passed.
-/

namespace CsvQuery

/-- A set of characters, given by the code points where membership flips, in ascending order. -/
structure CharClass where
  /-- The first code point inside, the first one outside again, and so on. -/
  flips : List Nat

/-- A character is in the class when an odd number of flips lie at or below it. -/
def CharClass.contains (k : CharClass) (c : Char) : Bool :=
  (k.flips.takeWhile (· ≤ c.toNat)).length % 2 == 1

end CsvQuery
