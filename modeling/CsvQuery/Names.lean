/-!
# Sets of names

A set of names is kept as the list of its members in ascending order, by code points.

* `Names.insert`: one more name.
* `Names.ofList`: the set of the members of a list.
-/

namespace CsvQuery.Names

/-- An ascending list of names with one more name, unless it is there already. -/
def insert (s : String) : List String → List String
  | [] => [s]
  | t :: rest =>
    if s < t then s :: t :: rest
    else if s = t then t :: rest
    else t :: insert s rest

/-- The members of a list in ascending order, each once. -/
def ofList (names : List String) : List String := names.foldr insert []

end CsvQuery.Names
