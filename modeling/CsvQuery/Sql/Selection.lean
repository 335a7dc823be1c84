import CsvQuery.Sql.Table

/-!
# Selections

* `parseItem`: an item of a `SELECT`.
* `parseSelect`: a `SELECT`, behind that word.
-/

namespace CsvQuery.Sql

open Parse

/-! ## Items -/

/-- Columns that a star leaves out. -/
def parseExclude : Parse String := do
  if ← acceptWord "EXCLUDE" then
    if (← peek) = some (.symbol "(") then
      return " EXCLUDE (" ++ commaList ((← parseNames).map (·.render)) ++ ")"
    else return " EXCLUDE " ++ (← parseName).render
  else return ""

/-- Columns that a star leaves out, by another word. -/
def parseExcept : Parse String := do
  if (← peekKeyword) = "EXCEPT" then
    let _ ← next
    return " EXCEPT (" ++ commaList ((← parseNames).map (·.render)) ++ ")"
  else return ""

/-- A column with a new name. -/
def parseRenamed : Parse String := do
  let name ← parseName
  expectWord "AS"
  return name.render ++ " AS " ++ (← parseName).render

/-- Columns that get new names under a star. -/
def parseRename : Parse String := do
  if ← acceptWord "RENAME" then
    if (← peek) = some (.symbol "(") then
      return " RENAME (" ++ commaList (← parenthesized (commaSeparated parseRenamed)) ++ ")"
    else return " RENAME " ++ (← parseRenamed)
  else return ""

/-- An expression in place of a column. -/
def parseReplaced (g : Grammar) : Parse String := do
  let e ← g.term
  let words := if ← acceptWord "AS" then " AS " else " "
  return e.render ++ words ++ (← parseName).render

/-- Expressions in place of columns under a star. -/
def parseReplace (g : Grammar) : Parse String := do
  if ← acceptWord "REPLACE" then
    return " REPLACE (" ++ commaList (← parenthesized (commaSeparated (parseReplaced g))) ++ ")"
  else return ""

/-- What is said about single columns behind a star. -/
def parseStarModifiers (g : Grammar) : Parse String := do
  return (← parseExclude) ++ (← parseExcept) ++ (← parseRename) ++ (← parseReplace g)

/-- An item of a `SELECT`. -/
def parseItem (g : Grammar) : Parse Item := do
  match ← parseItemTerm g with
  | .wildcard => return .wildcard (← parseStarModifiers g)
  | .tableWildcard table => return .tableWildcard table (← parseStarModifiers g)
  | .term e =>
    match ← parseAlias? columnStops with
    | some name => return .named e name
    | none => return .plain e

/-! ## Clauses -/

/-- How many rows a `SELECT` gives at most. -/
def parseTop (g : Grammar) : Parse String := do
  let quantity ←
    if (← peek) = some (.symbol "(") then parenthesized g.term
    else parseQuantity
  let percent := if ← acceptWord "PERCENT" then " PERCENT" else ""
  let ties := if ← acceptWords ["WITH", "TIES"] then " WITH TIES" else ""
  return "TOP (" ++ quantity.render ++ ")" ++ percent ++ ties

/-- The new table that a `SELECT` fills. -/
def parseInto : Parse String := do
  let temporary := if (← acceptOneOf ["TEMP", "TEMPORARY"]).isSome then " TEMPORARY" else ""
  let unlogged := if ← acceptWord "UNLOGGED" then " UNLOGGED" else ""
  let table := if ← acceptWord "TABLE" then " TABLE" else ""
  return "INTO" ++ temporary ++ unlogged ++ table ++ " " ++ renderPath (← parsePath)

/-- A table made of the values of a row, if one comes next. -/
def parseLateralView? (g : Grammar) : Parse (Option String) :=
  after? ["LATERAL", "VIEW"] do
    let outer := if ← acceptWord "OUTER" then " OUTER" else ""
    let e ← g.term
    let name ← parsePath
    let columns ← commaSeparated (parseAlias? ["WHERE", "GROUP", "CLUSTER", "HAVING", "LATERAL"])
    let columns := columns.filterMap id
    let columnText :=
      if columns.isEmpty then "" else " AS " ++ commaList (columns.map (·.render))
    return " LATERAL VIEW" ++ outer ++ " " ++ e.render ++ " " ++ renderPath name ++ columnText

/-- Expressions in parentheses, of which there may be none. -/
def parseTuple (g : Grammar) : Parse (List Term) :=
  parenthesized do
    if (← peek) = some (.symbol ")") then return [] else commaSeparated g.term

/-- Expressions in parentheses, or one expression. -/
def parseTupleOrTerm (g : Grammar) : Parse (List Term) := do
  if (← peek) = some (.symbol "(") then parseTuple g else return [← g.term]

/-- Some expressions in parentheses. -/
def tupleText (es : List Term) : String := "(" ++ commaList (renderAll es) ++ ")"

/-- Some expressions in parentheses; one expression needs none. -/
def tupleOrTermText : List Term → String
  | [e] => e.render
  | es => tupleText es

/-- An expression to group by, or several sets of such. -/
def parseGroupItem (g : Grammar) : Parse Term := do
  if ← acceptWords ["GROUPING", "SETS"] then
    let sets ← parenthesized (commaSeparated (parseTuple g))
    return .other ("GROUPING SETS (" ++ commaList (sets.map tupleText) ++ ")")
  else
    match ← acceptOneOf ["CUBE", "ROLLUP"] with
    | some w =>
      let sets ← parenthesized (commaSeparated (parseTupleOrTerm g))
      return .other (w ++ " (" ++ commaList (sets.map tupleOrTermText) ++ ")")
    | none => g.term

/-- A window with a name. -/
def parseNamedWindow (g : Grammar) : Parse String := do
  let name ← parseName
  expectWord "AS"
  expectSymbol "("
  return name.render ++ " AS (" ++ (← parseWindow g (parseAnyInterval g)) ++ ")"

/-- A `SELECT`, behind that word. -/
def parseSelect (g : Grammar) : Parse Select := do
  let repeats ← parseRepeats g
  let top ← after? ["TOP"] (parseTop g)
  let items ← commaSeparated (parseItem g)
  let into ← after? ["INTO"] parseInto
  let relations ← listAfter ["FROM"] (parseJoined g)
  let lateralViews ← many (parseLateralView? g)
  let selection ← after? ["WHERE"] g.term
  let groupBy ← listAfter ["GROUP", "BY"] (parseGroupItem g)
  let clusterBy ← listAfter ["CLUSTER", "BY"] g.term
  let distributeBy ← listAfter ["DISTRIBUTE", "BY"] g.term
  let sortBy ← listAfter ["SORT", "BY"] g.term
  let having ← after? ["HAVING"] g.term
  let windows ← listAfter ["WINDOW"] (parseNamedWindow g)
  let qualify ← after? ["QUALIFY"] g.term
  return {
    repeats, top, items, into, relations, lateralViews, selection, groupBy, clusterBy,
    distributeBy, sortBy, having, windows, qualify }

end CsvQuery.Sql
