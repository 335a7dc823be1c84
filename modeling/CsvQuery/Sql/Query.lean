import CsvQuery.Sql.Selection

/-!
# Queries

* `parseBody`: the body of a query as far as its set operations bind tighter than a given one.
* `parseQuery`: a query.
-/

namespace CsvQuery.Sql

open Parse

/-! ## Bodies -/

/-- Rows of values. -/
def parseValues (g : Grammar) : Parse Body := do
  let row : Parse (Bool × List Term) := do
    let explicit ← acceptWord "ROW"
    return (explicit, ← parenthesized (commaSeparated g.term))
  let rows ← commaSeparated row
  let words := if rows.any (·.1) then "ROW" else ""
  return .other ("VALUES " ++ commaList (rows.map fun r => words ++ tupleText r.2))

/-- A table in place of a `SELECT`. It takes three tokens as far as there are any, whether or not it
    needs them. -/
def parseTableBody : Parse Body := do
  match ← next?, ← next?, ← next? with
  | some (.word schema _), some (.symbol "."), some (.word table _) =>
    return .other ("TABLE " ++ schema ++ "." ++ table)
  | _, some (.symbol "."), _ => failure
  | some (.word table _), _, _ => return .other ("TABLE " ++ table)
  | _, _, _ => failure

/-- What a set operation does with repeated rows, and how it finds columns. -/
def parseQuantifier (operator : String) : Parse String := do
  if operator = "UNION" then
    if ← acceptWords ["BY", "NAME"] then return " BY NAME"
    else if ← acceptWord "ALL" then
      if ← acceptWords ["BY", "NAME"] then return " ALL BY NAME" else return " ALL"
    else if ← acceptWord "DISTINCT" then return " DISTINCT"
    else return ""
  else if ← acceptWord "ALL" then return " ALL"
  else if ← acceptWord "DISTINCT" then return " DISTINCT"
  else return ""

/-- How tight a set operation binds; 0 if a word is none. -/
def setTightness (word : String) : Nat :=
  match word with
  | "UNION" | "EXCEPT" => 10
  | "INTERSECT" => 20
  | _ => 0

/-- A body without set operations. -/
def parseSimpleBody (g : Grammar) : Parse Body := do
  if ← acceptWord "SELECT" then return .select (← parseSelect g)
  else if (← peek) = some (.symbol "(") then return .query (← parenthesized g.query).render
  else if ← acceptWord "VALUES" then parseValues g
  else if ← acceptWord "TABLE" then parseTableBody
  else failure

/-- What a body becomes with at most `fuel` set operations behind it that bind tighter than a given
    one. -/
def parseSetOperations (g : Grammar) (least : Nat) (left : Body) : (fuel : Nat) → Parse Body
  | 0 => return left
  | fuel + 1 => do
    let operator ← peekKeyword
    let tightness := setTightness operator
    if tightness ≤ least then return left
    else
      let _ ← next
      let quantifier ← parseQuantifier operator
      let right ← g.body tightness
      let text := left.render ++ " " ++ operator ++ quantifier ++ " " ++ right.render
      parseSetOperations g least (.setOperation text) fuel

/-- The body of a query as far as its set operations bind tighter than a given one. -/
def parseBody (g : Grammar) (least : Nat) : Parse Body := do
  let left ← parseSimpleBody g
  parseSetOperations g least left (← remaining).length

/-! ## Queries -/

/-- A query with a name that another one may use. -/
def parseNamedQuery (g : Grammar) : Parse String := do
  let name ← parseName
  let columns ← parseOptionalNames
  expectWord "AS"
  let q ← parenthesized g.query
  let from_ ← after? ["FROM"] parseName
  let columnText :=
    if columns.isEmpty then "" else " (" ++ commaList (columns.map (·.render)) ++ ")"
  return name.render ++ columnText ++ " AS (" ++ q.render ++ ")"
    ++ from_.elim "" (" FROM " ++ ·.render)

/-- The queries that another one may use, behind the first word. -/
def parseWith (g : Grammar) : Parse String := do
  let recursive := if ← acceptWord "RECURSIVE" then "RECURSIVE " else ""
  return "WITH " ++ recursive ++ commaList (← commaSeparated (parseNamedQuery g))

/-- How many rows of a query are left out. -/
def parseOffset (g : Grammar) : Parse String := do
  let e ← g.term
  return "OFFSET " ++ e.render ++ spaced (← acceptOneOf ["ROW", "ROWS"])

/-- How many rows of a query are left out and how many are given at most. Either may come first;
    two numbers with a comma between them mean both. -/
def parseLimits (g : Grammar) : Parse (Option Term × Option String) := do
  let rec step : (rounds : Nat) → Option Term → Option String →
      Parse (Option Term × Option String)
    | 0, limit, offset => return (limit, offset)
    | rounds + 1, limit, offset => do
      let limit ←
        if limit.isNone then pure (← after? ["LIMIT"] (parseLimit g)).join else pure limit
      let offset ← if offset.isNone then after? ["OFFSET"] (parseOffset g) else pure offset
      match limit, offset with
      | some first, none =>
        if ← acceptSymbol "," then
          step rounds (some (← g.term)) (some ("OFFSET " ++ first.render))
        else step rounds limit offset
      | _, _ => step rounds limit offset
  step 2 none none

/-- How many rows of a query are given, in other words. -/
def parseFetch : Parse String := do
  let _ ← expectOneOf ["FIRST", "NEXT"]
  let quantity ←
    if (← acceptOneOf ["ROW", "ROWS"]).isSome then pure ""
    else do
      let e ← parseLiteral
      let percent := if ← acceptWord "PERCENT" then " PERCENT" else ""
      let _ ← expectOneOf ["ROW", "ROWS"]
      pure (" " ++ e.render ++ percent)
  let extension ←
    if ← acceptWord "ONLY" then pure "ONLY"
    else do
      expectWords ["WITH", "TIES"]
      pure "WITH TIES"
  return "FETCH FIRST" ++ quantity ++ " ROWS " ++ extension

/-- How the rows of a query are kept from others. -/
def parseLock : Parse String := do
  let kind ← expectOneOf ["UPDATE", "SHARE"]
  let table ← after? ["OF"] parsePath
  let wait ←
    if ← acceptWord "NOWAIT" then pure " NOWAIT"
    else if ← acceptWords ["SKIP", "LOCKED"] then pure " SKIP LOCKED"
    else pure ""
  return "FOR " ++ kind ++ table.elim "" (" OF " ++ renderPath ·) ++ wait

/-- A query. Behind `WITH` or on its own, what changes a table may stand in its place. -/
def parseQuery (g : Grammar) (change? : Parse (Option String)) : Parse Query := do
  let withClause ← after? ["WITH"] (parseWith g)
  match ← change? with
  | some text => return ⟨withClause, .other text, [], none, none, none, []⟩
  | none =>
    let body ← g.body 0
    let orderBy ← listAfter ["ORDER", "BY"] (parseOrderItem g)
    let (limit, offset) ← parseLimits g
    let fetch ← after? ["FETCH"] parseFetch
    let locks ← many (after? ["FOR"] parseLock)
    return { withClause, body, orderBy, limit, offset, fetch, locks }

end CsvQuery.Sql
