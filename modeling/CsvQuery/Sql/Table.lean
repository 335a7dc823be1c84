import CsvQuery.Sql.Operation

/-!
# Tables and joins

* `parseRelation`: a table, or what stands for one.
* `parseJoined`: a table with those joined to it.
-/

namespace CsvQuery.Sql

open Parse

/-- The name that a table is given, with names for its columns, in its wording. -/
def parseTableAlias? : Parse (Option String) := do
  match ← parseAlias? tableStops with
  | none => return none
  | some name =>
    match ← parseOptionalNames with
    | [] => return some name.render
    | columns =>
      return some (name.render ++ " (" ++ commaList (columns.map (·.render)) ++ ")")

/-- A subquery in place of a table, behind its opening parenthesis. -/
def parseDerived (g : Grammar) (words : String) : Parse Relation := do
  let q ← g.query
  expectSymbol ")"
  return ⟨.derived (words ++ "(" ++ q.render ++ ")"), ← parseTableAlias?, ""⟩

/-- Joined tables, or one table, behind an opening parenthesis. The parentheses around one table do
    not count, and it may be given a name behind them if it has none within. -/
def parseEnclosed (g : Grammar) : Parse Relation := do
  let inner ← g.joined
  expectSymbol ")"
  let isJoin := match inner.relation.kind with
    | .joined _ => true
    | _ => false
  if !inner.joins.isEmpty || isJoin then
    return ⟨.joined inner.render, ← parseTableAlias?, ""⟩
  else
    match ← parseTableAlias?, inner.relation.newName with
    | none, _ => return inner.relation
    | some name, none => return { inner.relation with newName := some name }
    | some _, some _ => failure

/-- The elements of some arrays in place of a table, behind the first word. The word that announces
    their numbers counts for nothing alone. -/
def parseUnnest (g : Grammar) : Parse Relation := do
  let arrays ← parenthesized (commaSeparated g.term)
  let name ← parseTableAlias?
  let numbered ← if ← acceptWord "WITH" then acceptWord "OFFSET" else pure false
  let offset ← if numbered then parseAlias? columnStops else pure none
  let trailer := (if numbered then " WITH OFFSET" else "") ++ offset.elim "" (" AS " ++ ·.render)
  return ⟨.derived ("UNNEST(" ++ commaList (renderAll arrays) ++ ")"), name, trailer⟩

/-- The values of a table whose rows become columns. A comma follows a value if it differs from the
    last one. -/
def pivotValues (values : List Term) : String :=
  String.join (values.map fun v =>
    v.render ++ if values.getLast? = some v then "" else ", ")

/-- A table whose rows become columns, behind its name and the word for that. -/
def parsePivot (g : Grammar) (table : String) : Parse Relation := do
  let what ← parenthesized do
    let function ← match ← next with
      | .word text _ => pure (⟨text, none⟩ : Name)
      | _ => failure
    let e ← parseCall g (parseAnyInterval g) [function]
    expectWord "FOR"
    let column ← parsePath
    expectWord "IN"
    let values ← parenthesized (commaSeparated parseLiteral)
    return e.render ++ " FOR " ++ renderPath column ++ " IN (" ++ pivotValues values ++ ")"
  return ⟨.derived (table ++ " PIVOT(" ++ what ++ ")"), ← parseTableAlias?, ""⟩

/-- Hints in parentheses behind a table, if there are any. -/
def parseHints (g : Grammar) : Parse String := do
  if (← peekKeyword) = "WITH" && (← peekBehind 1) = some (.symbol "(") then
    expectWord "WITH"
    return " WITH (" ++ commaList (renderAll (← parenthesized (commaSeparated g.term))) ++ ")"
  else return ""

/-- The table of a name. -/
def parseTable (g : Grammar) : Parse Relation := do
  let name ← parsePath
  let arguments ←
    if ← acceptSymbol "(" then do
      if ← acceptSymbol ")" then pure (some "")
      else do
        let arguments ← commaSeparated (parseArgument g)
        expectSymbol ")"
        pure (some (commaList (arguments.map (·.render))))
    else pure none
  let newName ← parseTableAlias?
  if ← acceptWord "PIVOT" then
    parsePivot g (renderPath name ++ newName.elim "" (" AS " ++ ·))
  else return ⟨.table name arguments, newName, ← parseHints g⟩

/-- A table, or what stands for one. -/
def parseRelation (g : Grammar) : Parse Relation := do
  if ← acceptWord "LATERAL" then
    expectSymbol "("
    parseDerived g "LATERAL "
  else if ← acceptWord "TABLE" then
    let e ← parenthesized g.term
    return ⟨.derived ("TABLE(" ++ e.render ++ ")"), ← parseTableAlias?, ""⟩
  else if ← acceptSymbol "(" then
    match ← attempt? (parseDerived g "") with
    | some r => return r
    | none => parseEnclosed g
  else if ← acceptWord "UNNEST" then parseUnnest g
  else parseTable g

/-! ## Joins -/

/-- The condition of a join. -/
def parseConstraint (g : Grammar) (natural : Bool) : Parse Constraint := do
  if natural then return .natural
  else if ← acceptWord "ON" then return .predicate (← g.term)
  else if ← acceptWord "USING" then return .shared (← parseNames)
  else return .none

/-- The words of a join to one side, behind the first one. -/
def parseSide (side : String) : Parse JoinKind := do
  match ← acceptOneOf ["OUTER", "SEMI", "ANTI", "JOIN"] with
  | some "OUTER" => expectWord "JOIN"; return .outer (side ++ " JOIN")
  | some "JOIN" => return .outer (side ++ " JOIN")
  | some w => expectWord "JOIN"; return .outer (side ++ " " ++ w ++ " JOIN")
  | none => failure

/-- The words of a join that has a condition, if one comes next. -/
def parseJoinWords? : Parse (Option JoinKind) := do
  match ← acceptOneOf ["INNER", "JOIN", "LEFT", "RIGHT", "FULL"] with
  | some "INNER" => expectWord "JOIN"; return some .inner
  | some "JOIN" => return some .inner
  | some "FULL" =>
    let _ ← acceptWord "OUTER"
    expectWord "JOIN"
    return some (.outer "FULL JOIN")
  | some side => some <$> parseSide side
  | none => return none

/-- A join, if one comes next. -/
def parseJoin? (g : Grammar) : Parse (Option Join) := do
  if ← acceptWord "CROSS" then
    let kind : JoinKind :=
      if (← expectOneOf ["JOIN", "APPLY"]) = "JOIN" then .cross else .outer "CROSS APPLY"
    return some ⟨← parseRelation g, kind, .none⟩
  else if ← acceptWord "OUTER" then
    expectWord "APPLY"
    return some ⟨← parseRelation g, .outer "OUTER APPLY", .none⟩
  else
    let natural ← acceptWord "NATURAL"
    match ← parseJoinWords? with
    | some kind =>
      let relation ← parseRelation g
      return some ⟨relation, kind, ← parseConstraint g natural⟩
    | none => if natural then failure else return none

/-- A table with those joined to it. -/
def parseJoined (g : Grammar) : Parse JoinedRelation := do
  return ⟨← parseRelation g, ← many (parseJoin? g)⟩

end CsvQuery.Sql
