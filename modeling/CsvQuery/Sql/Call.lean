import CsvQuery.Sql.Literal

/-!
# Function calls

* `parseItemTerm`: an expression, or a star for all columns.
* `parseOrderItem`: an expression to sort by.
* `parseWindow`: the rows that a call with a window ranges over.
* `parseCall`: the arguments and the window of a call.
-/

namespace CsvQuery.Sql

open Parse

/-- An expression, or what stands for all columns. -/
inductive ItemTerm
  | wildcard
  | tableWildcard (table : List Name)
  | term (e : Term)
  deriving DecidableEq, Repr

/-- The wording of an expression or a star. -/
def ItemTerm.render : ItemTerm → String
  | wildcard => "*"
  | tableWildcard table => renderPath table ++ ".*"
  | term e => e.render

/-- The parts of a name after its first one up to a star, if it ends in one. -/
def parseStarred? : (fuel : Nat) → Parse (Option (List Name))
  | 0 => return none
  | fuel + 1 => do
    if ← acceptSymbol "." then
      match ← next with
      | .symbol "*" => return some []
      | .word text quoted =>
        return (← parseStarred? fuel).map (⟨text, if quoted then some '"' else none⟩ :: ·)
      | _ => failure
    else return none

/-- An expression, or a star for all columns. -/
def parseItemTerm (g : Grammar) : Parse ItemTerm := do
  let start ← remaining
  match start with
  | .symbol "*" :: rest => goTo rest; return .wildcard
  | .word .. :: .symbol "." :: _ =>
    let first ← parseName
    match ← parseStarred? start.length with
    | some parts => return .tableWildcard (first :: parts)
    | none => goTo start; return .term (← g.term)
  | _ => return .term (← g.term)

/-- An expression to sort by. -/
def parseOrderItem (g : Grammar) : Parse OrderItem := do
  let e ← g.term
  let direction := (← acceptOneOf ["ASC", "DESC"]).map (· == "ASC")
  let nulls ←
    if ← acceptWords ["NULLS", "FIRST"] then pure (some true)
    else if ← acceptWords ["NULLS", "LAST"] then pure (some false)
    else pure none
  return ⟨e, direction, nulls⟩

/-- Whether a `SELECT` or a call drops repeated rows. -/
def parseRepeats (g : Grammar) : Parse Repeats := do
  let keepsAll ← acceptWord "ALL"
  if ← acceptWord "DISTINCT" then
    if keepsAll then failure
    else if ← acceptWord "ON" then
      parenthesized do
        if (← peek) = some (.symbol ")") then return .dropOn []
        else return .dropOn (← commaSeparated g.term)
    else return .drop
  else return .keep

/-! ## Intervals of time -/

/-- The words for parts of times. -/
def timeFields : List String := [
  "YEAR", "MONTH", "WEEK", "DAY", "DATE", "HOUR", "MINUTE", "SECOND", "CENTURY", "DECADE", "DOW",
  "DOY", "EPOCH", "ISODOW", "ISOYEAR", "JULIAN", "MICROSECOND", "MICROSECONDS", "MILLENIUM",
  "MILLENNIUM", "MILLISECOND", "MILLISECONDS", "NANOSECOND", "NANOSECONDS", "QUARTER", "TIMEZONE",
  "TIMEZONE_HOUR", "TIMEZONE_MINUTE"]

/-- A part of a time. -/
def parseTimeField : Parse String := expectOneOf timeFields

/-- The words for what the value of an interval may be counted in. A date is no such thing. -/
def intervalFields : List String := timeFields.erase "DATE"

/-- A number in parentheses behind a space, if a parenthesis comes next. -/
def parseFieldPrecision : Parse String := do
  if (← peek) = some (.symbol "(") then
    return " (" ++ toString (← parenthesized parseNatural) ++ ")"
  else return ""

/-- One or two numbers in parentheses behind a space, likewise. -/
def parseSecondPrecision : Parse String := do
  if (← peek) = some (.symbol "(") then
    parenthesized do
      let leading ← parseNatural
      if ← acceptSymbol "," then
        return " (" ++ toString leading ++ ", " ++ toString (← parseNatural) ++ ")"
      else return " (" ++ toString leading ++ ")"
  else return ""

/-- What the value of an interval is counted in. -/
def parseIntervalFields : Parse String := do
  match ← acceptOneOf intervalFields with
  | some "SECOND" => return " SECOND" ++ (← parseSecondPrecision)
  | leading =>
    let start := spaced leading ++ (← parseFieldPrecision)
    if ← acceptWord "TO" then
      let last ← parseTimeField
      let precision ← if last = "SECOND" then parseFieldPrecision else pure ""
      return start ++ " TO " ++ last ++ precision
    else return start

/-- An interval, whose first word has been taken, with the given parser of its value. -/
def parseInterval (value : Parse Term) : Parse Term := do
  let e ← value
  return .other ("INTERVAL " ++ e.render ++ (← parseIntervalFields))

/-! ## Windows -/

/-- An end of the rows of a window. -/
def parseBound (g : Grammar) (interval : Parse Term) : Parse String := do
  if ← acceptWords ["CURRENT", "ROW"] then return "CURRENT ROW"
  else
    let distance ←
      if ← acceptWord "UNBOUNDED" then pure "UNBOUNDED"
      else match ← peek with
        | some (.string .plain _) => do pure (← interval).render
        | _ => do pure (← g.term).render
    return distance ++ " " ++ (← expectOneOf ["PRECEDING", "FOLLOWING"])

/-- The rows of a window. -/
def parseFrame (g : Grammar) (interval : Parse Term) : Parse String := do
  let units ← expectOneOf ["ROWS", "RANGE", "GROUPS"]
  if ← acceptWord "BETWEEN" then
    let first ← parseBound g interval
    expectWord "AND"
    let last ← parseBound g interval
    return units ++ " BETWEEN " ++ first ++ " AND " ++ last
  else return units ++ " " ++ (← parseBound g interval)

/-- A window, up to the parenthesis behind it. -/
def parseWindow (g : Grammar) (interval : Parse Term) : Parse String := do
  let parts ← listAfter ["PARTITION", "BY"] g.term
  let order ← listAfter ["ORDER", "BY"] (parseOrderItem g)
  let frame ←
    if ← acceptSymbol ")" then pure []
    else do
      let frame ← parseFrame g interval
      expectSymbol ")"
      pure [frame]
  let partText := if parts.isEmpty then [] else ["PARTITION BY " ++ commaList (renderAll parts)]
  let orderText := if order.isEmpty then [] else ["ORDER BY " ++ commaList (order.map (·.render))]
  return " ".intercalate (partText ++ orderText ++ frame)

/-- The window of a call, or the name of one, if it has one. -/
def parseOver (g : Grammar) (interval : Parse Term) : Parse (Option String) :=
  after? ["OVER"] do
    if ← acceptSymbol "(" then return "(" ++ (← parseWindow g interval) ++ ")"
    else return (← parseName).render

/-! ## Calls -/

/-- An argument of a call. -/
inductive Argument
  | plain (e : Term)
  /-- A star, or an argument with its name, in its own wording. -/
  | other (text : String)
  deriving DecidableEq, Repr

/-- The wording of an argument. -/
def Argument.render : Argument → String
  | plain e => e.render
  | other text => text

/-- An argument. -/
def parseArgument (g : Grammar) : Parse Argument := do
  if (← peekBehind 1) = some (.symbol "=>") then
    let name ← parseName
    expectSymbol "=>"
    return .other (name.render ++ " => " ++ (← parseItemTerm g).render)
  else
    match ← parseItemTerm g with
    | .term e => return .plain e
    | star => return .other star.render

/-- The arguments of a call up to the parenthesis behind them, and what they are sorted by. -/
def parseArguments (g : Grammar) : Parse (List Argument × List OrderItem) := do
  if ← acceptSymbol ")" then return ([], [])
  else
    let arguments ← commaSeparated (parseArgument g)
    let order ← listAfter ["ORDER", "BY"] (parseOrderItem g)
    expectSymbol ")"
    return (arguments, order)

/-- A call of a function with some arguments. -/
def Term.ofCall (head : CallHead) : List Argument → Term
  | [.plain e] => callOn head e
  | arguments => call head arguments.length

/-- A call of the function of a name, which has been taken. -/
def parseCall (g : Grammar) (interval : Parse Term) (name : List Name) : Parse Term := do
  expectSymbol "("
  let distinct := (← parseRepeats g) != .keep
  let (arguments, order) ← parseArguments g
  let window ← parseOver g interval
  let text := renderPath name ++ "(" ++ (if distinct then "DISTINCT " else "")
    ++ commaList (arguments.map (·.render)) ++ clause "ORDER BY" (order.map (·.render)) ++ ")"
    ++ window.elim "" (" OVER " ++ ·)
  return .ofCall ⟨name, distinct, window.isSome, text⟩ arguments

/-- A call whose parentheses may be missing. -/
def parseOptionalCall (g : Grammar) (name : List Name) : Parse Term := do
  let (arguments, order) ←
    if ← acceptSymbol "(" then parseArguments g else pure ([], [])
  let text := renderPath name ++ "(" ++ commaList (arguments.map (·.render))
    ++ clause "ORDER BY" (order.map (·.render)) ++ ")"
  return .ofCall ⟨name, false, false, text⟩ arguments

end CsvQuery.Sql
