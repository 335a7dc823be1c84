import CsvQuery.Sql.Call

/-!
# Statements on a session

* `parseTransactionModes`, `parseTransactionEnd`: the start and the end of a transaction.
* `parseSet`, `parseShow`: what is changed or shown of the settings.
* `parseDeclare`, `parseFetchRows`: a cursor, and how it moves.

Each is taken behind its first word.
-/

namespace CsvQuery.Sql

open Parse

/-! ## Transactions -/

/-- A property of a transaction, if one comes next. -/
def parseTransactionMode? : Parse (Option Unit) := do
  if ← acceptWords ["ISOLATION", "LEVEL"] then
    if ← acceptWords ["READ", "UNCOMMITTED"] then return some ()
    else if ← acceptWords ["READ", "COMMITTED"] then return some ()
    else if ← acceptWords ["REPEATABLE", "READ"] then return some ()
    else some <$> expectWord "SERIALIZABLE"
  else if ← acceptWords ["READ", "ONLY"] then return some ()
  else if ← acceptWords ["READ", "WRITE"] then return some ()
  else return none

/-- Properties of a transaction. A comma may stand behind each but the last one. -/
def parseTransactionModes : Parse Unit :=
  discard <| many do
    match ← parseTransactionMode? with
    | none => return none
    | some () =>
      if ← acceptSymbol "," then guard (["ISOLATION", "READ"].contains (← peekKeyword))
      return some ()

/-- The end of a transaction, behind its first word. -/
def parseTransactionEnd : Parse Unit := do
  let _ ← acceptOneOf ["TRANSACTION", "WORK"]
  if ← acceptWord "AND" then
    let _ ← acceptWord "NO"
    expectWord "CHAIN"

/-! ## Settings -/

/-- What is said of the setting of a name. A setting that has no value of its own is known by its
    name, in capitals where it is about transactions. -/
def parseSetting (g : Grammar) (scope : Option String) (setting : String) : Parse Unit := do
  let isNamed (name : String) : Bool := setting.toUpper = name
  if isNamed "NAMES" then
    unless ← acceptWord "DEFAULT" do
      let _ ← parseText
      discard (after? ["COLLATE"] parseText)
  else if ← acceptSymbol "=" then discard (commaSeparated g.term)
  else if ← acceptWord "TO" then discard (commaSeparated g.term)
  else if isNamed "TIMEZONE" then discard g.term
  else if setting = "CHARACTERISTICS" then
    expectWords ["AS", "TRANSACTION"]
    parseTransactionModes
  else
    guard (setting = "TRANSACTION" && scope.isNone)
    if ← acceptWord "SNAPSHOT" then discard parseLiteral else parseTransactionModes

/-- A change of a setting. -/
def parseSet (g : Grammar) : Parse Unit := do
  let scope ← acceptOneOf ["SESSION", "LOCAL", "HIVEVAR"]
  let isRole ←
    if scope = some "HIVEVAR" then do
      expectSymbol ":"
      pure false
    else acceptWord "ROLE"
  if isRole then discard parseName
  else
    let setting ←
      if ← acceptWords ["TIME", "ZONE"] then pure "TIMEZONE"
      else renderPath <$> parsePath
    parseSetting g scope setting

/-- A condition on what is shown. -/
def parseShowFilter (g : Grammar) : Parse Unit := do
  match ← acceptOneOf ["LIKE", "ILIKE", "WHERE"] with
  | some "WHERE" => discard g.term
  | some _ => discard parseText
  | none => return ()

/-- What the things that are shown belong to. -/
def parseShowPlace : Parse Unit := do
  if (← acceptOneOf ["FROM", "IN"]).isSome then discard parseName

/-- Takes all tokens up to an equals sign. -/
def skipToEquals : Parse Unit := do
  goTo ((← remaining).dropWhile (· ≠ .symbol "="))

/-- What is shown. -/
def parseShow (g : Grammar) : Parse Unit := do
  let extended ← acceptWord "EXTENDED"
  let full ← acceptWord "FULL"
  match ← acceptOneOf ["COLUMNS", "FIELDS", "TABLES", "FUNCTIONS"] with
  | some "FUNCTIONS" => parseShowFilter g
  | some "TABLES" =>
    parseShowPlace
    parseShowFilter g
  | some _ =>
    let _ ← expectOneOf ["FROM", "IN"]
    let _ ← parsePath
    parseShowPlace
    parseShowFilter g
  | none =>
    guard (!extended && !full)
    match ← acceptOneOf ["CREATE", "COLLATION", "VARIABLES"] with
    | some "CREATE" =>
      let _ ← expectOneOf ["TABLE", "TRIGGER", "FUNCTION", "PROCEDURE", "EVENT", "VIEW"]
      discard parsePath
    | some _ => parseShowFilter g
    | none => skipToEquals

/-! ## Cursors -/

/-- A cursor over the rows of a query. -/
def parseDeclare (g : Grammar) : Parse Unit := do
  let _ ← parseName
  optionally ["BINARY"]
  let _ ← acceptOneOf ["INSENSITIVE", "ASENSITIVE"]
  unless ← acceptWord "SCROLL" do optionally ["NO", "SCROLL"]
  expectWord "CURSOR"
  if (← acceptOneOf ["WITH", "WITHOUT"]).isSome then expectWord "HOLD"
  expectWord "FOR"
  discard g.query

/-- Where a cursor moves. -/
def parseDirection : Parse Unit := do
  match ← acceptOneOf ["NEXT", "PRIOR", "FIRST", "LAST", "ABSOLUTE", "RELATIVE", "FORWARD",
      "BACKWARD", "ALL"] with
  | some "FORWARD" | some "BACKWARD" => unless ← acceptWord "ALL" do discard parseQuantity
  | some "ABSOLUTE" | some "RELATIVE" | none => discard parseQuantity
  | some _ => return ()

/-- A move of a cursor, with the table that the rows go to. -/
def parseFetchRows : Parse Unit := do
  parseDirection
  let _ ← expectOneOf ["FROM", "IN"]
  let _ ← parseName
  discard (after? ["INTO"] parsePath)

end CsvQuery.Sql
