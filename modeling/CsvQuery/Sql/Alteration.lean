import CsvQuery.Sql.Definition

/-!
# Alterations and removals

* `parseDrop`: what is removed, behind the first word.
* `parseAlter`: what is altered, likewise.
-/

namespace CsvQuery.Sql

open Parse

/-- The words that keep a statement from failing where there is nothing. -/
def parseIfExists : Parse Unit := optionally ["IF", "EXISTS"]

/-! ## Removals -/

/-- A parameter of a function: a type, behind a name that no type has, if one comes first. -/
def parseFunctionParameter (g : Grammar) : Parse Unit := do
  let _ ← acceptOneOf ["IN", "OUT", "INOUT"]
  if (← parseDataType).kind = .named then discard parseDataType
  if ← acceptWord "DEFAULT" then discard g.term
  else if ← acceptSymbol "=" then discard g.term

/-- A function, with its parameters. -/
def parseFunctionHead (g : Grammar) : Parse Unit := do
  let _ ← parsePath
  if ← acceptSymbol "(" then
    unless ← acceptSymbol ")" do
      let _ ← commaSeparated (parseFunctionParameter g)
      expectSymbol ")"

/-- The functions that are removed. -/
def parseDropFunction (g : Grammar) : Parse Unit := do
  parseIfExists
  let _ ← commaSeparated (parseFunctionHead g)
  discard (acceptOneOf ["CASCADE", "RESTRICT"])

/-- What is removed, behind the first word. -/
def parseDrop (g : Grammar) : Parse Unit := do
  match ← expectOneOf ["TABLE", "VIEW", "INDEX", "ROLE", "SCHEMA", "SEQUENCE", "STAGE",
      "FUNCTION"] with
  | "FUNCTION" => parseDropFunction g
  | kind =>
    parseIfExists
    let _ ← commaSeparated parsePath
    let cascade ← acceptWord "CASCADE"
    let restrict ← acceptWord "RESTRICT"
    let purge ← acceptWord "PURGE"
    guard (!(cascade && restrict))
    guard (kind != "ROLE" || !(cascade || restrict || purge))

/-! ## Alterations -/

/-- The values that a part of a table has in the columns it is split by. -/
def parsePart (g : Grammar) : Parse Unit := discard (parenthesized (commaSeparated g.term))

/-- What a table gets: a condition, a part or a column. -/
def parseAddition (g : Grammar) : Parse Unit := do
  if (← parseConstraint? g).isNone then
    parseIfMissing
    if ← acceptWord "PARTITION" then parsePart g
    else
      optionally ["COLUMN"]
      parseIfMissing
      parseColumn g

/-- What a table loses: a part, its key, a condition or a column. -/
def parseLoss (g : Grammar) : Parse Unit := do
  if ← acceptWords ["IF", "EXISTS", "PARTITION"] then parsePart g
  else if ← acceptWord "PARTITION" then parsePart g
  else if ← acceptWords ["PRIMARY", "KEY"] then return ()
  else
    let _ ← acceptOneOf ["CONSTRAINT", "COLUMN"]
    parseIfExists
    let _ ← parseName
    optionally ["CASCADE"]

/-- The new name of a table, or of a column behind the old one. -/
def parseRenaming : Parse Unit := do
  if ← acceptWord "TO" then discard parsePath
  else
    optionally ["COLUMN"]
    let _ ← parseName
    expectWord "TO"
    discard parseName

/-- A column in place of another one. -/
def parseExchange (g : Grammar) : Parse Unit := do
  optionally ["COLUMN"]
  let _ ← parseName
  let _ ← parseName
  let _ ← parseDataType
  discard (many (parseColumnOption? g))

/-- What a column may hold from now on. -/
def parseColumnChange (g : Grammar) : Parse Unit := do
  optionally ["COLUMN"]
  let _ ← parseName
  if ← acceptWords ["SET", "NOT", "NULL"] then return ()
  else if ← acceptWords ["DROP", "NOT", "NULL"] then return ()
  else if ← acceptWords ["SET", "DEFAULT"] then discard g.term
  else if ← acceptWords ["DROP", "DEFAULT"] then return ()
  else
    expectWords ["SET", "DATA", "TYPE"]
    discard parseDataType

/-- What becomes of a table, behind its name. -/
def parseTableChange (g : Grammar) : Parse Unit := do
  match ← expectOneOf ["ADD", "RENAME", "DROP", "PARTITION", "CHANGE", "ALTER", "SWAP"] with
  | "ADD" => parseAddition g
  | "RENAME" => parseRenaming
  | "DROP" => parseLoss g
  | "PARTITION" =>
    parsePart g
    expectWords ["RENAME", "TO", "PARTITION"]
    parsePart g
  | "CHANGE" => parseExchange g
  | "ALTER" => parseColumnChange g
  | _ =>
    expectWord "WITH"
    discard parsePath

/-- What is altered, behind the first word. -/
def parseAlter (g : Grammar) : Parse Unit := do
  match ← expectOneOf ["TABLE", "INDEX", "VIEW"] with
  | "TABLE" =>
    optionally ["ONLY"]
    let _ ← parsePath
    parseTableChange g
  | "INDEX" =>
    let _ ← parsePath
    expectWords ["RENAME", "TO"]
    discard parsePath
  | _ =>
    let _ ← parsePath
    let _ ← parseOptionalNames
    parseOptions "WITH"
    expectWord "AS"
    discard g.query

end CsvQuery.Sql
