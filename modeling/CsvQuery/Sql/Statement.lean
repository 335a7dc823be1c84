import CsvQuery.Sql.Alteration
import CsvQuery.Sql.Copy
import CsvQuery.Sql.Grammar
import CsvQuery.Sql.Lexer
import CsvQuery.Sql.Rights
import CsvQuery.Sql.Routine
import CsvQuery.Sql.Session

/-!
# Statements of query texts

* `parseStatement`: a statement. Of one that is no query only that is kept.
* `statementsOf?`: the statements of a text.
-/

namespace CsvQuery.Sql

open Parse

/-! ## Single statements -/

/-- A case of a statement that brings a table in line with another one. -/
def parseMergeCase? (g : Grammar) : Parse (Option Unit) := do
  match ← peek with
  | none | some (.symbol ";") => return none
  | _ =>
    expectWord "WHEN"
    let missing ← acceptWord "NOT"
    expectWord "MATCHED"
    let _ ← after? ["AND"] g.term
    expectWord "THEN"
    match ← expectOneOf ["UPDATE", "DELETE", "INSERT"] with
    | "INSERT" =>
      guard missing
      let _ ← parseOptionalNames
      expectWord "VALUES"
      some <$> discard (parseValues g)
    | "UPDATE" =>
      guard (!missing)
      expectWord "SET"
      some <$> discard (parseAssignments g)
    | _ =>
      guard (!missing)
      return some ()

/-- A statement that brings a table in line with another one, behind its first word. -/
def parseMerge (g : Grammar) : Parse Unit := do
  optionally ["INTO"]
  let _ ← parseRelation g
  expectWord "USING"
  let _ ← parseRelation g
  expectWord "ON"
  let _ ← g.term
  discard (many (parseMergeCase? g))

/-- The table that is emptied, behind the first word. -/
def parseTruncate (g : Grammar) : Parse Unit := do
  optionally ["TABLE"]
  let _ ← parsePath
  discard (after? ["PARTITION"] (parsePart g))

/-- The thing that an analysis is about, behind the first word. -/
def parseAnalyze (g : Grammar) : Parse Unit := do
  expectWord "TABLE"
  let _ ← parsePath
  discard <| many do
    match ← acceptOneOf ["PARTITION", "NOSCAN", "FOR", "CACHE", "COMPUTE"] with
    | some "PARTITION" => some <$> parsePart g
    | some "FOR" =>
      expectWord "COLUMNS"
      some <$> discard (attempt? (commaSeparated parseName))
    | some "CACHE" => some <$> expectWord "METADATA"
    | some "COMPUTE" => some <$> expectWord "STATISTICS"
    | some _ => return some ()
    | none => return none

/-- The table whose parts are looked for, behind the first word. -/
def parseRepair : Parse Unit := do
  optionally ["REPAIR"]
  expectWord "TABLE"
  let _ ← parsePath
  discard <| attempt? do
    let _ ← acceptOneOf ["ADD", "DROP", "SYNC"]
    expectWord "PARTITIONS"

/-- The table that is held ready, behind the first word, with the query that fills it. -/
def parseCache (g : Grammar) : Parse Unit := do
  unless ← acceptWord "TABLE" do
    let _ ← parsePath
    expectWord "TABLE"
  let _ ← parsePath
  parseOptions "OPTIONS"
  match ← peek with
  | none => return ()
  | some (.word ..) =>
    optionally ["AS"]
    discard g.query
  | some _ => failure

/-- The table that is not held ready any more, behind the first word. Nothing may follow it. -/
def parseUncache : Parse Unit := do
  expectWord "TABLE"
  parseIfExists
  let _ ← parsePath
  guard (← remaining).isEmpty

/-- A statement that starts with a word of its own, if it contains no other one. -/
def parseSimpleStatement (g : Grammar) (word : String) : Parse Unit := do
  match word with
  | "INSERT" => discard (parseInsert g)
  | "UPDATE" => discard (parseUpdate g)
  | "DELETE" => parseDelete g
  | "MERGE" => parseMerge g
  | "DROP" => parseDrop g
  | "ALTER" => parseAlter g
  | "TRUNCATE" => parseTruncate g
  | "COPY" => parseCopy g
  | "ANALYZE" => parseAnalyze g
  | "MSCK" => parseRepair
  | "CACHE" => parseCache g
  | "UNCACHE" => parseUncache
  | "DECLARE" => parseDeclare g
  | "FETCH" => parseFetchRows
  | "START" =>
    expectWord "TRANSACTION"
    parseTransactionModes
  | "BEGIN" =>
    let _ ← acceptOneOf ["TRANSACTION", "WORK"]
    parseTransactionModes
  | "COMMIT" | "ROLLBACK" => parseTransactionEnd
  | "SAVEPOINT" | "USE" | "CLOSE" => discard parseName
  | "SET" => parseSet g
  | "SHOW" => parseShow g
  | "GRANT" => parseGrant
  | "REVOKE" => parseRevoke
  | "DISCARD" => discard (expectOneOf ["ALL", "PLANS", "SEQUENCES", "TEMP", "TEMPORARY"])
  | "DEALLOCATE" =>
    optionally ["PREPARE"]
    discard parseName
  | "EXECUTE" =>
    let _ ← parseName
    if (← peek) = some (.symbol "(") then parsePart g
  | "ASSERT" =>
    let _ ← g.term
    discard (after? ["AS"] g.term)
  | "KILL" =>
    let _ ← acceptOneOf ["CONNECTION", "QUERY", "MUTATION"]
    discard parseNatural
  | _ => failure

/-! ## Statements in statements -/

/-- What an explanation is about, behind the first word: a statement that is no explanation itself,
    or a table. -/
def parseExplanation (statement : Parse TextStatement) : Parse TextStatement := do
  optionally ["ANALYZE"]
  optionally ["VERBOSE"]
  if ← acceptWord "FORMAT" then discard (expectOneOf ["TEXT", "GRAPHVIZ", "JSON"])
  match ← attempt? statement with
  | some .explanation => failure
  | some _ => return .explanation
  | none =>
    let _ ← parsePath
    return .explanation

/-- A statement that is kept ready under a name, behind the first word. -/
def parsePrepare (statement : Parse TextStatement) : Parse Unit := do
  let _ ← parseName
  if (← peek) = some (.symbol "(") then
    discard (parenthesized (commaSeparated parseDataType))
  expectWord "AS"
  discard statement

/-- Whether semicolons come next, all of which are taken. -/
def acceptSemicolons : Parse Bool := do
  let tokens ← remaining
  goTo (tokens.dropWhile (· = .symbol ";"))
  return tokens.head? = some (.symbol ";")

/-- At most `count` statements with semicolons between them, up to the end of a text or the word
    `END`. The first of them may need a semicolon before it. -/
def parseStatementsUpTo (statement : Parse TextStatement) :
    (count : Nat) → (needed : Bool) → Parse (List TextStatement)
  | 0, _ => failure
  | count + 1, needed => do
    let found ← acceptSemicolons
    if (← remaining).isEmpty || (← peekKeyword) = "END" then return []
    else
      guard (found || !needed)
      return (← statement) :: (← parseStatementsUpTo statement count true)

/-- Any number of statements with semicolons between them. -/
def parseStatements (statement : Parse TextStatement) : Parse (List TextStatement) := do
  parseStatementsUpTo statement ((← remaining).length + 1) false

/-- What a word starts that has been taken, with a parser of the statements in it. -/
def parseWordedStatement (g : Grammar) (statement : Parse TextStatement) (word : String) :
    Parse TextStatement := do
  match word with
  | "EXPLAIN" | "DESCRIBE" => parseExplanation statement
  | "PREPARE" =>
    parsePrepare statement
    return .other
  | "CREATE" =>
    parseCreate g (discard (parseStatements statement))
    return .other
  | _ =>
    parseSimpleStatement g word
    return .other

/-- A statement. At most `fuel` statements are inside one another, and each takes up a level. -/
def parseStatement (g : Grammar) : (fuel : Nat) → Parse TextStatement
  | 0 => failure
  | fuel + 1 => levelled do
    let t ← next
    if t = .symbol "(" || ["SELECT", "WITH", "VALUES"].contains t.keyword then
      putBack t
      return .query (← g.query)
    else parseWordedStatement g (parseStatement g fuel) t.keyword

/-! ## Texts -/

/-- The number of levels that a text may open. -/
def levelLimit : Int := 50

/-- The statements of a text; none if the text cannot be understood. -/
def statementsOf? (text : String) : Option (List TextStatement) := do
  let tokens ← tokens? text
  let g := Grammar.upTo (Grammar.fuelFor tokens)
  ((parseStatements (parseStatement g (tokens.length + 1))).run ⟨tokens, levelLimit⟩).1

end CsvQuery.Sql
