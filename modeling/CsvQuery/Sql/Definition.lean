import CsvQuery.Sql.Change
import CsvQuery.Sql.Column

/-!
# Definitions of tables and the like

* `parseCreateTable`, `parseCreateView`, `parseCreateIndex`: what defines such a thing.
* `parseOptions`: options with their values.
-/

namespace CsvQuery.Sql

open Parse

/-- The words that keep a definition from failing where there is one already. -/
def parseIfMissing : Parse Unit := optionally ["IF", "NOT", "EXISTS"]

/-! ## Options -/

/-- Options with their values, behind a reserved word. -/
def parseOptions (word : String) : Parse Unit :=
  discard <| after? [word] <| parenthesized <| commaSeparated do
    let _ ← parseName
    expectSymbol "="
    parseLiteral

/-- A property of a table: an equals sign and a word. -/
def parseProperty : Parse Unit := do
  expectSymbol "="
  match ← next with
  | .word .. => return ()
  | _ => failure

/-! ## Tables -/

/-- The group of servers that hold a table. -/
def parseCluster : Parse Unit := do
  match ← next with
  | .string .plain _ | .word .. => return ()
  | _ => failure

/-- The columns by which a table is split into parts. -/
def parseParts (g : Grammar) : Parse Unit :=
  discard (after? ["PARTITIONED", "BY"] (parenthesized (commaSeparated (parseColumn g))))

/-- How the rows of a table are kept in files, or where. -/
def parseStorage? (g : Grammar) : Parse (Option Unit) := do
  match ← acceptOneOf ["ROW", "STORED", "LOCATION"] with
  | some "ROW" =>
    expectWord "FORMAT"
    match ← acceptOneOf ["SERDE", "DELIMITED"] with
    | some "SERDE" => some <$> discard parseText
    | _ => return some ()
  | some "STORED" =>
    expectWord "AS"
    if ← acceptWord "INPUTFORMAT" then
      let _ ← g.term
      expectWord "OUTPUTFORMAT"
      some <$> discard g.term
    else some <$> discard parseFileFormat
  | some _ => some <$> discard parseText
  | none => return none

/-- The columns that the rows of a table are sorted by. -/
def parseRowOrder : Parse Unit := do
  if ← acceptSymbol "(" then
    unless ← acceptSymbol ")" do
      let _ ← commaSeparated parseName
      expectSymbol ")"
  else discard parseName

/-- What becomes of the rows of a table at the end of a transaction. -/
def parseOnCommit : Parse Unit := do
  match ← expectOneOf ["DELETE", "PRESERVE", "DROP"] with
  | "DROP" => return ()
  | _ => expectWord "ROWS"

/-- A table. The name of one that it is to be like may be missing. -/
def parseCreateTable (g : Grammar) : Parse Unit := do
  parseIfMissing
  let _ ← parsePath
  let _ ← after? ["ON", "CLUSTER"] parseCluster
  if (← acceptOneOf ["LIKE", "ILIKE"]).isSome then discard (anyway? parsePath)
  let _ ← after? ["CLONE"] (anyway? parsePath)
  parseColumns g
  optionally ["WITHOUT", "ROWID"]
  parseParts g
  let _ ← many (parseStorage? g)
  parseOptions "WITH"
  parseOptions "TBLPROPERTIES"
  let _ ← after? ["ENGINE"] parseProperty
  let _ ← after? ["ORDER", "BY"] parseRowOrder
  let _ ← after? ["AS"] g.query
  let _ ← after? ["DEFAULT", "CHARSET"] parseProperty
  let _ ← after? ["COLLATE"] parseProperty
  let _ ← after? ["ON", "COMMIT"] parseOnCommit
  optionally ["STRICT"]

/-- A table whose rows are kept elsewhere. -/
def parseCreateExternal (g : Grammar) : Parse Unit := do
  expectWord "TABLE"
  parseIfMissing
  let _ ← parsePath
  parseColumns g
  parseParts g
  let _ ← many (parseStorage? g)
  parseOptions "TBLPROPERTIES"

/-- A table that a module of the database makes up. -/
def parseCreateVirtual : Parse Unit := do
  expectWord "TABLE"
  parseIfMissing
  let _ ← parsePath
  expectWord "USING"
  let _ ← parseName
  discard parseOptionalNames

/-! ## Views and indexes -/

/-- A view. -/
def parseCreateView (g : Grammar) : Parse Unit := do
  let _ ← parsePath
  let _ ← parseOptionalNames
  parseOptions "WITH"
  let _ ← after? ["CLUSTER", "BY"] parseOptionalNames
  expectWord "AS"
  discard g.query

/-- An index. -/
def parseCreateIndex (g : Grammar) : Parse Unit := do
  parseIfMissing
  let _ ← parsePath
  expectWord "ON"
  let _ ← parsePath
  let _ ← after? ["USING"] parseName
  discard (parenthesized (commaSeparated (parseOrderItem g)))

/-! ## Schemas, databases and roles -/

/-- A schema, with its owner. -/
def parseCreateSchema : Parse Unit := do
  parseIfMissing
  if ← acceptWord "AUTHORIZATION" then discard parseName
  else
    let _ ← parsePath
    discard (after? ["AUTHORIZATION"] parseName)

/-- A database, with its places. -/
def parseCreateDatabase : Parse Unit := do
  parseIfMissing
  let _ ← parsePath
  discard <| many do
    if (← acceptOneOf ["LOCATION", "MANAGEDLOCATION"]).isSome then some <$> parseText
    else return none

/-- Some roles. -/
def parseCreateRole : Parse Unit := do
  parseIfMissing
  let _ ← commaSeparated parsePath
  optionally ["WITH"]

end CsvQuery.Sql
