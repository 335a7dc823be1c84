import CsvQuery.Sql.Call
import CsvQuery.Sql.DataType
import CsvQuery.Sql.Sequence

/-!
# Columns of new tables

Of a statement that defines something nothing is kept. It only matters that it is one.

* `parseColumn`: a column with its options.
* `parseConstraint?`: a condition on the rows of a table.
* `parseColumns`: the columns and conditions of a table.
-/

namespace CsvQuery.Sql

open Parse

/-! ## References -/

/-- What happens to rows that refer to a row that goes away. -/
def parseReferenceAction : Parse Unit := do
  match ← expectOneOf ["RESTRICT", "CASCADE", "SET", "NO"] with
  | "SET" => discard (expectOneOf ["NULL", "DEFAULT"])
  | "NO" => expectWord "ACTION"
  | _ => return ()

/-- What happens to rows that refer to a row that goes away or changes, each said once at most. -/
def parseReferenceActions : Parse Unit := do
  if ← acceptWords ["ON", "DELETE"] then
    parseReferenceAction
    discard (after? ["ON", "UPDATE"] parseReferenceAction)
  else if ← acceptWords ["ON", "UPDATE"] then
    parseReferenceAction
    discard (after? ["ON", "DELETE"] parseReferenceAction)

/-! ## Options of columns -/

/-- The sequence of a column. It may say nothing about its numbers. -/
def parseIdentity : Parse Unit := do
  if (← peek) = some (.symbol "(") then parenthesized parseSequenceOptions

/-- How the values of a column come about. What does not say it is taken, but is no option. -/
def parseGeneration? (g : Grammar) : Parse (Option Unit) := do
  if ← acceptWords ["ALWAYS", "AS", "IDENTITY"] then some <$> parseIdentity
  else if ← acceptWords ["BY", "DEFAULT", "AS", "IDENTITY"] then some <$> parseIdentity
  else if ← acceptWords ["ALWAYS", "AS"] then
    if (← peek) = some (.symbol "(") then
      let _ ← parenthesized g.term
      some <$> optionally ["STORED"]
    else return none
  else return none

/-- A plain string. -/
def parsePlainString : Parse Unit := do
  match ← next with
  | .string .plain _ => return ()
  | _ => failure

/-- An option of a column. -/
def parseColumnOption? (g : Grammar) : Parse (Option Unit) := do
  match ← acceptOneOf ["CHARACTER", "COMMENT", "NULL", "DEFAULT", "PRIMARY", "UNIQUE", "REFERENCES",
      "CHECK", "AUTO_INCREMENT", "AUTOINCREMENT", "GENERATED"] with
  | some "CHARACTER" =>
    expectWord "SET"
    some <$> discard parsePath
  | some "COMMENT" => some <$> parsePlainString
  | some "DEFAULT" => some <$> discard g.term
  | some "PRIMARY" => some <$> expectWord "KEY"
  | some "REFERENCES" =>
    let _ ← parsePath
    let _ ← parseOptionalNames
    some <$> parseReferenceActions
  | some "CHECK" => some <$> discard (parenthesized g.term)
  | some "GENERATED" => parseGeneration? g
  | some _ => return some ()
  | none =>
    if ← acceptWords ["NOT", "NULL"] then return some ()
    else after? ["ON", "UPDATE"] (discard g.term)

/-- An option of a column, which may have a name. -/
def parseNamedColumnOption? (g : Grammar) : Parse (Option Unit) := do
  if ← acceptWord "CONSTRAINT" then
    let _ ← parseName
    some <$> (parseColumnOption? g >>= ofOption)
  else parseColumnOption? g

/-- The collation of texts, if one comes next. -/
def parseCollation : Parse Unit := discard (after? ["COLLATE"] parsePath)

/-- A column. -/
def parseColumn (g : Grammar) : Parse Unit := do
  let _ ← parseName
  let _ ← parseDataType
  parseCollation
  discard (many (parseNamedColumnOption? g))

/-! ## Conditions on rows -/

/-- The columns that rows are looked up by, behind the name of that index and how it is kept. -/
def parseLookup : Parse Unit := do
  unless (← peekKeyword) = "USING" do discard (attempt? parseName)
  if ← acceptWord "USING" then discard (expectOneOf ["BTREE", "HASH"])
  discard parseNames

/-- A condition on the rows of a table, or how they are looked up, if either comes next. -/
def parseConstraint? (g : Grammar) : Parse (Option Unit) := do
  let named := (← after? ["CONSTRAINT"] parseName).isSome
  match ← acceptOneOf ["PRIMARY", "UNIQUE", "FOREIGN", "CHECK", "INDEX", "KEY", "FULLTEXT",
      "SPATIAL"] with
  | some "PRIMARY" =>
    expectWord "KEY"
    some <$> discard parseNames
  | some "UNIQUE" => some <$> discard parseNames
  | some "FOREIGN" =>
    expectWord "KEY"
    let _ ← parseNames
    expectWord "REFERENCES"
    let _ ← parsePath
    let _ ← parseNames
    some <$> parseReferenceActions
  | some "CHECK" => some <$> discard (parenthesized g.term)
  | some "INDEX" | some "KEY" => some <$> parseLookup
  | some _ =>
    guard (!named)
    let _ ← acceptOneOf ["KEY", "INDEX"]
    let _ ← attempt? parseName
    some <$> discard parseNames
  | none =>
    guard (!named)
    return none

/-! ## All columns -/

/-- A column whose name is a word. -/
def parseWordedColumn (g : Grammar) : Parse Unit := do
  match ← peek with
  | some (.word ..) => parseColumn g
  | _ => failure

/-- At most `fuel` things up to a closing parenthesis, with commas between them. One may stand
    behind the last of them, too. -/
def parseEnclosedUpTo (p : Parse Unit) : (fuel : Nat) → Parse Unit
  | 0 => failure
  | fuel + 1 => do
    p
    let comma ← acceptSymbol ","
    if ← acceptSymbol ")" then return ()
    else if comma then parseEnclosedUpTo p fuel
    else failure

/-- Things in parentheses with commas between them, if there are any. -/
def parseEnclosedList (p : Parse Unit) : Parse Unit := do
  if ← acceptSymbol "(" then
    unless ← acceptSymbol ")" do parseEnclosedUpTo p (← remaining).length

/-- The columns and conditions of a table. -/
def parseColumns (g : Grammar) : Parse Unit :=
  parseEnclosedList do
    if (← parseConstraint? g).isNone then parseWordedColumn g

end CsvQuery.Sql
