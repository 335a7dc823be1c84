import CsvQuery.Sql.Selection

/-!
# Changes of tables

Two of the statements that change tables may stand in place of a query.

* `parseInsert`, `parseUpdate`: the wording of such a statement, behind its first word.
* `parseChange?`: either of them.
* `parseDelete`: a statement that removes rows.
-/

namespace CsvQuery.Sql

open Parse

/-- The names up to an equals sign, none of which may be a reserved word. What stands between them
    does not count. -/
def parseTarget : (fuel : Nat) → Parse (List Name)
  | 0 => failure
  | fuel + 1 => do
    let t ← next
    match t with
    | .symbol "=" => return []
    | .word text quoted =>
      guard t.isFree
      return ⟨text, if quoted then some '"' else none⟩ :: (← parseTarget fuel)
    | _ => parseTarget fuel

/-- A column that gets a value. -/
def parseAssignment (g : Grammar) : Parse String := do
  let target ← parseTarget (← remaining).length
  return renderPath target ++ " = " ++ (← g.term).render

/-- Columns that get values. -/
def parseAssignments (g : Grammar) : Parse String := do
  return commaList (← commaSeparated (parseAssignment g))

/-- The condition on the rows that are meant. -/
def parseCondition (g : Grammar) : Parse String := do
  return (← after? ["WHERE"] g.term).elim "" (" WHERE " ++ ·.render)

/-- What a change gives back of the rows that it changed. -/
def parseReturning (g : Grammar) : Parse String := do
  return clause "RETURNING" ((← listAfter ["RETURNING"] (parseItem g)).map (·.render))

/-- What is done about rows that are there already. -/
def parseConflict (g : Grammar) : Parse String := do
  if ← acceptWord "CONFLICT" then
    let target ←
      if ← acceptWords ["ON", "CONSTRAINT"] then
        pure (" ON CONSTRAINT " ++ renderPath (← parsePath))
      else match ← parseOptionalNames with
        | [] => pure ""
        | columns => pure ("(" ++ commaList (columns.map (·.render)) ++ ")")
    expectWord "DO"
    if ← acceptWord "NOTHING" then return " ON CONFLICT" ++ target ++ " DO NOTHING"
    else
      expectWords ["UPDATE", "SET"]
      let assignments ← parseAssignments g
      return " ON CONFLICT" ++ target ++ " DO UPDATE SET " ++ assignments ++ (← parseCondition g)
  else
    expectWords ["DUPLICATE", "KEY", "UPDATE"]
    return " ON DUPLICATE KEY UPDATE " ++ (← parseAssignments g)

/-- Some columns in parentheses, if a parenthesis comes next. -/
def parseColumnText : Parse String := do
  match ← parseOptionalNames with
  | [] => return ""
  | columns => return "(" ++ commaList (columns.map (·.render)) ++ ") "

/-- The kinds of files that tables are kept in. -/
def fileFormats : List String := [
  "AVRO", "JSONFILE", "ORC", "PARQUET", "RCFILE", "SEQUENCEFILE", "TEXTFILE"]

/-- A kind of files. -/
def parseFileFormat : Parse String := expectOneOf fileFormats

/-- The rows of a query that are put into a folder, behind the word for that. -/
def parseInsertFolder (g : Grammar) (words : String) : Parse String := do
  let folder ← parseText
  let format ← after? ["STORED", "AS"] parseFileFormat
  return words ++ " DIRECTORY '" ++ folder ++ "'" ++ format.elim "" (" STORED AS " ++ ·) ++ " "
    ++ (← g.query).render

/-- The rows of a query that are put into a table, behind the words for that. -/
def parseInsertTable (g : Grammar) (words : String) : Parse String := do
  let table ← parsePath
  let columns ← parseColumnText
  let parts ← after? ["PARTITION"] (parenthesized (commaSeparated g.term))
  let partText := parts.elim "" fun es => "PARTITION " ++ tupleText es ++ " "
  let moreColumns ← parseColumnText
  let source ← g.query
  let conflict ← after? ["ON"] (parseConflict g)
  return words ++ " " ++ renderPath table ++ " " ++ columns ++ partText ++ moreColumns
    ++ source.render ++ conflict.getD "" ++ (← parseReturning g)

/-- The rows of a query that are put into a table or a folder, behind the first word. What is said
    of the place only counts where it matters. -/
def parseInsert (g : Grammar) : Parse String := do
  let action ← acceptOneOf ["INTO", "OVERWRITE"]
  let isLocal ← acceptWord "LOCAL"
  if ← acceptWord "DIRECTORY" then
    let overwrite := if action = some "OVERWRITE" then " OVERWRITE" else ""
    parseInsertFolder g ("INSERT" ++ overwrite ++ if isLocal then " LOCAL" else "")
  else
    let table := if ← acceptWord "TABLE" then " TABLE" else ""
    parseInsertTable g ("INSERT" ++ spaced action ++ table)

/-- Rows that get new values, behind the first word. -/
def parseUpdate (g : Grammar) : Parse String := do
  let table ← g.joined
  expectWord "SET"
  let assignments ← parseAssignments g
  let others ← after? ["FROM"] g.joined
  let condition ← parseCondition g
  return "UPDATE " ++ table.render ++ " SET " ++ assignments
    ++ others.elim "" (" FROM " ++ ·.render) ++ condition ++ (← parseReturning g)

/-- A change that stands in place of a query, if one comes next. -/
def parseChange? (g : Grammar) : Parse (Option String) := do
  match ← acceptOneOf ["INSERT", "UPDATE"] with
  | some "INSERT" => some <$> parseInsert g
  | some _ => some <$> parseUpdate g
  | none => return none

/-- Rows that are removed, behind the first word. -/
def parseDelete (g : Grammar) : Parse Unit := do
  unless ← acceptWord "FROM" do
    let _ ← commaSeparated parsePath
    expectWord "FROM"
  let _ ← commaSeparated g.joined
  let _ ← listAfter ["USING"] g.joined
  let _ ← parseCondition g
  let _ ← parseReturning g

end CsvQuery.Sql
