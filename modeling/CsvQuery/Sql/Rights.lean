import CsvQuery.Sql.Parser

/-!
# Statements on rights

* `parseGrant`, `parseRevoke`: rights that are given or taken, behind the first word.
-/

namespace CsvQuery.Sql

open Parse

/-- A right on something. -/
def parsePrivilege : Parse Unit := do
  match ← expectOneOf ["CONNECT", "CREATE", "DELETE", "EXECUTE", "INSERT", "REFERENCES", "SELECT",
      "TEMPORARY", "TRIGGER", "TRUNCATE", "UPDATE", "USAGE"] with
  | "INSERT" | "REFERENCES" | "SELECT" | "UPDATE" => discard parseOptionalNames
  | _ => return ()

/-- Rights on some things. -/
def parseRights : Parse Unit := do
  if ← acceptWord "ALL" then optionally ["PRIVILEGES"]
  else discard (commaSeparated parsePrivilege)
  expectWord "ON"
  if ← acceptWords ["ALL", "TABLES", "IN", "SCHEMA"] then discard (commaSeparated parsePath)
  else if ← acceptWords ["ALL", "SEQUENCES", "IN", "SCHEMA"] then discard (commaSeparated parsePath)
  else
    let _ ← acceptOneOf ["SEQUENCE", "SCHEMA", "TABLE"]
    discard (commaSeparated parsePath)

/-- Rights that are given, behind the first word. -/
def parseGrant : Parse Unit := do
  parseRights
  expectWord "TO"
  let _ ← commaSeparated parseName
  optionally ["WITH", "GRANT", "OPTION"]
  discard (after? ["GRANTED", "BY"] parseName)

/-- Rights that are taken, behind the first word. -/
def parseRevoke : Parse Unit := do
  parseRights
  expectWord "FROM"
  let _ ← commaSeparated parseName
  let _ ← after? ["GRANTED", "BY"] parseName
  let cascade ← acceptWord "CASCADE"
  let restrict ← acceptWord "RESTRICT"
  guard (!(cascade && restrict))

end CsvQuery.Sql
