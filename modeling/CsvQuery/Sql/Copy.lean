import CsvQuery.Sql.Literal

/-!
# Copies of tables

Rows that are copied to or from a file. Those on the standard input stand behind the statement, up
to a backslash and a dot.

* `parseCopy`: such a statement, behind its first word.
-/

namespace CsvQuery.Sql

open Parse

/-- Whether something is so. It is if nothing is said. -/
def parseSwitch : Parse Unit := discard (acceptOneOf ["TRUE", "FALSE"])

/-- An option of a copy, in parentheses with others. -/
def parseCopyOption : Parse Unit := do
  match ← expectOneOf ["FORMAT", "FREEZE", "DELIMITER", "NULL", "HEADER", "QUOTE", "ESCAPE",
      "FORCE_QUOTE", "FORCE_NOT_NULL", "FORCE_NULL", "ENCODING"] with
  | "FORMAT" => discard parseName
  | "FREEZE" | "HEADER" => parseSwitch
  | "DELIMITER" | "QUOTE" | "ESCAPE" => discard parseCharacter
  | "NULL" | "ENCODING" => discard parseText
  | _ => discard parseNames

/-- An option of files with commas. -/
def parseCommaOption : Parse Unit := do
  match ← expectOneOf ["HEADER", "QUOTE", "ESCAPE", "FORCE"] with
  | "HEADER" => return ()
  | "FORCE" =>
    unless ← acceptWords ["NOT", "NULL"] do expectWord "QUOTE"
    discard (commaSeparated parseName)
  | _ =>
    optionally ["AS"]
    discard parseCharacter

/-- An option of a copy without parentheses. -/
def parseLooseOption : Parse Unit := do
  match ← expectOneOf ["BINARY", "DELIMITER", "NULL", "CSV"] with
  | "BINARY" => return ()
  | "CSV" => discard (attempts parseCommaOption)
  | "DELIMITER" =>
    optionally ["AS"]
    discard parseCharacter
  | _ =>
    optionally ["AS"]
    discard parseText

/-- Takes rows up to the end of them. -/
def skipRows : (fuel : Nat) → Parse Unit
  | 0 => return ()
  | fuel + 1 => do
    match ← next? with
    | none => return ()
    | some (.symbol "\\") =>
      if ← acceptSymbol "." then return ()
      else
        let _ ← next?
        skipRows fuel
    | some _ => skipRows fuel

/-- What is copied and where to, behind the first word. -/
def parseCopy (g : Grammar) : Parse Unit := do
  let isQuery := (← peek) = some (.symbol "(")
  if isQuery then discard (parenthesized g.query)
  else
    let _ ← parsePath
    discard parseOptionalNames
  let direction ← expectOneOf ["FROM", "TO"]
  guard (!isQuery || direction = "TO")
  let place ← acceptOneOf ["STDIN", "STDOUT", "PROGRAM"]
  if place.isNone || place = some "PROGRAM" then discard parseText
  optionally ["WITH"]
  if (← peek) = some (.symbol "(") then
    discard (parenthesized (commaSeparated parseCopyOption))
  let _ ← attempts parseLooseOption
  if place = some "STDIN" then
    expectSymbol ";"
    skipRows (← remaining).length

end CsvQuery.Sql
