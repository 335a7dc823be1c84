import CsvQuery.Sql.Definition

/-!
# Definitions of routines

* `parseMacro`, `parseProcedure`: what defines such a thing.
* `parseCreate`: a definition of any kind, behind the first word.
-/

namespace CsvQuery.Sql

open Parse

/-! ## Routines -/

/-- A parameter of a macro, with its usual value. -/
def parseMacroParameter (g : Grammar) : Parse Unit := do
  let _ ← parseName
  if ← acceptSymbol ":=" then discard g.term
  else if ← acceptSymbol "=>" then discard g.term

/-- A macro: an expression or a query with parameters. -/
def parseMacro (g : Grammar) : Parse Unit := do
  let _ ← parsePath
  expectSymbol "("
  unless ← acceptSymbol ")" do
    let _ ← commaSeparated (parseMacroParameter g)
    expectSymbol ")"
  expectWord "AS"
  if ← acceptWord "TABLE" then discard g.query else discard g.term

/-- A parameter of a procedure. It may be missing. -/
def parseProcedureParameter : Parse Unit := do
  match ← peek with
  | some (.word ..) =>
    let _ ← parseName
    discard parseDataType
  | _ => return ()

/-- A procedure, with a parser of the statements in it. -/
def parseProcedure (statements : Parse Unit) : Parse Unit := do
  let _ ← parsePath
  parseEnclosedList parseProcedureParameter
  expectWords ["AS", "BEGIN"]
  statements
  expectWord "END"

/-! ## Types and sequences -/

/-- A part of a type. -/
def parseTypePart : Parse Unit := do
  let _ ← parseName
  let _ ← parseDataType
  parseCollation

/-- A type of several parts. -/
def parseCreateType : Parse Unit := do
  let _ ← parsePath
  expectWord "AS"
  parseEnclosedList parseTypePart

/-- A sequence, with the column that it belongs to. -/
def parseCreateSequence : Parse Unit := do
  parseIfMissing
  let _ ← parsePath
  let _ ← after? ["AS"] parseDataType
  parseSequenceOptions
  if ← acceptWords ["OWNED", "BY"] then
    unless ← acceptWord "NONE" do discard parsePath

/-! ## All definitions -/

/-- What cannot replace anything: the rest of its definition. -/
def parseUnique (g : Grammar) (statements : Parse Unit) : Parse Unit := do
  match ← expectOneOf ["INDEX", "UNIQUE", "VIRTUAL", "SCHEMA", "DATABASE", "ROLE", "SEQUENCE",
      "TYPE", "PROCEDURE"] with
  | "INDEX" => parseCreateIndex g
  | "UNIQUE" =>
    expectWord "INDEX"
    parseCreateIndex g
  | "VIRTUAL" => parseCreateVirtual
  | "SCHEMA" => parseCreateSchema
  | "DATABASE" => parseCreateDatabase
  | "ROLE" => parseCreateRole
  | "SEQUENCE" => parseCreateSequence
  | "TYPE" => parseCreateType
  | _ => parseProcedure statements

/-- A definition, behind the first word, with a parser of the statements in it. -/
def parseCreate (g : Grammar) (statements : Parse Unit) : Parse Unit := do
  let replaces ← acceptWords ["OR", "REPLACE"]
  optionally ["OR", "ALTER"]
  optionally ["LOCAL"]
  optionally ["GLOBAL"]
  optionally ["TRANSIENT"]
  let _ ← acceptOneOf ["TEMP", "TEMPORARY"]
  match ← acceptOneOf ["TABLE", "MATERIALIZED", "VIEW", "EXTERNAL", "MACRO"] with
  | some "TABLE" => parseCreateTable g
  | some "MATERIALIZED" =>
    expectWord "VIEW"
    parseCreateView g
  | some "VIEW" => parseCreateView g
  | some "EXTERNAL" => parseCreateExternal g
  | some _ => parseMacro g
  | none =>
    guard (!replaces)
    parseUnique g statements

end CsvQuery.Sql
