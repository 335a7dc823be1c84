import CsvQuery.Sql.Keyword
import CsvQuery.Sql.Parser
import CsvQuery.Sql.Render

/-!
# Literals

* `Term.ofToken?`: the literal that a token stands for by itself.
* `parseLiteral`: a literal where nothing else can stand.
* `parseQuantity`: a number, or a placeholder for one.
* `parseText`: a text where a type or a pattern needs one.
-/

namespace CsvQuery.Sql

open Parse

/-- A character of a string with escapes, as it is written. -/
def escapeChar : Char → List Char
  | '\'' => ['\\', '\'']
  | '\\' => ['\\', '\\']
  | '\n' => ['\\', 'n']
  | '\t' => ['\\', 't']
  | '\r' => ['\\', 'r']
  | c => [c]

/-- The literal of a token that is no word. -/
def Term.ofToken? : Token → Option Term
  | .number text long => some (.number text long)
  | .string .plain text => some (.string text)
  | .string .escaped text =>
    some (.literal ("E'" ++ String.ofList (text.toList.flatMap escapeChar) ++ "'"))
  | t@(.string ..) => some (.literal t.render)
  | .placeholder text => some (.literal text)
  | _ => none

/-- The literal of a reserved word. -/
def Term.ofWord? : String → Option Term
  | "TRUE" => some (.literal "true")
  | "FALSE" => some (.literal "false")
  | "NULL" => some (.literal "NULL")
  | _ => none

/-- A literal. A quoted name stands for a text here, and so does a name that is not reserved. -/
def parseLiteral : Parse Term := do
  let t ← next
  match t with
  | .word text true => return .literal (quotedBy '"' text)
  | .word text false =>
    match Term.ofWord? t.keyword with
    | some e => return e
    | none =>
      guard (t.isFree || ["LOCATION", "TYPE"].contains t.keyword)
      return .literal text
  | .symbol ":" | .symbol "@" => return .literal (t.render ++ (← parseName).text)
  | _ => ofOption (Term.ofToken? t)

/-- A number, or a placeholder for one. -/
def parseQuantity : Parse Term := do
  match ← peek with
  | some (.number ..) | some (.placeholder _) | some (.symbol ":") | some (.symbol "@") =>
    parseLiteral
  | _ => failure

/-- A text: a string or a name that is not reserved. -/
def parseText : Parse String := do
  let t ← next
  match t with
  | .string .plain text | .string .escaped text => return text
  | .word text _ => if t.isFree then return text else failure
  | _ => failure

/-- A text of one byte. -/
def parseCharacter : Parse String := do
  let text ← parseText
  guard (text.utf8ByteSize = 1)
  return text

/-- A number that is a natural one below 2^64. -/
def parseNatural : Parse Nat := do
  match ← next with
  | .number text _ =>
    match Decimal.natural? text.toList with
    | some n => if n < UInt64.size then return n else failure
    | none => failure
  | _ => failure

end CsvQuery.Sql
