import CsvQuery.Sql.Syntax
import CsvQuery.Sql.Token

/-!
# Parsers of token lists

A parser takes tokens off the start of a list and gives what they say, or fails. What it has taken
stays taken where it fails, unless it was only attempted.

A text may open only so many levels inside one another. A level that is asked for when none is left
is refused, and is never given back: the count goes below zero, where it refuses nothing until as
many levels are closed.

* `Reading`: what is left of a text while it is read.
* `peek`, `next`: the token at the start.
* `acceptSymbol`, `acceptWord`: takes a symbol or a reserved word, if it comes next.
* `expectSymbol`, `expectWord`: the same, but fails if it does not.
* `attempt?`: takes nothing where another parser fails.
* `levelled`: takes up a level for another parser.
* `commaSeparated`: one or more things with commas between them.
* `Grammar`: the parsers that call one another.
-/

namespace CsvQuery.Sql

/-- What is left of a text while it is read. -/
structure Reading where
  tokens : List Token
  /-- How many more levels may be opened. -/
  levels : Int
  deriving DecidableEq, Repr

/-- A parser. -/
abbrev Parse := OptionT (StateM Reading)

namespace Parse

/-! ## Tokens -/

/-- The tokens that are left. -/
def remaining : Parse (List Token) := do return (← get).tokens

/-- Goes to other tokens, behind the next ones or before them. -/
def goTo (tokens : List Token) : Parse Unit := modify fun r => { r with tokens }

/-- The next token, which is not taken. -/
def peek : Parse (Option Token) := do return (← remaining).head?

/-- The token behind as many others, none of which is taken. -/
def peekBehind (n : Nat) : Parse (Option Token) := do return (← remaining)[n]?

/-- The reserved word that comes next; empty if none does. -/
def peekKeyword : Parse String := do return (← peek).elim "" Token.keyword

/-- Takes the next token, if there is one. -/
def next? : Parse (Option Token) := do
  let tokens ← remaining
  goTo tokens.tail
  return tokens.head?

/-- What there is; fails if there is nothing. -/
def ofOption {α : Type} : Option α → Parse α
  | some a => return a
  | none => failure

/-- Takes the next token. -/
def next : Parse Token := do ofOption (← next?)

/-- Takes a token back. -/
def putBack (t : Token) : Parse Unit := do goTo (t :: (← remaining))

/-! ## Failure -/

/-- What a parser gives; where it fails, nothing is taken. -/
def attempt? {α : Type} (p : Parse α) : Parse (Option α) := OptionT.mk do
  let start := (← get).tokens
  let result ← p.run
  if result.isNone then modify fun r => { r with tokens := start }
  return some result

/-- What a parser gives; where it fails, what it has taken stays taken. -/
def anyway? {α : Type} (p : Parse α) : Parse (Option α) := OptionT.mk (some <$> p.run)

/-- A parser that takes up one level. -/
def levelled {α : Type} (p : Parse α) : Parse α := OptionT.mk do
  let before := (← get).levels
  modify fun r => { r with levels := r.levels - 1 }
  if before = 0 then return none
  else
    let result ← p.run
    modify fun r => { r with levels := r.levels + 1 }
    return result

/-! ## Symbols and reserved words -/

/-- Takes a symbol if it comes next. -/
def acceptSymbol (symbol : String) : Parse Bool := do
  match ← remaining with
  | t :: rest => if t = .symbol symbol then do goTo rest; return true else return false
  | [] => return false

/-- Takes a symbol. -/
def expectSymbol (symbol : String) : Parse Unit := do guard (← acceptSymbol symbol)

/-- The tokens behind some reserved words, if these come first. -/
def dropWords? : List String → List Token → Option (List Token)
  | [], tokens => some tokens
  | w :: ws, t :: rest => if t.keyword = w then dropWords? ws rest else none
  | _ :: _, [] => none

/-- Takes some reserved words if they come next, all of them or none. -/
def acceptWords (words : List String) : Parse Bool := do
  match dropWords? words (← remaining) with
  | some rest => goTo rest; return true
  | none => return false

/-- Takes a reserved word if it comes next. -/
def acceptWord (word : String) : Parse Bool := acceptWords [word]

/-- Takes some reserved words. -/
def expectWords (words : List String) : Parse Unit := do guard (← acceptWords words)

/-- Takes a reserved word. -/
def expectWord (word : String) : Parse Unit := expectWords [word]

/-- Takes some reserved words that may be missing. -/
def optionally (words : List String) : Parse Unit := discard (acceptWords words)

/-- Takes the next token if it is one of some reserved words, and tells which. -/
def acceptOneOf (words : List String) : Parse (Option String) := do
  let w ← peekKeyword
  if w ≠ "" ∧ words.contains w then
    let _ ← next
    return some w
  else return none

/-- Takes one of some reserved words and tells which. -/
def expectOneOf (words : List String) : Parse String := do
  match ← acceptOneOf words with
  | some w => return w
  | none => failure

/-! ## Several things -/

/-- At most `fuel` things with commas between them. -/
def commaSeparatedUpTo {α : Type} (p : Parse α) : (fuel : Nat) → Parse (List α)
  | 0 => failure
  | fuel + 1 => do
    let a ← p
    if ← acceptSymbol "," then return a :: (← commaSeparatedUpTo p fuel) else return [a]

/-- One or more things with commas between them. -/
def commaSeparated {α : Type} (p : Parse α) : Parse (List α) := do
  commaSeparatedUpTo p ((← remaining).length + 1)

/-- At most `fuel` things, one after the other, up to where a parser finds none. -/
def manyUpTo {α : Type} (p : Parse (Option α)) : (fuel : Nat) → Parse (List α)
  | 0 => return []
  | fuel + 1 => do
    match ← p with
    | some a => return a :: (← manyUpTo p fuel)
    | none => return []

/-- Things one after the other, up to where a parser finds none. -/
def many {α : Type} (p : Parse (Option α)) : Parse (List α) := do
  manyUpTo p ((← remaining).length + 1)

/-- Things one after the other, up to where a parser fails. -/
def attempts {α : Type} (p : Parse α) : Parse (List α) := many (attempt? p)

/-- What stands in parentheses. -/
def parenthesized {α : Type} (p : Parse α) : Parse α := do
  expectSymbol "("
  let a ← p
  expectSymbol ")"
  return a

/-- What follows some reserved words, if these come next. -/
def after? {α : Type} (words : List String) (p : Parse α) : Parse (Option α) := do
  if ← acceptWords words then some <$> p else return none

/-- The things that follow some reserved words, with commas between them, if these come next. -/
def listAfter {α : Type} (words : List String) (p : Parse α) : Parse (List α) := do
  if ← acceptWords words then commaSeparated p else return []

end Parse

/-! ## Names -/

open Parse

/-- A part of a name: a word, whether or not it is reserved, or a plain string. -/
def parseName : Parse Name := do
  match ← next with
  | .word text quoted => return ⟨text, if quoted then some '"' else none⟩
  | .string .plain text => return ⟨text, some '\''⟩
  | _ => failure

/-- The parts of a name after its first one. -/
def parsePathRest : (fuel : Nat) → Parse (List Name)
  | 0 => return []
  | fuel + 1 => do
    if ← acceptSymbol "." then return (← parseName) :: (← parsePathRest fuel) else return []

/-- A name of one or more parts with dots between them. -/
def parsePath : Parse (List Name) := do
  return (← parseName) :: (← parsePathRest (← remaining).length)

/-- The name that something is given. Without the word `AS` before it, it may not be one of some
    reserved words. -/
def parseAlias? (reserved : List String) : Parse (Option Name) := do
  let announced ← acceptWord "AS"
  match ← peek with
  | some (.word text quoted) =>
    if announced || quoted || !reserved.contains (capitals text) then some <$> parseName
    else return none
  | some (.string .plain _) => some <$> parseName
  | _ => if announced then failure else return none

/-- The reserved words that cannot be the name of a column without the word `AS`. -/
def columnStops : List String := [
  "WITH", "EXPLAIN", "ANALYZE", "SELECT", "WHERE", "GROUP", "SORT", "HAVING", "ORDER", "TOP",
  "LATERAL", "VIEW", "LIMIT", "OFFSET", "FETCH", "UNION", "EXCEPT", "INTERSECT", "CLUSTER",
  "DISTRIBUTE", "FROM", "INTO", "END"]

/-- The reserved words that cannot be the name of a table without the word `AS`. -/
def tableStops : List String := [
  "WITH", "EXPLAIN", "ANALYZE", "SELECT", "WHERE", "GROUP", "SORT", "HAVING", "ORDER", "PIVOT",
  "TOP", "LATERAL", "VIEW", "LIMIT", "OFFSET", "FETCH", "UNION", "EXCEPT", "INTERSECT", "ON",
  "JOIN", "INNER", "CROSS", "FULL", "LEFT", "RIGHT", "NATURAL", "USING", "CLUSTER", "DISTRIBUTE",
  "OUTER", "SET", "QUALIFY", "WINDOW", "END"]

/-- Names in parentheses with commas between them. -/
def parseNames : Parse (List Name) := parenthesized (commaSeparated parseName)

/-- Names in parentheses, if a parenthesis comes next. -/
def parseOptionalNames : Parse (List Name) := do
  if (← peek) = some (.symbol "(") then parseNames else return []

/-! ## Parsers that call one another -/

/-- The parsers of the parts of a text that contain one another. -/
structure Grammar where
  /-- An expression. -/
  term : Parse Term
  /-- An expression as far as its operators bind tighter than a given one. -/
  tighter : Nat → Parse Term
  /-- A query. -/
  query : Parse Query
  /-- The body of a query as far as its set operations bind tighter than a given one. -/
  body : Nat → Parse Body
  /-- A table with those joined to it. -/
  joined : Parse JoinedRelation

/-- The grammar of nothing. -/
def Grammar.none : Grammar := ⟨failure, fun _ => failure, failure, fun _ => failure, failure⟩

end CsvQuery.Sql
