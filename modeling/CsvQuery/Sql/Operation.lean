import CsvQuery.Sql.Operand

/-!
# Operations

Operators are taken from left to right, each with the right operand that its tightness allows.

* `tightnessOf`: how tight the operator binds that comes next.
* `parseOperation`: the operation of a left operand and the operator that comes next.
* `parseTerm`: an expression as far as its operators bind tighter than a given one.
-/

namespace CsvQuery.Sql

open Parse

/-! ## Operators -/

/-- How tight an operator binds that is a symbol. -/
def symbolTightness : String → Nat
  | "=" | "<" | "<=" | "<>" | ">" | ">=" | "~" | "~*" | "!~" | "!~*" | "<=>" =>
    Tightness.comparison
  | "|" => 21
  | "^" | "#" | ">>" | "<<" => 22
  | "&" => 23
  | "+" | "-" => 30
  | "*" | "/" | "//" | "%" | "||" => Tightness.factor
  | "::" | ":" | "!" | "[" | "->>" | "->" | "#>" | "#>>" | "@>" | "<@" => 50
  | "#-" | "@?" | "@@" | "&&" => 50
  | _ => 0

/-- How tight an operator binds that is a reserved word, given the two words behind it. -/
def wordTightness (word second third : String) : Nat :=
  match word with
  | "OR" => 5
  | "AND" => 10
  | "XOR" => 24
  | "AT" => if second = "TIME" ∧ third = "ZONE" then Tightness.comparison else 0
  | "NOT" =>
    match second with
    | "IN" | "BETWEEN" => Tightness.comparison
    | "LIKE" | "ILIKE" | "SIMILAR" => Tightness.matching
    | _ => 0
  | "IS" => 17
  | "IN" | "BETWEEN" | "OPERATOR" => Tightness.comparison
  | "LIKE" | "ILIKE" | "SIMILAR" => Tightness.matching
  | "DIV" => Tightness.factor
  | _ => 0

/-- How tight the operator binds that comes next; 0 if none does. -/
def tightnessOf (tokens : List Token) : Nat :=
  match tokens with
  | .symbol text :: _ => symbolTightness text
  | t :: rest =>
    let word (n : Nat) : String := rest[n]?.elim "" Token.keyword
    wordTightness t.keyword (word 0) (word 1)
  | [] => 0

/-- The operator of a symbol that stands between two operands. -/
def Operator.ofSymbol? : String → Option Operator
  | "=" => some (.compare .equal)
  | "<>" => some (.compare .unequal)
  | ">" => some (.compare .greater)
  | ">=" => some (.compare .atLeast)
  | "<" => some (.compare .less)
  | "<=" => some (.compare .atMost)
  | "+" => some (.arithmetic .add)
  | "-" => some (.arithmetic .subtract)
  | "*" => some (.arithmetic .multiply)
  | "/" => some (.arithmetic .divide)
  | "<=>" => some (.other "<=>")
  | "%" => some (.other "%")
  | "||" => some (.other "||")
  | "|" => some (.other "|")
  | "^" => some (.other "^")
  | "&" => some (.other "&")
  | "//" => some (.other "//")
  | "<<" => some (.other "<<")
  | ">>" => some (.other ">>")
  | "~" => some (.other "~")
  | "~*" => some (.other "~*")
  | "!~" => some (.other "!~")
  | "!~*" => some (.other "!~*")
  | "&&" => some (.other "&&")
  | _ => none

/-- The tokens of the name of an operator, after its first one. -/
def parseOperatorPath : (fuel : Nat) → Parse (List String)
  | 0 => return []
  | fuel + 1 => do
    if ← acceptSymbol "." then return (← next).render :: (← parseOperatorPath fuel) else return []

/-- The name of an operator in parentheses. -/
def parseNamedOperator : Parse Operator :=
  parenthesized do
    let first ← next
    let rest ← parseOperatorPath (← remaining).length
    return .other ("OPERATOR(" ++ ".".intercalate (first.render :: rest) ++ ")")

/-- The operator between two operands that a token starts, if it starts one. -/
def parseOperator? (t : Token) : Parse (Option Operator) := do
  match t with
  | .symbol text => return Operator.ofSymbol? text
  | t =>
    match t.keyword with
    | "AND" => return some .and
    | "OR" => return some (.other "OR")
    | "XOR" => return some (.other "XOR")
    | "OPERATOR" => some <$> parseNamedOperator
    | _ => return none

/-! ## Tests -/

/-- What an operand is said to be. -/
def parseIs (g : Grammar) (e : Term) : Parse Term := do
  let negated := if ← acceptWord "NOT" then " IS NOT " else " IS "
  match ← acceptOneOf ["NULL", "TRUE", "FALSE", "UNKNOWN"] with
  | some w => return .other (e.render ++ negated ++ w)
  | none =>
    expectWords ["DISTINCT", "FROM"]
    return .other (e.render ++ negated ++ "DISTINCT FROM " ++ (← g.term).render)

/-- The members that an operand is looked for among. -/
def parseIn (g : Grammar) (e : String) : Parse Term := do
  if ← acceptWord "UNNEST" then
    return .other (e ++ "IN UNNEST(" ++ (← parenthesized g.term).render ++ ")")
  else
    parenthesized do
      if ["SELECT", "WITH"].contains (← peekKeyword) then
        return .other (e ++ "IN (" ++ (← g.query).render ++ ")")
      else return .other (e ++ "IN (" ++ commaList (renderAll (← commaSeparated g.term)) ++ ")")

/-- The bounds that an operand is looked for between. -/
def parseBetween (g : Grammar) (e : String) : Parse Term := do
  let low ← g.tighter Tightness.comparison
  expectWord "AND"
  let high ← g.tighter Tightness.comparison
  return .other (e ++ "BETWEEN " ++ low.render ++ " AND " ++ high.render)

/-- The character that escapes others in a pattern. -/
def parseEscape : Parse String := do
  return (← after? ["ESCAPE"] parseCharacter).elim "" (" ESCAPE '" ++ · ++ "'")

/-- The pattern that an operand is tested against. -/
def parsePattern (g : Grammar) (e words : String) : Parse Term := do
  let pattern ← g.tighter Tightness.matching
  return .other (e ++ words ++ " " ++ pattern.render ++ (← parseEscape))

/-- A test of an operand that may be negated. -/
def parseTest (g : Grammar) (left : Term) : Parse Term := do
  let e := left.render ++ (if ← acceptWord "NOT" then " NOT " else " ")
  match ← expectOneOf ["IN", "BETWEEN", "LIKE", "ILIKE", "SIMILAR"] with
  | "IN" => parseIn g e
  | "BETWEEN" => parseBetween g e
  | "SIMILAR" =>
    expectWord "TO"
    parsePattern g e "SIMILAR TO"
  | w => parsePattern g e w

/-! ## Operations -/

/-- An element of an array, behind an opening bracket. -/
def parseSubscripts (g : Grammar) (e : Term) : Parse Term := do
  let first ← g.term
  expectSymbol "]"
  let rest ← many do
    if ← acceptSymbol "[" then
      let e ← g.term
      expectSymbol "]"
      return some e
    else return none
  return .other (e.render ++ String.join ((first :: rest).map fun i => "[" ++ i.render ++ "]"))

/-- The right operand of an operator between two operands. -/
def parseRight (g : Grammar) (tightness : Nat) : Parse Term := do
  match ← acceptOneOf ["ANY", "ALL"] with
  | some w =>
    let e ← parenthesized (g.tighter tightness)
    return .other (w ++ "(" ++ e.render ++ ")")
  | none => g.tighter tightness

/-- The operation of a left operand and a symbol that stands between no two operands of a kind. -/
def parseSpecial (g : Grammar) (left : Term) (symbol : String) : Parse Term := do
  match symbol with
  | "::" => return .other ("CAST(" ++ left.render ++ " AS " ++ (← parseDataType).text ++ ")")
  | "!" => return .signed .factorial left
  | "[" => parseSubscripts g left
  | ":" => return .other (left.render ++ ":" ++ (← parseLiteral).render)
  | "->" | "->>" | "#>" | "#>>" | "@>" | "<@" | "#-" | "@?" | "@@" =>
    return .other (left.render ++ " " ++ symbol ++ " " ++ (← g.term).render)
  | _ => failure

/-- A time in a time zone, behind the first word of it. -/
def parseZone (left : Term) : Parse Term := do
  expectWords ["TIME", "ZONE"]
  match ← next with
  | .string .plain zone => return .other (left.render ++ " AT TIME ZONE '" ++ zone ++ "'")
  | _ => failure

/-- The operation of a left operand and the operator that comes next, which binds as tight as
    given. -/
def parseOperation (g : Grammar) (left : Term) (tightness : Nat) : Parse Term := do
  let t ← next
  match ← parseOperator? t with
  | some op => return .binary left op (← parseRight g tightness)
  | none =>
    match t with
    | .symbol symbol => parseSpecial g left symbol
    | _ =>
      match t.keyword with
      | "IS" => parseIs g left
      | "AT" => parseZone left
      | "NOT" | "IN" | "BETWEEN" | "LIKE" | "ILIKE" | "SIMILAR" => do
        putBack t
        parseTest g left
      | _ => failure

/-- What a left operand becomes with at most `fuel` operators behind it that bind tighter than a
    given one. -/
def parseOperations (g : Grammar) (tightness : List Token → Nat) (least : Nat) (left : Term) :
    (fuel : Nat) → Parse Term
  | 0 => return left
  | fuel + 1 => do
    let found := tightness (← remaining)
    if found ≤ least then return left
    else parseOperations g tightness least (← parseOperation g left found) fuel

/-- How tight the operator binds that comes next inside the value of an interval, where words that
    join conditions do not count. -/
def intervalTightness (tokens : List Token) : Nat :=
  match tokens with
  | t :: _ => if ["AND", "OR", "XOR"].contains t.keyword then 0 else tightnessOf tokens
  | [] => 0

/-- The operands of the value of an interval may be intervals themselves; at most `fuel` of them
    are inside one another. -/
def parseIntervalUpTo (g : Grammar) : (fuel : Nat) → Parse Term
  | 0 => failure
  | fuel + 1 => parseInterval do
    let left ← parseOperand g (parseIntervalUpTo g fuel)
    parseOperations g intervalTightness 0 left (← remaining).length

/-- An interval, whose first word has been taken. -/
def parseAnyInterval (g : Grammar) : Parse Term := do parseIntervalUpTo g (← remaining).length

/-- An expression as far as its operators bind tighter than a given one. -/
def parseTerm (g : Grammar) (least : Nat) : Parse Term := do
  let left ← parseOperand g (parseAnyInterval g)
  parseOperations g tightnessOf least left (← remaining).length

end CsvQuery.Sql
