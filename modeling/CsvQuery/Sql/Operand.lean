import CsvQuery.Sql.Call
import CsvQuery.Sql.DataType

/-!
# Operands

An operand is what operators stand between: a name, a literal, a call, an expression in
parentheses or one of many special forms, with a collation behind it if there is one.

* `parseOperand`: an operand, given parsers of what it contains.
-/

namespace CsvQuery.Sql

open Parse

/-! ## Tightness

How tight an operator binds is a number. It takes as its right operand what binds tighter. -/

namespace Tightness

/-- How tight `NOT` binds. -/
def negation : Nat := 15

/-- How tight the tests of texts against patterns bind. -/
def matching : Nat := 19

/-- How tight comparisons bind. -/
def comparison : Nat := 20

/-- How tight products bind, and signs. -/
def factor : Nat := 40

end Tightness

/-! ## Special forms -/

/-- A test of one operand against others. -/
def parseCase (g : Grammar) : Parse Term := do
  let operand ←
    if (← peekKeyword) = "WHEN" then pure ""
    else do pure (" " ++ (← g.term).render)
  let branch : Parse (Option String) := after? ["WHEN"] do
    let condition ← g.term
    expectWord "THEN"
    return " WHEN " ++ condition.render ++ " THEN " ++ (← g.term).render
  let branches ← many branch
  guard (!branches.isEmpty)
  let otherwise ← after? ["ELSE"] g.term
  expectWord "END"
  return .other ("CASE" ++ operand ++ String.join branches
    ++ otherwise.elim "" (" ELSE " ++ ·.render) ++ " END")

/-- A conversion to a type. -/
def parseCast (g : Grammar) (words : String) : Parse Term :=
  parenthesized do
    let e ← g.term
    expectWord "AS"
    return .other (words ++ "(" ++ e.render ++ " AS " ++ (← parseDataType).text ++ ")")

/-- A test whether a query has rows. -/
def parseExists (g : Grammar) (words : String) : Parse Term := do
  let q ← parenthesized g.query
  return .other (words ++ " (" ++ q.render ++ ")")

/-- A part of a time. -/
def parseExtract (g : Grammar) : Parse Term :=
  parenthesized do
    let part ← parseTimeField
    expectWord "FROM"
    return .other ("EXTRACT(" ++ part ++ " FROM " ++ (← g.term).render ++ ")")

/-- A number rounded to an integer, or a time to a part of it. -/
def parseRounding (g : Grammar) (words : String) : Parse Term :=
  parenthesized do
    let e ← g.term
    let part ← after? ["TO"] parseTimeField
    return .other (words ++ "(" ++ e.render ++ part.elim "" (" TO " ++ ·) ++ ")")

/-- The position of a text in another one. -/
def parsePosition (g : Grammar) : Parse Term :=
  parenthesized do
    let part ← g.tighter Tightness.comparison
    expectWord "IN"
    return .other ("POSITION(" ++ part.render ++ " IN " ++ (← g.term).render ++ ")")

/-- What follows a comma or a reserved word, if one of them comes next. -/
def afterCommaOr? (word : String) (p : Parse Term) : Parse (Option Term) := do
  if ← acceptSymbol "," then some <$> p else after? [word] p

/-- A part of a text. -/
def parseSubstring (g : Grammar) : Parse Term :=
  parenthesized do
    let e ← g.term
    let start ← afterCommaOr? "FROM" g.term
    let length ← afterCommaOr? "FOR" g.term
    return .other ("SUBSTRING(" ++ e.render ++ start.elim "" (" FROM " ++ ·.render)
      ++ length.elim "" (" FOR " ++ ·.render) ++ ")")

/-- A text with a part replaced. -/
def parseOverlay (g : Grammar) : Parse Term :=
  parenthesized do
    let e ← g.term
    expectWord "PLACING"
    let new ← g.term
    expectWord "FROM"
    let start ← g.term
    let length ← after? ["FOR"] g.term
    return .other ("OVERLAY(" ++ e.render ++ " PLACING " ++ new.render ++ " FROM " ++ start.render
      ++ length.elim "" (" FOR " ++ ·.render) ++ ")")

/-- A text without what is cut off its ends. -/
def parseTrim (g : Grammar) : Parse Term :=
  parenthesized do
    let side ← acceptOneOf ["BOTH", "LEADING", "TRAILING"]
    let start := "TRIM(" ++ side.elim "" (· ++ " ")
    let e ← g.term
    match ← after? ["FROM"] g.term with
    | some from_ => return .other (start ++ e.render ++ " FROM " ++ from_.render ++ ")")
    | none => return .other (start ++ e.render ++ ")")

/-- What becomes of a list of texts that is too long. -/
def parseOverflow (g : Grammar) : Parse String := do
  if ← acceptWord "ERROR" then return " ON OVERFLOW ERROR"
  else
    expectWord "TRUNCATE"
    let filler ←
      if ["WITH", "WITHOUT"].contains (← peekKeyword) then pure ""
      else match ← peek with
        | some (.string .plain _) | some (.string .escaped _) | some (.string .national _)
        | some (.string .hex _) => do pure (" " ++ (← g.term).render)
        | _ => failure
    let count ← expectOneOf ["WITH", "WITHOUT"]
    expectWord "COUNT"
    return " ON OVERFLOW TRUNCATE" ++ filler ++ " " ++ count ++ " COUNT"

/-- A list of texts made one. -/
def parseListAgg (g : Grammar) : Parse Term := do
  let inner : Parse String := parenthesized do
    let distinct := (← parseRepeats g) != .keep
    let e ← g.term
    let separator ← if ← acceptSymbol "," then some <$> g.term else pure none
    let overflow ← after? ["ON", "OVERFLOW"] (parseOverflow g)
    return (if distinct then "DISTINCT " else "") ++ e.render
      ++ separator.elim "" (", " ++ ·.render) ++ overflow.getD ""
  let text ← inner
  let order ← after? ["WITHIN", "GROUP"] (parenthesized do
    expectWords ["ORDER", "BY"]
    commaSeparated (parseOrderItem g))
  let orderText := order.elim "" fun items =>
    " WITHIN GROUP (ORDER BY " ++ commaList (items.map (·.render)) ++ ")"
  return .other ("LISTAGG(" ++ text ++ ")" ++ orderText)

/-- The number of rows that a query is cut off at, or none if it gives all. -/
def parseLimit (g : Grammar) : Parse (Option Term) := do
  if ← acceptWord "ALL" then return none else some <$> g.term

/-- The values of a group as an array. -/
def parseArrayAgg (g : Grammar) : Parse Term :=
  parenthesized do
    let distinct ← acceptWord "DISTINCT"
    let e ← g.term
    let order ← listAfter ["ORDER", "BY"] (parseOrderItem g)
    let limit ← after? ["LIMIT"] (parseLimit g)
    return .other ("ARRAY_AGG(" ++ (if distinct then "DISTINCT " else "") ++ e.render
      ++ clause "ORDER BY" (order.map (·.render)) ++ clause "LIMIT" (renderAll limit.join.toList)
      ++ ")")

/-- An array of some expressions, behind its opening bracket. -/
def parseArray (g : Grammar) (words : String) : Parse Term := do
  let items ←
    if ← acceptSymbol "]" then pure []
    else do
      let items ← commaSeparated g.term
      expectSymbol "]"
      pure items
  return .other (words ++ "[" ++ commaList (renderAll items) ++ "]")

/-- A full-text search. -/
def parseMatch : Parse Term := do
  let columns ← parseNames
  expectWord "AGAINST"
  let against ← parenthesized do
    let e ← parseLiteral
    let expansion : Parse String := do
      if ← acceptWords ["WITH", "QUERY", "EXPANSION"] then return " WITH QUERY EXPANSION"
      else return ""
    let mode ←
      if ← acceptWords ["IN", "NATURAL", "LANGUAGE", "MODE"] then
        pure (" IN NATURAL LANGUAGE MODE" ++ (← expansion))
      else if ← acceptWords ["IN", "BOOLEAN", "MODE"] then pure " IN BOOLEAN MODE"
      else expansion
    return e.render ++ mode
  return .other ("MATCH (" ++ commaList (columns.map (·.render)) ++ ") AGAINST (" ++ against ++ ")")

/-- A negation, whose first word has been taken. -/
def parseNegation (g : Grammar) : Parse Term := do
  if ← acceptWord "EXISTS" then parseExists g "NOT EXISTS"
  else return .signed .not (← g.tighter Tightness.negation)

/-! ## Names and parentheses -/

/-- What a name starts that is no special form, behind its first part: a name of more parts, a
    call, a string with its character set, or the name alone. -/
def parseNamed (g : Grammar) (interval : Parse Term) (first : Name) : Parse Term := do
  match ← peek with
  | some (.symbol "(") => parseCall g interval [first]
  | some (.symbol ".") =>
    let rest ← many do
      if ← acceptSymbol "." then
        match ← next with
        | .word text quoted => return some ⟨text, if quoted then some '"' else none⟩
        | _ => failure
      else return none
    if (← peek) = some (.symbol "(") then parseCall g interval (first :: rest)
    else return .path (first :: rest)
  | some t@(.string .plain _) | some t@(.string .hex _) =>
    if first.text.startsWith "_" then
      let _ ← next
      return .other (first.text ++ " " ++ ((Term.ofToken? t).elim "" (·.render)))
    else return .name first
  | _ => return .name first

/-- What stands in parentheses, behind the opening one: a subquery, an expression or more of
    them. -/
def parseNested (g : Grammar) : Parse Term := do
  let e ←
    if ["SELECT", "WITH"].contains (← peekKeyword) then do
      pure (Term.other ("(" ++ (← g.query).render ++ ")"))
    else match ← commaSeparated g.term with
      | [e] => pure (Term.nested e)
      | es => pure (Term.other ("(" ++ commaList (renderAll es) ++ ")"))
  expectSymbol ")"
  if ← acceptSymbol "." then
    match ← next with
    | .word text quoted =>
      let key : Name := ⟨text, if quoted then some '"' else none⟩
      return .other (e.render ++ "." ++ key.render)
    | _ => failure
  else return e

/-- What a word starts that has been taken. -/
def parseWorded (g : Grammar) (interval : Parse Term) (first : Name) (keyword : String) :
    Parse Term := do
  match keyword with
  | "TRUE" | "FALSE" | "NULL" => ofOption (Term.ofWord? keyword)
  | "CURRENT_CATALOG" | "CURRENT_USER" | "SESSION_USER" | "USER" =>
    return .call ⟨[first], false, false, first.render⟩ 0
  | "CURRENT_TIMESTAMP" | "CURRENT_TIME" | "CURRENT_DATE" | "LOCALTIME" | "LOCALTIMESTAMP" =>
    parseOptionalCall g [first]
  | "CASE" => parseCase g
  | "CAST" | "TRY_CAST" | "SAFE_CAST" => parseCast g keyword
  | "EXISTS" => parseExists g "EXISTS"
  | "EXTRACT" => parseExtract g
  | "CEIL" | "FLOOR" => parseRounding g keyword
  | "POSITION" => parsePosition g
  | "SUBSTRING" => parseSubstring g
  | "OVERLAY" => parseOverlay g
  | "TRIM" => parseTrim g
  | "INTERVAL" => interval
  | "LISTAGG" => parseListAgg g
  | "ARRAY_AGG" => parseArrayAgg g
  | "NOT" => parseNegation g
  | "MATCH" => parseMatch
  | "ARRAY" =>
    match ← peek with
    | some (.symbol "[") => do
      expectSymbol "["
      parseArray g "ARRAY"
    | some (.symbol "(") => do
      return .other ("ARRAY(" ++ (← parenthesized g.query).render ++ ")")
    | _ => parseNamed g interval first
  | _ => parseNamed g interval first

/-- A type with a text of it, or an interval. -/
def parseTyped (interval : Parse Term) : Parse Term := do
  let t ← parseDataType
  match t.kind with
  | .interval => interval
  | .named => failure
  | .builtin => return .other (t.text ++ " " ++ quotedBy '\'' (← parseText))

/-- What is no type with a text of it, without a collation. -/
def parseUntyped (g : Grammar) (interval : Parse Term) : Parse Term := do
  let t ← next
  match t with
  | .word text quoted =>
    parseWorded g interval ⟨text, if quoted then some '"' else none⟩ t.keyword
  | .symbol "[" => parseArray g ""
  | .symbol "-" => return .signed .minus (← g.tighter Tightness.factor)
  | .symbol "+" => return .signed .plus (← g.tighter Tightness.factor)
  | .symbol "(" => parseNested g
  | .symbol ":" | .symbol "@" => do
    putBack t
    parseLiteral
  | _ => ofOption (Term.ofToken? t)

/-- An operand. -/
def parseOperand (g : Grammar) (interval : Parse Term) : Parse Term := do
  match ← attempt? (parseTyped interval) with
  | some e => return e
  | none =>
    let e ← parseUntyped g interval
    match ← after? ["COLLATE"] parsePath with
    | some collation => return .other (e.render ++ " COLLATE " ++ renderPath collation)
    | none => return e

end CsvQuery.Sql
