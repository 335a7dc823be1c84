import CsvQuery.Sql.Syntax

/-!
# The wording of syntax

The wording is that of the text, in one spelling: reserved words in capitals, one space between
words, no comments, `<>` for unequal.

* `Name.render`, `Term.render`: names and expressions.
* `Query.render`: queries.
-/

namespace CsvQuery.Sql

/-- Texts with commas between them. -/
def commaList (texts : List String) : String := ", ".intercalate texts

/-- A text behind a space, if there is one. -/
def spaced (text : Option String) : String := text.elim "" (" " ++ ·)

/-- A clause of some texts, which is left out when there is none. -/
def clause (words : String) (texts : List String) : String :=
  if texts.isEmpty then "" else " " ++ words ++ " " ++ commaList texts

/-- A text as it stands between quotation marks, after some character. A mark is written twice,
    unless it follows a backslash; two marks in a row stand as they are. -/
def escapeFrom (mark : Char) (afterBackslash : Bool) : List Char → List Char
  | [] => []
  | [c] => if c = mark && !afterBackslash then [c, c] else [c]
  | c :: d :: rest =>
    if c ≠ mark then c :: escapeFrom mark (c = '\\') (d :: rest)
    else if afterBackslash then c :: escapeFrom mark true (d :: rest)
    else if d = mark then c :: c :: escapeFrom mark false rest
    else c :: c :: escapeFrom mark false (d :: rest)

/-- A text between quotation marks. -/
def quotedBy (mark : Char) (text : String) : String :=
  String.ofList (mark :: escapeFrom mark false text.toList ++ [mark])

/-- A part of a name. -/
def Name.render (n : Name) : String :=
  match n.quote with
  | some mark => quotedBy mark n.text
  | none => n.text

/-- A name. -/
def renderPath (parts : List Name) : String := ".".intercalate (parts.map (·.render))

/-! ## Expressions -/

/-- The symbol of an operator. -/
def Operator.render : Operator → String
  | compare op => op.symbol
  | arithmetic op => op.symbol
  | and => "AND"
  | other symbol => symbol

/-- The symbol of an operator with one operand. -/
def Sign.render : Sign → String
  | plus => "+"
  | minus => "-"
  | not => "NOT"
  | factorial => "!"

/-- An operator together with its operand. -/
def Sign.renderOn (sign : Sign) (operand : String) : String :=
  match sign with
  | factorial => operand ++ sign.render
  | not => sign.render ++ " " ++ operand
  | plus | minus => sign.render ++ operand

/-- An expression. -/
def Term.render : Term → String
  | name n => n.render
  | path parts => renderPath parts
  | number text long => if long then text ++ "L" else text
  | string text => quotedBy '\'' text
  | literal text | other text => text
  | nested e => "(" ++ e.render ++ ")"
  | signed sign e => sign.renderOn e.render
  | binary l op r => l.render ++ " " ++ op.render ++ " " ++ r.render
  | call head _ | callOn head _ => head.text

/-- An expression to sort by. -/
def OrderItem.render (o : OrderItem) : String :=
  let direction := match o.ascending with
    | none => ""
    | some true => " ASC"
    | some false => " DESC"
  let nulls := match o.nullsFirst with
    | none => ""
    | some true => " NULLS FIRST"
    | some false => " NULLS LAST"
  o.term.render ++ direction ++ nulls

/-! ## Queries -/

/-- A table, or what stands for one. -/
def Relation.render (r : Relation) : String :=
  let what := match r.kind with
    | .table name none => renderPath name
    | .table name (some arguments) => renderPath name ++ "(" ++ arguments ++ ")"
    | .joined text => "(" ++ text ++ ")"
    | .derived text => text
  what ++ r.newName.elim "" (" AS " ++ ·) ++ r.trailer

/-- A join. -/
def Join.render (j : Join) : String :=
  let natural := if j.constraint = .natural then " NATURAL " else " "
  let words := match j.kind with
    | .inner => "JOIN "
    | .cross => "CROSS JOIN "
    | .outer text => text ++ " "
  let condition := match j.constraint with
    | .predicate e => " ON " ++ e.render
    | .shared columns => " USING(" ++ commaList (columns.map (·.render)) ++ ")"
    | .none | .natural => ""
  natural ++ words ++ j.relation.render ++ condition

/-- A table with those joined to it. -/
def JoinedRelation.render (r : JoinedRelation) : String :=
  r.relation.render ++ String.join (r.joins.map (·.render))

/-- An item of a `SELECT`. -/
def Item.render : Item → String
  | wildcard modifiers => "*" ++ modifiers
  | tableWildcard table modifiers => renderPath table ++ ".*" ++ modifiers
  | plain e => e.render
  | named e newName => e.render ++ " AS " ++ newName.render

/-- What a `SELECT` does with repeated rows. -/
def Repeats.render : Repeats → String
  | keep => ""
  | drop => " DISTINCT"
  | dropOn keys => " DISTINCT ON (" ++ commaList (keys.map (·.render)) ++ ")"

/-- The wording of some expressions. -/
def renderAll (es : List Term) : List String := es.map (·.render)

/-- A `SELECT`. -/
def Select.render (s : Select) : String :=
  "SELECT" ++ s.repeats.render ++ spaced s.top
    ++ " " ++ commaList (s.items.map (·.render)) ++ spaced s.into
    ++ clause "FROM" (s.relations.map (·.render)) ++ String.join s.lateralViews
    ++ clause "WHERE" (renderAll s.selection.toList) ++ clause "GROUP BY" (renderAll s.groupBy)
    ++ clause "CLUSTER BY" (renderAll s.clusterBy)
    ++ clause "DISTRIBUTE BY" (renderAll s.distributeBy) ++ clause "SORT BY" (renderAll s.sortBy)
    ++ clause "HAVING" (renderAll s.having.toList) ++ clause "WINDOW" s.windows
    ++ clause "QUALIFY" (renderAll s.qualify.toList)

/-- The body of a query. -/
def Body.render : Body → String
  | select s => s.render
  | query text => "(" ++ text ++ ")"
  | setOperation text | other text => text

/-- A query. -/
def Query.render (q : Query) : String :=
  q.withClause.elim "" (· ++ " ") ++ q.body.render
    ++ clause "ORDER BY" (q.orderBy.map (·.render)) ++ clause "LIMIT" (renderAll q.limit.toList)
    ++ spaced q.offset ++ spaced q.fetch ++ String.join (q.locks.map (" " ++ ·))

end CsvQuery.Sql
