import CsvQuery.Catalog
import CsvQuery.Sql.Statement

/-!
# The statement of a query text

The names in a query are resolved against a catalog. All tables of a query count for all of its
columns, wherever they stand.

* `Scope`: the tables that the columns of a query may belong to.
* `Scope.column`: the column of a name.
* `Scope.expr`, `Scope.item`: expressions and items with their columns resolved.
* `Query.resolve`: the statement of a query.
* `Statement.ofText`: the statement of a text that holds a single one.
-/

namespace CsvQuery.Sql

/-- What a resolved part of a query is, or why the query fails. -/
abbrev Resolved := Except QueryError

/-- Rejects a query. -/
def reject {α : Type} (cause : Rejection) : Resolved α := .error (.rejected cause)

/-- Rejects a query for what it uses. -/
def lacks {α : Type} (f : Feature) : Resolved α := reject (.unsupported f)

/-- The tables of a query so far, and the catalog that they are in. -/
structure Scope where
  catalog : Catalog
  tables : List String

/-! ## Names -/

/-- The name of a table or a function, which has to be one part. -/
def singleName : List Name → Resolved String
  | [n] => .ok n.text
  | parts => reject (.qualifiedName (renderPath parts))

namespace Scope

/-- The tables of a query that have a column. -/
def tablesWith (s : Scope) (column : String) : List String :=
  s.tables.filter (s.catalog.hasColumn · column)

/-- The column of a name. A name of one part has to be a column of exactly one table, a name of two
    parts a table of the query and a column of it. -/
def column (s : Scope) (parts : List String) : Resolved ColumnRef :=
  let field := ".".intercalate parts
  match parts with
  | [table, column] =>
    if s.tables.contains table && s.catalog.hasColumn table column then .ok ⟨table, column⟩
    else reject (.unknownField field)
  | _ :: _ :: _ :: _ => reject (.tooManyParts field)
  | _ =>
    match s.tablesWith field with
    | [] => reject (.unknownField field)
    | [table] => .ok ⟨table, field⟩
    | _ => reject (.ambiguousField field)

/-! ## Expressions -/

/-- The column that an expression consists of. -/
def columnOf (s : Scope) : Term → Resolved ColumnRef
  | .name n => s.column [n.text]
  | .path parts => s.column (parts.map (·.text))
  | e => reject (.notColumn e.render)

/-- An operator applied to a resolved operand. The negative of an integer is one too. -/
def signed : Sign → Expr → Resolved Expr
  | .plus, e => .ok e
  | .minus, .literal (.int n) => .ok (.literal (.int (-n)))
  | .minus, e => .ok (.arithmetic (.literal (.int 0)) .subtract e)
  | sign, _ => reject (.unaryOperator sign.render)

/-- An operator applied to resolved operands. -/
def combined (l : Expr) (op : Operator) (r : Expr) : Resolved Expr :=
  match op with
  | .compare op => .ok (.compare l op r)
  | .arithmetic op => .ok (.arithmetic l op r)
  | .and => .ok (.and l r)
  | .other symbol => reject (.binaryOperator symbol)

/-- An expression with its columns resolved. -/
def expr (s : Scope) : Term → Resolved Expr
  | .name n => .column <$> s.column [n.text]
  | .path parts => .column <$> s.column (parts.map (·.text))
  | .number text _ =>
    match Decimal.word? text.toList with
    | some v => .ok (.literal (.int v))
    | none => reject (.literal text)
  | .string text => .ok (.literal (.text text))
  | .literal text => reject (.literal text)
  | .nested e => s.expr e
  | .signed sign e => do signed sign (← s.expr e)
  | .binary left op right => do
    let l ← s.expr left
    let r ← s.expr right
    combined l op r
  | .call .. | .callOn .. => reject .misplacedSum
  | .other text => reject (.expression text)

/-! ## Items -/

/-- Checks that a call with so many arguments is a plain sum. -/
def checkSum (head : CallHead) (arguments : Nat) : Resolved Unit := do
  let name ← singleName head.name
  if capitals name ≠ "SUM" then reject (.unknownFunction name)
  else if head.windowed || head.distinct then lacks .windowOrDistinctSum
  else if arguments ≠ 1 then reject (.argumentCount name)

/-- An expression that a query shows: a sum or a column. -/
def shown (s : Scope) : Term → Resolved SelectItem
  | .call head arguments => do
    checkSum head arguments
    reject .sumArgument
  | .callOn head argument => do
    checkSum head 1
    return .sum ⟨← s.expr argument⟩
  | e => .column <$> s.columnOf e

/-- An item that does not stand alone as a star for all columns. -/
def item (s : Scope) : Item → Resolved SelectItem
  | .wildcard _ => reject .wildcardBesideItems
  | .plain e => s.shown e
  | .named .. => lacks .columnAlias
  | .tableWildcard .. => lacks .qualifiedWildcard

/-- What a query shows. -/
def projection (s : Scope) : List Item → Resolved Projection
  | [.wildcard _] => .ok .all
  | items => .list <$> items.mapM s.item

/-! ## Tables -/

/-- A scope with one more table. -/
def addTable (s : Scope) (r : Relation) : Resolved Scope :=
  match r.kind with
  | .joined _ | .derived _ => lacks .derivedTable
  | .table path arguments => do
    if r.newName.isSome then lacks .tableAlias
    if arguments.isSome then lacks .tableFunction
    let name ← singleName path
    let _ ← s.catalog.table name
    if s.tables.contains name then reject (.repeatedTable name)
    return { s with tables := s.tables ++ [name] }

/-- The scope of a query over some tables. -/
def ofRelations (catalog : Catalog) (relations : List JoinedRelation) : Resolved Scope :=
  (relations.flatMap fun r => r.relation :: r.joins.map (·.relation)).foldlM addTable ⟨catalog, []⟩

/-- The predicate that is written with a joined table. -/
def constraint (s : Scope) (j : Join) : Resolved (Option Expr) :=
  match j.kind, j.constraint with
  | .inner, .predicate e => some <$> s.expr e
  | .inner, .none | .cross, _ => .ok none
  | .inner, _ => lacks .namedColumnJoin
  | .outer _, _ => lacks .outerJoin

/-- The predicates that are written with the tables of a query. A table behind a comma has none. -/
def constraints (s : Scope) : List JoinedRelation → Resolved (List (Option Expr))
  | [] => .ok []
  | r :: rest => do
    let first ← r.joins.mapM s.constraint
    return none :: first ++ (← s.constraints rest)

end Scope

/-! ## Statements -/

/-- A column to sort by. -/
def OrderItem.resolve (s : Scope) (o : OrderItem) : Resolved ColumnRef := do
  if o.ascending = some false then lacks .descendingOrder
  if o.nullsFirst.isSome then lacks .nullsOrder
  s.columnOf o.term

/-- Checks that a `SELECT` only has clauses that a statement has a place for. -/
def Select.check (q : Select) : Resolved Unit := do
  if q.repeats matches .dropOn _ then lacks .distinctOn
  if q.top.isSome || q.into.isSome then lacks .topOrInto
  if q.having.isSome then lacks .having
  if !q.lateralViews.isEmpty || q.qualify.isSome then lacks .lateralOrQualify

/-- The statement of a `SELECT` with some columns to sort by. -/
def Select.resolve (catalog : Catalog) (q : Select) (orderBy : List OrderItem) :
    Resolved Statement := do
  q.check
  let s ← Scope.ofRelations catalog q.relations
  match s.tables with
  | [] => reject .noTables
  | base :: joined =>
    let constraints ← s.constraints q.relations
    let selection ← q.selection.mapM s.expr
    let projection ← s.projection q.items
    let groupBy ← q.groupBy.mapM s.columnOf
    let orderBy ← orderBy.mapM (OrderItem.resolve s)
    return {
      base, joins := List.zipWith .mk joined constraints.tail, selection, projection, groupBy,
      orderBy, distinct := q.repeats = .drop }

/-- The statement of a query. -/
def Query.resolve (catalog : Catalog) (q : Query) : Resolved Statement :=
  if q.withClause.isSome then lacks .withClause
  else if q.limit.isSome || q.offset.isSome || q.fetch.isSome then lacks .rowLimit
  else match q.body with
    | .select s => s.resolve catalog q.orderBy
    | .query _ => lacks .subquery
    | .setOperation _ => lacks .setOperation
    | .other _ => lacks .queryBody

end CsvQuery.Sql

namespace CsvQuery

/-- The statement of a text that holds a single one. -/
def Statement.ofText (catalog : Catalog) (text : String) : Except QueryError Statement :=
  match Sql.statementsOf? text with
  | none => Sql.reject .unparsable
  | some [.query q] => q.resolve catalog
  | some [_] => Sql.lacks .otherStatement
  | some statements => Sql.reject (.statementCount statements.length)

end CsvQuery
