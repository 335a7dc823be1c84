/-!
# Why query texts are rejected

A query text may use what this language of queries has no room for (`Feature`), or be wrong in
itself. Expressions appear in these causes as they are written.
-/

namespace CsvQuery

/-- A part of a query text that statements have no place for. -/
inductive Feature
  | otherStatement
  | withClause
  | rowLimit
  | subquery
  | setOperation
  | queryBody
  | descendingOrder
  | nullsOrder
  | distinctOn
  | topOrInto
  | having
  | lateralOrQualify
  | columnAlias
  | qualifiedWildcard
  | tableAlias
  | tableFunction
  | derivedTable
  | namedColumnJoin
  | outerJoin
  | windowOrDistinctSum
  deriving DecidableEq, Repr

/-- The feature as the subject of the message about it. -/
def Feature.phrase : Feature → String
  | otherStatement => "Statements other than SELECT are"
  | withClause => "WITH clauses are"
  | rowLimit => "LIMIT, OFFSET and FETCH are"
  | subquery => "Subqueries are"
  | setOperation => "Set operations are"
  | queryBody => "Query body"
  | descendingOrder => "Descending order is"
  | nullsOrder => "NULLS FIRST/LAST is"
  | distinctOn => "DISTINCT ON is"
  | topOrInto => "TOP and SELECT INTO are"
  | having => "Having is"
  | lateralOrQualify => "Lateral views and QUALIFY are"
  | columnAlias => "Column aliases are"
  | qualifiedWildcard => "Qualified wildcards are"
  | tableAlias => "Table aliases are"
  | tableFunction => "Table-valued functions are"
  | derivedTable => "Nested joins and derived tables are"
  | namedColumnJoin => "NATURAL and USING joins are"
  | outerJoin => "Outer joins are"
  | windowOrDistinctSum => "Window and DISTINCT aggregates are"

/-- Why a query text is rejected. -/
inductive Rejection
  | unparsable
  | statementCount (n : Nat)
  | unsupported (f : Feature)
  | tooManyParts (field : String)
  | unknownField (field : String)
  | ambiguousField (field : String)
  | noTables
  | wildcardBesideItems
  | repeatedTable (table : String)
  | qualifiedName (name : String)
  | unknownFunction (name : String)
  | argumentCount (name : String)
  | sumArgument
  | misplacedSum
  | literal (text : String)
  | unaryOperator (symbol : String)
  | binaryOperator (symbol : String)
  | notColumn (text : String)
  | expression (text : String)
  deriving DecidableEq, Repr

/-- The cause in words. -/
def Rejection.message : Rejection → String
  | unparsable => "Could not parse query"
  | statementCount n => "Expected exactly one statement, found " ++ toString n
  | unsupported f => f.phrase ++ " not supported"
  | tooManyParts field => "No . table names supported in field " ++ field
  | unknownField field =>
    "The field " ++ field ++ " is not present in tables listed in the query"
  | ambiguousField field =>
    "The field " ++ field ++ " could refer to more than one table listed in the query"
  | noTables => "Query must have a FROM clause"
  | wildcardBesideItems => "Cannot select wildcard and exp in same select"
  | repeatedTable table => "Table " ++ table ++ " appears more than once in the query"
  | qualifiedName name => "Qualified name " ++ name ++ " not supported"
  | unknownFunction name => "Unsupported SQL function " ++ name
  | argumentCount name => "Wrong number of args in " ++ name ++ " operation"
  | sumArgument => "Aggregate over unsupported expression"
  | misplacedSum => "Aggregates are only supported in the select list"
  | literal text => "Unsupported literal " ++ text
  | unaryOperator symbol => "Unsupported unary operator " ++ symbol
  | binaryOperator symbol => "Unsupported binary operation " ++ symbol
  | notColumn text => "Expected a column, found " ++ text
  | expression text => "Unsupported expression " ++ text

end CsvQuery
