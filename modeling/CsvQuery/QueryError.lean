import CsvQuery.Expr.Render
import CsvQuery.Files
import CsvQuery.Rejection
import CsvQuery.Text.Quoted

/-!
# Why queries fail

Each cause belongs to a kind and has a message, which starts with the name of its kind.
-/

namespace CsvQuery

/-- The kinds of failure. -/
inductive ErrorKind
  /-- A file cannot be read or written. -/
  | access
  /-- A row or a table does not agree with the catalog. -/
  | schema
  /-- A field is no integer. -/
  | value
  /-- An expression cannot be computed. -/
  | expression
  /-- A column is not in a tuple. -/
  | lookup
  /-- A query is malformed or asks for too much. -/
  | validation
  deriving DecidableEq, Repr

/-- What a message of the kind starts with. -/
def ErrorKind.heading : ErrorKind → String
  | access => ""
  | schema => "Schema Error: "
  | value => "Value Error: "
  | expression => "Unsupported Expression Error: "
  | lookup => "Lookup Error: "
  | validation => "Validation Error: "

/-- Why a query fails. -/
inductive QueryError
  | schemaUnreadable (path : String) (cause : AccessFailure)
  | queryUnreadable (path : String) (cause : AccessFailure)
  | tableUnreadable (path : String) (cause : AccessFailure)
  | resultUnwritable (path : String) (cause : AccessFailure)
  /-- The folders above the result cannot be made. -/
  | foldersRefused (cause : AccessFailure)
  /-- What was opened as a data file has no rows to read. -/
  | rowsUnreadable (cause : AccessFailure)
  /-- A row of a data file is not the UTF-8 form of a text. -/
  | rowGarbled
  | unknownTable (table : String)
  /-- A row does not have one field for each column of its table. -/
  | fieldCount (table : String) (columns : Nat) (fields : List String)
  | notInteger (table column field : String)
  | notSummable (argument : Expr)
  | columnMissing (column : ColumnRef) (tuple : Tuple)
  /-- A stored statement does not have the form of one. -/
  | statementGarbled
  | rejected (cause : Rejection)
  deriving DecidableEq, Repr

namespace QueryError

/-- The kind that a failure belongs to. -/
def kind : QueryError → ErrorKind
  | schemaUnreadable .. | queryUnreadable .. | tableUnreadable .. | resultUnwritable ..
  | foldersRefused _ | rowsUnreadable _ | rowGarbled => .access
  | unknownTable _ | fieldCount .. => .schema
  | notInteger .. => .value
  | notSummable _ => .expression
  | columnMissing .. => .lookup
  | statementGarbled | rejected _ => .validation

/-- The message without its heading. -/
def detail : QueryError → String
  | schemaUnreadable path cause => "Could not read schema file " ++ path ++ ": " ++ cause.message
  | queryUnreadable path cause => "Could not read query file " ++ path ++ ": " ++ cause.message
  | tableUnreadable path cause => "Could not open " ++ path ++ ": " ++ cause.message
  | resultUnwritable path cause => "Could not write output file " ++ path ++ ": " ++ cause.message
  | foldersRefused cause | rowsUnreadable cause => cause.message
  | rowGarbled => "CSV parse error"
  | unknownTable table => "Table " ++ table ++ " does not exist in the catalog"
  | fieldCount table columns fields =>
    "Row of table " ++ table ++ " has " ++ toString fields.length
      ++ " fields but the schema has " ++ toString columns
      ++ " columns: StringRecord(" ++ quotedList fields ++ ")"
  | notInteger table column field =>
    "Value " ++ quoted field ++ " of column " ++ table ++ "." ++ column ++ " is not an integer"
  | notSummable argument => "Cannot SUM over " ++ argument.render
  | columnMissing column tuple =>
    "Column " ++ column.render ++ " not found in tuple (" ++ tuple.render ++ ")"
  | statementGarbled => "Malformatted query json"
  | rejected cause => cause.message

/-- The message of a failure. -/
def message (e : QueryError) : String := e.kind.heading ++ e.detail

end QueryError

/-- The value of a column, or the failure to find it. -/
def Tuple.get (t : Tuple) (c : ColumnRef) : Except QueryError Int32 :=
  match t.lookup c with
  | some v => .ok v
  | none => .error (.columnMissing c t)

end CsvQuery
