import CsvQuery.Notice
import CsvQuery.Path
import CsvQuery.Text.Blank

/-!
# The catalog of a database

A database is a folder with a file `schema.txt`, each line of which names a table and its columns,
and a folder `data` with a file of rows for each table. The catalog says which tables there are.

* `Catalog.load`: the catalog of a folder, from its schema file.
* `Catalog.find?`, `Catalog.table`: the table of a name, and the failure if there is none.
-/

namespace CsvQuery

/-- A table of a database. -/
structure Table where
  name : String
  /-- The columns, in the order of the fields of a row. -/
  columns : List String
  /-- Where the rows are. -/
  path : String
  deriving DecidableEq, Repr

/-- The tables of a database. -/
structure Catalog where
  /-- The folder of the database. -/
  folder : String
  /-- The tables, no two of one name. -/
  tables : List Table
  deriving DecidableEq, Repr

namespace Catalog

/-- The catalog of a folder, without any table. -/
def empty (folder : String) : Catalog := ⟨folder, []⟩

/-- Where the rows of a table are. -/
def rowsPath (folder table : String) : String :=
  Path.join (Path.join folder "data") (table ++ ".csv")

/-- Where the schema of a database is. -/
def schemaPath (folder : String) : String := Path.join folder "schema.txt"

/-- The table of a name. -/
def find? (k : Catalog) (name : String) : Option Table := k.tables.find? (·.name == name)

/-- A catalog with one more table, which takes the place of one of the same name. -/
def add (k : Catalog) (name : String) (columns : List String) : Catalog :=
  { k with
    tables := k.tables.filter (·.name != name) ++ [⟨name, columns, rowsPath k.folder name⟩] }

/-- The names of the tables in ascending order. -/
def names (k : Catalog) : List String := Names.ofList (k.tables.map (·.name))

/-- The table of a name, or the failure to find it. -/
def table (k : Catalog) (name : String) : Except QueryError Table :=
  match k.find? name with
  | some t => .ok t
  | none => .error (.unknownTable name)

/-- Whether there is a table of a name. -/
def hasTable (k : Catalog) (name : String) : Bool := (k.find? name).isSome

/-- Whether a table has a column. -/
def hasColumn (k : Catalog) (table column : String) : Bool :=
  (k.find? table).any (·.columns.contains column)

/-- A catalog with the table that a line of a schema names, if it names one. A line that names a
    table but no column is passed over with a notice. -/
def addLine (k : Catalog) (line : List Char) : Logged Catalog :=
  match (words line).map String.ofList with
  | [] => pure k
  | [_] => ⟨k, [.schemaLineIgnored (String.ofList line)]⟩
  | name :: columns => pure (k.add name columns)

/-- A catalog with the tables of some lines of a schema. -/
def addLines (k : Catalog) : List (List Char) → Logged Catalog
  | [] => pure k
  | line :: rest => do (← k.addLine line).addLines rest

/-- The catalog of a folder, from the text of its schema. -/
def ofSchema (folder : String) (schema : String) : Logged Catalog := do
  let k ← (empty folder).addLines (lines schema.toList)
  Logged.tell [.catalogLoaded k.tables.length folder]
  return k

/-- The catalog of a folder, from what was found at the path of its schema. -/
def load (folder : String) (schema : Except AccessFailure ByteArray) : Run Catalog :=
  match schema >>= decodeText with
  | .ok text => ExceptT.lift (ofSchema folder text)
  | .error cause => throw (.schemaUnreadable (schemaPath folder) cause)

end Catalog

end CsvQuery
