import CsvQuery.CommandLine.Arguments
import CsvQuery.FileTree
import CsvQuery.Query
import CsvQuery.Sql.Resolution
import CsvQuery.Statement.Codec

/-!
# The program

A run of the program reads a query and the files of a database, and writes the result of the query
to a file. It takes the access to files as given (`Disk`), so that it runs on real files as well as
on a tree of files.

* `Settings.answer`: the outcome of a query, from all files.
* `runProgram`: a run of the program, with the report on it.
-/

namespace CsvQuery

/-! ## Reports -/

/-- What a run of the program tells about. -/
inductive Event
  | started (s : Settings)
  | notice (n : Notice)
  | wrote (rows : Nat) (path : String)
  /-- The file of settings cannot be read, or does not hold settings. -/
  | configRefused (path : String) (cause : Option AccessFailure)
  | failed (query : String) (cause : QueryError)
  deriving DecidableEq, Repr

namespace Event

/-- How serious an event is. -/
inductive Level
  | info
  | warning
  | error
  deriving DecidableEq, Repr

/-- How serious this event is. -/
def level : Event → Level
  | started _ | wrote .. => .info
  | notice n => if n.isWarning then .warning else .info
  | configRefused .. | failed .. => .error

/-- The event in words. -/
def message : Event → String
  | started s =>
    "Running flatdb... QueryConfig \x7b database_dir: " ++ quoted s.folder ++ ", input_file: "
      ++ quoted s.query ++ ", output_file: " ++ quoted s.result ++ " \x7d"
  | notice n => n.message
  | wrote rows path => "Wrote " ++ toString rows ++ " rows to " ++ path
  | configRefused path cause =>
    "Could not load config " ++ path ++ ": " ++ cause.elim "malformed settings" (·.message)
  | failed query cause => "Query " ++ query ++ " failed: " ++ cause.message

end Event

/-- What a run of the program leaves beside its files. -/
structure Report where
  succeeded : Bool
  /-- The text on the standard output. -/
  output : String
  /-- The text on the standard error output, apart from the events. -/
  complaint : String
  events : List Event
  deriving DecidableEq, Repr

/-- The version of the program. -/
def versionText : String := "cli-flatdb 0.1.0\n"

/-- How the program is called. -/
def usageText : String :=
  "USAGE:\n    flatdb [OPTIONS] <database_dir> <input_file> <output_file>\n"

/-- The explanation of the arguments. The version is followed by the credits: lines that say who made
    the program, or nothing. -/
def helpText (credits : String) : String :=
  versionText
    ++ credits
    ++ "Runs one SELECT query over a directory of csv tables\n\n"
    ++ usageText
    ++ "\nFLAGS:\n"
    ++ "    -h, --help       Prints help information\n"
    ++ "    -V, --version    Prints version information\n"
    ++ "\nOPTIONS:\n"
    ++ "    -c, --config <FILE>    Sets a custom config file\n"
    ++ "\nARGS:\n"
    ++ "    <database_dir>    Directory holding schema.txt and data/\n"
    ++ "    <input_file>      Query file, SQL or a .json statement\n"
    ++ "    <output_file>     File the result rows are written to\n"

/-! ## Queries -/

namespace Settings

/-- The settings of a stored form. -/
def ofJson? (j : Json) : Option Settings := do
  match ← j.fields? ["database_dir", "input_file", "output_file"] 3 with
  | [some folder, some query, some result] =>
    return ⟨← folder.string?, ← query.string?, ← result.string?⟩
  | _ => none

/-- The settings of a text. -/
def read? (text : String) : Option Settings := (Json.parse? text).bind ofJson?

/-- The statement of a query file, by the suffix of its name. -/
def statement (s : Settings) (catalog : Catalog) (text : String) : Except QueryError Statement :=
  if Path.suffix? s.query = some "json" then Statement.read text
  else Statement.ofText catalog text

/-- The statement of the query, with the catalog of the database. -/
def load (files : Files) (s : Settings) : Run (Catalog × Statement) := do
  let catalog ← Catalog.load s.folder (files (Catalog.schemaPath s.folder))
  match files.text s.query with
  | .error cause => throw (.queryUnreadable s.query cause)
  | .ok text => return (catalog, ← ExceptT.mk (pure (s.statement catalog text)))

/-- The outcome of the query. -/
def answer (files : Files) (s : Settings) : Run Outcome := do
  let (catalog, statement) ← s.load files
  statement.answer catalog files

/-- The paths of what is read to find the statement of the query. -/
def headPaths (s : Settings) : List String := [Catalog.schemaPath s.folder, s.query]

/-- The paths of the rows that the query is about. -/
def rowPaths (files : Files) (s : Settings) : List String :=
  match (s.load files).run.value with
  | .ok (catalog, statement) => statement.tables.map (Catalog.rowsPath catalog.folder)
  | .error _ => []

end Settings

/-! ## Runs -/

/-- Access to files. -/
structure Disk (m : Type → Type) where
  /-- The bytes at a path. -/
  read : String → m (Except AccessFailure ByteArray)
  /-- Creates a folder at a path, and all folders above it that are missing. -/
  createFolders : String → m (Except AccessFailure Unit)
  /-- Writes a file at a path. -/
  write : String → ByteArray → m (Except AccessFailure Unit)

/-- Access to the files of a tree. -/
def FileTree.disk : Disk (StateM FileTree) where
  read path := return (← get).read path
  createFolders path := fun t => t.createFolders path
  write path bytes := do
    match (← get).write path bytes with
    | .ok t => set t; return .ok ()
    | .error cause => return .error cause

/-- What was found at some paths. -/
abbrev Contents := List (String × Except AccessFailure ByteArray)

/-- The files as far as they have been read. -/
def Contents.files (c : Contents) : Files := fun path =>
  (c.find? (·.1 == path)).elim (.error .missing) (·.2)

section

variable {m : Type → Type} [Monad m] (disk : Disk m)

/-- Reads what is at some paths. -/
def Disk.readAll (paths : List String) : m Contents :=
  paths.mapM fun path => return (path, ← disk.read path)

/-- Reads what the query is about and answers it. -/
def Settings.answerOn (s : Settings) : m (Logged (Except QueryError Outcome)) := do
  let head ← disk.readAll s.headPaths
  let rows ← disk.readAll (s.rowPaths head.files)
  return (s.answer (head ++ rows).files).run

/-- Writes a result, in a folder that is created if it is missing. -/
def Disk.deliver (path : String) (o : Outcome) : m (Except QueryError Unit) := do
  let folders ← match Path.parent? path with
    | none | some "" => pure (.ok ())
    | some parent => disk.createFolders parent
  match folders with
  | .error cause => return .error (.foldersRefused cause)
  | .ok () => return (← disk.write path o.text.toUTF8).mapError (.resultUnwritable path)

/-- Answers a query and writes its result. Nothing is written unless the query succeeds. -/
def Settings.run (s : Settings) : m Report := do
  let answered ← s.answerOn disk
  let events := .started s :: answered.notices.map .notice
  let failure (cause : QueryError) : Report := ⟨false, "", "", events ++ [.failed s.query cause]⟩
  match answered.value with
  | .error cause => return failure cause
  | .ok outcome =>
    match ← disk.deliver s.result outcome with
    | .error cause => return failure cause
    | .ok () => return ⟨true, "", "", events ++ [.wrote outcome.rows s.result]⟩

/-- Runs with the settings of a file. -/
def runWithFile (path : String) : m Report := do
  let refusal (cause : Option AccessFailure) : Report :=
    ⟨false, "", "", [.configRefused path cause]⟩
  match (← disk.read path) >>= decodeText with
  | .error cause => return refusal (some cause)
  | .ok text =>
    match Settings.read? text with
    | some s => s.run disk
    | none => return refusal none

/-- Runs the program with some arguments. The explanation of the arguments shows the credits. -/
def runProgram (args : List String) (credits : String := "") : m Report := do
  match Request.ofArguments args with
  | .help => return ⟨true, helpText credits, "", []⟩
  | .version => return ⟨true, versionText, "", []⟩
  | .run s => s.run disk
  | .runWith path => runWithFile disk path
  | .misuse => return ⟨false, "", usageText, []⟩

end

end CsvQuery
