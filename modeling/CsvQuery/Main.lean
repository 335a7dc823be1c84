import CsvQuery.CommandLine

/-!
# The program on real files

`main` runs the program on the files of the operating system, and prints its report.
-/

namespace CsvQuery

/-- Why the operating system does not give access to a file. It tells some reasons by number, which
    may be negated. -/
def AccessFailure.ofIOError (e : IO.Error) : AccessFailure :=
  match e with
  | .noFileOrDirectory .. => .missing
  | .alreadyExists .. => .occupied
  | .inappropriateType _ code _ => if code = 21 || -code = 21 then .isFolder else .notFolder
  | .permissionDenied .. => .other "Permission denied (os error 13)"
  | e => .other (toString e)

/-- What becomes of an access to files. -/
def access {α : Type} (action : IO α) : IO (Except AccessFailure α) := do
  match ← action.toBaseIO with
  | .ok a => return .ok a
  | .error e => return .error (.ofIOError e)

/-- Creates a folder. It does not matter why that fails if there is a folder already. -/
def createFolder (path : String) : IO (Except AccessFailure Unit) := do
  match ← access (IO.FS.createDir path) with
  | .ok () => return .ok ()
  | .error cause =>
    match ← access (IO.FS.realPath path) with
    | .ok there => return if ← there.isDir then .ok () else .error cause
    | .error _ => return .error cause

/-- Creates a folder where some steps lead from a start, given backward, and before that the folder
    above it if that is missing. -/
def createFolders (start : String) : List String → IO (Except AccessFailure Unit)
  | [] => return .ok ()
  | step :: above => do
    let path := start ++ "/".intercalate (step :: above).reverse
    match ← createFolder path with
    | .error .missing =>
      match ← createFolders start above with
      | .ok () => createFolder path
      | .error cause => return .error cause
    | created => return created

/-- Access to the files of the operating system. -/
def systemDisk : Disk IO where
  read path := access (IO.FS.readBinFile path)
  createFolders path :=
    createFolders (if path.startsWith "/" then "/" else "") (Path.steps path).reverse
  write path bytes := access (IO.FS.writeBinFile path bytes)

/-- The word for how serious an event is. -/
def Event.Level.word : Event.Level → String
  | info => "INFO"
  | warning => "WARN"
  | error => "ERROR"

/-- Prints a report. -/
def Report.print (r : Report) : IO Unit := do
  IO.print r.output
  IO.eprint r.complaint
  for event in r.events do
    IO.eprintln ("[" ++ event.level.word ++ "] " ++ event.message)

end CsvQuery

/-- The program. It ends with 0 if it has done what its arguments ask for. -/
def main (args : List String) : IO UInt32 := do
  let report ← CsvQuery.runProgram CsvQuery.systemDisk args
  report.print
  return if report.succeeded then 0 else 1
