import CsvQuery.Files
import CsvQuery.Path

/-!
# Trees of files and folders

A tree of files behaves as a file system does that has no links: paths lead from its root through
folders, and two dots lead to the folder above.

* `FileTree.files`: what is found at every path.
* `FileTree.write`: a tree with a file at a path.
* `FileTree.createFolders`: a tree with a folder at a path and above it.
-/

namespace CsvQuery

/-- A file, or a folder of named files and folders. -/
inductive FileTree
  | file (bytes : ByteArray)
  | folder (entries : List (String × FileTree))

namespace FileTree

/-- A folder without anything in it. -/
def empty : FileTree := folder []

/-- What has a name in a folder. -/
def child? (t : FileTree) (name : String) : Option FileTree :=
  match t with
  | folder entries => (entries.find? (·.1 == name)).map (·.2)
  | file _ => none

/-- What some names lead to, one after the other. -/
def at? (t : FileTree) : List String → Option FileTree
  | [] => some t
  | name :: rest => (t.child? name).bind (·.at? rest)

/-- A tree with something at the end of some names, in place of what is there. -/
def put (new : FileTree) : List String → FileTree → FileTree
  | [], _ => new
  | name :: rest, t =>
    match t with
    | folder entries =>
      folder (entries.filter (·.1 != name) ++ [(name, put new rest ((t.child? name).getD empty))])
    | file bytes => file bytes

/-- The names that lead where the steps of a path lead from a folder. All that they lead through
    must be there. -/
def resolve (t : FileTree) (here : List String) : List String → Except AccessFailure (List String)
  | [] => .ok here
  | step :: rest =>
    match t.at? here with
    | none => .error .missing
    | some (file _) => .error .notFolder
    | some (folder entries) =>
      if step = ".." then t.resolve here.dropLast rest
      else if ((folder entries).child? step).isSome then t.resolve (here ++ [step]) rest
      else .error .missing

/-- Whether a path can only mean a folder, by its last character. -/
def meansFolder (path : String) : Bool := path.endsWith "/" || path.endsWith "/."

/-- The bytes of the file at a path. -/
def read (t : FileTree) (path : String) : Except AccessFailure ByteArray := do
  if path.isEmpty then throw .missing
  match t.at? (← t.resolve [] (Path.steps path)) with
  | some (file bytes) => if meansFolder path then throw .notFolder else return bytes
  | some (folder _) => throw .isFolder
  | none => throw .missing

/-- What is found at every path of a tree. -/
def files (t : FileTree) : Files := t.read

/-- The names that lead to the folder above a path and the name behind them, which may be new. -/
def resolveNew (t : FileTree) (steps : List String) :
    Except AccessFailure (List String × String) := do
  match steps.getLast? with
  | none => throw .isFolder
  | some name =>
    let here ← t.resolve [] steps.dropLast
    match t.at? here with
    | some (file _) => throw .notFolder
    | _ => if name = ".." then throw .isFolder else return (here, name)

/-- A tree with a file at a path. -/
def write (t : FileTree) (path : String) (bytes : ByteArray) : Except AccessFailure FileTree := do
  if path.isEmpty then throw .missing
  let (here, name) ← t.resolveNew (Path.steps path)
  match t.at? (here ++ [name]) with
  | some (folder _) => throw .isFolder
  | some (file _) => if meansFolder path then throw .notFolder
  | none => if meansFolder path then throw .isFolder
  return put (file bytes) (here ++ [name]) t

/-- A tree with a folder where some steps lead, if nothing is there yet. -/
def createFolder (t : FileTree) (steps : List String) : Except AccessFailure FileTree :=
  match t.resolveNew steps with
  | .error .isFolder => .error .occupied
  | .error cause => .error cause
  | .ok (here, name) =>
    if (t.at? (here ++ [name])).isSome then .error .occupied
    else .ok (put empty (here ++ [name]) t)

/-- Whether there is a folder where some steps lead. -/
def isFolderAt (t : FileTree) (steps : List String) : Bool :=
  match t.resolve [] steps with
  | .ok here => match t.at? here with
    | some (folder _) => true
    | _ => false
  | .error _ => false

/-- What becomes of a failure to create a folder: none matters if there is a folder after all. -/
def settle (t : FileTree) (steps : List String) :
    Except AccessFailure FileTree → Except AccessFailure Unit × FileTree
  | .ok t' => (.ok (), t')
  | .error cause => if t.isFolderAt steps then (.ok (), t) else (.error cause, t)

/-- Creates a folder where some steps lead, given backward, and before that the folder above it if
    that is missing. A failure does not take back what has been created. -/
def createBackward (t : FileTree) : List String → Except AccessFailure Unit × FileTree
  | [] => (.ok (), t)
  | step :: above =>
    let steps := (step :: above).reverse
    match t.createFolder steps with
    | .error .missing =>
      match t.createBackward above with
      | (.ok (), t') => t'.settle steps (t'.createFolder steps)
      | failed => failed
    | created => t.settle steps created

/-- Creates a folder at a path, and all folders above it that are missing. -/
def createFolders (t : FileTree) (path : String) : Except AccessFailure Unit × FileTree :=
  t.createBackward (Path.steps path).reverse

end FileTree

end CsvQuery
