/-!
# Paths

Paths are texts whose steps stand between slashes. Empty steps and steps of a single dot lead
nowhere and do not count.

* `Path.join`: a path taken from a folder.
* `Path.steps`: the steps of a path.
* `Path.parent?`: the folder above a path.
* `Path.suffix?`: what follows the last dot of a file name.
-/

namespace CsvQuery.Path

/-- A path taken from a folder. A path that starts with a slash does not depend on the folder. -/
def join (folder path : String) : String :=
  if path.startsWith "/" then path
  else if folder.isEmpty || folder.endsWith "/" then folder ++ path
  else folder ++ "/" ++ path

/-- The pieces of a text between slashes, after the piece read so far (in reverse). -/
def piecesFrom (piece : List Char) : List Char → List String
  | [] => [String.ofList piece.reverse]
  | '/' :: rest => String.ofList piece.reverse :: piecesFrom [] rest
  | c :: rest => piecesFrom (c :: piece) rest

/-- Whether a piece of a path is a step. -/
def isStep (piece : String) : Bool := piece != "" && piece != "."

/-- The steps of a path, from left to right. -/
def steps (path : String) : List String := (piecesFrom [] path.toList).filter isStep

/-- The folder above a path: the path without its last step. A path without steps has none. -/
def parent? (path : String) : Option String :=
  let all := steps path
  if all.isEmpty then none
  else
    let above := "/".intercalate all.dropLast
    some (if path.startsWith "/" then "/" ++ above else above)

/-- What follows the last dot of the last step. A dot at its start does not count. -/
def suffix? (path : String) : Option String :=
  match (steps path).getLast? with
  | none | some ".." => none
  | some name =>
    let backward := name.toList.reverse
    let suffix := backward.takeWhile (· != '.')
    match backward.drop suffix.length with
    | [] | [_] => none
    | _ => some (String.ofList suffix.reverse)

end CsvQuery.Path
