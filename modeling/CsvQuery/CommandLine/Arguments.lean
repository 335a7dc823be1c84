/-!
# Arguments of the program

The program is given the folder of a database, the file of a query and the file for its result,
either as three arguments or by a file of settings. An argument that starts with a dash and goes on
is a flag; behind two dashes alone no argument is.

* `Flag.ofArgument?`: the flag that an argument is.
* `Request.ofArguments`: what the arguments ask for. The first flag that asks for a text decides.
-/

namespace CsvQuery

/-- Where a run of the program finds its query and leaves its result. -/
structure Settings where
  /-- The folder of the database. -/
  folder : String
  /-- The file of the query. -/
  query : String
  /-- The file for the result. -/
  result : String
  deriving DecidableEq, Repr

/-- What the arguments of the program ask for. -/
inductive Request
  /-- An explanation of the arguments. -/
  | help
  | version
  /-- A run with settings from the arguments themselves. -/
  | run (s : Settings)
  /-- A run with settings from a file. -/
  | runWith (file : String)
  /-- The arguments make no sense. -/
  | misuse
  deriving DecidableEq, Repr

/-! ## Flags -/

/-- A flag. -/
inductive Flag
  | help
  | version
  /-- The file of settings. Without a name here, the next argument names it. -/
  | config (file : Option String)
  deriving DecidableEq, Repr

/-- Whether an argument is a flag, known or not. -/
def isFlag (arg : String) : Bool := arg.startsWith "-" && arg != "-"

/-- A text without the equals signs at its start. -/
def dropEquals (s : List Char) : String := String.ofList (s.dropWhile (· = '='))

/-- The flag of a letter and what follows it. -/
def Flag.ofLetter? : List Char → Option Flag
  | 'h' :: _ => some .help
  | 'V' :: _ => some .version
  | ['c'] => some (.config none)
  | 'c' :: file => some (.config (some (dropEquals file)))
  | _ => none

/-- The flag of a word and what follows it behind an equals sign. -/
def Flag.ofWord? (s : List Char) : Option Flag :=
  let name := s.takeWhile (· ≠ '=')
  match String.ofList name, s.drop name.length with
  | "help", _ => some .help
  | "version", _ => some .version
  | "config", [] => some (.config none)
  | "config", file => some (.config (some (dropEquals file)))
  | _, _ => none

/-- The flag that an argument is. A word may have any number of dashes before it, from two on. -/
def Flag.ofArgument? (arg : String) : Option Flag :=
  match arg.toList with
  | '-' :: '-' :: s => ofWord? (s.dropWhile (· = '-'))
  | '-' :: s => ofLetter? s
  | _ => none

/-! ## All arguments -/

/-- What the arguments so far have said. -/
structure Arguments where
  /-- The arguments that are no flags. -/
  places : List String
  /-- The files of settings, the last one first. Each may still have to be named. -/
  configs : List (Option String)

namespace Arguments

/-- Nothing said so far. -/
def none : Arguments := ⟨[], []⟩

/-- What the arguments ask for when there are no more of them. A file of settings makes all other
    arguments superfluous. -/
def request (a : Arguments) : Request :=
  match a.configs, a.places with
  | [some file], _ => .runWith file
  | [], [folder, query, result] => .run ⟨folder, query, result⟩
  | _, _ => .misuse

/-- The arguments with some more that are no flags, if there is room for them. -/
def addPlaces? (a : Arguments) (more : List String) : Option Arguments :=
  if a.places.length + more.length ≤ 3 then some { a with places := a.places ++ more } else .none

/-- The arguments with one more that is no flag. It names the last file of settings if that is still
    to be named. -/
def addText? (a : Arguments) (arg : String) : Option Arguments :=
  match a.configs with
  | .none :: others => some { a with configs := some arg :: others }
  | _ => a.addPlaces? [arg]

/-- What the arguments so far and the rest of them ask for. A flag leaves the file of settings
    before it without a name. -/
def read (a : Arguments) : List String → Request
  | [] => a.request
  | arg :: rest =>
    if arg = "--" then (a.addPlaces? rest).elim .misuse request
    else if isFlag arg then
      match Flag.ofArgument? arg with
      | some .help => .help
      | some .version => .version
      | some (.config file) => { a with configs := file :: a.configs }.read rest
      | .none => .misuse
    else
      match a.addText? arg with
      | some a' => a'.read rest
      | .none => .misuse

end Arguments

/-- What some arguments ask for. -/
def Request.ofArguments (args : List String) : Request := Arguments.none.read args

end CsvQuery
