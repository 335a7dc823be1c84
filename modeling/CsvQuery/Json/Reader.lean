import CsvQuery.Json

/-!
# Reading JSON

The reader follows the grammar of the format, with the four blank characters of the format between
values. Every reader takes the characters from where it starts and gives what it has read together
with the characters behind it.

* `Json.value?`: the value at the start of a text.
* `Json.parse?`: the value that is the whole of a text.
-/

namespace CsvQuery.Json

/-- Whether a character may stand between values. -/
def isSpace (c : Char) : Bool := c == ' ' || c == '\n' || c == '\t' || c == '\r'

/-- A text without the blank characters at its start. -/
def skip (s : List Char) : List Char := s.dropWhile isSpace

/-! ## Strings -/

/-- The value of a hexadecimal digit. -/
def hexDigit? (c : Char) : Option Nat :=
  if '0' ≤ c ∧ c ≤ '9' then some (c.toNat - '0'.toNat)
  else if 'a' ≤ c ∧ c ≤ 'f' then some (c.toNat - 'a'.toNat + 10)
  else if 'A' ≤ c ∧ c ≤ 'F' then some (c.toNat - 'A'.toNat + 10)
  else none

/-- The number written by four hexadecimal digits. -/
def hex? (a b c d : Char) : Option Nat := do
  return (((← hexDigit? a) * 16 + (← hexDigit? b)) * 16 + (← hexDigit? c)) * 16 + (← hexDigit? d)

/-- The character that a letter after a backslash stands for. -/
def escaped? : Char → Option Char
  | '"' => some '"'
  | '\\' => some '\\'
  | '/' => some '/'
  | 'b' => some '\x08'
  | 'f' => some '\x0c'
  | 'n' => some '\n'
  | 'r' => some '\r'
  | 't' => some '\t'
  | _ => none

/-- The pieces of a string up to its closing quotation mark. -/
def pieces? : List Char → Option (List Piece × List Char)
  | '"' :: rest => some ([], rest)
  | '\\' :: 'u' :: a :: b :: c :: d :: rest => do
    let code ← hex? a b c d
    let (ps, rest) ← pieces? rest
    return (.unit code :: ps, rest)
  | '\\' :: e :: rest => do
    let c ← escaped? e
    let (ps, rest) ← pieces? rest
    return (.char c :: ps, rest)
  | c :: rest =>
    if c.toNat < 0x20 ∨ c = '\\' then none
    else do
      let (ps, rest) ← pieces? rest
      return (.char c :: ps, rest)
  | [] => none

/-! ## Numbers -/

/-- One or more digits. -/
def digits? (s : List Char) : Option (List Char × List Char) :=
  match s.takeWhile Decimal.isDigit with
  | [] => none
  | ds => some (ds, s.drop ds.length)

/-- The digits before the point of a number. Zero has no digit behind it. -/
def whole? : List Char → Option (List Char × List Char)
  | '0' :: rest => if (rest.takeWhile Decimal.isDigit).isEmpty then some (['0'], rest) else none
  | s => digits? s

/-- The point of a number and the digits after it, if there is a point. -/
def fraction? : List Char → Option (List Char × List Char)
  | '.' :: rest => (digits? rest).map fun (ds, rest) => ('.' :: ds, rest)
  | s => some ([], s)

/-- The sign of an exponent, if there is one. -/
def sign : List Char → List Char × List Char
  | '+' :: rest => (['+'], rest)
  | '-' :: rest => (['-'], rest)
  | s => ([], s)

/-- The exponent of a number, if there is one. -/
def exponent? : List Char → Option (List Char × List Char)
  | e :: rest =>
    if e = 'e' ∨ e = 'E' then
      (digits? (sign rest).2).map fun (ds, rest') => (e :: (sign rest).1 ++ ds, rest')
    else some ([], e :: rest)
  | [] => some ([], [])

/-- A number, as it is written. -/
def number? (s : List Char) : Option (List Char × List Char) := do
  let (minus, s) := match s with
    | '-' :: rest => (['-'], rest)
    | s => ([], s)
  let (whole, s) ← whole? s
  let (fraction, s) ← fraction? s
  let (exponent, s) ← exponent? s
  return (minus ++ whole ++ fraction ++ exponent, s)

/-! ## Values -/

/-- What follows a value inside brackets: a comma, or the closing bracket. -/
inductive Follow
  | comma
  | close

/-- Reads a comma or the closing bracket. -/
def follow? (closing : Char) (s : List Char) : Option (Follow × List Char) :=
  match skip s with
  | c :: rest =>
    if c = ',' then some (.comma, rest) else if c = closing then some (.close, rest) else none
  | [] => none

/-- The text behind a character, if that comes first. -/
def expect? (expected : Char) (s : List Char) : Option (List Char) :=
  match skip s with
  | c :: rest => if c = expected then some rest else none
  | [] => none

mutual

/-- The value at the start of a text. Each step into brackets and each further member costs one
    unit of `fuel`, and no text has more of these than characters. -/
def value? : (fuel : Nat) → List Char → Option (Json × List Char)
  | 0, _ => none
  | fuel + 1, s =>
    match skip s with
    | '"' :: rest => (pieces? rest).map fun (ps, rest) => (string ps, rest)
    | '[' :: rest =>
      match expect? ']' rest with
      | some rest => some (array [], rest)
      | none => (members? fuel rest).map fun (js, rest) => (array js, rest)
    | '\x7b' :: rest =>
      match expect? '\x7d' rest with
      | some rest => some (object [], rest)
      | none => (fieldsIn? fuel rest).map fun (fs, rest) => (object fs, rest)
    | 'n' :: 'u' :: 'l' :: 'l' :: rest => some (null, rest)
    | 't' :: 'r' :: 'u' :: 'e' :: rest => some (bool true, rest)
    | 'f' :: 'a' :: 'l' :: 's' :: 'e' :: rest => some (bool false, rest)
    | s => (number? s).map fun (n, rest) => (number n, rest)

/-- The members of an array up to its closing bracket. -/
def members? : (fuel : Nat) → List Char → Option (List Json × List Char)
  | 0, _ => none
  | fuel + 1, s => do
    let (j, s) ← value? fuel s
    match ← follow? ']' s with
    | (.close, s) => return ([j], s)
    | (.comma, s) =>
      let (js, s) ← members? fuel s
      return (j :: js, s)

/-- The fields of an object up to its closing bracket. -/
def fieldsIn? : (fuel : Nat) → List Char → Option (List (List Piece × Json) × List Char)
  | 0, _ => none
  | fuel + 1, s => do
    match skip s with
    | '"' :: s =>
      let (name, s) ← pieces? s
      let s ← expect? ':' s
      let (j, s) ← value? fuel s
      match ← follow? '\x7d' s with
      | (.close, s) => return ([(name, j)], s)
      | (.comma, s) =>
        let (fs, s) ← fieldsIn? fuel s
        return ((name, j) :: fs, s)
    | _ => none

end

/-- The value that is the whole of a text. -/
def parse? (s : String) : Option Json :=
  match value? (2 * s.length + 2) s.toList with
  | some (j, rest) => if (skip rest).isEmpty then some j else none
  | none => none

end CsvQuery.Json
