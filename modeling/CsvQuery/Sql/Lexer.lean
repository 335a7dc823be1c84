import CsvQuery.Sql.Token
import CsvQuery.Decimal
import CsvQuery.Text.Blank

/-!
# From query texts to tokens

The text is read from left to right; at each place the longest token that its first characters
allow is taken. A string, a quoted name or a comment that is not closed is an error, wherever it
stands.

* `nextToken?`: the token, if any, at the start of a text.
* `tokens?`: the tokens of a text.
-/

namespace CsvQuery.Sql

/-- What is read from the start of a text: the tokens, of which there is at most one, and the
    rest. -/
abbrev Lexed := List Token × List Char

/-! ## Words -/

/-- Whether a character may start a word. -/
def isWordStart (c : Char) : Bool := isLetter c || c == '_' || c == '#' || c == '@'

/-- Whether a character may go on a word. -/
def isWordPart (c : Char) : Bool :=
  isLetter c || Decimal.isDigit c || c == '@' || c == '$' || c == '#' || c == '_'

/-- The word of some first characters and the characters that go on it. -/
def word (first : List Char) (s : List Char) : Lexed :=
  ([.word (String.ofList (first ++ s.takeWhile isWordPart)) false], s.dropWhile isWordPart)

/-! ## Strings and comments -/

/-- The text up to a closing quotation mark. A mark that is written twice stands for itself. -/
def quotedText? (mark : Char) : List Char → Option (List Char × List Char)
  | [] => none
  | [c] => if c = mark then some ([], []) else none
  | c :: d :: rest =>
    if c ≠ mark then (quotedText? mark (d :: rest)).map fun (s, r) => (c :: s, r)
    else if d = mark then (quotedText? mark rest).map fun (s, r) => (c :: s, r)
    else some ([], d :: rest)

/-- What a letter after a backslash stands for. -/
def unescape : Char → Char
  | 'r' => '\r'
  | 'n' => '\n'
  | 't' => '\t'
  | c => c

/-- The text up to a closing quotation mark, with escapes by backslashes. -/
def escapedText? : List Char → Option (List Char × List Char)
  | [] => none
  | '\\' :: rest =>
    match rest with
    | [] => none
    | c :: rest => (escapedText? rest).map fun (s, r) => (unescape c :: s, r)
  | '\'' :: rest =>
    match rest with
    | '\'' :: rest => (escapedText? rest).map fun (s, r) => ('\'' :: s, r)
    | rest => some ([], rest)
  | c :: rest => (escapedText? rest).map fun (s, r) => (c :: s, r)

/-- The text behind a comment that stands between slashes and stars, given how many such comments
    are open and the character before. -/
def afterComment? (depth : Nat) (last : Char) : List Char → Option (List Char)
  | [] => none
  | c :: rest =>
    if last = '/' ∧ c = '*' then afterComment? (depth + 1) c rest
    else if last = '*' ∧ c = '/' then
      if depth ≤ 1 then some rest else afterComment? (depth - 1) c rest
    else afterComment? depth c rest

/-- The text between pairs of dollar signs, given whether the character before is a dollar sign. A
    dollar sign alone does not count, unless another character follows it. -/
def dollarText? (afterDollar : Bool) : List Char → Option (List Char × List Char)
  | [] => none
  | c :: rest =>
    if afterDollar then
      if c = '$' then some ([], rest)
      else (dollarText? false rest).map fun (s, r) => ('$' :: c :: s, r)
    else if c = '$' then dollarText? true rest
    else (dollarText? false rest).map fun (s, r) => (c :: s, r)

/-- The rest of a text that starts with the given characters. -/
def dropStart? : List Char → List Char → Option (List Char)
  | [], s => some s
  | a :: as, c :: s => if a = c then dropStart? as s else none
  | _ :: _, [] => none

/-- Whether a character may be part of the name after a dollar sign. -/
def isTagPart (c : Char) : Bool := isLetter c || isNumeral c || c == '_'

/-- What follows a dollar sign: a string between dollar signs, or the name of a placeholder. -/
def afterDollar? (s : List Char) : Option Lexed :=
  match s with
  | '$' :: rest =>
    (dollarText? false rest).map fun (text, r) =>
      ([.string (.dollar "") (String.ofList text)], r)
  | s =>
    let tag := s.takeWhile isTagPart
    match s.dropWhile isTagPart with
    | '$' :: rest =>
      (dropStart? ('$' :: tag ++ ['$']) (rest.dropWhile (· != '$'))).map fun r =>
        ([.string (.dollar (String.ofList tag)) (String.ofList (rest.takeWhile (· != '$')))], r)
    | rest => some ([.placeholder (String.ofList ('$' :: tag))], rest)

/-- A string of a form up to its closing quotation mark. -/
def stringOf? (form : StringForm) (mark : Char) (s : List Char) : Option Lexed :=
  (quotedText? mark s).map fun (text, r) => ([.string form (String.ofList text)], r)

/-! ## Numbers -/

/-- Whether a character is a hexadecimal digit. -/
def isHexDigit (c : Char) : Bool :=
  Decimal.isDigit c || ('a' ≤ c && c ≤ 'f') || ('A' ≤ c && c ≤ 'F')

/-- The sign at the start of an exponent. -/
def exponentSign : List Char → List Char
  | '+' :: _ => ['+']
  | '-' :: _ => ['-']
  | _ => []

/-- The exponent at the start of a text. One without digits is none. -/
def exponent (s : List Char) : List Char :=
  match s with
  | [] => []
  | e :: rest =>
    let sign := exponentSign rest
    let digits := (rest.drop sign.length).takeWhile Decimal.isDigit
    if (e = 'e' ∨ e = 'E') ∧ !digits.isEmpty then e :: sign ++ digits else []

/-- The point at the start of a text, if there is one. -/
def point : List Char → List Char
  | '.' :: _ => ['.']
  | _ => []

/-- The number at the start of a text that starts with a digit or a point, or the point alone. -/
def numberToken (s : List Char) : Lexed :=
  let whole := s.takeWhile Decimal.isDigit
  let dot := point (s.dropWhile Decimal.isDigit)
  let behind := (s.dropWhile Decimal.isDigit).drop dot.length
  let text := whole ++ dot ++ behind.takeWhile Decimal.isDigit
  if text = ['.'] then ([.symbol "."], behind)
  else
    let rest := behind.dropWhile Decimal.isDigit
    let power := exponent rest
    match rest.drop power.length with
    | 'L' :: rest => ([.number (String.ofList (text ++ power)) true], rest)
    | rest => ([.number (String.ofList (text ++ power)) false], rest)

/-- The number at the start of a text, or the hexadecimal string that `0x` starts. -/
def number (s : List Char) : Lexed :=
  match s.takeWhile Decimal.isDigit, s.dropWhile Decimal.isDigit with
  | ['0'], 'x' :: rest =>
    ([.string .hex (String.ofList (rest.takeWhile isHexDigit))], rest.dropWhile isHexDigit)
  | _, _ => numberToken s

/-! ## Symbols -/

/-- The symbols that are more than one character long, each before those that it starts with. -/
def longSymbols : List String := [
  "->>", "->", "||/", "||", "|/", "=>", "!=", "!!", "!~*", "!~", "<=>", "<=", "<>", "<<",
  "<@", ">=", ">>", "::", ":=", "~*", "//", "&&", "#-", "#>>", "#>", "@>", "@?"]

/-- The symbols of one character. -/
def shortSymbols : List Char :=
  ['(', ')', ',', '-', '/', '+', '*', '%', '|', '=', '!', '<', '>', ':', ';', '\\', '[', ']', '&',
    '^', '\x7b', '\x7d', '~']

/-- The first of some symbols that a text starts with. -/
def symbolAmong? (symbols : List String) (s : List Char) : Option Lexed :=
  symbols.findSome? fun symbol =>
    (dropStart? symbol.toList s).map fun rest =>
      ([.symbol (if symbol = "!=" then "<>" else symbol)], rest)

/-- What a number sign or an at sign starts, if the symbols that it starts are not meant: a word
    with whatever character comes next, or the sign alone before a space and at the end. -/
def signed (sign : List Char) (s : List Char) : Lexed :=
  match s with
  | [] | ' ' :: _ => ([.symbol (String.ofList sign)], s)
  | c :: rest => word (sign ++ [c]) rest

/-! ## All tokens -/

/-- The token at the start of a text, or no token for blank characters and comments. -/
def nextToken? (s : List Char) : Option Lexed :=
  match s with
  | [] => none
  | '-' :: '-' :: rest => some ([], (rest.dropWhile (· != '\n')).drop 1)
  | '/' :: '*' :: rest => (afterComment? 1 ' ' rest).map fun r => ([], r)
  | 'b' :: '\'' :: rest | 'B' :: '\'' :: rest => stringOf? (.bytes '\'') '\'' rest
  | 'b' :: '"' :: rest | 'B' :: '"' :: rest => stringOf? (.bytes '"') '"' rest
  | 'r' :: '\'' :: rest | 'R' :: '\'' :: rest => stringOf? .raw '\'' rest
  | 'r' :: '"' :: rest | 'R' :: '"' :: rest => stringOf? .raw '"' rest
  | 'n' :: '\'' :: rest | 'N' :: '\'' :: rest => stringOf? .national '\'' rest
  | 'x' :: '\'' :: rest | 'X' :: '\'' :: rest => stringOf? .hex '\'' rest
  | 'e' :: '\'' :: rest | 'E' :: '\'' :: rest =>
    (escapedText? rest).map fun (text, r) => ([.string .escaped (String.ofList text)], r)
  | '\'' :: rest => stringOf? .plain '\'' rest
  | '"' :: rest =>
    (quotedText? '"' rest).map fun (text, r) => ([.word (String.ofList text) true], r)
  | '@' :: '@' :: rest => some (signed ['@', '@'] rest)
  | '$' :: rest => afterDollar? rest
  | '?' :: rest =>
    some ([.placeholder (String.ofList ('?' :: rest.takeWhile isNumeral))],
      rest.dropWhile isNumeral)
  | c :: rest =>
    if Decimal.isDigit c || c == '.' then some (number s)
    else match symbolAmong? longSymbols s with
      | some lexed => some lexed
      | none =>
        if c == '#' || c == '@' then some (signed [c] rest)
        else if isWordStart c then some (word [c] rest)
        else if shortSymbols.contains c then some ([.symbol (String.ofList [c])], rest)
        else if isBlank c then some ([], rest)
        else some ([.stray c], rest)

/-- The tokens of a text of at most `fuel` characters. -/
def tokensFrom? : (fuel : Nat) → List Char → Option (List Token)
  | _, [] => some []
  | 0, _ :: _ => none
  | fuel + 1, s => do
    let (found, rest) ← nextToken? s
    return found ++ (← tokensFrom? fuel rest)

/-- The tokens of a text. -/
def tokens? (text : String) : Option (List Token) := tokensFrom? text.length text.toList

end CsvQuery.Sql
