import CsvQuery.Text.CharClass

/-!
# Blank characters, words and lines

The blank characters are those with the Unicode property `White_Space`. They separate the words of
a line and are cut off both ends of a field.

* `isBlank`: the class itself.
* `trim`: a text without the blank characters at its ends.
* `words`: the maximal runs of characters that are not blank.
* `lines`: the pieces between line feeds, each without the carriage return before its line feed.
-/

namespace CsvQuery

/-- The characters with the Unicode property `White_Space`. -/
def CharClass.blank : CharClass where
  flips := [
    9, 14, 32, 33, 133, 134, 160, 161, 5760, 5761, 8192, 8203, 8232, 8234, 8239, 8240, 8287, 8288,
    12288, 12289]

/-- Whether a character is blank. -/
def isBlank (c : Char) : Bool := CharClass.blank.contains c

/-- A text without the blank characters at its start and its end. -/
def trim (s : List Char) : List Char :=
  ((s.dropWhile isBlank).reverse.dropWhile isBlank).reverse

/-- The words of a text whose characters read so far, since the last blank one, are `word`
    (in reverse). -/
def wordsFrom (word : List Char) : List Char → List (List Char)
  | [] => if word.isEmpty then [] else [word.reverse]
  | c :: rest =>
    if isBlank c then
      if word.isEmpty then wordsFrom [] rest else word.reverse :: wordsFrom [] rest
    else wordsFrom (c :: word) rest

/-- The maximal runs of characters that are not blank, in order. -/
def words (s : List Char) : List (List Char) := wordsFrom [] s

/-- A reversed line without the carriage return that precedes its line feed. -/
def dropReturn : List Char → List Char
  | '\r' :: rest => rest
  | line => line

/-- The lines of a text whose characters read so far, since the last line feed, are `line`
    (in reverse). -/
def linesFrom (line : List Char) : List Char → List (List Char)
  | [] => if line.isEmpty then [] else [line.reverse]
  | '\n' :: rest => (dropReturn line).reverse :: linesFrom [] rest
  | c :: rest => linesFrom (c :: line) rest

/-- The lines of a text. Each ends in a line feed, which may follow a carriage return; the line
    feed of the last one is optional. -/
def lines (s : List Char) : List (List Char) := linesFrom [] s

end CsvQuery
