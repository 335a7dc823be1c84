import CsvQuery.Text.Letter

/-!
# Tokens of query texts

* `Token`: words, numbers, strings, symbols and placeholders.
* `Token.keyword`: the spelling of an unquoted word in capitals, by which reserved words are found.
* `Token.render`: a token as it is written.
-/

namespace CsvQuery.Sql

/-- The forms in which strings are written. -/
inductive StringForm
  | plain
  /-- With escapes by backslashes. -/
  | escaped
  | national
  | hex
  /-- Bytes, between quotation marks of one kind or the other. -/
  | bytes (mark : Char)
  | raw
  /-- Between dollar signs, with a tag between each pair of them. -/
  | dollar (tag : String)
  deriving DecidableEq, Repr

/-- A token. Blank characters and comments are none. -/
inductive Token
  /-- A name or a reserved word. A quoted one is a name. -/
  | word (text : String) (quoted : Bool)
  /-- A number, which may be marked as long. -/
  | number (text : String) (long : Bool)
  | string (form : StringForm) (text : String)
  /-- An operator or a punctuation mark. -/
  | symbol (text : String)
  | placeholder (text : String)
  /-- A character that starts no other token. -/
  | stray (c : Char)
  deriving DecidableEq, Repr

namespace Token

/-- The spelling of an unquoted word in capitals; empty for all other tokens. -/
def keyword : Token → String
  | word text false => capitals text
  | _ => ""

/-- A text between quotation marks. -/
def between (mark : Char) (text : String) : String :=
  String.singleton mark ++ text ++ String.singleton mark

/-- A token as it is written, without any escapes. -/
def render : Token → String
  | word text true => between '"' text
  | word text false => text
  | number text long => if long then text ++ "L" else text
  | string .plain text => between '\'' text
  | string .escaped text => "E" ++ between '\'' text
  | string .national text => "N" ++ between '\'' text
  | string .hex text => "X" ++ between '\'' text
  | string (.bytes mark) text => "B" ++ between mark text
  | string .raw text => "R" ++ between '\'' text
  | string (.dollar tag) text => "$" ++ tag ++ "$" ++ text ++ "$" ++ tag ++ "$"
  | symbol text => text
  | placeholder text => text
  | stray c => String.singleton c

end Token

end CsvQuery.Sql
