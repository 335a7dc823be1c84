import CsvQuery.Decimal

/-!
# JSON values

A JSON value keeps what is written: the text of numbers, the order and repetition of the fields of
objects, and the escaped code units of strings, which need not add up to characters.

* `Json`: the values.
* `Json.string?`: the text of a string whose code units do add up.
* `Json.fields?`, `Json.variant?`: the two forms in which records and alternatives are stored.
* `Json.render`: the compact text of a value.
-/

namespace CsvQuery

/-- A piece of a string. -/
inductive Piece
  | char (c : Char)
  /-- A UTF-16 code unit, written by its four hexadecimal digits. -/
  | unit (code : Nat)
  deriving DecidableEq, Repr

/-- The characters that pieces stand for. Two code units that are surrogates of one character go
    together, and no surrogate may stand alone. -/
def Piece.decode? : List Piece → Option (List Char)
  | [] => some []
  | char c :: rest => (decode? rest).map (c :: ·)
  | unit lead :: rest =>
    if lead < 0xD800 ∨ 0xE000 ≤ lead then (decode? rest).map (Char.ofNat lead :: ·)
    else match rest with
      | unit trail :: rest =>
        if lead < 0xDC00 ∧ 0xDC00 ≤ trail ∧ trail < 0xE000 then
          (decode? rest).map
            (Char.ofNat (0x10000 + (lead - 0xD800) * 0x400 + (trail - 0xDC00)) :: ·)
        else none
      | _ => none

/-- A JSON value. -/
inductive Json
  | null
  | bool (b : Bool)
  /-- A number, as it is written. -/
  | number (digits : List Char)
  | string (pieces : List Piece)
  | array (items : List Json)
  | object (fields : List (List Piece × Json))
  deriving Repr

namespace Json

/-- A string of a text. -/
def ofString (s : String) : Json := string (s.toList.map .char)

/-- A number with the text of an integer. -/
def ofInt (n : Int) : Json := number (Decimal.write n)

/-- An object with fields of the given names. -/
def ofFields (fields : List (String × Json)) : Json :=
  object (fields.map fun (name, v) => (name.toList.map .char, v))

/-- The text of a name or a string. -/
def text? (pieces : List Piece) : Option String := (Piece.decode? pieces).map String.ofList

/-- The text of a string. -/
def string? : Json → Option String
  | string pieces => text? pieces
  | _ => none

/-- The truth value of one. -/
def bool? : Json → Option Bool
  | bool b => some b
  | _ => none

/-- The items of an array. -/
def items? : Json → Option (List Json)
  | array items => some items
  | _ => none

/-- The 32-bit value of a number that is written as an integer. There is no negative zero. -/
def int32? : Json → Option Int32
  | number ['-', '0'] => none
  | number digits => Decimal.word? digits
  | _ => none

/-- A value that may be absent, which is written as null. -/
def optional? {α : Type} (f : Json → Option α) : Json → Option (Option α)
  | null => some none
  | v => (f v).map some

/-- The values of a name among fields, in order. -/
def valuesOf (name : String) (fields : List (String × Json)) : List Json :=
  (fields.filter (·.1 == name)).map (·.2)

/-- The value of a name among fields, if any. A name that is there twice is an error. -/
def valueOf? (fields : List (String × Json)) (name : String) : Option (Option Json) :=
  match valuesOf name fields with
  | [] => some none
  | [v] => some (some v)
  | _ => none

/-- The fields of a record, each if it is there. A record is stored as an object, whose fields of
    other names do not count, or as an array of the fields in order, of which at most those after
    the first `least` may be missing. -/
def fields? (names : List String) (least : Nat) : Json → Option (List (Option Json))
  | object fields => do
    let named ← fields.mapM fun (pieces, v) => (text? pieces).map (·, v)
    names.mapM (valueOf? named)
  | array items =>
    if least ≤ items.length ∧ items.length ≤ names.length then
      some (items.map some ++ List.replicate (names.length - items.length) none)
    else none
  | _ => none

/-- The name of an alternative and its content. It is stored as a string, without content, or as an
    object with one field. -/
def variant? : Json → Option (String × Option Json)
  | string pieces => (text? pieces).map (·, none)
  | object [(pieces, v)] => (text? pieces).map (·, some v)
  | _ => none

/-- The name of an alternative without content. -/
def plainVariant? (j : Json) : Option String :=
  match j.variant? with
  | some (name, none) | some (name, some null) => some name
  | _ => none

/-! ## Texts -/

/-- A hexadecimal text of four digits. -/
def hexText (n : Nat) : List Char :=
  let digits := Nat.toDigits 16 n
  List.replicate (4 - digits.length) '0' ++ digits

/-- A character inside a string: the quotation mark, the backslash and the control characters are
    escaped. -/
def charText (c : Char) : List Char :=
  match c with
  | '"' => ['\\', '"']
  | '\\' => ['\\', '\\']
  | '\x08' => ['\\', 'b']
  | '\x0c' => ['\\', 'f']
  | '\n' => ['\\', 'n']
  | '\r' => ['\\', 'r']
  | '\t' => ['\\', 't']
  | c => if c.toNat < 0x20 then ['\\', 'u'] ++ hexText c.toNat else [c]

/-- A piece of a string as it is written. -/
def pieceText : Piece → List Char
  | .char c => charText c
  | .unit code => ['\\', 'u'] ++ hexText code

/-- A string as it is written. -/
def stringText (pieces : List Piece) : List Char :=
  '"' :: pieces.flatMap pieceText ++ ['"']

/-- Texts with commas between them. -/
def commaText (texts : List (List Char)) : List Char := [','].intercalate texts

mutual

/-- The compact text of a value. -/
def chars : Json → List Char
  | null => "null".toList
  | bool true => "true".toList
  | bool false => "false".toList
  | number digits => digits
  | string pieces => stringText pieces
  | array items => '[' :: commaText (itemTexts items) ++ [']']
  | object fields => '\x7b' :: commaText (fieldTexts fields) ++ ['\x7d']

/-- The texts of some values. -/
def itemTexts : List Json → List (List Char)
  | [] => []
  | j :: rest => chars j :: itemTexts rest

/-- The texts of some fields. -/
def fieldTexts : List (List Piece × Json) → List (List Char)
  | [] => []
  | (name, j) :: rest => (stringText name ++ ':' :: chars j) :: fieldTexts rest

end

/-- The compact text of a value. -/
def render (j : Json) : String := String.ofList j.chars

end Json

end CsvQuery
