import CsvQuery.Text.Blank
import CsvQuery.Text.Utf8

/-!
# Files of comma-separated fields

The bytes of a file are split into records at line ends and records into fields at commas. A field
that starts with a quotation mark may hold both, up to the closing mark; a mark inside it is
written twice, and what stands between the closing mark and the next comma or line end belongs to
the field too. Lines without any byte hold no record, and the last line need not end.

* `split`: the fields of every record, as bytes.
* `Record`: a record as a text, if it is one, with the blank characters around each field cut off.
* `records`: the records of a file.
-/

namespace CsvQuery

/-- What the next byte of a file follows. -/
inductive Spot
  /-- The end of a record. -/
  | line
  /-- A comma. -/
  | comma
  /-- A part of a field, outside quotation marks. -/
  | bare
  /-- A part of a field, inside quotation marks. -/
  | quoted
  /-- A quotation mark inside quotation marks, which may be the closing one. -/
  | mark
  deriving DecidableEq

/-- The bytes of some special characters. -/
def byteOf (c : Char) : UInt8 := c.toNat.toUInt8

/-- Whether a byte ends a line. -/
def isLineEnd (b : UInt8) : Bool := b == byteOf '\n' || b == byteOf '\r'

/-- The records of the rest of a file, given where it starts and the part of a record before it:
    the field in the making and the fields before that one (both in reverse). -/
def splitFrom (spot : Spot) (field : List UInt8) (fields : List (List UInt8)) :
    List UInt8 → List (List (List UInt8))
  | [] => if spot = .line then [] else [(field.reverse :: fields).reverse]
  | b :: rest =>
    if spot = .line ∧ isLineEnd b then splitFrom .line [] [] rest
    else if (spot = .line ∨ spot = .comma) ∧ b = byteOf '"' then splitFrom .quoted [] fields rest
    else if spot = .quoted then
      if b = byteOf '"' then splitFrom .mark field fields rest
      else splitFrom .quoted (b :: field) fields rest
    else if spot = .mark ∧ b = byteOf '"' then splitFrom .quoted (b :: field) fields rest
    else if b = byteOf ',' then splitFrom .comma [] (field.reverse :: fields) rest
    else if isLineEnd b then (field.reverse :: fields).reverse :: splitFrom .line [] [] rest
    else splitFrom .bare (b :: field) fields rest

/-- A file without the mark that may tell at its start that it holds UTF-8. -/
def dropMark : List UInt8 → List UInt8
  | 0xEF :: 0xBB :: 0xBF :: rest => rest
  | bytes => bytes

/-- The fields of every record of a file. -/
def split (bytes : List UInt8) : List (List (List UInt8)) := splitFrom .line [] [] (dropMark bytes)

/-- A record of a file. -/
inductive Record
  | fields (texts : List String)
  /-- Some field is not the UTF-8 form of a text. -/
  | garbled
  deriving DecidableEq, Repr

/-- The text of a field, without the blank characters around it. -/
def fieldText? (field : List UInt8) : Option String :=
  (Utf8.decode? field).map fun s => String.ofList (trim s)

/-- The record of some fields. -/
def Record.ofFields (fields : List (List UInt8)) : Record :=
  match fields.mapM fieldText? with
  | some texts => .fields texts
  | none => .garbled

/-- The records of a file. -/
def records (bytes : ByteArray) : List Record := (split bytes.data.toList).map Record.ofFields

end CsvQuery
