import CsvQuery.Decimal

/-!
# Values of expressions

Tables hold integers only. Expressions may also hold texts, which can be compared with one another.
-/

namespace CsvQuery

/-- What a scalar expression stands for. -/
inductive Value
  /-- An integer of 32 bits. -/
  | int (n : Int32)
  /-- A text. -/
  | text (s : String)
  deriving DecidableEq, Repr

/-- The integer, if the value is one. -/
def Value.int? : Value → Option Int32
  | .int n => some n
  | .text _ => none

/-- A value as messages show it: a text stands between single quotes, as it is. -/
def Value.render : Value → String
  | .int n => Decimal.text n
  | .text s => "'" ++ s ++ "'"

end CsvQuery
