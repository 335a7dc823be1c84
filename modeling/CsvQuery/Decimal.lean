/-!
# Decimal integers

Integers as they are written in files, in queries and in results.

* `Decimal.write`: the shortest decimal text, with a minus sign when negative.
* `Decimal.read?`: the integer that a text of decimal digits stands for. A sign of either kind may
  come first.
* `Decimal.word?`: the same, for the integers that a value of a table can be.
-/

namespace CsvQuery.Decimal

/-- The decimal text of an integer. -/
def write : Int → List Char
  | .ofNat n => Nat.toDigits 10 n
  | .negSucc n => '-' :: Nat.toDigits 10 (n + 1)

/-- The decimal text of a value. -/
def text (n : Int32) : String := String.ofList (write n.toInt)

/-- Whether a character is one of the ten decimal digits. -/
def isDigit (c : Char) : Bool := '0' ≤ c && c ≤ '9'

/-- The number that digits, most significant first, stand for. -/
def value (digits : List Char) : Nat :=
  digits.foldl (fun n c => 10 * n + (c.toNat - '0'.toNat)) 0

/-- The number written by one or more digits. -/
def natural? (s : List Char) : Option Nat :=
  if !s.isEmpty && s.all isDigit then some (value s) else none

/-- The integer written by an optional sign and one or more digits. -/
def read? : List Char → Option Int
  | '-' :: digits => (natural? digits).map fun n => -(n : Int)
  | '+' :: digits => (natural? digits).map fun n => (n : Int)
  | digits => (natural? digits).map fun n => (n : Int)

/-- An integer as a value of 32 bits, if it is one. -/
def fit? (n : Int) : Option Int32 :=
  if Int32.minValue.toInt ≤ n && n ≤ Int32.maxValue.toInt then some (Int32.ofInt n) else none

/-- The value written by a text. -/
def word? (s : List Char) : Option Int32 := (read? s).bind fit?

end CsvQuery.Decimal
