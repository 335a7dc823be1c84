/-!
# Texts as bytes

* `Utf8.decode?`: the characters that some bytes are the UTF-8 form of. Each character has one
  form, its shortest, and surrogates have none.
-/

namespace CsvQuery.Utf8

/-- The six bits that a byte adds to a character, if it is one of the bytes after the first. -/
def bits? (b : UInt8) : Option Nat :=
  if 0x80 ≤ b && b < 0xC0 then some (b.toNat - 0x80) else none

/-- The character of a code point, if it is one and not below the least code point whose form
    has as many bytes. -/
def scalar? (least code : Nat) : Option Char :=
  if least ≤ code && decide code.isValidChar then some (Char.ofNat code) else none

/-- The character of two bytes. -/
def two? (a b : UInt8) : Option Char := do
  if 0xC0 ≤ a && a < 0xE0 then scalar? 0x80 ((a.toNat - 0xC0) * 64 + (← bits? b)) else none

/-- The character of three bytes. -/
def three? (a b c : UInt8) : Option Char := do
  if 0xE0 ≤ a && a < 0xF0 then
    scalar? 0x800 (((a.toNat - 0xE0) * 64 + (← bits? b)) * 64 + (← bits? c))
  else none

/-- The character of four bytes. -/
def four? (a b c d : UInt8) : Option Char := do
  if 0xF0 ≤ a && a < 0xF8 then
    scalar? 0x10000
      ((((a.toNat - 0xF0) * 64 + (← bits? b)) * 64 + (← bits? c)) * 64 + (← bits? d))
  else none

/-- The characters that some bytes are the UTF-8 form of. -/
def decode? : List UInt8 → Option (List Char)
  | [] => some []
  | a :: rest =>
    if a < 0x80 then (decode? rest).map (Char.ofNat a.toNat :: ·)
    else if a < 0xE0 then
      match rest with
      | b :: rest => do return (← two? a b) :: (← decode? rest)
      | _ => none
    else if a < 0xF0 then
      match rest with
      | b :: c :: rest => do return (← three? a b c) :: (← decode? rest)
      | _ => none
    else
      match rest with
      | b :: c :: d :: rest => do return (← four? a b c d) :: (← decode? rest)
      | _ => none

end CsvQuery.Utf8
