import CsvQuery.Proofs.Decimal
import CsvQuery.Proofs.Resolution
import Mathlib.Data.List.TakeWhile

/-!
# Integers in query texts

The decimal text of an integer is one expression: a number, behind a minus sign
if the integer is negative. The number has to be a value by itself, before the
sign counts. So a query can hold every integer that a data file can hold, with
the same text, but for one: the least value is the negative of a number that is
no value (`Sample.least_rejected`).

* `Sql.tokens?_of_isNumeral`, `Sql.tokens?_minus`: the tokens of such a text.
* `Sql.Term.ofText?_toDigits`, `Sql.Term.ofText?_minus`: its expression.
* `Sql.Scope.expr_write`: the literal that it stands for.
-/

namespace CsvQuery

open Decimal (IsNumeral)

namespace Decimal

/-- What is written of an integer is read as that integer, if it is a value. -/
theorem word?_write_eq (n : Int) : word? (write n) =
    if Int32.minValue.toInt ≤ n ∧ n ≤ Int32.maxValue.toInt then some (Int32.ofInt n) else none := by
  rw [word?, read?_eq_some.2 (spells_write n), Option.bind_some, fit?]
  simp only [Bool.and_eq_true, decide_eq_true_eq]

theorem word?_toDigits (n : Nat) : word? (Nat.toDigits 10 n) =
    if (n : Int) ≤ Int32.maxValue.toInt then some (Int32.ofInt n) else none := by
  have hmin : Int32.minValue.toInt ≤ n := by
    rw [Int32.toInt_minValue]
    omega
  have hword := word?_write_eq n
  simp only [and_iff_right hmin] at hword
  exact hword

end Decimal

/-- A field of a data file is read as the integer that it is written for, if this is a value. -/
theorem Table.values_write (t : Table) (column : String) (n : Int) :
    t.values [(column, String.ofList (Decimal.write n))] =
      if Int32.minValue.toInt ≤ n ∧ n ≤ Int32.maxValue.toInt then .ok [Int32.ofInt n]
      else .error (.notInteger t.name column (String.ofList (Decimal.write n))) := by
  rw [values, String.toList_ofList, Decimal.word?_write_eq]
  by_cases h : Int32.minValue.toInt ≤ n ∧ n ≤ Int32.maxValue.toInt
  · rw [if_pos h, if_pos h]
    rfl
  · rw [if_neg h, if_neg h]

namespace Sql

/-! ## Tokens -/

section
variable {c : Char} {s digits : List Char}

theorem nextToken?_of_isDigit (hc : Decimal.isDigit c = true) :
    nextToken? (c :: s) = some (number (c :: s)) := by
  rw [nextToken?.eq_def]
  split <;> simp_all [Decimal.isDigit]

theorem number_of_isNumeral (h : IsNumeral digits) :
    number digits = ([.number (String.ofList digits) false], []) := by
  have hdigits : ∀ c ∈ digits, Decimal.isDigit c = true := fun c hc =>
    Decimal.isDigit_iff.2 (h.2 c hc)
  have htake : digits.takeWhile Decimal.isDigit = digits := List.takeWhile_eq_self_iff.2 hdigits
  have hdrop : digits.dropWhile Decimal.isDigit = [] := List.dropWhile_eq_nil_iff.2 hdigits
  have hpoint : digits ≠ ['.'] := by
    rintro rfl
    exact absurd (hdigits '.' List.mem_cons_self) (by decide)
  have hnumber : number digits = numberToken digits := by
    rw [number.eq_def, hdrop]
    split
    · rename_i hrest
      cases hrest
    · rfl
  rw [hnumber, numberToken, hdrop, htake]
  simp [point, exponent, hpoint]

/-- A minus sign before a digit starts neither a comment nor an arrow. -/
theorem nextToken?_minus (hc : Decimal.isDigit c = true) :
    nextToken? ('-' :: c :: s) = some ([.symbol "-"], c :: s) := by
  have hcomment : c ≠ '-' := by
    rintro rfl
    revert hc
    decide
  have harrow : '>' ≠ c := by
    rintro rfl
    revert hc
    decide
  have hlong : symbolAmong? longSymbols ('-' :: c :: s) = none := by
    simp [symbolAmong?, longSymbols, dropStart?, harrow]
  have hword : isWordStart '-' = false := by decide
  simp [nextToken?, hcomment, hlong, hword, shortSymbols]

theorem tokensFrom?_nil (fuel : Nat) : tokensFrom? fuel [] = some [] := by
  cases fuel <;> rfl

theorem tokensFrom?_cons {found : List Token} {rest : List Char}
    (h : nextToken? (c :: s) = some (found, rest)) (fuel : Nat) :
    tokensFrom? (fuel + 1) (c :: s) = (tokensFrom? fuel rest).map (found ++ ·) := by
  rw [tokensFrom?, h]
  · cases htokens : tokensFrom? fuel rest <;> simp [htokens]
  · exact nofun

theorem tokensFrom?_of_isNumeral (h : IsNumeral digits) (fuel : Nat) :
    tokensFrom? (fuel + 1) digits = some [.number (String.ofList digits) false] := by
  obtain ⟨c, s, rfl⟩ := List.exists_cons_of_ne_nil h.1
  have hc : Decimal.isDigit c = true := Decimal.isDigit_iff.2 (h.2 c List.mem_cons_self)
  have hnext : nextToken? (c :: s) = some ([.number (String.ofList (c :: s)) false], []) := by
    rw [nextToken?_of_isDigit hc, number_of_isNumeral h]
  rw [tokensFrom?_cons hnext, tokensFrom?_nil]
  rfl

/-- A numeral is one token. -/
theorem tokens?_of_isNumeral (h : IsNumeral digits) :
    tokens? (String.ofList digits) = some [.number (String.ofList digits) false] := by
  obtain ⟨c, s, rfl⟩ := List.exists_cons_of_ne_nil h.1
  rw [tokens?, String.length_ofList, String.toList_ofList]
  exact tokensFrom?_of_isNumeral h s.length

/-- A numeral behind a minus sign is two tokens. -/
theorem tokens?_minus (h : IsNumeral digits) : tokens? (String.ofList ('-' :: digits)) =
    some [.symbol "-", .number (String.ofList digits) false] := by
  obtain ⟨c, s, rfl⟩ := List.exists_cons_of_ne_nil h.1
  have hc : Decimal.isDigit c = true := Decimal.isDigit_iff.2 (h.2 c List.mem_cons_self)
  rw [tokens?, String.length_ofList, String.toList_ofList, List.length_cons,
    tokensFrom?_cons (nextToken?_minus hc), List.length_cons, tokensFrom?_of_isNumeral h]
  rfl

end

/-! ## Expressions -/

/-- The expression that a text consists of. -/
def Term.ofText? (text : String) : Option Term := do
  let tokens ← tokens? text
  let parsed := (Grammar.upTo (Grammar.fuelFor tokens)).term.run ⟨tokens, levelLimit⟩
  if parsed.2.tokens.isEmpty then parsed.1 else none

theorem Term.ofText?_toDigits (n : Nat) : ofText? (String.ofList (Nat.toDigits 10 n)) =
    some (.number (String.ofList (Nat.toDigits 10 n)) false) := by
  rw [ofText?, tokens?_of_isNumeral (Decimal.isNumeral_toDigits n)]
  rfl

theorem Term.ofText?_minus (n : Nat) : ofText? (String.ofList ('-' :: Nat.toDigits 10 n)) =
    some (.signed .minus (.number (String.ofList (Nat.toDigits 10 n)) false)) := by
  rw [ofText?, tokens?_minus (Decimal.isNumeral_toDigits n)]
  rfl

namespace Scope

variable {s : Scope}

theorem expr_number (n : Nat) (long : Bool) :
    s.expr (.number (String.ofList (Nat.toDigits 10 n)) long) =
      if (n : Int) ≤ Int32.maxValue.toInt then .ok (.literal (.int (Int32.ofInt n)))
      else reject (.literal (String.ofList (Nat.toDigits 10 n))) := by
  rw [expr, String.toList_ofList, Decimal.word?_toDigits]
  by_cases h : (n : Int) ≤ Int32.maxValue.toInt
  · rw [if_pos h, if_pos h]
  · rw [if_neg h, if_neg h]

/-- A number behind a minus sign has to be a value itself. -/
theorem expr_minus_number (n : Nat) (long : Bool) :
    s.expr (.signed .minus (.number (String.ofList (Nat.toDigits 10 n)) long)) =
      if (n : Int) ≤ Int32.maxValue.toInt then .ok (.literal (.int (Int32.ofInt (-n))))
      else reject (.literal (String.ofList (Nat.toDigits 10 n))) := by
  rw [expr, expr_number]
  by_cases h : (n : Int) ≤ Int32.maxValue.toInt
  · rw [if_pos h, if_pos h, Int32.ofInt_neg]
    rfl
  · rw [if_neg h, if_neg h]
    rfl

/-- The decimal text of an integer is an expression. It is resolved to the integer if this is a
    value other than the least one, and rejected otherwise; as a field of a data file, it is read
    as the integer if this is a value. -/
theorem expr_write (s : Scope) (n : Int) :
    (∃ e, Term.ofText? (String.ofList (Decimal.write n)) = some e ∧
      s.expr e =
        if Int32.minValue.toInt < n ∧ n ≤ Int32.maxValue.toInt then
          .ok (.literal (.int (Int32.ofInt n)))
        else reject (.literal (String.ofList (Nat.toDigits 10 n.natAbs)))) ∧
    ∀ (t : Table) (column : String),
      t.values [(column, String.ofList (Decimal.write n))] =
        if Int32.minValue.toInt ≤ n ∧ n ≤ Int32.maxValue.toInt then .ok [Int32.ofInt n]
        else .error (.notInteger t.name column (String.ofList (Decimal.write n))) := by
  have hmin : Int32.minValue.toInt = -2147483648 := Int32.toInt_minValue
  have hmax : Int32.maxValue.toInt = 2147483647 := Int32.toInt_maxValue
  refine ⟨?_, fun t column => t.values_write column n⟩
  cases n with
  | ofNat n =>
    have hvalue : Int32.minValue.toInt < Int.ofNat n ∧ Int.ofNat n ≤ Int32.maxValue.toInt ↔
        (n : Int) ≤ Int32.maxValue.toInt := by
      rw [Int.ofNat_eq_natCast]
      omega
    refine ⟨_, Term.ofText?_toDigits n, ?_⟩
    simp only [hvalue]
    exact expr_number n false
  | negSucc n =>
    have hvalue : Int32.minValue.toInt < Int.negSucc n ∧ Int.negSucc n ≤ Int32.maxValue.toInt ↔
        ((n + 1 : Nat) : Int) ≤ Int32.maxValue.toInt := by
      omega
    refine ⟨_, Term.ofText?_minus (n + 1), ?_⟩
    simp only [hvalue]
    exact expr_minus_number (n + 1) false

end Scope

end Sql

namespace Sample

/-- The least value can stand in a data file, but not in a query. -/
theorem least_rejected :
    Int32.minValue.toInt = -2147483648 ∧
    String.ofList (Decimal.write (-2147483648)) = "-2147483648" ∧
    Table.values ⟨"R", ["a", "b"], "db/data/R.csv"⟩ [("a", "-2147483648"), ("b", "2")] =
      .ok [Int32.minValue, 2] ∧
    Sql.Term.ofText? "-2147483648" = some (.signed .minus (.number "2147483648" false)) ∧
    Sql.Scope.expr ⟨catalog, ["R"]⟩ (.signed .minus (.number "2147483648" false)) =
      .error (.rejected (.literal "2147483648")) ∧
    Statement.ofText catalog "SELECT * FROM R WHERE a = -2147483648" =
      .error (.rejected (.literal "2147483648")) ∧
    (QueryError.rejected (.literal "2147483648")).kind = .validation := by
  refine ⟨?_, ?_, ?_, ?_, ?_, ?_, rfl⟩ <;> decide +kernel

end Sample

end CsvQuery
