import CsvQuery.Decimal

/-!
# Numerals

A text *spells* an integer if it has one or more decimal digits and nothing
else but a sign before them (`Decimal.Spells`). Leading zeros and the sign of
zero do not matter, so an integer has many spellings; the shortest one is what
is written, and it is read back.

* `Decimal.read?_eq_some`: the integer that is read is the one that is spelled.
* `Decimal.word?_eq_some`: the same for values of 32 bits.
* `Decimal.word?_write`: what is written of a value is read as that value.
-/

namespace CsvQuery.Decimal

/-- A text of one or more decimal digits. -/
def IsNumeral (s : List Char) : Prop := s ≠ [] ∧ ∀ c ∈ s, '0' ≤ c ∧ c ≤ '9'

/-- A text spells an integer: it is a numeral, maybe with a sign before it. -/
inductive Spells : List Char → Int → Prop
  | unsigned {digits : List Char} (h : IsNumeral digits) : Spells digits (value digits)
  | plus {digits : List Char} (h : IsNumeral digits) : Spells ('+' :: digits) (value digits)
  | minus {digits : List Char} (h : IsNumeral digits) : Spells ('-' :: digits) (-value digits)

variable {s : List Char}

@[simp] theorem isDigit_iff {c : Char} : isDigit c = true ↔ '0' ≤ c ∧ c ≤ '9' := by
  rw [isDigit, Bool.and_eq_true, decide_eq_true_eq, decide_eq_true_eq]

/-! ## Reading -/

theorem natural?_eq_some {n : Nat} : natural? s = some n ↔ IsNumeral s ∧ value s = n := by
  have hnumeral : (!s.isEmpty && s.all isDigit) = true ↔ IsNumeral s := by
    simp [IsNumeral, List.all_eq_true]
  rw [natural?]
  split <;> rename_i h <;> rw [hnumeral] at h <;> simp [h]

/-- A numeral does not start with a sign. -/
theorem IsNumeral.head_ne {c : Char} (h : IsNumeral (c :: s)) : c ≠ '-' ∧ c ≠ '+' := by
  have hc := h.2 c List.mem_cons_self
  constructor <;> rintro rfl <;> revert hc <;> decide

theorem read?_of_isNumeral (h : IsNumeral s) : read? s = some (value s : Int) := by
  have hs : natural? s = some (value s) := natural?_eq_some.2 ⟨h, rfl⟩
  cases s with
  | nil => exact absurd rfl h.1
  | cons c rest =>
    obtain ⟨hminus, hplus⟩ := h.head_ne
    simp [read?, hminus, hplus, hs]

/-- The integer that is read of a text is the one that the text spells. -/
theorem read?_eq_some {n : Int} : read? s = some n ↔ Spells s n := by
  constructor
  · intro h
    -- The three forms of a text are a minus, a plus and no sign.
    unfold read? at h
    split at h <;> simp only [Option.map_eq_some_iff, Option.bind_eq_bind, Option.pure_def,
      Option.bind_eq_some_iff, Option.some.injEq] at h <;>
      obtain ⟨_, ⟨m, hm, rfl⟩, rfl⟩ := h <;> obtain ⟨hd, rfl⟩ := natural?_eq_some.1 hm
    · exact .minus hd
    · exact .plus hd
    · exact .unsigned hd
  · intro h
    cases h with
    | unsigned hd => exact read?_of_isNumeral hd
    | plus hd => simp [read?, natural?_eq_some.2 ⟨hd, rfl⟩]
    | minus hd => simp [read?, natural?_eq_some.2 ⟨hd, rfl⟩]

theorem fit?_eq_some {n : Int} {v : Int32} : fit? n = some v ↔ v.toInt = n := by
  rw [fit?]
  constructor
  · intro h
    split at h
    · rename_i hfits
      rw [Bool.and_eq_true, decide_eq_true_eq, decide_eq_true_eq, Int32.toInt_minValue,
        Int32.toInt_maxValue] at hfits
      rw [← Option.some.inj h]
      exact Int32.toInt_ofInt_of_le hfits.1 (Int.lt_of_le_sub_one hfits.2)
    · cases h
  · rintro rfl
    rw [decide_eq_true v.minValue_le_toInt, decide_eq_true v.toInt_le, Bool.and_self, if_pos rfl,
      Int32.ofInt_toInt]

/-- The value that is read of a text is the one that the text spells. -/
theorem word?_eq_some {v : Int32} : word? s = some v ↔ Spells s v.toInt := by
  rw [word?, Option.bind_eq_some_iff]
  constructor
  · rintro ⟨n, hn, hv⟩
    rw [fit?_eq_some.1 hv]
    exact read?_eq_some.1 hn
  · exact fun h => ⟨v.toInt, read?_eq_some.2 h, fit?_eq_some.2 rfl⟩

/-! ## Writing -/

theorem isNumeral_toDigits (n : Nat) : IsNumeral (Nat.toDigits 10 n) := by
  refine ⟨Nat.toDigits_ne_nil, fun c hc => ?_⟩
  have hdigit := Nat.isDigit_of_mem_toDigits (by decide) (by decide) hc
  rw [Char.isDigit, Bool.and_eq_true, decide_eq_true_eq, decide_eq_true_eq] at hdigit
  exact hdigit

theorem value_toDigits (n : Nat) : value (Nat.toDigits 10 n) = n := by
  rw [value, ← Nat.ofDigitChars_eq_foldl]
  exact Nat.ofDigitChars_toDigits (by decide) (by decide)

/-- No zero is written before other digits. -/
theorem head?_toDigits {n : Nat} (h : n ≠ 0) : (Nat.toDigits 10 n).head? ≠ some '0' := by
  induction n using Nat.strongRecOn with
  | ind n ih =>
    rcases Nat.lt_or_ge n 10 with hlt | hge
    · rwa [Nat.toDigits_of_lt_base hlt, List.head?_cons, ne_eq, Option.some.injEq,
        Nat.digitChar_eq_zero]
    -- The first digit of a longer numeral is that of the number without its last digit.
    · have hfirst := ih (n / 10) (by omega) (by omega)
      obtain ⟨c, digits, hdigits⟩ := List.exists_cons_of_ne_nil (Nat.toDigits_ne_nil (n := n / 10))
      rw [Nat.toDigits_of_base_le (by decide) hge, hdigits]
      rwa [hdigits] at hfirst

/-- What is written of an integer spells it. -/
theorem spells_write (n : Int) : Spells (write n) n := by
  cases n with
  | ofNat n =>
    have h := Spells.unsigned (isNumeral_toDigits n)
    rwa [value_toDigits] at h
  | negSucc n =>
    have h := Spells.minus (isNumeral_toDigits (n + 1))
    rwa [value_toDigits] at h

/-- What is written of a value is read as that value. -/
theorem word?_write (v : Int32) : word? (write v.toInt) = some v :=
  word?_eq_some.2 (spells_write v.toInt)

end CsvQuery.Decimal
