import CsvQuery.Text.Utf8
import Mathlib.Tactic.SplitIfs

/-!
# The UTF-8 form of a text

Each character has a form of one to four bytes, and a text has the forms of its
characters one behind the other (`Utf8.encode`). Bytes can be read as a text
exactly if they are the form of one.

* `Utf8.two?_eq_some`, `Utf8.three?_eq_some`, `Utf8.four?_eq_some`: which
  character some bytes are read as.
* `Utf8.decode?_encodeChar`: reading goes on behind the form of a character.
* `Utf8.decode?_eq_some`: which text some bytes are read as.
-/

namespace CsvQuery.Utf8

/-- The UTF-8 form of a text. -/
def encode (s : List Char) : List UInt8 := s.flatMap String.utf8EncodeChar

@[simp] theorem encode_cons (x : Char) (s : List Char) :
    encode (x :: s) = String.utf8EncodeChar x ++ encode s := List.flatMap_cons

/-- The bytes of a text are its form. -/
theorem toList_toUTF8 (s : String) : s.toUTF8.data.toList = encode s.toList := by
  rw [String.toUTF8_eq_toByteArray, ← String.utf8Encode_toList]
  simp [List.utf8Encode, encode]

variable {a b c d : UInt8} {x : Char}

/-! ## The parts of one character -/

theorem bits?_eq_some {n : Nat} : bits? b = some n ↔ n < 64 ∧ b.toNat = 0x80 + n := by
  simp only [bits?, Bool.and_eq_true, decide_eq_true_eq, UInt8.le_iff_toNat_le,
    UInt8.lt_iff_toNat_lt, UInt8.reduceToNat, Option.ite_none_right_eq_some, Option.some.injEq]
  omega

theorem toNat_ofNat {n : Nat} (h : n.isValidChar) : (Char.ofNat n).toNat = n := by
  rw [Char.ofNat, dif_pos h]
  rfl

theorem scalar?_eq_some {least code : Nat} :
    scalar? least code = some x ↔ least ≤ code ∧ x.toNat = code := by
  simp only [scalar?, Bool.and_eq_true, decide_eq_true_eq, Option.ite_none_right_eq_some,
    Option.some.injEq]
  constructor
  · rintro ⟨⟨hleast, hvalid⟩, rfl⟩
    exact ⟨hleast, toNat_ofNat hvalid⟩
  · rintro ⟨hleast, rfl⟩
    exact ⟨⟨hleast, x.valid⟩, Char.ofNat_toNat x⟩

/-! ## The form of a character

Each byte but the first one has six bits of the code point.
-/

theorem encodeChar_eq_one : String.utf8EncodeChar x = [a] ↔ x.toNat < 0x80 ∧ a.toNat = x.toNat := by
  simp only [String.utf8EncodeChar, Char.toNat_val]
  split_ifs <;> simp only [List.cons.injEq, reduceCtorEq, and_false, and_true, false_iff,
    ← UInt8.toNat_inj, UInt8.toNat_ofNat'] <;> omega

/-- A byte that stands for a character by itself is the code point of it. -/
theorem encodeChar_ofNat (h : a < 0x80) : String.utf8EncodeChar (Char.ofNat a.toNat) = [a] := by
  have ha : a.toNat < 0x80 := UInt8.lt_iff_toNat_lt.1 h
  rw [encodeChar_eq_one, toNat_ofNat (.inl (Nat.lt_trans ha (by decide)))]
  exact ⟨ha, rfl⟩

theorem encodeChar_eq_two : String.utf8EncodeChar x = [a, b] ↔
    0x80 ≤ x.toNat ∧ x.toNat < 0x800 ∧ a.toNat = 0xC0 + x.toNat / 64 ∧
      b.toNat = 0x80 + x.toNat % 64 := by
  simp only [String.utf8EncodeChar, Char.toNat_val]
  split_ifs <;> simp only [List.cons.injEq, reduceCtorEq, and_false, and_true, false_iff,
    ← UInt8.toNat_inj, UInt8.toNat_ofNat'] <;> omega

theorem encodeChar_eq_three : String.utf8EncodeChar x = [a, b, c] ↔
    0x800 ≤ x.toNat ∧ x.toNat < 0x10000 ∧ a.toNat = 0xE0 + x.toNat / 4096 ∧
      b.toNat = 0x80 + x.toNat / 64 % 64 ∧ c.toNat = 0x80 + x.toNat % 64 := by
  simp only [String.utf8EncodeChar, Char.toNat_val]
  split_ifs <;> simp only [List.cons.injEq, reduceCtorEq, and_false, and_true, false_iff,
    ← UInt8.toNat_inj, UInt8.toNat_ofNat'] <;> omega

theorem encodeChar_eq_four : String.utf8EncodeChar x = [a, b, c, d] ↔
    0x10000 ≤ x.toNat ∧ a.toNat = 0xF0 + x.toNat / 262144 ∧
      b.toNat = 0x80 + x.toNat / 4096 % 64 ∧ c.toNat = 0x80 + x.toNat / 64 % 64 ∧
      d.toNat = 0x80 + x.toNat % 64 := by
  have hx : x.toNat.isValidChar := x.valid
  simp only [String.utf8EncodeChar, Char.toNat_val]
  split_ifs <;> simp only [List.cons.injEq, reduceCtorEq, and_false, and_true, false_iff,
    ← UInt8.toNat_inj, UInt8.toNat_ofNat'] <;> omega

/-! ## Reading a character -/

theorem two?_eq_some : two? a b = some x ↔ String.utf8EncodeChar x = [a, b] := by
  simp only [encodeChar_eq_two, two?, Bool.and_eq_true, decide_eq_true_eq, UInt8.le_iff_toNat_le,
    UInt8.lt_iff_toNat_lt, UInt8.reduceToNat, Option.ite_none_right_eq_some,
    Option.bind_eq_bind, Option.bind_eq_some_iff, bits?_eq_some, scalar?_eq_some]
  constructor
  · rintro ⟨ha, n, hb, hleast, hx⟩
    omega
  · intro h
    exact ⟨by omega, x.toNat % 64, by omega, by omega, by omega⟩

theorem three?_eq_some : three? a b c = some x ↔ String.utf8EncodeChar x = [a, b, c] := by
  simp only [encodeChar_eq_three, three?, Bool.and_eq_true, decide_eq_true_eq,
    UInt8.le_iff_toNat_le, UInt8.lt_iff_toNat_lt, UInt8.reduceToNat,
    Option.ite_none_right_eq_some, Option.bind_eq_bind, Option.bind_eq_some_iff, bits?_eq_some,
    scalar?_eq_some]
  constructor
  · rintro ⟨ha, n, hb, m, hc, hleast, hx⟩
    omega
  · intro h
    exact ⟨by omega, x.toNat / 64 % 64, by omega, x.toNat % 64, by omega, by omega, by omega⟩

theorem four?_eq_some : four? a b c d = some x ↔ String.utf8EncodeChar x = [a, b, c, d] := by
  simp only [encodeChar_eq_four, four?, Bool.and_eq_true, decide_eq_true_eq,
    UInt8.le_iff_toNat_le, UInt8.lt_iff_toNat_lt, UInt8.reduceToNat,
    Option.ite_none_right_eq_some, Option.bind_eq_bind, Option.bind_eq_some_iff, bits?_eq_some,
    scalar?_eq_some]
  have hx : x.toNat.isValidChar := x.valid
  constructor
  · rintro ⟨ha, n, hb, m, hc, l, hd, hleast, hx⟩
    omega
  · intro h
    exact ⟨by omega, x.toNat / 4096 % 64, by omega, x.toNat / 64 % 64, by omega, x.toNat % 64,
      by omega, by omega, by omega⟩

/-! ## The form of a text -/

section
variable {bytes : List UInt8}

theorem decode?_one (h : a < 0x80) :
    decode? (a :: bytes) = (decode? bytes).map (Char.ofNat a.toNat :: ·) := by
  rw [decode?.eq_def]
  exact if_pos h

theorem decode?_two (h : ¬a < 0x80) (h' : a < 0xE0) :
    decode? (a :: b :: bytes) = (two? a b).bind fun x => (decode? bytes).map (x :: ·) := by
  rw [decode?.eq_def]
  simp only [if_neg h, if_pos h', Option.map_eq_bind]
  rfl

theorem decode?_three (h : ¬a < 0x80) (h' : ¬a < 0xE0) (h'' : a < 0xF0) :
    decode? (a :: b :: c :: bytes) =
      (three? a b c).bind fun x => (decode? bytes).map (x :: ·) := by
  rw [decode?.eq_def]
  simp only [if_neg h, if_neg h', if_pos h'', Option.map_eq_bind]
  rfl

theorem decode?_four (h : ¬a < 0x80) (h' : ¬a < 0xE0) (h'' : ¬a < 0xF0) :
    decode? (a :: b :: c :: d :: bytes) =
      (four? a b c d).bind fun x => (decode? bytes).map (x :: ·) := by
  rw [decode?.eq_def]
  simp only [if_neg h, if_neg h', if_neg h'', Option.map_eq_bind]
  rfl

/-- Bytes that start with the form of a character are read as a text that starts with it. -/
theorem decode?_encodeChar (x : Char) (bytes : List UInt8) :
    decode? (String.utf8EncodeChar x ++ bytes) = (decode? bytes).map (x :: ·) := by
  have hlength : (String.utf8EncodeChar x).length ≤ 4 := by
    rw [String.length_utf8EncodeChar]
    exact x.utf8Size_le_four
  -- The first byte tells how many there are, and with that how they are read.
  match h : String.utf8EncodeChar x with
  | [] => exact absurd h String.utf8EncodeChar_ne_nil
  | [a] =>
    obtain ⟨hx, ha⟩ := encodeChar_eq_one.1 h
    rw [List.singleton_append, decode?_one (UInt8.lt_iff_toNat_lt.2 (ha ▸ hx)), ha,
      Char.ofNat_toNat]
  | [a, b] =>
    have hx := encodeChar_eq_two.1 h
    simp only [List.cons_append, List.nil_append]
    rw [decode?_two, two?_eq_some.2 h, Option.bind_some] <;>
      simp only [UInt8.lt_iff_toNat_lt, UInt8.reduceToNat] <;> omega
  | [a, b, c] =>
    have hx := encodeChar_eq_three.1 h
    simp only [List.cons_append, List.nil_append]
    rw [decode?_three, three?_eq_some.2 h, Option.bind_some] <;>
      simp only [UInt8.lt_iff_toNat_lt, UInt8.reduceToNat] <;> omega
  | [a, b, c, d] =>
    have hx := encodeChar_eq_four.1 h
    simp only [List.cons_append, List.nil_append]
    rw [decode?_four, four?_eq_some.2 h, Option.bind_some] <;>
      simp only [UInt8.lt_iff_toNat_lt, UInt8.reduceToNat] <;> omega
  | a :: b :: c :: d :: e :: rest =>
    rw [h] at hlength
    simp only [List.length_cons] at hlength
    omega

theorem decode?_encode (s : List Char) : decode? (encode s) = some s := by
  induction s with
  | nil => rfl
  | cons x s ih => rw [encode_cons, decode?_encodeChar, ih, Option.map_some]

/-- If the bytes behind a character are the form of a text, then all bytes are the form of that text
    with the character before it. -/
theorem encode_of_bind {cs : List UInt8} {x? : Option Char} {s : List Char}
    (hx : ∀ x, x? = some x → String.utf8EncodeChar x = cs)
    (ih : ∀ {s}, decode? bytes = some s → bytes = encode s)
    (h : (x?.bind fun x => (decode? bytes).map (x :: ·)) = some s) :
    cs ++ bytes = encode s := by
  obtain ⟨x, hx?, hs⟩ := Option.bind_eq_some_iff.1 h
  obtain ⟨s', hs', rfl⟩ := Option.map_eq_some_iff.1 hs
  rw [encode_cons, hx x hx?, ih hs']

/-- Bytes are read as a text exactly if they are the form of it. -/
theorem decode?_eq_some {s : List Char} : decode? bytes = some s ↔ bytes = encode s := by
  refine ⟨fun h => ?_, fun h => h ▸ decode?_encode s⟩
  induction bytes using decode?.induct generalizing s with
  | case1 =>
    obtain rfl := Option.some.inj h
    rfl
  | case2 a rest ha ih =>
    rw [decode?_one ha] at h
    obtain ⟨s', hs', rfl⟩ := Option.map_eq_some_iff.1 h
    rw [encode_cons, encodeChar_ofNat ha, ih hs', List.singleton_append]
  | case3 a ha ha' b rest ih =>
    rw [decode?_two ha ha'] at h
    exact encode_of_bind (fun _ => two?_eq_some.1) ih h
  | case5 a ha ha' ha'' b c rest ih =>
    rw [decode?_three ha ha' ha''] at h
    exact encode_of_bind (fun _ => three?_eq_some.1) ih h
  | case7 a ha ha' ha'' b c d rest ih =>
    rw [decode?_four ha ha' ha''] at h
    exact encode_of_bind (fun _ => four?_eq_some.1) ih h
  | case4 a rest ha ha' hrest | case6 a rest ha ha' ha'' hrest | case8 a rest ha ha' ha'' hrest =>
    -- Too few bytes are left for the character.
    simp [decode?.eq_def, *] at h

end

end CsvQuery.Utf8
