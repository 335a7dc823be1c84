import CsvQuery.Json.Reader
import CsvQuery.Proofs.Decimal
import Mathlib.Data.List.Basic

/-!
# The text of a value is read as the value

The reader goes through a text character by character, and so what is to be shown
of each kind of value is said for the text of the value with any text behind it.
Only what comes right behind a number matters, since a digit would belong to it:
inside arrays and objects a comma or a bracket comes there (`Json.Closes`).

What is read is not quite what is written. A control character without a letter
of its own is written by its code unit and stays one (`Json.reread`); its text is
the same (`Json.text?_textPieces`).

* `Json.IsPlain`: the values that are made of texts and integers.
* `Json.ReadsBack`: that the text of a value is read as the value, whatever follows it. There is one
  lemma for each kind of value.
* `Json.parse?_render`: the same for a whole text.
* `Json.depth`: how deep a value is nested.
-/

namespace CsvQuery

/-! ## Strings -/

/-- Whether a character is written by its code unit inside a string: it is a control character
    without a letter that stands for it. -/
def Piece.isCoded (c : Char) : Bool :=
  c.toNat < 0x20 && c ∉ ['\x08', '\x0c', '\n', '\r', '\t']

/-- The piece that is read where a piece has been written. -/
def Piece.reread : Piece → Piece
  | char c => if isCoded c then unit c.toNat else char c
  | unit code => unit code

namespace Json

/-- The four digits of a small number are read as that number. -/
theorem hex?_hexText {n : Nat} (h : n < 0x20) :
    ∃ a b c d, hexText n = [a, b, c, d] ∧ hex? a b c d = some n := by
  have hall : ∀ n < 0x20, (hexText n).length = 4 ∧
      hex? ((hexText n).getD 0 '0') ((hexText n).getD 1 '0') ((hexText n).getD 2 '0')
        ((hexText n).getD 3 '0') = some n := by
    decide
  obtain ⟨hlength, hcode⟩ := hall n h
  obtain ⟨a, b, c, d, htext⟩ := List.length_eq_four.1 hlength
  rw [htext] at hcode
  exact ⟨a, b, c, d, htext, hcode⟩

/-- Reading a piece before others. -/
def withPiece (p : Piece) (read? : Option (List Piece × List Char)) :
    Option (List Piece × List Char) := do
  let (ps, rest) ← read?
  return (p :: ps, rest)

section
variable {c e : Char} {s : List Char}

theorem pieces?_escaped (h : escaped? e = some c) :
    pieces? ('\\' :: e :: s) = withPiece (.char c) (pieces? s) := by
  have hu : e ≠ 'u' := by
    rintro rfl
    cases h
  simp [pieces?, hu, h, withPiece]

theorem pieces?_coded {d₁ d₂ d₃ d₄ : Char} {n : Nat} (h : hex? d₁ d₂ d₃ d₄ = some n) :
    pieces? ('\\' :: 'u' :: d₁ :: d₂ :: d₃ :: d₄ :: s) = withPiece (.unit n) (pieces? s) := by
  simp [pieces?, h, withPiece]

theorem pieces?_plain (h : ¬c.toNat < 0x20) (hquote : c ≠ '"') (hslash : c ≠ '\\') :
    pieces? (c :: s) = withPiece (.char c) (pieces? s) := by
  rw [pieces?]
  · simp [h, hslash, withPiece]
  · exact hquote
  · exact fun _ _ _ _ _ h _ => hslash h
  · exact fun _ _ h _ => hslash h

end

/-- What is written for a character is read as one piece. -/
theorem pieces?_charText (c : Char) (s : List Char) :
    pieces? (charText c ++ s) = withPiece (Piece.char c).reread (pieces? s) := by
  rw [charText.eq_def]
  split
  -- Characters with an escape of their own are left for the end.
  case h_8 hquote hslash hb hf hn hr ht =>
    split
    · rename_i hlt
      obtain ⟨d₁, d₂, d₃, d₄, htext, hcode⟩ := hex?_hexText hlt
      have hcoded : (Piece.char c).reread = .unit c.toNat := by
        simp [Piece.reread, Piece.isCoded, hlt]
        exact ⟨hb, hf, hn, hr, ht⟩
      rw [htext, hcoded]
      exact pieces?_coded hcode
    · rename_i hge
      have hplain : (Piece.char c).reread = .char c := by simp [Piece.reread, Piece.isCoded, hge]
      rw [hplain]
      exact pieces?_plain hge hquote hslash
  all_goals exact pieces?_escaped rfl

/-- The pieces of a text as they are read. -/
def textPieces (s : List Char) : List Piece := s.map fun c => (Piece.char c).reread

/-- What is written for a text is read up to the closing quotation mark. -/
theorem pieces?_stringText (s rest : List Char) :
    pieces? ((s.map Piece.char).flatMap pieceText ++ '"' :: rest) = some (textPieces s, rest) := by
  induction s with
  | nil => rfl
  | cons c s ih =>
    rw [List.map_cons, List.flatMap_cons, List.append_assoc, pieceText, pieces?_charText, ih]
    rfl

/-- What is read for a text stands for that text. -/
theorem decode?_textPieces (s : List Char) : Piece.decode? (textPieces s) = some s := by
  induction s with
  | nil => rfl
  | cons c s ih =>
    rw [textPieces, List.map_cons, ← textPieces, Piece.reread]
    split
    · rename_i hcoded
      -- The code unit of a control character is no surrogate, and so it stands for itself.
      rw [Piece.isCoded, Bool.and_eq_true, decide_eq_true_eq] at hcoded
      rw [Piece.decode?.eq_def]
      refine (if_pos (.inl (by omega))).trans ?_
      rw [ih, Char.ofNat_toNat]
      rfl
    · rw [Piece.decode?, ih]
      rfl

@[simp] theorem text?_textPieces (s : String) : text? (textPieces s.toList) = some s := by
  rw [text?, decode?_textPieces, Option.map_some, String.ofList_toList]

/-! ## Numbers -/

/-- What may follow a value in a compact text: a comma, a closing bracket, or nothing. -/
def Closes (rest : List Char) : Prop := ∀ c ∈ rest.head?, c = ',' ∨ c = ']' ∨ c = '\x7d'

theorem Closes.nil : Closes [] := nofun

theorem Closes.cons {c : Char} (h : c = ',' ∨ c = ']' ∨ c = '\x7d') (rest : List Char) :
    Closes (c :: rest) := by
  intro d hd
  rwa [← Option.some.inj hd]

section
variable {ds rest : List Char}

theorem Closes.takeWhile_isDigit (h : Closes rest) : rest.takeWhile Decimal.isDigit = [] := by
  cases rest with
  | nil => rfl
  | cons c rest => rcases h c rfl with rfl | rfl | rfl <;> rfl

/-- The digits of a number end where it does. -/
theorem takeWhile_isDigit (hds : Decimal.IsNumeral ds) (hrest : Closes rest) :
    (ds ++ rest).takeWhile Decimal.isDigit = ds := by
  have hdigits : ∀ c ∈ ds, Decimal.isDigit c = true := fun c hc =>
    Decimal.isDigit_iff.2 (hds.2 c hc)
  rw [List.takeWhile_append_of_pos hdigits, hrest.takeWhile_isDigit, List.append_nil]

theorem digits?_append (hds : Decimal.IsNumeral ds) (hrest : Closes rest) :
    digits? (ds ++ rest) = some (ds, rest) := by
  rw [digits?, takeWhile_isDigit hds hrest]
  cases ds with
  | nil => exact absurd rfl hds.1
  | cons c ds => simp

/-- Digits without a zero before others are read as the digits before a point. -/
theorem whole?_append (hds : Decimal.IsNumeral ds) (hzero : ds.head? = some '0' → ds = ['0'])
    (hrest : Closes rest) : whole? (ds ++ rest) = some (ds, rest) := by
  rw [whole?.eq_def]
  split
  · rename_i rest' hs
    cases ds with
    | nil => exact absurd rfl hds.1
    | cons c ds =>
      obtain ⟨rfl, rfl⟩ := List.cons.inj hs
      obtain ⟨_, rfl⟩ := List.cons.inj (hzero rfl)
      change (if (rest.takeWhile Decimal.isDigit).isEmpty then some (['0'], rest) else none) = _
      rw [hrest.takeWhile_isDigit]
      rfl
  · exact digits?_append hds hrest

/-- A number ends with the digits before a point where there is no point and no exponent. -/
theorem Closes.fraction?_eq (h : Closes rest) : fraction? rest = some ([], rest) := by
  cases rest with
  | nil => rfl
  | cons c rest => rcases h c rfl with rfl | rfl | rfl <;> rfl

theorem Closes.exponent?_eq (h : Closes rest) : exponent? rest = some ([], rest) := by
  cases rest with
  | nil => rfl
  | cons c rest => rcases h c rfl with rfl | rfl | rfl <;> rfl

theorem whole?_toDigits (n : Nat) (hrest : Closes rest) :
    whole? (Nat.toDigits 10 n ++ rest) = some (Nat.toDigits 10 n, rest) := by
  refine whole?_append (Decimal.isNumeral_toDigits n) (fun hzero => ?_) hrest
  have hn : n = 0 := Decidable.byContradiction fun hn => Decimal.head?_toDigits hn hzero
  rw [hn, Nat.toDigits_zero]

/-- What is written of an integer is read as a number. -/
theorem number?_write (n : Int) (hrest : Closes rest) :
    number? (Decimal.write n ++ rest) = some (Decimal.write n, rest) := by
  cases n with
  | ofNat n =>
    rw [Decimal.write, number?, whole?_toDigits n hrest]
    · simp [hrest.fraction?_eq, hrest.exponent?_eq]
    · -- Digits do not start with a sign.
      intro s hs
      obtain ⟨c, ds, hds⟩ := List.exists_cons_of_ne_nil (Nat.toDigits_ne_nil (b := 10) (n := n))
      have hnumeral := Decimal.isNumeral_toDigits n
      rw [hds] at hs hnumeral
      exact hnumeral.head_ne.1 (List.cons.inj hs).1
  | negSucc n =>
    simp [number?, Decimal.write, whole?_toDigits (n + 1) hrest, hrest.fraction?_eq,
      hrest.exponent?_eq]

end

/-! ## Values -/

/-- A value that is made of texts and integers. -/
inductive IsPlain : Json → Prop
  | null : IsPlain null
  | bool (b : Bool) : IsPlain (bool b)
  | ofInt (n : Int) : IsPlain (ofInt n)
  | ofString (s : String) : IsPlain (ofString s)
  | array {items : List Json} (h : ∀ j ∈ items, IsPlain j) : IsPlain (array items)
  | ofFields {fields : List (String × Json)} (h : ∀ f ∈ fields, IsPlain f.2) :
    IsPlain (ofFields fields)

mutual

/-- The value that the text of a value is read as. -/
def reread : Json → Json
  | string pieces => string (pieces.map (·.reread))
  | array items => array (rereadItems items)
  | object fields => object (rereadFields fields)
  | j => j

/-- The values that the texts of some values are read as. -/
def rereadItems : List Json → List Json
  | [] => []
  | j :: rest => j.reread :: rereadItems rest

/-- The fields that the texts of some fields are read as. -/
def rereadFields : List (List Piece × Json) → List (List Piece × Json)
  | [] => []
  | (name, j) :: rest => (name.map (·.reread), j.reread) :: rereadFields rest

end

mutual

/-- How deep arrays and objects are nested in a value. -/
def depth : Json → Nat
  | array items => itemsDepth items + 1
  | object fields => fieldsDepth fields + 1
  | _ => 0

/-- How deep arrays and objects are nested in some values. -/
def itemsDepth : List Json → Nat
  | [] => 0
  | j :: rest => max j.depth (itemsDepth rest)

/-- How deep arrays and objects are nested in some fields. -/
def fieldsDepth : List (List Piece × Json) → Nat
  | [] => 0
  | (_, j) :: rest => max j.depth (fieldsDepth rest)

end

section
variable {fuel : Nat} {rest : List Char}

theorem ofFields_eq (fields : List (String × Json)) :
    ofFields fields = object (fields.map fun f => (f.1.toList.map .char, f.2)) := rfl

theorem reread_ofString (s : String) : (ofString s).reread = string (textPieces s.toList) := by
  rw [ofString, reread, List.map_map]
  rfl

theorem value?_ofString (s : String) :
    value? (fuel + 1) ((ofString s).chars ++ rest) = some (string (textPieces s.toList), rest) := by
  rw [ofString, chars, stringText, List.cons_append, List.cons_append, List.append_assoc,
    List.singleton_append]
  change (pieces? _).map _ = _
  rw [pieces?_stringText]
  rfl

theorem skip_cons {c : Char} (h : isSpace c = false) (s : List Char) : skip (c :: s) = c :: s :=
  List.dropWhile_cons_of_neg (by simp [h])

/-- A sign or a digit is no other character that has a meaning. -/
theorem ne_of_sign_or_digit {c d : Char} (hc : c = '-' ∨ '0' ≤ c ∧ c ≤ '9')
    (hd : ¬(d = '-' ∨ '0' ≤ d ∧ d ≤ '9')) : c ≠ d := by
  rintro rfl
  exact hd hc

theorem isSpace_eq_false {c : Char} (hc : c = '-' ∨ '0' ≤ c ∧ c ≤ '9') : isSpace c = false := by
  simp [isSpace, ne_of_sign_or_digit hc (d := ' ') (by decide),
    ne_of_sign_or_digit hc (d := '\n') (by decide), ne_of_sign_or_digit hc (d := '\t') (by decide),
    ne_of_sign_or_digit hc (d := '\r') (by decide)]

/-- A sign or a digit only starts a number. -/
theorem value?_number {c : Char} (hc : c = '-' ∨ '0' ≤ c ∧ c ≤ '9') (s : List Char) :
    value? (fuel + 1) (c :: s) = (number? (c :: s)).map fun (n, rest) => (number n, rest) := by
  rw [value?.eq_def]
  simp only [skip_cons (isSpace_eq_false hc)]
  split
  case h_7 => rfl
  all_goals
    rename_i heq
    exact absurd (List.cons.inj heq).1 (ne_of_sign_or_digit hc (by decide))

/-- What is written of an integer starts with a sign or a digit. -/
theorem exists_write (n : Int) :
    ∃ c s, Decimal.write n = c :: s ∧ (c = '-' ∨ '0' ≤ c ∧ c ≤ '9') := by
  cases n with
  | ofNat n =>
    obtain ⟨c, s, hs⟩ := List.exists_cons_of_ne_nil (Nat.toDigits_ne_nil (b := 10) (n := n))
    have hnumeral := Decimal.isNumeral_toDigits n
    rw [hs] at hnumeral
    exact ⟨c, s, hs, .inr (hnumeral.2 c List.mem_cons_self)⟩
  | negSucc n => exact ⟨'-', _, rfl, .inl rfl⟩

theorem value?_ofInt (n : Int) (hrest : Closes rest) :
    value? (fuel + 1) ((ofInt n).chars ++ rest) = some (ofInt n, rest) := by
  have hread := number?_write n hrest
  obtain ⟨c, s, hwrite, hc⟩ := exists_write n
  rw [ofInt, chars, hwrite, List.cons_append, value?_number hc, ← List.cons_append, ← hwrite, hread]
  rfl

/-! ## Arrays and objects -/

/-- The text of a value is read as the value, whatever follows it. -/
def ReadsBack (j : Json) : Prop :=
  ∀ {fuel rest}, 2 * j.chars.length ≤ fuel → Closes rest →
    value? fuel (j.chars ++ rest) = some (j.reread, rest)

theorem commaText_singleton (t : List Char) : commaText [t] = t := by
  simp [commaText, List.intercalate]

theorem commaText_cons_cons (t t' : List Char) (ts : List (List Char)) :
    commaText (t :: t' :: ts) = t ++ ',' :: commaText (t' :: ts) := by
  simp [commaText, List.intercalate]

theorem exists_commaText (t : List Char) (ts : List (List Char)) :
    ∃ s, commaText (t :: ts) = t ++ s := by
  cases ts with
  | nil => exact ⟨[], by rw [commaText_singleton, List.append_nil]⟩
  | cons t' ts => exact ⟨_, commaText_cons_cons t t' ts⟩

/-- The text of a plain value starts with a character that is not blank and closes no array. -/
theorem IsPlain.exists_chars {j : Json} (h : j.IsPlain) :
    ∃ c s, j.chars = c :: s ∧ isSpace c = false ∧ c ≠ ']' := by
  cases h with
  | ofInt n =>
    obtain ⟨c, s, hwrite, hc⟩ := exists_write n
    exact ⟨c, s, hwrite, isSpace_eq_false hc, by rintro rfl; revert hc; decide⟩
  | bool b => cases b <;> exact ⟨_, _, rfl, rfl, by decide⟩
  | _ => exact ⟨_, _, rfl, rfl, by decide⟩

theorem expect?_eq_none {c d : Char} {s : List Char} (hspace : isSpace c = false) (hne : c ≠ d) :
    expect? d (c :: s) = none := by
  rw [expect?, skip_cons hspace]
  exact if_neg hne

/-! ### Arrays -/

theorem itemTexts_eq_map (items : List Json) : itemTexts items = items.map chars := by
  induction items with
  | nil => rfl
  | cons j items ih => rw [itemTexts, ih, List.map_cons]

theorem rereadItems_eq_map (items : List Json) : rereadItems items = items.map reread := by
  induction items with
  | nil => rfl
  | cons j items ih => rw [rereadItems, ih, List.map_cons]

/-- The members of an array are read up to its closing bracket. -/
theorem members?_commaText {items : List Json} (hne : items ≠ []) (h : ∀ j ∈ items, j.ReadsBack)
    (hfuel : 2 * (commaText (items.map chars)).length < fuel) :
    members? fuel (commaText (items.map chars) ++ ']' :: rest) =
      some (items.map reread, rest) := by
  induction items generalizing fuel with
  | nil => exact absurd rfl hne
  | cons j items ih =>
    obtain ⟨hj, hitems⟩ := List.forall_mem_cons.1 h
    obtain ⟨fuel, rfl⟩ : ∃ n, fuel = n + 1 := ⟨fuel - 1, by omega⟩
    -- A comma follows the member unless it is the last one.
    cases items with
    | nil =>
      rw [List.map_singleton, commaText_singleton] at hfuel ⊢
      rw [members?, hj (by omega) (.cons (.inr (.inl rfl)) rest)]
      rfl
    | cons j' items =>
      rw [List.map_cons, List.map_cons, commaText_cons_cons, ← List.map_cons] at hfuel ⊢
      rw [List.length_append, List.length_cons] at hfuel
      have hless : 2 * (commaText ((j' :: items).map chars)).length < fuel := by omega
      have hothers := ih (List.cons_ne_nil _ _) hitems hless
      rw [List.append_assoc, List.cons_append, members?, hj (by omega) (.cons (.inl rfl) _)]
      change (members? fuel _).bind _ = _
      rw [hothers]
      rfl

theorem value?_array {s : List Char} (h : expect? ']' s = none) :
    value? (fuel + 1) ('[' :: s) = (members? fuel s).map fun r => (array r.1, r.2) := by
  have hskip : skip ('[' :: s) = '[' :: s := skip_cons rfl s
  simp only [value?, hskip, h]

theorem readsBack_array {items : List Json} (hplain : ∀ j ∈ items, j.IsPlain)
    (h : ∀ j ∈ items, j.ReadsBack) : (array items).ReadsBack := by
  intro fuel rest hfuel _
  rw [chars, itemTexts_eq_map] at hfuel ⊢
  rw [List.length_append, List.length_cons, List.length_singleton] at hfuel
  obtain ⟨fuel, rfl⟩ : ∃ n, fuel = n + 1 := ⟨fuel - 1, by omega⟩
  rw [List.cons_append, List.cons_append, List.append_assoc, List.singleton_append]
  cases items with
  | nil => rfl
  | cons j items =>
    -- The first member does not look like the bracket that would close an empty array.
    have hopen : expect? ']' (commaText ((j :: items).map chars) ++ ']' :: rest) = none := by
      obtain ⟨c, s, hchars, hspace, hne⟩ := (hplain j List.mem_cons_self).exists_chars
      obtain ⟨s', htext⟩ := exists_commaText j.chars (items.map chars)
      rw [List.map_cons, htext, hchars]
      exact expect?_eq_none hspace hne
    rw [value?_array hopen, members?_commaText (List.cons_ne_nil j items) h (by omega), reread,
      rereadItems_eq_map]
    rfl

/-! ### Objects -/

/-- The text of a field with a name. -/
def fieldText (f : String × Json) : List Char :=
  stringText (f.1.toList.map .char) ++ ':' :: f.2.chars

/-- A field with a name as it is read. -/
def rereadField (f : String × Json) : List Piece × Json := (textPieces f.1.toList, f.2.reread)

theorem chars_ofFields (fields : List (String × Json)) :
    (ofFields fields).chars = '\x7b' :: commaText (fields.map fieldText) ++ ['\x7d'] := by
  have htexts : fieldTexts (fields.map fun f => (f.1.toList.map .char, f.2)) =
      fields.map fieldText := by
    induction fields with
    | nil => rfl
    | cons f fields ih => rw [List.map_cons, fieldTexts, ih]; rfl
  rw [ofFields_eq, chars, htexts]

theorem reread_ofFields (fields : List (String × Json)) :
    (ofFields fields).reread = object (fields.map rereadField) := by
  have hfields : rereadFields (fields.map fun f => (f.1.toList.map .char, f.2)) =
      fields.map rereadField := by
    induction fields with
    | nil => rfl
    | cons f fields ih =>
      rw [List.map_cons, rereadFields, ih, List.map_map]
      rfl
  rw [ofFields_eq, reread, hfields]

/-- The field that comes next is read up to its value. -/
theorem fieldsIn?_fieldText (name : String) (s : List Char) :
    fieldsIn? (fuel + 1) (stringText (name.toList.map .char) ++ ':' :: s) = do
      let (j, s) ← value? fuel s
      match ← follow? '\x7d' s with
      | (.close, s) => return ([(textPieces name.toList, j)], s)
      | (.comma, s) =>
        let (fs, s) ← fieldsIn? fuel s
        return ((textPieces name.toList, j) :: fs, s) := by
  rw [stringText, List.cons_append, List.cons_append, List.append_assoc, List.singleton_append]
  change (pieces? _).bind _ = _
  rw [pieces?_stringText]
  rfl

/-- The fields of an object are read up to its closing bracket. -/
theorem fieldsIn?_commaText {fields : List (String × Json)} (hne : fields ≠ [])
    (h : ∀ f ∈ fields, f.2.ReadsBack)
    (hfuel : 2 * (commaText (fields.map fieldText)).length < fuel) :
    fieldsIn? fuel (commaText (fields.map fieldText) ++ '\x7d' :: rest) =
      some (fields.map rereadField, rest) := by
  induction fields generalizing fuel with
  | nil => exact absurd rfl hne
  | cons f fields ih =>
    obtain ⟨hf, hfields⟩ := List.forall_mem_cons.1 h
    obtain ⟨fuel, rfl⟩ : ∃ n, fuel = n + 1 := ⟨fuel - 1, by omega⟩
    have hlength : f.2.chars.length < (fieldText f).length := by
      simp only [fieldText, List.length_append, List.length_cons]
      omega
    cases fields with
    | nil =>
      rw [List.map_singleton, commaText_singleton] at hfuel ⊢
      rw [fieldText, List.append_assoc, List.cons_append, fieldsIn?_fieldText,
        hf (by omega) (.cons (.inr (.inr rfl)) rest)]
      rfl
    | cons f' fields =>
      rw [List.map_cons, List.map_cons, commaText_cons_cons, ← List.map_cons] at hfuel ⊢
      rw [List.length_append, List.length_cons] at hfuel
      have hless : 2 * (commaText ((f' :: fields).map fieldText)).length < fuel := by omega
      have hothers := ih (List.cons_ne_nil _ _) hfields hless
      rw [fieldText, List.append_assoc, List.append_assoc, List.cons_append, List.cons_append,
        fieldsIn?_fieldText, hf (by omega) (.cons (.inl rfl) _)]
      change (fieldsIn? fuel _).bind _ = _
      rw [hothers]
      rfl

theorem value?_object {s : List Char} (h : expect? '\x7d' s = none) :
    value? (fuel + 1) ('\x7b' :: s) = (fieldsIn? fuel s).map fun r => (object r.1, r.2) := by
  have hskip : skip ('\x7b' :: s) = '\x7b' :: s := skip_cons rfl s
  simp only [value?, hskip, h]

theorem readsBack_ofFields {fields : List (String × Json)} (h : ∀ f ∈ fields, f.2.ReadsBack) :
    (ofFields fields).ReadsBack := by
  intro fuel rest hfuel _
  rw [chars_ofFields] at hfuel ⊢
  rw [List.length_append, List.length_cons, List.length_singleton] at hfuel
  obtain ⟨fuel, rfl⟩ : ∃ n, fuel = n + 1 := ⟨fuel - 1, by omega⟩
  rw [List.cons_append, List.cons_append, List.append_assoc, List.singleton_append]
  cases fields with
  | nil => rfl
  | cons f fields =>
    have hopen : expect? '\x7d' (commaText ((f :: fields).map fieldText) ++ '\x7d' :: rest) =
        none := by
      obtain ⟨s, htext⟩ := exists_commaText (fieldText f) (fields.map fieldText)
      rw [List.map_cons, htext]
      exact expect?_eq_none rfl (by decide)
    rw [value?_object hopen, fieldsIn?_commaText (List.cons_ne_nil f fields) h (by omega),
      reread_ofFields]
    rfl

/-! ## Whole texts -/

theorem IsPlain.exists_fuel {j : Json} (h : j.IsPlain) (hfuel : 2 * j.chars.length ≤ fuel) :
    ∃ n, fuel = n + 1 := by
  obtain ⟨c, s, hchars, _⟩ := h.exists_chars
  rw [hchars, List.length_cons] at hfuel
  exact ⟨fuel - 1, by omega⟩

/-- The text of a plain value is read as that value, whatever follows it. -/
theorem IsPlain.readsBack {j : Json} (h : j.IsPlain) : j.ReadsBack := by
  induction h with
  | null =>
    intro fuel rest hfuel _
    obtain ⟨fuel, rfl⟩ := IsPlain.null.exists_fuel hfuel
    rfl
  | bool b =>
    intro fuel rest hfuel _
    obtain ⟨fuel, rfl⟩ := (IsPlain.bool b).exists_fuel hfuel
    cases b <;> rfl
  | ofInt n =>
    intro fuel rest hfuel hrest
    obtain ⟨fuel, rfl⟩ := (IsPlain.ofInt n).exists_fuel hfuel
    exact value?_ofInt n hrest
  | ofString s =>
    intro fuel rest hfuel _
    obtain ⟨fuel, rfl⟩ := (IsPlain.ofString s).exists_fuel hfuel
    rw [value?_ofString, reread_ofString]
  | array h ih => exact readsBack_array h ih
  | ofFields h ih => exact readsBack_ofFields ih

/-- The text of a plain value is read as that value. -/
theorem parse?_render {j : Json} (h : j.IsPlain) : parse? j.render = some j.reread := by
  have hfuel : 2 * j.chars.length ≤ 2 * j.chars.length + 2 := Nat.le_add_right _ 2
  have hread := h.readsBack hfuel .nil
  rw [List.append_nil] at hread
  rw [parse?, render, String.length_ofList, String.toList_ofList, hread]
  rfl

end

end Json
end CsvQuery
