import CsvQuery.Proofs.Interruptions

/-!
# Files of rows

A row of integers can be written in many ways. An integer may have a sign and
leading zeros, spaces and tabs may stand around it, a line ends in a line feed
or in a carriage return with a line feed, the last line need not end, and there
may be lines without any character. None of this makes a difference to a scan:
it hands out the rows in order and then nothing more.

If a file has a row that is malformed, a scan hands out the rows before it and
then fails. The failure is one of access if the row is not the form of a text,
else one of the schema if the row has not one field for each column, and else
one of a value.

* `RowText`, `RowsText`: the ways of writing a row and some rows.
* `RowsText.forall₂_split`: the records of a file that is written in one of these ways.
* `Table.tuple_eq_ok`: the tuple of a record consists of the integers in its fields.
* `Scan.next_goOn`: what a scan gives after some calls.
* `Scan.next_of_file`: what it gives for a file of rows, and for a file with a malformed row.
-/

namespace CsvQuery

open Decimal (Spells)

/-! ## Ways of writing rows -/

/-- What may stand around an integer: spaces and tabs. -/
def IsPadding (s : List Char) : Prop := ∀ c ∈ s, c = ' ' ∨ c = '\t'

instance (s : List Char) : Decidable (IsPadding s) :=
  decidable_of_iff (s.all fun c => c == ' ' || c == '\t') (by simp [IsPadding])

/-- A text between two commas that holds a value. -/
inductive FieldText (v : Int32) : List Char → Prop
  | padded {before digits after : List Char} (hbefore : IsPadding before)
    (hdigits : Spells digits v.toInt) (hafter : IsPadding after) :
    FieldText v (before ++ digits ++ after)

/-- A line that holds the values of a row, without its end. -/
inductive RowText : List Int32 → List Char → Prop
  | single {v : Int32} {s : List Char} (h : FieldText v s) : RowText [v] s
  | cons {v : Int32} {s : List Char} {vs : List Int32} {rest : List Char} (h : FieldText v s)
    (hrest : RowText vs rest) : RowText (v :: vs) (s ++ ',' :: rest)

/-- What ends a line: a line feed, which may follow a carriage return. -/
inductive IsLineBreak : List Char → Prop
  | feed : IsLineBreak ['\n']
  | returned : IsLineBreak ['\r', '\n']

/-- A text that holds some rows, each in a line of its own, with lines without any character in
    between. -/
inductive RowsText : List (List Int32) → List Char → Prop
  | nil : RowsText [] []
  | last {vs : List Int32} {s : List Char} (h : RowText vs s) : RowsText [vs] s
  | row {vs : List Int32} {rows : List (List Int32)} {s b rest : List Char} (h : RowText vs s)
    (hb : IsLineBreak b) (hrest : RowsText rows rest) : RowsText (vs :: rows) (s ++ (b ++ rest))
  | empty {rows : List (List Int32)} {b rest : List Char} (hb : IsLineBreak b)
    (hrest : RowsText rows rest) : RowsText rows (b ++ rest)

/-! ## The characters of fields -/

/-- The characters of fields: those of integers, spaces and tabs. -/
def IsFieldChar (c : Char) : Prop :=
  c = ' ' ∨ c = '\t' ∨ c = '+' ∨ c = '-' ∨ '0' ≤ c ∧ c ≤ '9'

/-- A text that spells an integer is not empty. -/
theorem Decimal.Spells.ne_nil {s : List Char} {n : Int} (h : Spells s n) : s ≠ [] := by
  cases h with
  | unsigned hd => exact hd.1
  | plus | minus => exact List.cons_ne_nil _ _

theorem Decimal.Spells.of_mem {s : List Char} {n : Int} (h : Spells s n) {c : Char} (hc : c ∈ s) :
    c = '+' ∨ c = '-' ∨ '0' ≤ c ∧ c ≤ '9' := by
  cases h with
  | unsigned hd => exact .inr (.inr (hd.2 c hc))
  | plus hd | minus hd =>
    rcases List.mem_cons.1 hc with rfl | hc
    · simp
    · exact .inr (.inr (hd.2 c hc))

variable {v : Int32} {vs : List Int32} {rows : List (List Int32)} {s b : List Char}

theorem FieldText.ne_nil (h : FieldText v s) : s ≠ [] := by
  cases h with
  | padded hbefore hdigits hafter => simp [hdigits.ne_nil]

theorem FieldText.isFieldChar (h : FieldText v s) : ∀ c ∈ s, IsFieldChar c := by
  intro c hc
  cases h with
  | padded hbefore hdigits hafter =>
    rw [List.mem_append, List.mem_append] at hc
    rcases hc with (hc | hc) | hc
    · exact (hbefore c hc).imp_right .inl
    · exact .inr (.inr (hdigits.of_mem hc))
    · exact (hafter c hc).imp_right .inl

/-- A byte that stands for itself in a field. -/
structure IsPlainByte (b : UInt8) : Prop where
  comma : b ≠ byteOf ','
  mark : b ≠ byteOf '"'
  lineEnd : isLineEnd b = false

/-- A character of a field has a form of one byte, which stands for itself. -/
theorem IsFieldChar.exists_byte {c : Char} (h : IsFieldChar c) :
    ∃ b, String.utf8EncodeChar c = [b] ∧ b < 0x80 ∧ IsPlainByte b := by
  have hcode : c.toNat = 32 ∨ c.toNat = 9 ∨ c.toNat = 43 ∨ c.toNat = 45 ∨
      48 ≤ c.toNat ∧ c.toNat ≤ 57 := by
    rcases h with rfl | rfl | rfl | rfl | h
    · decide
    · decide
    · decide
    · decide
    · exact .inr (.inr (.inr (.inr h)))
  have hbyte : (UInt8.ofNat c.toNat).toNat = c.toNat := by
    rw [UInt8.toNat_ofNat']
    omega
  have hne {b : UInt8} (hb : c.toNat ≠ b.toNat) : UInt8.ofNat c.toNat ≠ b :=
    fun heq => hb (hbyte ▸ congrArg UInt8.toNat heq)
  have hcomma : c.toNat ≠ (byteOf ',').toNat := by
    change c.toNat ≠ 44
    omega
  have hmark : c.toNat ≠ (byteOf '"').toNat := by
    change c.toNat ≠ 34
    omega
  have hfeed : c.toNat ≠ (byteOf '\n').toNat := by
    change c.toNat ≠ 10
    omega
  have hreturn : c.toNat ≠ (byteOf '\r').toNat := by
    change c.toNat ≠ 13
    omega
  refine ⟨UInt8.ofNat c.toNat, Utf8.encodeChar_eq_one.2 ⟨by omega, hbyte⟩, ?_, hne hcomma,
    hne hmark, ?_⟩
  · rw [UInt8.lt_iff_toNat_lt, hbyte]
    change c.toNat < 128
    omega
  · rw [isLineEnd, beq_eq_false_iff_ne.2 (hne hfeed), beq_eq_false_iff_ne.2 (hne hreturn),
      Bool.or_self]

/-- The form of a text of such characters consists of such bytes. -/
theorem isPlainByte_of_mem_encode (h : ∀ c ∈ s, IsFieldChar c) :
    ∀ b ∈ Utf8.encode s, b < 0x80 ∧ IsPlainByte b := by
  intro b hb
  obtain ⟨c, hc, hb⟩ := List.mem_flatMap.1 hb
  obtain ⟨b', hform, hplain⟩ := (h c hc).exists_byte
  rw [hform, List.mem_singleton] at hb
  exact hb ▸ hplain

theorem encode_append (s s' : List Char) :
    Utf8.encode (s ++ s') = Utf8.encode s ++ Utf8.encode s' := List.flatMap_append

theorem encode_ne_nil (h : s ≠ []) : Utf8.encode s ≠ [] := by
  cases s with
  | nil => exact absurd rfl h
  | cons c s =>
    rw [Utf8.encode_cons]
    exact List.append_ne_nil_of_left_ne_nil String.utf8EncodeChar_ne_nil _

/-! ## Splitting a file -/

section
variable {spot : Spot} {field : List UInt8} {fields : List (List UInt8)} {bytes : List UInt8}

theorem splitFrom_plain {c : UInt8} (hc : IsPlainByte c) (hquoted : spot ≠ .quoted)
    (hspot : spot ≠ .mark) :
    splitFrom spot field fields (c :: bytes) = splitFrom .bare (c :: field) fields bytes := by
  rw [splitFrom]
  simp only [hc.lineEnd, hc.comma, hc.mark, hquoted, hspot, Bool.false_eq_true, and_false,
    and_self, if_false]

/-- Bytes that stand for themselves are added to the field. -/
theorem splitFrom_append {cs : List UInt8} (hcs : ∀ c ∈ cs, IsPlainByte c) :
    splitFrom .bare field fields (cs ++ bytes) =
      splitFrom .bare (cs.reverse ++ field) fields bytes := by
  induction cs generalizing field with
  | nil => rfl
  | cons c cs ih =>
    obtain ⟨hc, hcs⟩ := List.forall_mem_cons.1 hcs
    rw [List.cons_append, splitFrom_plain hc (by decide) (by decide), ih hcs, List.reverse_cons,
      List.append_assoc, List.singleton_append]

/-- A field starts at the end of a line or at a comma. -/
theorem splitFrom_field (h : FieldText v s) (hspot : spot = .line ∨ spot = .comma) :
    splitFrom spot [] fields (Utf8.encode s ++ bytes) =
      splitFrom .bare (Utf8.encode s).reverse fields bytes := by
  have hplain : ∀ b ∈ Utf8.encode s, IsPlainByte b := fun b hb =>
    (isPlainByte_of_mem_encode h.isFieldChar b hb).2
  obtain ⟨c, cs, hcs⟩ := List.exists_cons_of_ne_nil (encode_ne_nil h.ne_nil)
  rw [hcs] at hplain ⊢
  obtain ⟨hc, hcs⟩ := List.forall_mem_cons.1 hplain
  rw [List.cons_append, splitFrom_plain hc, splitFrom_append hcs, List.reverse_cons]
  · rcases hspot with rfl | rfl <;> decide
  · rcases hspot with rfl | rfl <;> decide

theorem splitFrom_comma :
    splitFrom .bare field fields (byteOf ',' :: bytes) =
      splitFrom .comma [] (field.reverse :: fields) bytes := by
  rw [splitFrom]
  simp

/-- A line without any character holds no record. -/
theorem splitFrom_empty (hb : IsLineBreak b) :
    splitFrom .line [] [] (Utf8.encode b ++ bytes) = splitFrom .line [] [] bytes := by
  have hend {c : UInt8} (hc : isLineEnd c = true) (rest : List UInt8) :
      splitFrom .line [] [] (c :: rest) = splitFrom .line [] [] rest := by
    rw [splitFrom, if_pos ⟨rfl, hc⟩]
  cases hb with
  | feed => exact hend (c := byteOf '\n') (by decide) _
  | returned =>
    have hform : Utf8.encode ['\r', '\n'] = [byteOf '\r', byteOf '\n'] := by decide
    rw [hform, List.cons_append, List.cons_append, hend (by decide), hend (by decide),
      List.nil_append]

/-- The end of a line ends a record. -/
theorem splitFrom_break (hb : IsLineBreak b) :
    splitFrom .bare field fields (Utf8.encode b ++ bytes) =
      (fields.reverse ++ [field.reverse]) :: splitFrom .line [] [] bytes := by
  have hend {c : UInt8} (hc : isLineEnd c = true) (hcomma : c ≠ byteOf ',') (rest : List UInt8) :
      splitFrom .bare field fields (c :: rest) =
        (fields.reverse ++ [field.reverse]) :: splitFrom .line [] [] rest := by
    rw [splitFrom]
    simp [hc, hcomma]
  cases hb with
  | feed => exact hend (c := byteOf '\n') (by decide) (by decide) _
  | returned =>
    -- The line feed behind the carriage return is an empty line of its own.
    have hform : Utf8.encode ['\r', '\n'] = byteOf '\r' :: Utf8.encode ['\n'] := by decide
    rw [hform, List.cons_append, hend (by decide) (by decide), splitFrom_empty .feed]

/-- What may stand behind a row, and what is left of it for other rows: nothing at the end of the
    file, and else the end of the line. -/
inductive RowEnd : List UInt8 → List UInt8 → Prop
  | file : RowEnd [] []
  | line {b : List Char} {bytes : List UInt8} (hb : IsLineBreak b) :
    RowEnd (Utf8.encode b ++ bytes) bytes

theorem splitFrom_end {rest : List UInt8} (h : RowEnd bytes rest) :
    splitFrom .bare field fields bytes =
      (fields.reverse ++ [field.reverse]) :: splitFrom .line [] [] rest := by
  cases h with
  | file => simp [splitFrom]
  | line hb => exact splitFrom_break hb

end

/-! ## Records -/

/-- The visible characters of ASCII are not blank. -/
theorem isBlank_eq_false {c : Char} (h : 33 ≤ c.toNat) (h' : c.toNat < 133) :
    isBlank c = false := by
  have hge : ∀ n ≤ 33, decide (n ≤ c.toNat) = true := fun n hn => decide_eq_true (hn.trans h)
  have hlt : decide (133 ≤ c.toNat) = false := decide_eq_false (Nat.not_le.2 h')
  rw [isBlank, CharClass.contains, CharClass.blank]
  simp [hge, hlt]

/-- Blank characters before a text are cut off. -/
theorem dropWhile_isBlank {before digits : List Char} (hbefore : ∀ c ∈ before, isBlank c = true)
    (hdigits : ∀ c ∈ digits, isBlank c = false) (hne : digits ≠ []) (after : List Char) :
    (before ++ (digits ++ after)).dropWhile isBlank = digits ++ after := by
  obtain ⟨c, cs, rfl⟩ := List.exists_cons_of_ne_nil hne
  rw [List.dropWhile_append_of_pos hbefore]
  exact List.dropWhile_cons_of_neg (Bool.eq_false_iff.1 (hdigits c List.mem_cons_self))

/-- Blank characters at both ends of a text are cut off. -/
theorem trim_eq {before digits after : List Char} (hbefore : ∀ c ∈ before, isBlank c = true)
    (hdigits : ∀ c ∈ digits, isBlank c = false) (hne : digits ≠ [])
    (hafter : ∀ c ∈ after, isBlank c = true) : trim (before ++ digits ++ after) = digits := by
  have hend : (after.reverse ++ (digits.reverse ++ [])).dropWhile isBlank =
      digits.reverse ++ [] :=
    dropWhile_isBlank (by simpa using hafter) (by simpa using hdigits) (by simpa using hne) []
  rw [trim, List.append_assoc, dropWhile_isBlank hbefore hdigits hne, List.reverse_append,
    ← List.append_nil digits.reverse, hend, List.append_nil, List.reverse_reverse]

theorem IsPadding.isBlank (h : IsPadding s) : ∀ c ∈ s, isBlank c = true := by
  intro c hc
  rcases h c hc with rfl | rfl <;> decide

/-- A field holds the value that its text is written for. -/
theorem FieldText.holdsValue (h : FieldText v s) : HoldsValue (Utf8.encode s) v := by
  cases h with
  | @padded before digits after hbefore hdigits hafter =>
    have hvisible : ∀ c ∈ digits, CsvQuery.isBlank c = false := by
      intro c hc
      have hcode : c.toNat = 43 ∨ c.toNat = 45 ∨ 48 ≤ c.toNat ∧ c.toNat ≤ 57 := by
        rcases hdigits.of_mem hc with rfl | rfl | h
        · exact .inl rfl
        · exact .inr (.inl rfl)
        · exact .inr (.inr h)
      exact isBlank_eq_false (by omega) (by omega)
    refine ⟨before ++ digits ++ after, rfl, ?_⟩
    rwa [trim_eq hbefore.isBlank hvisible hdigits.ne_nil hafter.isBlank]

/-- A line that holds a row is one record, with one field for each value. -/
theorem RowText.exists_fields (h : RowText vs s) : ∃ row, List.Forall₂ HoldsValue row vs ∧
    ∀ {spot fields bytes rest}, spot = .line ∨ spot = .comma → RowEnd bytes rest →
      splitFrom spot [] fields (Utf8.encode s ++ bytes) =
        (fields.reverse ++ row) :: splitFrom .line [] [] rest := by
  induction h with
  | @single v s h =>
    refine ⟨[Utf8.encode s], .cons h.holdsValue .nil, fun hspot hend => ?_⟩
    rw [splitFrom_field h hspot, splitFrom_end hend, List.reverse_reverse]
  | @cons v s vs rest h _ ih =>
    obtain ⟨row, hrow, hsplit⟩ := ih
    refine ⟨Utf8.encode s :: row, .cons h.holdsValue hrow,
      fun {spot fields bytes rest'} hspot hend => ?_⟩
    have hform : Utf8.encode (s ++ ',' :: rest) ++ bytes =
        Utf8.encode s ++ byteOf ',' :: (Utf8.encode rest ++ bytes) := by
      rw [encode_append, Utf8.encode_cons, List.append_assoc, List.append_assoc]
      rfl
    rw [hform, splitFrom_field h hspot, splitFrom_comma, hsplit (.inr rfl) hend,
      List.reverse_reverse, List.reverse_cons, List.append_assoc, List.singleton_append]

/-- A text that holds some rows has a record for each row. -/
theorem RowsText.forall₂_splitFrom (h : RowsText rows s) :
    List.Forall₂ (List.Forall₂ HoldsValue) (splitFrom .line [] [] (Utf8.encode s)) rows := by
  induction h with
  | nil => exact .nil
  | @last vs s h =>
    obtain ⟨row, hrow, hsplit⟩ := h.exists_fields
    have hlast : splitFrom .line [] [] (Utf8.encode s ++ []) = [row] := hsplit (.inl rfl) .file
    rw [List.append_nil] at hlast
    rw [hlast]
    exact .cons hrow .nil
  | row h hb _ ih =>
    obtain ⟨row, hrow, hsplit⟩ := h.exists_fields
    rw [encode_append, encode_append, hsplit (.inl rfl) (.line hb)]
    exact .cons hrow ih
  | empty hb _ ih =>
    rw [encode_append, splitFrom_empty hb]
    exact ih

/-- Bytes below the one that a mark starts with have no mark before them. -/
theorem dropMark_eq {bytes : List UInt8} (h : ∀ b ∈ bytes, b < 0x80) : dropMark bytes = bytes := by
  unfold dropMark
  split
  · exact absurd (h 0xEF List.mem_cons_self) (by decide)
  · rfl

theorem RowText.lt_of_mem (h : RowText vs s) : ∀ b ∈ Utf8.encode s, b < 0x80 := by
  have hfield {v : Int32} {s : List Char} (h : FieldText v s) : ∀ b ∈ Utf8.encode s, b < 0x80 :=
    fun b hb => (isPlainByte_of_mem_encode h.isFieldChar b hb).1
  have hcomma : ∀ b ∈ String.utf8EncodeChar ',', b < 0x80 := List.forall_mem_singleton.2 (by decide)
  induction h with
  | single h => exact hfield h
  | cons h _ ih =>
    rw [encode_append, Utf8.encode_cons, List.forall_mem_append, List.forall_mem_append]
    exact ⟨hfield h, hcomma, ih⟩

theorem RowsText.lt_of_mem (h : RowsText rows s) : ∀ b ∈ Utf8.encode s, b < 0x80 := by
  have hbreak {b : List Char} (hb : IsLineBreak b) : ∀ c ∈ Utf8.encode b, c < 0x80 := by
    have hall : (Utf8.encode b).all (· < 0x80) = true := by cases hb <;> decide
    simpa using hall
  induction h with
  | nil => exact List.forall_mem_nil _
  | last h => exact h.lt_of_mem
  | row h hb _ ih =>
    rw [encode_append, encode_append, List.forall_mem_append, List.forall_mem_append]
    exact ⟨h.lt_of_mem, hbreak hb, ih⟩
  | empty hb _ ih =>
    rw [encode_append, List.forall_mem_append]
    exact ⟨hbreak hb, ih⟩

/-- The records of a file that holds some rows are these rows. -/
theorem RowsText.forall₂_split (h : RowsText rows s) :
    List.Forall₂ (List.Forall₂ HoldsValue) (split (Utf8.encode s)) rows := by
  rw [split, dropMark_eq h.lt_of_mem]
  exact h.forall₂_splitFrom

/-! ## The tuple of a record -/

/-- A field holds one value at most. -/
theorem rightUnique_holdsValue : Relator.RightUnique HoldsValue := by
  intro field v w hv hw
  obtain ⟨text, htext, hv⟩ := holdsValue_iff.1 hv
  obtain ⟨text', htext', hw⟩ := holdsValue_iff.1 hw
  obtain rfl : text = text' := Option.some.inj (htext.symm.trans htext')
  exact Option.some.inj (hv.symm.trans hw)

/-- The fields of a record hold some values if their texts are read as these values. -/
theorem forall₂_holdsValue_iff {fields : List (List UInt8)} :
    List.Forall₂ HoldsValue fields vs ↔ ∃ texts, fields.mapM fieldText? = some texts ∧
      List.Forall₂ (fun (text : String) v => Decimal.word? text.toList = some v) texts vs := by
  simp only [mapM_eq_some]
  constructor
  · intro h
    induction h with
    | nil => exact ⟨[], rfl, .nil⟩
    | cons hfield _ ih =>
      obtain ⟨text, htext, hv⟩ := holdsValue_iff.1 hfield
      obtain ⟨texts, htexts, hvs⟩ := ih
      exact ⟨text :: texts, by rw [List.map_cons, List.map_cons, htext, htexts], .cons hv hvs⟩
  · rintro ⟨texts, htexts, hvs⟩
    induction hvs generalizing fields with
    | nil => exact List.map_eq_nil_iff.1 htexts ▸ .nil
    | cons hv _ ih =>
      obtain ⟨field, fields, rfl, htext, htexts⟩ := List.map_eq_cons_iff.1 htexts
      exact .cons (holdsValue_iff.2 ⟨_, htext, hv⟩) (ih htexts)

namespace Table

theorem values_eq_ok {t : Table} {cells : List (String × String)} : t.values cells = .ok vs ↔
    List.Forall₂ (fun cell v => Decimal.word? cell.2.toList = some v) cells vs := by
  induction cells generalizing vs with
  | nil =>
    rw [values, List.forall₂_nil_left_iff, Except.ok.injEq]
    exact eq_comm
  | cons cell cells ih =>
    rw [values, List.forall₂_cons_left_iff]
    cases Decimal.word? cell.2.toList with
    | none => simp
    | some v =>
      simp only [exceptMap_eq_ok, ih, Option.some.injEq]
      constructor
      · rintro ⟨vs', hvs, rfl⟩
        exact ⟨v, vs', rfl, hvs, rfl⟩
      · rintro ⟨_, vs', rfl, hvs, rfl⟩
        exact ⟨vs', hvs, rfl⟩

/-- The tuple of a record is the row of the values in its fields, one for each column. -/
theorem tuple_eq_ok {t : Table} {fields : List (List UInt8)} {u : Tuple} :
    t.tuple (.ofFields fields) = .ok u ↔ ∃ vs, List.Forall₂ HoldsValue fields vs ∧
      vs.length = t.columns.length ∧ Tuple.ofRow t.name t.columns vs = u := by
  simp only [forall₂_holdsValue_iff]
  cases h : fields.mapM fieldText? with
  | none => simp [Record.ofFields, h, tuple]
  | some texts =>
    have hcells (hlength : texts.length = t.columns.length) (vs : List Int32) :
        t.values (t.columns.zip texts) = .ok vs ↔
          List.Forall₂ (fun (text : String) v => Decimal.word? text.toList = some v) texts vs := by
      rw [values_eq_ok, ← List.map_snd_zip hlength.le, List.forall₂_map_left_iff,
        List.map_snd_zip hlength.le]
    simp only [Option.some.injEq, exists_eq_left']
    rw [Record.ofFields, h, tuple]
    constructor
    · intro hu
      split at hu
      · rename_i hlength
        obtain ⟨vs, hvs, rfl⟩ := exceptMap_eq_ok.1 hu
        have htexts := (hcells hlength vs).1 hvs
        exact ⟨vs, htexts, htexts.length_eq ▸ hlength, rfl⟩
      · cases hu
    · rintro ⟨vs, htexts, hlength, rfl⟩
      rw [← htexts.length_eq] at hlength
      rw [if_pos hlength, (hcells hlength vs).2 htexts]
      rfl

/-- Which kind of failure some fields are that are no row of a table: if some field is not the form
    of a text, one of access, else if the fields are not as many as the columns, one of the schema,
    and else one of a value. -/
structure Spoils (t : Table) (fields : List (List UInt8)) (kind : ErrorKind) : Prop where
  access : (∃ field ∈ fields, ∀ text, field ≠ Utf8.encode text) → kind = .access
  schema : (∀ field ∈ fields, ∃ text, field = Utf8.encode text) →
    fields.length ≠ t.columns.length → kind = .schema
  value : (∀ field ∈ fields, ∃ text, field = Utf8.encode text) →
    fields.length = t.columns.length → kind = .value

theorem kind_of_values {t : Table} {cells : List (String × String)} {e : QueryError}
    (h : t.values cells = .error e) : e.kind = .value := by
  induction cells with
  | nil => cases h
  | cons cell cells ih =>
    rw [values] at h
    split at h
    · cases hcells : t.values cells with
      | ok vs =>
        rw [hcells] at h
        cases h
      | error e' =>
        rw [hcells] at h
        cases h
        exact ih hcells
    · cases h
      rfl

theorem mapM_fieldText?_eq_none {fields : List (List UInt8)} : fields.mapM fieldText? = none ↔
    ∃ field ∈ fields, ∀ text, field ≠ Utf8.encode text := by
  rw [mapM_eq_none]
  refine exists_congr fun field => and_congr_right fun _ => ?_
  rw [fieldText?, Option.map_eq_none_iff, Option.eq_none_iff_forall_ne_some]
  simp only [ne_eq, Utf8.decode?_eq_some]

/-- The failure to read a record is of the kind that its fields are. -/
theorem spoils_of_tuple {t : Table} {fields : List (List UInt8)} {e : QueryError}
    (h : t.tuple (.ofFields fields) = .error e) : t.Spoils fields e.kind := by
  cases htexts : fields.mapM fieldText? with
  | none =>
    rw [Record.ofFields, htexts, tuple] at h
    obtain rfl := Except.error.inj h
    obtain ⟨field, hfield, hnot⟩ := mapM_fieldText?_eq_none.1 htexts
    have hmixed (hall : ∀ field ∈ fields, ∃ text, field = Utf8.encode text) : False :=
      (hall field hfield).elim hnot
    exact ⟨fun _ => rfl, fun hall => (hmixed hall).elim, fun hall => (hmixed hall).elim⟩
  | some texts =>
    have hlength : fields.length = texts.length := by
      simpa using congrArg List.length (mapM_eq_some.1 htexts)
    have haccess (hsome : ∃ field ∈ fields, ∀ text, field ≠ Utf8.encode text) :
        e.kind = .access := by
      rw [← mapM_fieldText?_eq_none, htexts] at hsome
      cases hsome
    rw [Record.ofFields, htexts, tuple, ← hlength] at h
    refine ⟨haccess, fun _ hcount => ?_, fun _ hcount => ?_⟩
    · rw [if_neg hcount] at h
      exact Except.error.inj h ▸ rfl
    · rw [if_pos hcount] at h
      cases hvalues : t.values (t.columns.zip texts) with
      | ok vs =>
        rw [hvalues] at h
        cases h
      | error e' =>
        rw [hvalues] at h
        cases h
        exact kind_of_values hvalues

end Table

/-! ## Scans -/

namespace Scan

/-- After some calls, a scan has the records behind as many. -/
theorem goOn_eq (t : Table) (rs : List Record) (later : List Files) :
    cursor.goOn later ⟨t, .ok rs⟩ = ⟨t, .ok (rs.drop later.length)⟩ := by
  induction later generalizing rs with
  | nil => rfl
  | cons files later ih =>
    cases rs with
    | nil => exact (ih []).trans (by rw [List.drop_nil, List.drop_nil])
    | cons r rs => exact ih rs

/-- After some calls, a scan gives the tuple of the record behind as many, if there is one. -/
theorem next_goOn (t : Table) (rs : List Record) (later : List Files) (now : Files) :
    (cursor.next now (cursor.goOn later ⟨t, .ok rs⟩)).result =
      rs[later.length]?.elim (.ok none) fun r => (t.tuple r).map some := by
  rw [goOn_eq, ← List.head?_drop]
  cases rs.drop later.length <;> rfl

/-- A scan whose first records are those of some rows hands out these rows first. -/
theorem next_goOn_of_lt {t : Table} {records : List (List (List UInt8))}
    (h : List.Forall₂ (List.Forall₂ HoldsValue) records rows)
    (hrows : ∀ row ∈ rows, row.length = t.columns.length) (rest : List (List (List UInt8)))
    {later : List Files} (hlt : later.length < rows.length) (now : Files) :
    (cursor.next now
        (cursor.goOn later ⟨t, .ok ((records ++ rest).map Record.ofFields)⟩)).result =
      .ok (some (Tuple.ofRow t.name t.columns rows[later.length])) := by
  have hlt' : later.length < records.length := h.length_eq ▸ hlt
  have htuple : t.tuple (.ofFields records[later.length]) =
      .ok (Tuple.ofRow t.name t.columns rows[later.length]) :=
    Table.tuple_eq_ok.2 ⟨_, h.get hlt' hlt, hrows _ (List.getElem_mem hlt), rfl⟩
  rw [next_goOn, List.getElem?_map, List.getElem?_append_left hlt', List.getElem?_eq_getElem hlt',
    Option.map_some, Option.elim_some, htuple]
  rfl

/-- Fields that are rows of a table hold some values. -/
theorem exists_forall₂_holdsValue {t : Table} {good : List (List (List UInt8))}
    (h : ∀ fields ∈ good, t.IsRow fields) :
    ∃ rows, List.Forall₂ (List.Forall₂ HoldsValue) good rows ∧
      ∀ row ∈ rows, row.length = t.columns.length := by
  induction good with
  | nil => exact ⟨[], .nil, List.forall_mem_nil _⟩
  | cons fields good ih =>
    obtain ⟨hfields, hgood⟩ := List.forall_mem_cons.1 h
    obtain ⟨u, hu⟩ := (t.decides_tuple fields).ok_iff.2 hfields
    obtain ⟨row, hrow, hlength, -⟩ := Table.tuple_eq_ok.1 hu
    obtain ⟨rows, hrows, hlengths⟩ := ih hgood
    exact ⟨row :: rows, .cons hrow hrows, List.forall_mem_cons.2 ⟨hlength, hlengths⟩⟩

/-- A scan of a table whose file is written for some rows hands out these rows in order, named by
    the table and its columns, and then nothing more, however the rows are written. If the file of a
    table has a record that is no row of it, a scan hands out the rows before the first such record
    and then fails: with a failure of access if the record is not the form of a text, else with one
    of the schema if it has not one field for each column, and else with one of a value. -/
theorem next_of_file {k : Catalog} {name : String} {t : Table} (ht : k.find? name = some t) :
    (∀ (files : Files) (rows : List (List Int32)) (text : List Char),
      files t.path = .ok (String.ofList text).toUTF8 → RowsText rows text →
      (∀ row ∈ rows, row.length = t.columns.length) →
      ∃ scan, Scan.open k files name = .ok scan ∧ ∀ later now,
        (cursor.next now (cursor.goOn later scan)).result =
          .ok (rows[later.length]?.map (Tuple.ofRow name t.columns))) ∧
    ∀ (files : Files) (bytes : ByteArray) (good rest : List (List (List UInt8)))
      (bad : List (List UInt8)), files t.path = .ok bytes →
      split bytes.data.toList = good ++ bad :: rest →
      (∀ fields ∈ good, t.IsRow fields) → ¬t.IsRow bad →
      ∃ scan rows, Scan.open k files name = .ok scan ∧
        List.Forall₂ (List.Forall₂ HoldsValue) good rows ∧
        (∀ later now, (hlt : later.length < rows.length) →
          (cursor.next now (cursor.goOn later scan)).result =
            .ok (some (Tuple.ofRow name t.columns rows[later.length]))) ∧
        ∀ later now, later.length = rows.length →
          ∃ e, (cursor.next now (cursor.goOn later scan)).result = .error e ∧
            t.Spoils bad e.kind := by
  obtain rfl : t.name = name := by simpa using List.find?_some ht
  constructor
  · intro files rows text hfile htext hrows
    refine ⟨_, open_of_ok ht hfile, fun later now => ?_⟩
    have hsplit := htext.forall₂_split
    rw [records, Utf8.toList_toUTF8, String.toList_ofList]
    rcases Nat.lt_or_ge later.length rows.length with hlt | hge
    · have hnext := next_goOn_of_lt hsplit hrows [] hlt now
      rw [List.append_nil] at hnext
      rw [hnext, List.getElem?_eq_getElem hlt, Option.map_some]
    · -- Behind the last row, there is no record either.
      have hend : (split (Utf8.encode text)).length ≤ later.length := hsplit.length_eq ▸ hge
      rw [next_goOn, List.getElem?_map, List.getElem?_eq_none hend, List.getElem?_eq_none hge]
      rfl
  · intro files bytes good rest bad hfile hsplit hgood hbad
    obtain ⟨rows, hrows, hlengths⟩ := exists_forall₂_holdsValue hgood
    refine ⟨_, rows, open_of_ok ht hfile, hrows, fun later now hlt => ?_,
      fun later now hlength => ?_⟩
    · rw [records, hsplit]
      exact next_goOn_of_lt hrows hlengths (bad :: rest) hlt now
    · cases hread : t.tuple (.ofFields bad) with
      | ok u => exact absurd ((t.decides_tuple bad).ok_iff.1 ⟨u, hread⟩) hbad
      | error e =>
        refine ⟨e, ?_, Table.spoils_of_tuple hread⟩
        rw [records, hsplit, next_goOn, List.getElem?_map, hlength, ← hrows.length_eq,
          List.getElem?_append_right (Nat.le_refl _), Nat.sub_self, List.getElem?_cons_zero,
          Option.map_some, Option.elim_some, hread]
        rfl

end Scan

namespace Sample

/-- The table `R(a, b)`. -/
def tableOfPairs : Table := ⟨"R", ["a", "b"], "db/data/R.csv"⟩

/-- Two rows of `R`, with signs, leading zeros, spaces, tabs and empty lines. -/
def looseText : List Char := " 1,\t+02 \r\n\n\r\n-3 ,2147483647".toList

/-- Data files where `R` has these rows. -/
def looseFiles : Files := fun path =>
  if path = "db/data/R.csv" then .ok (String.ofList looseText).toUTF8 else .error .missing

/-- Data files where the second row of `R` is too short, and the third one has no integer in it. -/
def shortFiles : Files := fun path =>
  if path = "db/data/R.csv" then .ok "1,2\n3\n5,x\n".toUTF8 else .error .missing

theorem rowsText_loose : RowsText [[1, 2], [-3, 2147483647]] looseText := by
  have hfield {v : Int32} (before digits after : List Char) (hbefore : IsPadding before)
      (h : Decimal.word? digits = some v) (hafter : IsPadding after) :
      FieldText v (before ++ digits ++ after) :=
    .padded hbefore (Decimal.word?_eq_some.1 h) hafter
  have hfirst : RowText [1, 2] " 1,\t+02 ".toList :=
    .cons (hfield [' '] ['1'] [] (by decide) (by decide) (by decide))
      (.single (hfield ['\t'] ['+', '0', '2'] [' '] (by decide) (by decide) (by decide)))
  have hsecond : RowText [-3, 2147483647] "-3 ,2147483647".toList :=
    .cons (hfield [] ['-', '3'] [' '] (by decide) (by decide) (by decide))
      (.single (hfield [] "2147483647".toList [] (by decide) (by decide) (by decide)))
  exact .row hfirst .returned (.empty .feed (.empty .returned (.last hsecond)))

/-- A scan hands out rows that are written loosely, and the row before one that is too short. -/
theorem loose_next_of_file :
    catalog.find? "R" = some tableOfPairs ∧
    looseFiles tableOfPairs.path = .ok (String.ofList looseText).toUTF8 ∧
    RowsText [[1, 2], [-3, 2147483647]] looseText ∧
    (∀ row ∈ [[1, 2], [-3, (2147483647 : Int32)]], row.length = tableOfPairs.columns.length) ∧
    (∃ scan, Scan.open catalog looseFiles "R" = .ok scan ∧
      (Scan.cursor.next looseFiles scan).result = .ok (some ⟨[⟨"R", "a", 1⟩, ⟨"R", "b", 2⟩]⟩) ∧
      (Scan.cursor.next looseFiles (Scan.cursor.goOn [looseFiles, looseFiles] scan)).result =
        .ok none) ∧
    split "1,2\n3\n5,x\n".toUTF8.data.toList =
      [[[0x31], [0x32]]] ++ [[0x33]] :: [[[0x35], [0x78]]] ∧
    (∀ fields ∈ [[[0x31], [0x32]]], tableOfPairs.IsRow fields) ∧ ¬tableOfPairs.IsRow [[0x33]] ∧
    ∃ scan e, Scan.open catalog shortFiles "R" = .ok scan ∧
      (Scan.cursor.next shortFiles scan).result = .ok (some ⟨[⟨"R", "a", 1⟩, ⟨"R", "b", 2⟩]⟩) ∧
      (Scan.cursor.next shortFiles (Scan.cursor.goOn [shortFiles] scan)).result = .error e ∧
      e.kind = .schema := by
  have hfind : catalog.find? "R" = some tableOfPairs := rfl
  have hlengths : ∀ row ∈ [[1, 2], [-3, (2147483647 : Int32)]],
      row.length = tableOfPairs.columns.length := by
    decide
  have hsplit : split "1,2\n3\n5,x\n".toUTF8.data.toList =
      [[[0x31], [0x32]]] ++ [[0x33]] :: [[[0x35], [0x78]]] := by
    decide +kernel
  have hgood : ∀ fields ∈ [[[0x31], [0x32]]], tableOfPairs.IsRow fields := by decide +kernel
  have hbad : ¬tableOfPairs.IsRow [[0x33]] := by decide +kernel
  refine ⟨hfind, rfl, rowsText_loose, hlengths, ?_, hsplit, hgood, hbad, ?_⟩
  · obtain ⟨scan, hopen, hnext⟩ :=
      (Scan.next_of_file hfind).1 looseFiles _ looseText rfl rowsText_loose hlengths
    exact ⟨scan, hopen, hnext [] looseFiles, hnext [looseFiles, looseFiles] looseFiles⟩
  · obtain ⟨scan, rows, hopen, hrows, hnext, hend⟩ :=
      (Scan.next_of_file hfind).2 shortFiles _ _ _ _ rfl hsplit hgood hbad
    have hone : HoldsValue [0x31] 1 := holdsValue_iff.2 ⟨"1", by decide, by decide⟩
    have htwo : HoldsValue [0x32] 2 := holdsValue_iff.2 ⟨"2", by decide, by decide⟩
    obtain rfl : [[1, 2]] = rows :=
      rightUnique_holdsValue.forall₂.forall₂ (.cons (.cons hone (.cons htwo .nil)) .nil) hrows
    obtain ⟨e, he, hkind⟩ := hend [shortFiles] shortFiles rfl
    have htext : ∀ field ∈ [[0x33]], ∃ text, field = Utf8.encode text :=
      List.forall_mem_singleton.2 ⟨['3'], by decide⟩
    exact ⟨scan, e, hopen, hnext [] shortFiles (by decide), he, hkind.schema htext (by decide)⟩

/-- Data files where the second row of `R` is too short and not the form of a text, either. -/
def garbledFiles : Files := fun path =>
  if path = "db/data/R.csv" then .ok ("1,2\n".toUTF8.push 0xFF) else .error .missing

/-- A row that has not one field for each column is no failure of the schema if it is not the form
    of a text. -/
theorem garbled_next :
    split ("1,2\n".toUTF8.push 0xFF).data.toList = [[[0x31], [0x32]], [[0xFF]]] ∧
    tableOfPairs.IsRow [[0x31], [0x32]] ∧ [[(0xFF : UInt8)]].length ≠ tableOfPairs.columns.length ∧
    ∃ scan e, Scan.open catalog garbledFiles "R" = .ok scan ∧
      (Scan.cursor.next garbledFiles (Scan.cursor.goOn [garbledFiles] scan)).result = .error e ∧
      e.kind ≠ .schema := by
  refine ⟨by decide +kernel, by decide +kernel, by decide, ?_⟩
  refine ⟨_, .rowGarbled, Scan.open_of_ok (t := tableOfPairs) rfl rfl, ?_, by decide⟩
  decide +kernel

end Sample

end CsvQuery
