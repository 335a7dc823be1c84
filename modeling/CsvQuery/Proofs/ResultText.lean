import CsvQuery.Execution
import CsvQuery.Proofs.SumNames

/-!
# Texts of results

A result shows each tuple in a line of its own, and of each attribute its name
and its value. The name of a stored attribute has the table before a dot, and
the name of a sum is the text of the sum, without any table. Commas stand between
attributes only, and no name has an equals sign, so the text of a result can be
taken apart again: at the ends of lines, at the commas, at the equals signs, and
at the dots of those names that have no parenthesis. Two results with the same
text thus show the same tuples.

* `Attribute.IsPlain`: attributes whose names are plain, or that are sums of plain names.
* `Attribute.IsPlain.eq_of_render`, `Tuple.IsPlain.eq_of_render`: the text of an attribute and that
  of a tuple determine what is shown.
* `Outcome.lines_text`: the lines of a result.
* `Opened.execute_determines`: results with the same text are those of the same tuples.
-/

namespace CsvQuery

/-! ## Characters of names -/

/-- Whether a character may stand in a shown name: those of plain names and integers, and what
    stands around them in sums. -/
def isShownChar (c : Char) : Bool :=
  isNameChar c || Decimal.isDigit c || ['.', '-', ' ', '*', '(', ')'].contains c

theorem IsPlainName.shown_of_mem {s : String} (h : IsPlainName s) :
    ∀ c ∈ s.toList, isShownChar c = true := by
  intro c hc
  rw [isShownChar, h.chars c hc]
  rfl

namespace Expr

variable {e : Expr}

theorem IsFactor.shown_of_mem (he : e.IsFactor) : ∀ c ∈ e.render.toList, isShownChar c = true := by
  intro c hc
  rcases he.of_mem_render hc with h | rfl | h | rfl
  · simp [isShownChar, h]
  · decide
  · simp [isShownChar, h]
  · decide

theorem IsSummable.shown_of_mem (he : e.IsSummable) (hnames : ∀ c ∈ e.columns, c.IsPlain) :
    ∀ c ∈ e.render.toList, isShownChar c = true := by
  induction he with
  | literal n => exact (IsFactor.literal n).shown_of_mem
  | column c => exact (IsFactor.column (hnames c (List.mem_singleton_self c))).shown_of_mem
  | @product l r hl hr ihl ihr =>
    rw [columns, List.forall_mem_append] at hnames
    have htext : (arithmetic l .multiply r).render.toList =
        l.render.toList ++ (" * ".toList ++ r.render.toList) := by
      simp [render, operandText, hl.isLooseUnder, hr.isLooseUnder, Arithmetic.symbol]
    rw [htext, List.forall_mem_append, List.forall_mem_append]
    exact ⟨ihl hnames.1, List.all_eq_true.1 (by decide), ihr hnames.2⟩

end Expr

theorem SumCall.toList_name (call : SumCall) :
    call.name.toList = "SUM(".toList ++ (call.argument.render.toList ++ [')']) := by
  simp [name]

/-! ## Attributes -/

namespace Attribute

variable {a b : Attribute}

/-- The name of an attribute as results show it. -/
def shownName (a : Attribute) : List Char :=
  if a.table = sumTable then a.column.toList else a.table.toList ++ '.' :: a.column.toList

theorem toList_render (a : Attribute) :
    a.render.toList = a.shownName ++ '=' :: Decimal.write a.value.toInt := by
  rw [render, shownName]
  split <;> simp [Decimal.text]

/-- An attribute whose names are plain, or one that is a sum of integers, columns and products whose
    names are plain. -/
inductive IsPlain : Attribute → Prop
  | stored {a : Attribute} (htable : IsPlainName a.table) (hcolumn : IsPlainName a.column) :
    IsPlain a
  | sum {call : SumCall} (h : call.IsPlain) (v : Int32) : IsPlain ⟨sumTable, call.name, v⟩

theorem IsPlain.shown_of_mem (ha : a.IsPlain) : ∀ c ∈ a.shownName, isShownChar c = true := by
  cases ha with
  | stored htable hcolumn =>
    rw [shownName]
    split
    · exact hcolumn.shown_of_mem
    · rw [List.forall_mem_append, List.forall_mem_cons]
      exact ⟨htable.shown_of_mem, by decide, hcolumn.shown_of_mem⟩
  | @sum call h v =>
    rw [shownName, if_pos rfl, SumCall.toList_name, List.forall_mem_append, List.forall_mem_append]
    exact ⟨List.all_eq_true.1 (by decide), h.summable.shown_of_mem h.names,
      List.all_eq_true.1 (by decide)⟩

/-- The name of a sum is not shown like that of a stored attribute, which has a dot and no
    parenthesis. -/
theorem IsPlain.shownName_ne (ha : a.IsPlain) (hb : b.IsPlain) (hsum : a.table = sumTable)
    (hstored : b.table ≠ sumTable) : a.shownName ≠ b.shownName := by
  cases hb with
  | sum => exact absurd rfl hstored
  | stored htable hcolumn =>
    rw [shownName, if_pos hsum, shownName, if_neg hstored]
    intro hname
    cases ha with
    | stored _ hcolumn' =>
      exact hcolumn'.not_mem (c := '.') (by decide) (hname ▸ by simp)
    | @sum call h v =>
      have hparen : '(' ∈ b.table.toList ++ '.' :: b.column.toList := by
        rw [← hname, SumCall.toList_name]
        exact List.mem_append_left _ (by decide)
      rw [List.mem_append, List.mem_cons] at hparen
      rcases hparen with hparen | hparen | hparen
      · exact htable.not_mem (by decide) hparen
      · cases hparen
      · exact hcolumn.not_mem (by decide) hparen

/-- The shown name of an attribute determines its table and its column. -/
theorem IsPlain.eq_of_shownName (ha : a.IsPlain) (hb : b.IsPlain) (h : a.shownName = b.shownName) :
    a.table = b.table ∧ a.column = b.column := by
  by_cases hta : a.table = sumTable <;> by_cases htb : b.table = sumTable
  · rw [shownName, if_pos hta, shownName, if_pos htb] at h
    exact ⟨hta.trans htb.symm, String.toList_inj.1 h⟩
  · exact absurd h (ha.shownName_ne hb hta htb)
  · exact absurd h.symm (hb.shownName_ne ha htb hta)
  · cases ha with
    | sum => exact absurd rfl hta
    | stored htable hcolumn =>
      -- Both names are plain, so the only dot is the one between table and column.
      rw [shownName, if_neg hta, shownName, if_neg htb] at h
      obtain ⟨htables, -, hcolumns⟩ := (List.append_cons_inj_of_notMem
        (htable.not_mem (by decide)) (hcolumn.not_mem (by decide))).1 h
      exact ⟨String.toList_inj.1 htables, String.toList_inj.1 hcolumns⟩

/-- The text of an attribute determines the attribute. -/
theorem IsPlain.eq_of_render (ha : a.IsPlain) (hb : b.IsPlain)
    (h : a.render.toList = b.render.toList) : a = b := by
  rw [toList_render, toList_render] at h
  have hname : '=' ∉ a.shownName := fun hmem => absurd (ha.shown_of_mem _ hmem) (by decide)
  have hvalue : '=' ∉ Decimal.write a.value.toInt := fun hmem =>
    absurd (Decimal.of_mem_write hmem) (by decide)
  obtain ⟨hnames, -, hvalues⟩ := (List.append_cons_inj_of_notMem hname hvalue).1 h
  obtain ⟨htable, hcolumn⟩ := ha.eq_of_shownName hb hnames
  cases a
  cases b
  cases htable
  cases hcolumn
  cases Decimal.eq_of_write hvalues
  rfl

/-- What stands neither in shown names nor between a name and a value is not in the text of an
    attribute. -/
theorem IsPlain.not_mem_render (ha : a.IsPlain) {c : Char} (hc : isShownChar c = false)
    (hne : c ≠ '=') : c ∉ a.render.toList := by
  rw [toList_render, List.mem_append, List.mem_cons]
  rintro (hmem | rfl | hmem)
  · rw [ha.shown_of_mem c hmem] at hc
    cases hc
  · exact hne rfl
  · rw [isShownChar, Bool.or_eq_false_iff, Bool.or_eq_false_iff] at hc
    rcases Decimal.of_mem_write hmem with h | rfl
    · rw [hc.1.2] at h
      cases h
    · exact absurd hc.2 (by decide)

end Attribute

/-! ## Tuples -/

/-- Each text but the first one has the separator before it. -/
theorem intercalate_cons {α : Type} (sep text : List α) (texts : List (List α)) :
    sep.intercalate (text :: texts) = text ++ texts.flatMap (sep ++ ·) := by
  induction texts generalizing text with
  | nil => rw [List.intercalate_singleton, List.flatMap_nil, List.append_nil]
  | cons next texts ih =>
    rw [List.intercalate_cons_cons, ih, List.flatMap_cons, List.append_assoc, List.append_assoc]

theorem not_mem_intercalate {α : Type} {sep : List α} {texts : List (List α)} {c : α}
    (hsep : c ∉ sep) (h : ∀ s ∈ texts, c ∉ s) : c ∉ sep.intercalate texts := by
  cases texts with
  | nil => exact List.not_mem_nil
  | cons text texts =>
    rw [List.forall_mem_cons] at h
    rw [intercalate_cons, List.mem_append, List.mem_flatMap, not_or]
    refine ⟨h.1, fun ⟨s, hs, hmem⟩ => ?_⟩
    exact (List.mem_append.1 hmem).elim hsep (h.2 s hs)

/-- Texts with commas and blanks between them, taken apart at the commas. -/
theorem splitOn_intercalate {text : List Char} {texts : List (List Char)}
    (h : ∀ s ∈ text :: texts, ',' ∉ s) :
    ([',', ' '].intercalate (text :: texts)).splitOn ',' = text :: texts.map (' ' :: ·) := by
  have hblanks : [',', ' '].intercalate (text :: texts) =
      [','].intercalate (text :: texts.map (' ' :: ·)) := by
    rw [intercalate_cons, intercalate_cons, List.flatMap_map]
    rfl
  rw [hblanks]
  refine List.splitOn_intercalate ',' ?_ (List.cons_ne_nil _ _)
  rw [List.forall_mem_cons] at h ⊢
  simpa using h

/-- Texts that have characters, but no commas, are determined by the text that they are with commas
    and blanks between them. -/
theorem eq_of_intercalate {texts texts' : List (List Char)}
    (h : ∀ s ∈ texts, s ≠ [] ∧ ',' ∉ s) (h' : ∀ s ∈ texts', s ≠ [] ∧ ',' ∉ s)
    (heq : [',', ' '].intercalate texts = [',', ' '].intercalate texts') : texts = texts' := by
  have hne {text : List Char} {texts : List (List Char)} (htext : text ≠ []) :
      [',', ' '].intercalate (text :: texts) ≠ [] := by
    rw [intercalate_cons]
    exact List.append_ne_nil_of_left_ne_nil htext _
  cases texts with
  | nil =>
    cases texts' with
    | nil => rfl
    | cons text' texts' => exact absurd heq.symm (hne (h' text' List.mem_cons_self).1)
  | cons text texts =>
    cases texts' with
    | nil => exact absurd heq (hne (h text List.mem_cons_self).1)
    | cons text' texts' =>
      have hsplit := congrArg (List.splitOn ',') heq
      rw [splitOn_intercalate fun s hs => (h s hs).2, splitOn_intercalate fun s hs => (h' s hs).2,
        List.cons.injEq] at hsplit
      rw [hsplit.1, (List.map_injective_iff.2 (List.cons_injective (a := ' '))) hsplit.2]

namespace Tuple

variable {t u : Tuple}

/-- A tuple all of whose attributes are plain. -/
def IsPlain (t : Tuple) : Prop := ∀ a ∈ t.attributes, a.IsPlain

theorem toList_render (t : Tuple) :
    t.render.toList = [',', ' '].intercalate (t.attributes.map (·.render.toList)) := by
  rw [render, String.toList_intercalate, List.map_map]
  rfl

/-- The text of a tuple is one line. -/
theorem IsPlain.not_mem_render (ht : t.IsPlain) :
    '\n' ∉ t.render.toList ∧ '\r' ∉ t.render.toList := by
  rw [toList_render]
  refine ⟨not_mem_intercalate (by decide) ?_, not_mem_intercalate (by decide) ?_⟩ <;>
    rw [List.forall_mem_map] <;>
    exact fun a ha => (ht a ha).not_mem_render (by decide) (by decide)

/-- The text of a tuple determines the tuple. -/
theorem IsPlain.eq_of_render (ht : t.IsPlain) (hu : u.IsPlain)
    (h : t.render.toList = u.render.toList) : t = u := by
  have htexts {t : Tuple} (ht : t.IsPlain) :
      ∀ s ∈ t.attributes.map (·.render.toList), s ≠ [] ∧ ',' ∉ s := by
    rw [List.forall_mem_map]
    intro a ha
    refine ⟨?_, (ht a ha).not_mem_render (by decide) (by decide)⟩
    rw [Attribute.toList_render]
    exact List.append_ne_nil_of_right_ne_nil _ (List.cons_ne_nil _ _)
  rw [toList_render, toList_render] at h
  have hattributes := eq_of_map_eq (fun a b ha hb => Attribute.IsPlain.eq_of_render ha hb) ht hu
    (eq_of_intercalate (htexts ht) (htexts hu) h)
  cases t
  cases u
  cases hattributes
  rfl

end Tuple

/-! ## Results -/

/-- What has been read of a line before its line feed belongs to it. -/
theorem linesFrom_append {line : List Char} (h : '\n' ∉ line) (word rest : List Char) :
    linesFrom word (line ++ '\n' :: rest) =
      (dropReturn (line.reverse ++ word)).reverse :: lines rest := by
  induction line generalizing word with
  | nil => rfl
  | cons c line ih =>
    rw [List.mem_cons, not_or] at h
    rw [List.cons_append, linesFrom, ih h.2, List.reverse_cons, List.append_assoc,
      List.singleton_append]
    exact fun hc => h.1 hc.symm

/-- The lines of a text each of whose lines ends in a line feed alone. -/
theorem lines_flatMap {texts : List (List Char)} (h : ∀ s ∈ texts, '\n' ∉ s ∧ '\r' ∉ s) :
    lines (texts.flatMap (· ++ ['\n'])) = texts := by
  induction texts with
  | nil => rfl
  | cons line texts ih =>
    obtain ⟨⟨hfeed, hreturn⟩, hrest⟩ := List.forall_mem_cons.1 h
    have hdrop : dropReturn line.reverse = line.reverse := by
      rw [dropReturn]
      intro rest hrev
      exact hreturn (List.mem_reverse.1 (hrev ▸ List.mem_cons_self))
    rw [List.flatMap_cons, List.append_assoc, List.singleton_append, lines, linesFrom_append hfeed,
      List.append_nil, hdrop, List.reverse_reverse, ih hrest]

namespace Outcome

variable {ts us : List Tuple}

/-- The lines of a result are the texts of its tuples. -/
theorem lines_text (h : ∀ t ∈ ts, t.IsPlain) :
    lines (ofTuples ts).text.toList = ts.map (·.render.toList) := by
  have htext : (ofTuples ts).text.toList =
      (ts.map (·.render.toList)).flatMap (· ++ ['\n']) := by
    rw [ofTuples, String.toList_join, List.flatMap_map, List.flatMap_map]
    simp only [String.toList_append]
    rfl
  rw [htext]
  exact lines_flatMap (List.forall_mem_map.2 fun t ht => (h t ht).not_mem_render)

/-- The text of a result determines its tuples. -/
theorem eq_of_text (h : ∀ t ∈ ts, t.IsPlain) (h' : ∀ t ∈ us, t.IsPlain)
    (htext : (ofTuples ts).text = (ofTuples us).text) : ts = us := by
  have hlines := congrArg (fun text : String => lines text.toList) htext
  simp only [lines_text h, lines_text h'] at hlines
  exact eq_of_map_eq (fun t u ht hu => Tuple.IsPlain.eq_of_render ht hu) h h' hlines

end Outcome

/-! ## Plans with plain tuples -/

namespace Plan

variable {k : Catalog} {p : Plan}

/-- A plan over plain tuples, tables with plain names and columns, and sums of plain names. -/
def IsPlain (k : Catalog) : Plan → Prop
  | tuples rows => ∀ t ∈ rows, t.IsPlain
  | scan table => IsPlainName table ∧ ∀ column ∈ k.columns table, IsPlainName column
  | filter _ child | project _ child | sort _ child | distinct _ child => child.IsPlain k
  | join _ left right => left.IsPlain k ∧ right.IsPlain k
  | aggregate _ sums child => (∀ call ∈ sums, call.IsPlain) ∧ child.IsPlain k

/-- Such a plan keeps to plain tuples. -/
theorem IsPlain.keepsTo (h : p.IsPlain k) : p.KeepsTo k (fun _ => True) Tuple.IsPlain := by
  induction p with
  | tuples rows => exact ⟨_, Replay.keepsTo, fun _ => .pure ⟨h, h⟩⟩
  | scan table =>
    refine (KeepsTo.scan k table).mono fun t hnames a ha => ?_
    have hname : (⟨some a.table, a.column⟩ : ColumnRef) ∈ t.names := List.mem_map_of_mem ha
    rw [hnames] at hname
    obtain ⟨column, hcolumn, hsame⟩ := List.mem_map.1 hname
    rw [ColumnRef.mk.injEq, Option.some.injEq] at hsame
    exact .stored (hsame.1 ▸ h.1) (hsame.2 ▸ h.2 column hcolumn)
  | filter condition child ih => exact (ih h).filter fun _ _ _ _ => trivial
  | project projection child ih =>
    refine (ih h).project (fun _ _ _ _ => trivial) fun t ht => ?_
    rw [Projection.tuple]
    split
    · exact ht
    · intro a ha
      obtain ⟨item, _, hfound⟩ := List.mem_filterMap.1 ha
      exact ht a (List.mem_of_find?_eq_some hfound)
  | join condition left right ihl ihr =>
    exact (ihl h.1).join (ihr h.2) (fun _ _ _ _ _ _ => trivial) fun t u ht hu =>
      List.forall_mem_append.2 ⟨ht, hu⟩
  | aggregate columns sums child ih =>
    refine (ih h.2).aggregate (fun _ _ _ _ => trivial) (fun _ _ _ _ _ _ => trivial)
      fun t members ht => List.forall_mem_append.2 ⟨ht, List.forall_mem_map.2 fun call hcall => ?_⟩
    exact .sum (h.1 call hcall) _
  | sort keys child ih => exact (ih h).sort fun _ _ _ _ => trivial
  | distinct key child ih => exact (ih h).distinct fun _ _ _ _ => trivial

/-- Such a plan, when opened, delivers only plain tuples, whatever the files hold at any time. -/
theorem IsPlain.ofPlan (h : p.IsPlain k) (files : Files) :
    (Opened.ofPlan k files p).KeepsTo (fun _ => True) fun o => ∀ files' ts,
      (o.drain files').result = .ok ts → ∀ t ∈ ts, t.IsPlain := by
  obtain ⟨inv, hcursor, hopen⟩ := h.keepsTo
  refine (hopen files).bind fun s hs => .pure fun files' ts hts => ?_
  have hdrain : (p.cursor.drain files' s).KeepsTo _ _ inv :=
    hcursor.collect (fun _ _ _ hn => absurd hn List.not_mem_nil) hs
  exact hdrain.result ts hts

/-- The sums of such a plan can be taken. -/
theorem IsPlain.checkSums_eq (h : p.IsPlain k) : p.checkSums = .ok () := by
  induction p with
  | tuples rows => rfl
  | scan table => rfl
  | filter condition child ih | project projection child ih | sort keys child ih
  | distinct key child ih => exact ih h
  | join condition left right ihl ihr =>
    rw [checkSums, ihl h.1]
    exact ihr h.2
  | aggregate columns sums child ih =>
    obtain ⟨_, hsums⟩ := (SumCall.decides_check sums).ok_iff.2 fun call hcall =>
      (h.1 call hcall).summable
    rw [checkSums, ih h.2]
    exact hsums

/-- Over tables without malformed rows, such a plan has the outcome of its tuples. -/
theorem IsPlain.exists_execute (h : p.IsPlain k) {files : Files}
    (hsound : ∀ name ∈ p.tables, k.IsSound files name) :
    ∃ o, (Opened.ofPlan k files p).result = .ok o ∧
      (o.execute files).result = .ok (.ofTuples (p.rows k files)) ∧
      ∀ ts, (o.drain files).result = .ok ts → ∀ t ∈ ts, t.IsPlain := by
  obtain ⟨o, hleft, ho⟩ := Opened.result_ofPlan hsound
  rw [h.checkSums_eq] at ho
  refine ⟨o, ho, ?_, (h.ofPlan files).value o ho files⟩
  rw [Opened.result_execute]
  exact congrArg (Except.map Outcome.ofTuples)
    (o.plan.delivers.collect (fun _ => []) hleft.2).result

end Plan

namespace Opened

variable {o o' : Opened} {files files' : Files} {outcome outcome' : Outcome}

/-- The outcome of an opened plan is that of the tuples that it delivers. -/
theorem exists_of_execute (h : (o.execute files).result = .ok outcome) :
    ∃ ts, (o.drain files).result = .ok ts ∧ outcome = .ofTuples ts := by
  rw [result_execute] at h
  obtain ⟨ts, hts, rfl⟩ := exceptMap_eq_ok.1 h
  exact ⟨ts, hts, rfl⟩

/-- Consider two plans that deliver only plain tuples, each with an outcome. The outcome of each has
    a line for each tuple. If the texts of both are the same, then both plans have delivered the
    same tuples. -/
theorem execute_determines (h : (o.execute files).result = .ok outcome)
    (h' : (o'.execute files').result = .ok outcome')
    (hplain : ∀ ts, (o.drain files).result = .ok ts → ∀ t ∈ ts, t.IsPlain)
    (hplain' : ∀ ts, (o'.drain files').result = .ok ts → ∀ t ∈ ts, t.IsPlain) :
    (lines outcome.text.toList).length = outcome.rows ∧
      (lines outcome'.text.toList).length = outcome'.rows ∧
      (outcome.text = outcome'.text → ∃ ts, (o.drain files).result = .ok ts ∧
        (o'.drain files').result = .ok ts ∧ outcome.rows = ts.length ∧
        outcome'.rows = ts.length) := by
  obtain ⟨ts, hts, rfl⟩ := exists_of_execute h
  obtain ⟨us, hus, rfl⟩ := exists_of_execute h'
  have htsPlain := hplain ts hts
  have husPlain := hplain' us hus
  rw [Outcome.lines_text htsPlain, Outcome.lines_text husPlain, List.length_map, List.length_map]
  refine ⟨rfl, rfl, fun htext => ?_⟩
  obtain rfl := Outcome.eq_of_text htsPlain husPlain htext
  exact ⟨ts, hts, hus, rfl, rfl⟩

end Opened

namespace Sample

/-- The groups of `S` by `a`, each with the sum of an expression. -/
def summedByA (argument : Expr) : Plan :=
  .aggregate [⟨some "S", "a"⟩] [⟨argument⟩] (.scan "S")

/-- A product of three factors, the first two of which are multiplied first. -/
def leftFirst : Expr :=
  .arithmetic (.arithmetic (.column ⟨some "S", "a"⟩) .multiply (.column ⟨some "S", "c"⟩)) .multiply
    (.literal (.int (-2)))

/-- The same product, the last two factors of which are multiplied first. -/
def rightFirst : Expr :=
  .arithmetic (.column ⟨some "S", "a"⟩) .multiply
    (.arithmetic (.column ⟨some "S", "c"⟩) .multiply (.literal (.int (-2))))

/-- The sums of two products that differ only in their parentheses are shown alike, and so they are
    the same. -/
theorem execute_determines_products :
    ∃ o o' outcome ts, (Opened.ofPlan catalog files (summedByA leftFirst)).result = .ok o ∧
      (Opened.ofPlan catalog files (summedByA rightFirst)).result = .ok o' ∧
      (o.execute files).result = .ok outcome ∧ (o'.execute files).result = .ok outcome ∧
      outcome.text = "S.a=3, S.c=5, SUM(S.a * S.c * -2)=-72\n" ++
        "S.a=1, S.c=6, SUM(S.a * S.c * -2)=-12\n" ∧
      (lines outcome.text.toList).length = 2 ∧
      (o.drain files).result = .ok ts ∧ (o'.drain files).result = .ok ts := by
  have hplain {e : Expr} (he : e.IsSummable) (hnames : ∀ c ∈ e.columns, c.IsPlain) :
      (summedByA e).IsPlain catalog :=
    ⟨List.forall_mem_singleton.2 ⟨he, hnames⟩, by decide, by decide⟩
  have hsound {e : Expr} : ∀ name ∈ (summedByA e).tables, catalog.IsSound files name :=
    fun name hname => isSound name (List.mem_cons_of_mem _ hname)
  obtain ⟨o, ho, hexecute, hts⟩ := (hplain (e := leftFirst)
    (.product (.product (.column _) (.column _)) (.literal _)) (by decide)).exists_execute hsound
  obtain ⟨o', ho', hexecute', hts'⟩ := (hplain (e := rightFirst)
    (.product (.column _) (.product (.column _) (.literal _))) (by decide)).exists_execute hsound
  have hshown : Outcome.ofTuples ((summedByA leftFirst).rows catalog files) =
      ⟨"S.a=3, S.c=5, SUM(S.a * S.c * -2)=-72\n" ++
        "S.a=1, S.c=6, SUM(S.a * S.c * -2)=-12\n", 2⟩ := by
    decide +kernel
  have hshown' : Outcome.ofTuples ((summedByA rightFirst).rows catalog files) =
      Outcome.ofTuples ((summedByA leftFirst).rows catalog files) := by
    decide +kernel
  rw [hshown', hshown] at hexecute'
  rw [hshown] at hexecute
  obtain ⟨hlines, -, hdetermined⟩ := Opened.execute_determines hexecute hexecute' hts hts'
  obtain ⟨ts, hdrain, hdrain', -⟩ := hdetermined rfl
  exact ⟨o, o', _, ts, ho, ho', hexecute, hexecute', rfl, hlines, hdrain, hdrain'⟩

end Sample

end CsvQuery
