import CsvQuery.Proofs.Decimal
import CsvQuery.Proofs.Failures
import CsvQuery.Text.Letter

/-!
# Names of sums

The results of sums are attributes whose names are the texts of the sums, and
items that are sums find them by these texts alone. Texts of products show no
parentheses, so products that differ only in them have the same text. Nothing
else has, as long as names are plain: a text without parentheses shows the
factors of a product in order, and the text of a factor shows which one it is.
As products wrap around, and need all of their columns, the parentheses make no
difference to a sum either.

* `IsPlainName`: names of letters, numerals and underscores.
* `Expr.factors_eq_of_render`: the text of a product determines its factors.
* `Expr.IsSummable.share?_eq`: what a tuple adds to a sum is the product of what the factors are on it.
* `Projection.result_tuples?_shown`: each item that is a sum shows its own total of each group.
-/

namespace CsvQuery

/-! ## Plain names -/

/-- Whether a character may stand in a plain name. -/
def isNameChar (c : Char) : Bool := isLetter c || isNumeral c || c == '_'

/-- A name of letters, numerals and underscores, which does not start with a digit. -/
structure IsPlainName (s : String) : Prop where
  chars : ∀ c ∈ s.toList, isNameChar c = true
  start : ∀ c ∈ s.toList.head?, Decimal.isDigit c = false

theorem isPlainName_iff {s : String} : IsPlainName s ↔
    s.toList.all isNameChar ∧ s.toList.head?.all fun c => !Decimal.isDigit c := by
  rw [List.all_eq_true, Option.all_eq_true]
  simp only [Bool.not_eq_true']
  exact ⟨fun h => ⟨h.chars, h.start⟩, fun h => ⟨h.1, h.2⟩⟩

instance (s : String) : Decidable (IsPlainName s) := decidable_of_iff _ isPlainName_iff.symm

theorem IsPlainName.not_mem {s : String} (h : IsPlainName s) {c : Char}
    (hc : isNameChar c = false) : c ∉ s.toList := by
  intro hmem
  rw [h.chars c hmem] at hc
  cases hc

/-- A reference whose names are plain. -/
structure ColumnRef.IsPlain (c : ColumnRef) : Prop where
  table : ∀ t ∈ c.table, IsPlainName t
  column : IsPlainName c.column

instance (c : ColumnRef) : Decidable c.IsPlain :=
  decidable_of_iff (_ ∧ _) ⟨fun h => ⟨h.1, h.2⟩, fun h => ⟨h.table, h.column⟩⟩

/-! ## Texts of factors -/

/-- A digit or a minus sign is what the text of an integer consists of. -/
theorem Decimal.of_mem_write {n : Int} {c : Char} (h : c ∈ write n) :
    isDigit c = true ∨ c = '-' := by
  cases n with
  | ofNat n => exact .inl (isDigit_iff.2 ((isNumeral_toDigits n).2 c h))
  | negSucc n =>
    rcases List.mem_cons.1 h with rfl | h
    · exact .inr rfl
    · exact .inl (isDigit_iff.2 ((isNumeral_toDigits (n + 1)).2 c h))

theorem Decimal.write_ne_nil (n : Int) : write n ≠ [] := by
  cases n with
  | ofNat n => exact Nat.toDigits_ne_nil
  | negSucc n => exact List.cons_ne_nil _ _

/-- What is written of a value determines the value. -/
theorem Decimal.eq_of_write {v w : Int32} (h : write v.toInt = write w.toInt) : v = w := by
  have hread := word?_write v
  rw [h, word?_write] at hread
  exact (Option.some.inj hread).symm

/-- Lists whose members have the same texts are the same if a text determines a member. -/
theorem eq_of_map_eq {α β : Type} {f : α → β} {p : α → Prop}
    (hf : ∀ a b, p a → p b → f a = f b → a = b) {as bs : List α} (ha : ∀ a ∈ as, p a)
    (hb : ∀ b ∈ bs, p b) (h : as.map f = bs.map f) : as = bs := by
  induction as generalizing bs with
  | nil => exact (List.map_eq_nil_iff.1 h.symm).symm
  | cons a as ih =>
    obtain ⟨b, bs, rfl, hab, hrest⟩ := List.map_eq_cons_iff.1 h.symm
    rw [List.forall_mem_cons] at ha hb
    rw [hf a b ha.1 hb.1 hab.symm, ih ha.2 hb.2 hrest.symm]

/-- The text of a reference with plain names: a name, or two with a dot between them. -/
theorem ColumnRef.toList_render (c : ColumnRef) : c.render.toList =
    (c.table.elim [] fun t => t.toList ++ ['.']) ++ c.column.toList := by
  cases h : c.table <;> simp [render, h]

/-- The text of a reference with plain names determines the reference. -/
theorem ColumnRef.IsPlain.eq_of_render {c d : ColumnRef} (hc : c.IsPlain) (hd : d.IsPlain)
    (h : c.render = d.render) : c = d := by
  have hdot {s : String} (hs : IsPlainName s) : '.' ∉ s.toList := hs.not_mem (by decide)
  have htext := congrArg String.toList h
  rw [toList_render, toList_render] at htext
  obtain ⟨table, column⟩ := c
  obtain ⟨table', column'⟩ := d
  -- A dot shows whether there is a table, and where its name ends.
  cases table <;> cases table' <;> simp only [Option.elim_none, Option.elim_some, List.nil_append,
    List.append_assoc, List.singleton_append] at htext
  case none.none => rw [String.toList_inj.1 htext]
  case none.some => exact absurd (htext ▸ by simp) (hdot hc.column)
  case some.none => exact absurd (htext ▸ by simp) (hdot hd.column)
  case some.some t t' =>
    obtain ⟨ht, -, hname⟩ := (List.append_cons_inj_of_notMem (hdot (hc.table t rfl))
      (hdot hc.column)).1 htext
    obtain rfl : column = column' := String.toList_inj.1 hname
    rw [String.toList_inj.1 ht]

namespace Expr

/-- A factor of a product with plain names: an integer or a column. -/
inductive IsFactor : Expr → Prop
  | literal (n : Int32) : IsFactor (.literal (.int n))
  | column {c : ColumnRef} (h : c.IsPlain) : IsFactor (.column c)

variable {e f g : Expr}

/-- The characters of factors: those of names, the dot and the minus sign. -/
theorem IsFactor.of_mem_render (h : e.IsFactor) {x : Char} (hx : x ∈ e.render.toList) :
    isNameChar x = true ∨ x = '.' ∨ Decimal.isDigit x = true ∨ x = '-' := by
  cases h with
  | literal n =>
    rw [render, Value.render, Decimal.text, String.toList_ofList] at hx
    exact .inr (.inr (Decimal.of_mem_write hx))
  | @column c hc =>
    rw [render, ColumnRef.toList_render, List.mem_append] at hx
    rcases hx with hx | hx
    · cases htable : c.table with
      | none => simp [htable] at hx
      | some t =>
        rw [htable, Option.elim_some, List.mem_append, List.mem_singleton] at hx
        exact hx.imp ((hc.table t htable).chars x) .inl
    · exact .inl (hc.column.chars x hx)

/-- No factor has a blank in its text, nor is its text the sign of a product. -/
theorem IsFactor.splitOn_render (h : e.IsFactor) :
    e.render.toList.splitOn ' ' = [e.render.toList] ∧ e.render.toList ≠ ['*'] := by
  constructor
  · refine List.splitOn_eq_singleton fun hx => ?_
    have hchar := h.of_mem_render hx
    revert hchar
    decide
  · intro htext
    have hchar := h.of_mem_render (htext ▸ List.mem_singleton_self '*')
    revert hchar
    decide

/-- The text of an integer is not that of a column. -/
theorem IsFactor.literal_ne {n : Int32} {c : ColumnRef} (hc : c.IsPlain) :
    (Expr.literal (.int n)).render ≠ (Expr.column c).render := by
  intro htext
  have hwrite : Decimal.write n.toInt = c.render.toList := by
    rw [← render, ← htext, render, Value.render, Decimal.text, String.toList_ofList]
  rw [ColumnRef.toList_render] at hwrite
  cases htable : c.table with
  | some t =>
    -- The text of a column with its table has a dot.
    have hdot : '.' ∈ Decimal.write n.toInt := by simp [hwrite, htable]
    have hchar := Decimal.of_mem_write hdot
    revert hchar
    decide
  | none =>
    -- A name alone starts with something else than an integer does.
    rw [htable, Option.elim_none, List.nil_append] at hwrite
    cases hname : c.column.toList with
    | nil => exact Decimal.write_ne_nil _ (hwrite.trans hname)
    | cons x rest =>
      have hstart := hc.column.start x (by rw [hname]; rfl)
      have hchar := hc.column.chars x (hname ▸ List.mem_cons_self)
      have hx : x ∈ Decimal.write n.toInt := by simp [hwrite, hname]
      rcases Decimal.of_mem_write hx with hdigit | rfl
      · rw [hstart] at hdigit
        cases hdigit
      · revert hchar
        decide

/-- The text of a factor determines the factor. -/
theorem IsFactor.eq_of_render (he : e.IsFactor) (hf : f.IsFactor) (h : e.render = f.render) :
    e = f := by
  cases he with
  | literal n =>
    cases hf with
    | literal m =>
      have hwrite : Decimal.write n.toInt = Decimal.write m.toInt := by
        have htext := congrArg String.toList h
        rwa [render, render, Value.render, Value.render, Decimal.text, Decimal.text,
          String.toList_ofList, String.toList_ofList] at htext
      rw [Decimal.eq_of_write hwrite]
    | column hd => exact absurd h (literal_ne hd)
  | column hc =>
    cases hf with
    | literal m => exact absurd h.symm (literal_ne hc)
    | column hd => rw [hc.eq_of_render hd h]

/-! ## Texts of products -/

/-- The factors of a product, from left to right. -/
def factors : Expr → List Expr
  | arithmetic l .multiply r => l.factors ++ r.factors
  | e => [e]

/-- The factors of what sums can be taken of, if its names are plain. -/
theorem IsSummable.isFactor (he : e.IsSummable) (hnames : ∀ c ∈ e.columns, c.IsPlain) :
    ∀ f ∈ e.factors, f.IsFactor := by
  induction he with
  | literal n => simpa [factors] using IsFactor.literal n
  | column c => simpa [factors] using IsFactor.column (hnames c (List.mem_singleton_self c))
  | product hl hr ihl ihr =>
    rw [columns, List.forall_mem_append] at hnames
    rw [factors, List.forall_mem_append]
    exact ⟨ihl hnames.1, ihr hnames.2⟩

/-- The operands of a product stand in its text without parentheses. -/
theorem IsSummable.isLooseUnder (he : e.IsSummable) : e.isLooseUnder .multiply = false := by
  cases he <;> rfl

/-- The text of a product, taken apart at its blanks, shows the texts of the factors between the
    signs. -/
theorem IsSummable.splitOn_render (he : e.IsSummable) (hnames : ∀ c ∈ e.columns, c.IsPlain) :
    (e.render.toList.splitOn ' ').filter (· ≠ ['*']) = e.factors.map (·.render.toList) := by
  have hfactor {f : Expr} (hf : f.IsFactor) (hfactors : f.factors = [f]) :
      (f.render.toList.splitOn ' ').filter (· ≠ ['*']) = f.factors.map (·.render.toList) := by
    obtain ⟨hsplit, hsign⟩ := hf.splitOn_render
    simp [hsplit, hfactors, hsign]
  induction he with
  | literal n => exact hfactor (.literal n) rfl
  | column c => exact hfactor (.column (hnames c (List.mem_singleton_self c))) rfl
  | @product l r hl hr ihl ihr =>
    rw [columns, List.forall_mem_append] at hnames
    have htext : (arithmetic l .multiply r).render.toList =
        l.render.toList ++ ' ' :: ['*'] ++ ' ' :: r.render.toList := by
      simp [render, operandText, hl.isLooseUnder, hr.isLooseUnder, Arithmetic.symbol]
    have hsign : ['*'].splitOn ' ' = [['*']] := by decide
    rw [htext, List.splitOn_append_cons_self, List.splitOn_append_cons_self, hsign,
      List.filter_append, List.filter_append, ihl hnames.1, ihr hnames.2, factors, List.map_append]
    simp

/-- The text of a product determines its factors. -/
theorem factors_eq_of_render (he : e.IsSummable) (hf : f.IsSummable)
    (hnames : ∀ c ∈ e.columns, c.IsPlain) (hnames' : ∀ c ∈ f.columns, c.IsPlain)
    (h : e.render = f.render) : e.factors = f.factors := by
  have htexts : e.factors.map (·.render.toList) = f.factors.map (·.render.toList) := by
    rw [← he.splitOn_render hnames, ← hf.splitOn_render hnames', h]
  exact eq_of_map_eq
    (fun e f he hf htext => IsFactor.eq_of_render he hf (String.toList_inj.1 htext))
    (he.isFactor hnames) (hf.isFactor hnames') htexts

/-! ## Shares of products -/

/-- The product of some values, which wraps around. -/
def wrapped : List Int32 → Int32
  | [] => 1
  | v :: vs => v * wrapped vs

theorem wrapped_append (vs ws : List Int32) : wrapped (vs ++ ws) = wrapped vs * wrapped ws := by
  induction vs with
  | nil => exact (Int32.one_mul _).symm
  | cons v vs ih => rw [List.cons_append, wrapped, wrapped, ih, Int32.mul_assoc]

/-- What a tuple adds to a sum is the product of what the factors are on it, if it has all of their
    columns. -/
theorem IsSummable.share?_eq (he : e.IsSummable) (t : Tuple) :
    e.share? t = (e.factors.mapM (share? t)).map wrapped := by
  have hfactor {f : Expr} (hfactors : f.factors = [f]) :
      f.share? t = (f.factors.mapM (share? t)).map wrapped := by
    rw [hfactors, List.mapM_cons, List.mapM_nil]
    cases f.share? t with
    | none => rfl
    | some v => exact congrArg some (Int32.mul_one v).symm
  induction he with
  | literal n => exact hfactor rfl
  | column c => exact hfactor rfl
  | @product l r hl hr ihl ihr =>
    have hfactors : (arithmetic l .multiply r).factors = l.factors ++ r.factors := rfl
    rw [share?, ihl, ihr, hfactors, List.mapM_append]
    cases l.factors.mapM (share? t) with
    | none => rfl
    | some vs =>
      cases r.factors.mapM (share? t) with
      | none => rfl
      | some ws => exact congrArg some (wrapped_append vs ws).symm

end Expr

namespace SumCall

variable {call call' : SumCall}

/-- A sum that can be taken, of columns with plain names. -/
structure IsPlain (call : SumCall) : Prop where
  summable : call.argument.IsSummable
  names : ∀ c ∈ call.argument.columns, c.IsPlain

/-- The name of a sum determines its results. -/
theorem IsPlain.result_congr (h : call.IsPlain) (h' : call'.IsPlain) (hname : call.name = call'.name)
    (ts : List Tuple) : call.result ts = call'.result ts := by
  have htext : call.argument.render = call'.argument.render := by
    have hchars := congrArg String.toList hname
    simp only [name, String.toList_append, List.append_assoc, List.append_cancel_left_eq,
      List.append_cancel_right_eq] at hchars
    exact String.toList_inj.1 hchars
  have hfactors := Expr.factors_eq_of_render h.summable h'.summable h.names h'.names htext
  have hshare : (fun t => call.argument.share? t) = fun t => call'.argument.share? t := by
    funext t
    rw [h.summable.share?_eq, h'.summable.share?_eq, hfactors]
  rw [result, result, hname, total, total, hshare]

/-- The name of a sum is no plain name. -/
theorem name_ne {s : String} (hs : IsPlainName s) : s ≠ call.name := by
  rintro rfl
  exact hs.not_mem (c := '(') (by decide) (by simp [name])

end SumCall

/-! ## What is shown of groups -/

/-- What an item shows of a group: a column its value in the first tuple, if there is such a column,
    and a sum its own total. -/
def SelectItem.shown (members : List Tuple) : SelectItem → List Attribute
  | column c => (members.head?.bind (·.find? c.column)).toList
  | sum call => [⟨sumTable, call.name, call.total members⟩]

/-- An item whose names are plain, and of which a sum can be taken if it is one. -/
inductive SelectItem.IsPlain : SelectItem → Prop
  | column {c : ColumnRef} (h : IsPlainName c.column) : IsPlain (.column c)
  | sum {call : SumCall} (h : call.IsPlain) : IsPlain (.sum call)

namespace Aggregate

variable {columns : List ColumnRef} {sums : List SumCall} {ts members : List Tuple}

theorem mem_firstOccurrences {α : Type} [DecidableEq α] {as : List α} {a : α} :
    a ∈ firstOccurrences as ↔ a ∈ as := by
  induction as with
  | nil => rfl
  | cons b as ih =>
    rw [firstOccurrences, List.mem_cons, List.mem_filter, ih, List.mem_cons]
    by_cases h : a = b <;> simp [h]

theorem nodup_firstOccurrences {α : Type} [DecidableEq α] (as : List α) :
    (firstOccurrences as).Nodup := by
  induction as with
  | nil => exact List.nodup_nil
  | cons a as ih =>
    rw [firstOccurrences, List.nodup_cons]
    exact ⟨fun ha => of_decide_eq_true (List.mem_filter.1 ha).2 rfl, ih.filter _⟩

/-- A group has a first member, which is a tuple of the list. -/
theorem of_mem_groups (h : members ∈ groups columns ts) :
    ∃ t ∈ ts, members.head? = some t := by
  obtain ⟨key, hkey, rfl⟩ := List.mem_map.1 h
  obtain ⟨t, ht, htkey⟩ := List.mem_filterMap.1 (mem_firstOccurrences.1 hkey)
  have hmem : t ∈ group columns ts key := List.mem_filter.2 ⟨ht, decide_eq_true htkey⟩
  cases hgroup : group columns ts key with
  | nil => simp [hgroup] at hmem
  | cons u rest =>
    have hu : u ∈ group columns ts key := hgroup ▸ List.mem_cons_self
    exact ⟨u, (List.mem_filter.1 hu).1, rfl⟩

/-- Each group gives one tuple. -/
theorem map_summaries {α : Type} (f : Tuple → α) (g : List Tuple → α)
    (h : ∀ t ∈ ts, ∀ members, members.head? = some t →
      f (t.merge ⟨sums.map (·.result members)⟩) = g members) :
    (summaries columns sums ts).map f = (groups columns ts).map g := by
  rw [summaries, List.map_filterMap, ← List.filterMap_eq_map]
  refine List.filterMap_congr fun members hmembers => ?_
  obtain ⟨t, ht, hhead⟩ := of_mem_groups hmembers
  rw [summary?, hhead, Option.map_some, Option.map_some, Function.comp_apply,
    ← h t ht members hhead]
  rfl

end Aggregate

/-- A tuple whose names are plain has no attribute with the name of a sum. -/
theorem Tuple.find?_sumName {t : Tuple} (ht : ∀ a ∈ t.attributes, IsPlainName a.column)
    (call : SumCall) : t.find? call.name = none := by
  rw [Tuple.find?, List.find?_eq_none]
  exact fun a ha => by simpa using SumCall.name_ne (ht a ha)

namespace Projection

variable {items : List SelectItem} {sums : List SumCall} {members : List Tuple} {t : Tuple}

/-- A sum finds its own total in the tuple of a group. -/
theorem find?_sum (ht : ∀ a ∈ t.attributes, IsPlainName a.column)
    (hsums : ∀ call ∈ sums, call.IsPlain) {call : SumCall} (hcall : call ∈ sums) :
    (t.merge ⟨sums.map (·.result members)⟩).find? call.name = some (call.result members) := by
  rw [Tuple.find?_merge, Tuple.find?_sumName ht, Option.none_or, Tuple.find?, List.find?_map]
  obtain ⟨found, hfound⟩ : ∃ found, sums.find?
      ((fun a : Attribute => a.column == call.name) ∘ (·.result members)) = some found :=
    Option.isSome_iff_exists.1 (List.find?_isSome.2 ⟨call, hcall, by simp [SumCall.result]⟩)
  -- The sum that is found may be another one of the same name.
  have hname : found.name = call.name := by simpa [SumCall.result] using List.find?_some hfound
  have hplain := hsums found (List.mem_of_find?_eq_some hfound)
  rw [hfound, Option.map_some, hplain.result_congr (hsums call hcall) hname]

/-- A column is found in the tuple of a group as it is in the first tuple of the group. -/
theorem find?_column {c : ColumnRef} (hc : IsPlainName c.column) :
    (t.merge ⟨sums.map (·.result members)⟩).find? c.column = t.find? c.column := by
  have hsums : (Tuple.mk (sums.map (·.result members))).find? c.column = none := by
    rw [Tuple.find?, List.find?_eq_none]
    intro a ha
    obtain ⟨call, _, rfl⟩ := List.mem_map.1 ha
    simpa [SumCall.result] using (SumCall.name_ne hc).symm
  rw [Tuple.find?_merge, hsums, Option.or_none]

theorem isPlain_of_mem_sums (hitems : ∀ item ∈ items, item.IsPlain) :
    ∀ call ∈ items.filterMap (·.sum?), call.IsPlain := by
  intro call hcall
  obtain ⟨item, hitem, hsum⟩ := List.mem_filterMap.1 hcall
  cases hitems item hitem with
  | column hc => cases hsum
  | sum h => exact Option.some.inj hsum ▸ h

/-- What is shown of the tuple of a group. -/
theorem pick_summary (ht : ∀ a ∈ t.attributes, IsPlainName a.column)
    (hitems : ∀ item ∈ items, item.IsPlain) (hmembers : members.head? = some t) :
    pick items (t.merge ⟨(items.filterMap (·.sum?)).map (·.result members)⟩) =
      ⟨items.flatMap (·.shown members)⟩ := by
  rw [pick, List.filterMap_eq_flatMap_toList]
  congr 1
  refine List.flatMap_congr fun item hitem => ?_
  cases hitems item hitem with
  | column hc => rw [SelectItem.name, find?_column hc, SelectItem.shown, hmembers, Option.bind_some]
  | @sum call hcall =>
    have hmem : call ∈ items.filterMap (·.sum?) := List.mem_filterMap.2 ⟨_, hitem, rfl⟩
    rw [SelectItem.name, find?_sum ht (isPlain_of_mem_sums hitems) hmem]
    rfl

/-- Items with plain names, of which the sums can be taken. -/
theorem forall_isPlain (hsums : SumCall.check (items.filterMap (·.sum?)) = .ok ())
    (hnames : ∀ item ∈ items, ∀ c ∈ item.columns, c.IsPlain) : ∀ item ∈ items, item.IsPlain := by
  have hsummable := (SumCall.decides_check _).ok_iff.1 ⟨(), hsums⟩
  intro item hitem
  have hitemNames := hnames item hitem
  cases item with
  | column c => exact .column (hitemNames c (List.mem_singleton_self c)).column
  | sum call => exact .sum ⟨hsummable call (List.mem_filterMap.2 ⟨_, hitem, rfl⟩), hitemNames⟩

/-- A list of items over the groups of some tuples shows one tuple for each group, and in it one
    attribute for each item that is a sum: the total of its own argument over the group, under the
    name of the sum. All names must be plain, and the sums must be ones that can be taken. -/
theorem result_tuples?_shown (k : Catalog) (files : Files) (columns : List ColumnRef)
    {ts : List Tuple} (hne : items ≠ [])
    (hsums : SumCall.check (items.filterMap (·.sum?)) = .ok ())
    (hnames : ∀ item ∈ items, ∀ c ∈ item.columns, c.IsPlain)
    (hts : ∀ t ∈ ts, ∀ a ∈ t.attributes, IsPlainName a.column) :
    ((Plan.project (.list items)
        (.aggregate columns (items.filterMap (·.sum?)) (.tuples ts))).tuples? k files).result =
      .ok ((Aggregate.groups columns ts).map fun members =>
        ⟨items.flatMap (·.shown members)⟩) := by
  have hitems := forall_isPlain hsums hnames
  have hpick : ∀ t, (list items).tuple t = pick items t := fun t =>
    if_neg (by simpa [isAll, Projection.items] using hne)
  have hcheck : (Plan.project (.list items)
      (.aggregate columns (items.filterMap (·.sum?)) (.tuples ts))).checkSums = .ok () := hsums
  rw [Plan.result_of_checkSums (by simp [Plan.tables]) hcheck]
  refine congrArg Except.ok (Aggregate.map_summaries _ _ fun t ht members hhead => ?_)
  rw [hpick, pick_summary (hts t ht) hitems hhead]

end Projection

namespace Sample

/-- Four items: a column, two sums of different products with the same name, and another sum. -/
def sameNames : List SelectItem :=
  let a := Expr.column ⟨some "S", "a"⟩
  let c := Expr.column ⟨some "S", "c"⟩
  [.column ⟨some "S", "a"⟩,
    .sum ⟨.arithmetic (.arithmetic a .multiply c) .multiply (.literal (.int (-2)))⟩,
    .sum ⟨.arithmetic a .multiply (.arithmetic c .multiply (.literal (.int (-2))))⟩,
    .sum ⟨c⟩]

/-- Sums of different products with the same name show their totals, each at its place. -/
theorem sameNames_shown :
    sameNames ≠ [] ∧ SumCall.check (sameNames.filterMap (·.sum?)) = .ok () ∧
    (∀ item ∈ sameNames, ∀ c ∈ item.columns, c.IsPlain) ∧
    (∀ t ∈ catalog.rows files "S", ∀ a ∈ t.attributes, IsPlainName a.column) ∧
    ((Plan.project (.list sameNames) (.aggregate [⟨some "S", "a"⟩] (sameNames.filterMap (·.sum?))
      (.tuples (catalog.rows files "S")))).tuples? catalog files).result = .ok [
        ⟨[⟨"S", "a", 3⟩, ⟨"SUM_RESULT", "SUM(S.a * S.c * -2)", -72⟩,
          ⟨"SUM_RESULT", "SUM(S.a * S.c * -2)", -72⟩, ⟨"SUM_RESULT", "SUM(S.c)", 12⟩]⟩,
        ⟨[⟨"S", "a", 1⟩, ⟨"SUM_RESULT", "SUM(S.a * S.c * -2)", -12⟩,
          ⟨"SUM_RESULT", "SUM(S.a * S.c * -2)", -12⟩, ⟨"SUM_RESULT", "SUM(S.c)", 6⟩]⟩] := by
  have hne : sameNames ≠ [] := by decide
  have hsums : SumCall.check (sameNames.filterMap (·.sum?)) = .ok () := by decide
  have hnames : ∀ item ∈ sameNames, ∀ c ∈ item.columns, c.IsPlain := by decide
  have hts : ∀ t ∈ catalog.rows files "S", ∀ a ∈ t.attributes, IsPlainName a.column := by
    decide +kernel
  refine ⟨hne, hsums, hnames, hts, ?_⟩
  rw [Projection.result_tuples?_shown catalog files [⟨some "S", "a"⟩] hne hsums hnames hts]
  decide +kernel

end Sample

end CsvQuery
