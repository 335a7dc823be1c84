import CsvQuery.Planner
import CsvQuery.Proofs.Rows
import Mathlib.Data.List.Find

/-!
# What expressions read

An expression reads a tuple only through the columns that it names, so it has
the same value on two tuples on which these columns stand for the same values.
In a row of a table, every attribute is named by that table and a column of it.

* `Tuple.lookup_merge`, `Tuple.find?_merge`: the left one of two tuples side by
  side comes first.
* `Expr.eval?_congr`, `Expr.holds_congr`: only the columns of an expression count.
* `Expr.allHold`: whether all members of a list of predicates hold, and
  `Condition.keeps_conjoin?`: their conjunction says the same.
* `Catalog.names_of_mem_rows`: the names of the attributes of a row.
* `Catalog.find?_of_mem_rows`: what a column name alone finds in a row.
* `Aggregate.exists_of_mem_summaries`: the tuple of a group is a tuple with its
  sums behind it.
-/

namespace CsvQuery

/-! ## Tuples side by side -/

theorem Tuple.lookup_merge (t u : Tuple) (c : ColumnRef) :
    (t.merge u).lookup c = (t.lookup c).or (u.lookup c) := by
  rw [Tuple.lookup, Tuple.merge, List.find?_append, Option.map_or]
  rfl

theorem Tuple.find?_merge (t u : Tuple) (name : String) :
    (t.merge u).find? name = (t.find? name).or (u.find? name) :=
  List.find?_append

theorem Tuple.merge_assoc (t u v : Tuple) : (t.merge u).merge v = t.merge (u.merge v) := by
  simp only [Tuple.merge, List.append_assoc]

theorem Tuple.column_of_find? {t : Tuple} {name : String} {a : Attribute}
    (h : t.find? name = some a) : a.column = name := by
  rw [Tuple.find?] at h
  have hfound := List.find?_some h
  exact beq_iff_eq.1 hfound

/-- Where all attributes with the name of a column are of its table, it is found by its name. -/
theorem Tuple.lookup_eq_find? {t : Tuple} {c : ColumnRef} {name : String}
    (hc : c.table = some name) (ht : ∀ a ∈ t.attributes, a.column = c.column → a.table = name) :
    t.lookup c = (t.find? c.column).map (·.value) := by
  refine congrArg (Option.map _) (List.find?_congr fun a ha => ?_)
  rw [Attribute.fits, hc, Option.all_some]
  by_cases hname : a.column = c.column
  · simp [hname, ht a ha hname]
  · simp [hname]

/-! ## Expressions -/

namespace Expr

variable {t u : Tuple}

/-- A scalar has the same value on tuples on which its columns do. -/
theorem eval?_congr {e : Expr} (h : ∀ c ∈ e.columns, t.lookup c = u.lookup c) :
    e.eval? t = e.eval? u := by
  induction e with
  | literal v => rfl
  | column c => rw [eval?, eval?, h c (List.mem_singleton_self c)]
  | compare l op r => rfl
  | and l r => rfl
  | arithmetic l op r ihl ihr =>
    rw [eval?, eval?, ihl fun c hc => h c (List.mem_append_left _ hc),
      ihr fun c hc => h c (List.mem_append_right _ hc)]

/-- A predicate holds on the same ones of tuples on which its columns have the same values. -/
theorem holds_congr {e : Expr} (h : ∀ c ∈ e.columns, t.lookup c = u.lookup c) :
    e.holds t = e.holds u := by
  induction e with
  | literal v => rfl
  | column c => rfl
  | arithmetic l op r => rfl
  | compare l op r =>
    rw [holds, holds, eval?_congr fun c hc => h c (List.mem_append_left _ hc),
      eval?_congr fun c hc => h c (List.mem_append_right _ hc)]
  | and l r ihl ihr =>
    rw [holds, holds, ihl fun c hc => h c (List.mem_append_left _ hc),
      ihr fun c hc => h c (List.mem_append_right _ hc)]

/-- Whether all of some predicates hold on a tuple. -/
def allHold (es : List Expr) (t : Tuple) : Bool := es.all (·.holds t)

theorem allHold_append (es es' : List Expr) (t : Tuple) :
    allHold (es ++ es') t = (allHold es t && allHold es' t) :=
  List.all_append

theorem allHold_singleton (e : Expr) (t : Tuple) : allHold [e] t = e.holds t := Bool.and_true _

/-- Lists with the same members hold on the same tuples. -/
theorem allHold_of_mem_iff {es es' : List Expr} (h : ∀ e, e ∈ es ↔ e ∈ es') (t : Tuple) :
    allHold es t = allHold es' t := by
  rw [Bool.eq_iff_iff, allHold, allHold, List.all_eq_true, List.all_eq_true]
  exact ⟨fun ha e he => ha e ((h e).2 he), fun ha e he => ha e ((h e).1 he)⟩

theorem allHold_congr {es : List Expr} (h : ∀ e ∈ es, e.holds t = e.holds u) :
    allHold es t = allHold es u := by
  rw [Bool.eq_iff_iff, allHold, allHold, List.all_eq_true, List.all_eq_true]
  exact forall₂_congr fun e he => by rw [h e he]

/-- Predicates may be taken in two parts: those that pass a test, and the others. -/
theorem allHold_split (test : Expr → Bool) (es : List Expr) (t : Tuple) :
    allHold es t =
      (allHold (es.filter test) t && allHold (es.filter fun e => !test e) t) := by
  rw [← allHold_append]
  refine allHold_of_mem_iff (fun e => ?_) t
  rw [List.mem_append, List.mem_filter, List.mem_filter]
  cases test e <;> simp

/-- An expression holds where all of its parts do. -/
theorem allHold_conjuncts (e : Expr) (t : Tuple) : allHold e.conjuncts t = e.holds t := by
  fun_induction conjuncts e with
  | case1 l r ihl ihr => rw [allHold_append, ihl, ihr, holds]
  | case2 e hother => exact allHold_singleton e t

theorem allHold_flatMap_conjuncts (es : List Expr) (t : Tuple) :
    allHold (es.flatMap conjuncts) t = allHold es t := by
  induction es with
  | nil => rfl
  | cons e es ih => rw [List.flatMap_cons, allHold_append, allHold_conjuncts, ih]; rfl

theorem holds_foldl_and (e : Expr) (es : List Expr) (t : Tuple) :
    (es.foldl and e).holds t = (e.holds t && allHold es t) := by
  induction es generalizing e with
  | nil => exact (Bool.and_true _).symm
  | cons e' es ih => rw [List.foldl_cons, ih, holds, Bool.and_assoc]; rfl

theorem columns_of_mem_conjuncts {e e' : Expr} (h : e' ∈ e.conjuncts) {c : ColumnRef}
    (hc : c ∈ e'.columns) : c ∈ e.columns := by
  fun_induction conjuncts e with
  | case1 l r ihl ihr =>
    rcases List.mem_append.1 h with h | h
    · exact List.mem_append_left _ (ihl h)
    · exact List.mem_append_right _ (ihr h)
  | case2 e hother => exact List.mem_singleton.1 h ▸ hc

/-- Every column of an expression names one of some tables. -/
def IsWithin (tables : List String) (e : Expr) : Prop :=
  ∀ c ∈ e.columns, ∃ name ∈ tables, c.table = some name

end Expr

/-- The conjunction of some predicates keeps the tuples on which all of them hold. -/
theorem Condition.keeps_conjoin? (es : List Expr) :
    Condition.keeps (Expr.conjoin? es) = Expr.allHold es := by
  funext t
  cases es with
  | nil => rfl
  | cons e es => exact Expr.holds_foldl_and e es t

/-! ## Names of tables in expressions -/

theorem Names.mem_insert {s t : String} {names : List String} :
    s ∈ Names.insert t names ↔ s = t ∨ s ∈ names := by
  induction names with
  | nil => simp [Names.insert]
  | cons u names ih =>
    rw [Names.insert]
    split
    · exact List.mem_cons
    · split
      · rename_i h
        simp [h]
      · rw [List.mem_cons, ih, List.mem_cons, or_left_comm]

theorem Names.mem_ofList {s : String} {names : List String} :
    s ∈ Names.ofList names ↔ s ∈ names := by
  induction names with
  | nil => exact Iff.rfl
  | cons t names ih => rw [List.mem_cons, ← ih]; exact Names.mem_insert

theorem Expr.mem_tables {e : Expr} {name : String} :
    name ∈ e.tables ↔ ∃ c ∈ e.columns, c.table = some name := by
  rw [Expr.tables, Names.mem_ofList, List.mem_filterMap]

/-! ## Rows of tables -/

/-- The names of the attributes of a tuple. -/
def Tuple.names (t : Tuple) : List ColumnRef := t.attributes.map fun a => ⟨some a.table, a.column⟩

/-- Where all attributes are named by columns of one table, they are of that table. -/
theorem Tuple.table_of_names {t : Tuple} {name : String} {columns : List String}
    (ht : t.names = columns.map (⟨some name, ·⟩)) {a : Attribute} (ha : a ∈ t.attributes) :
    a.table = name := by
  have hmem : (⟨some a.table, a.column⟩ : ColumnRef) ∈ t.names := List.mem_map_of_mem ha
  rw [ht] at hmem
  obtain ⟨column, _, hcolumn⟩ := List.mem_map.1 hmem
  exact (Option.some.inj (congrArg ColumnRef.table hcolumn)).symm

/-- A column that names its table has a value on a tuple with an attribute of that name. -/
theorem Tuple.isSome_lookup {t : Tuple} {c : ColumnRef} {name : String}
    (h : c.table = some name) : (t.lookup c).isSome ↔ c ∈ t.names := by
  rw [Tuple.lookup, Option.isSome_map, List.find?_isSome, Tuple.names, List.mem_map]
  refine exists_congr fun a => and_congr_right fun _ => ?_
  obtain ⟨_, column⟩ := c
  obtain rfl := h
  simp [Attribute.fits, and_comm]

theorem Table.length_values {t : Table} {fields : List (String × String)} {vs : List Int32}
    (h : t.values fields = .ok vs) : vs.length = fields.length := by
  induction fields generalizing vs with
  | nil => cases h; rfl
  | cons field fields ih =>
    rw [Table.values] at h
    split at h
    · cases hv : t.values fields with
      | error e => rw [hv] at h; cases h
      | ok vs' => rw [hv] at h; cases h; rw [List.length_cons, ih hv, List.length_cons]
    · cases h

theorem Tuple.names_ofRow {table : String} {columns : List String} {values : List Int32}
    (h : values.length = columns.length) :
    (Tuple.ofRow table columns values).names = columns.map (⟨some table, ·⟩) := by
  calc (Tuple.ofRow table columns values).names
      = ((columns.zip values).map Prod.fst).map (⟨some table, ·⟩) := by
        simp only [Tuple.names, Tuple.ofRow, List.map_map]
        rfl
    _ = columns.map (⟨some table, ·⟩) := by rw [List.map_fst_zip (Nat.le_of_eq h.symm)]

/-- The attributes of a row are named by its table and the columns of that table. -/
theorem Table.names_tuple {t : Table} {r : Record} {u : Tuple} (h : t.tuple r = .ok u) :
    u.names = t.columns.map (⟨some t.name, ·⟩) := by
  cases r with
  | garbled => cases h
  | fields texts =>
    rw [Table.tuple] at h
    split at h
    · rename_i hlen
      cases hv : t.values (t.columns.zip texts) with
      | error e => rw [hv] at h; cases h
      | ok vs =>
        rw [hv] at h
        cases h
        refine Tuple.names_ofRow ?_
        rw [Table.length_values hv, List.length_zip, hlen, Nat.min_self]
    · cases h

/-- The columns of the table of a name. -/
def Catalog.columns (k : Catalog) (name : String) : List String :=
  (k.find? name).elim [] (·.columns)

variable {k : Catalog} {files : Files} {name : String}

/-- The attributes of a row of a table are named by that table and its columns. -/
theorem Catalog.names_of_mem_rows {u : Tuple} (h : u ∈ k.rows files name) :
    u.names = (k.columns name).map (⟨some name, ·⟩) := by
  rw [Catalog.rows] at h
  cases ht : k.find? name with
  | none => rw [ht] at h; exact absurd h List.not_mem_nil
  | some t =>
    rw [ht, Option.elim_some, Table.rows] at h
    rw [Catalog.columns, ht, Option.elim_some]
    have hname : t.name = name := by simpa using List.find?_some ht
    split at h
    · obtain ⟨r, _, hr⟩ := List.mem_filterMap.1 h
      rw [← hname]
      refine Table.names_tuple (r := r) ?_
      cases hu : t.tuple r with
      | error e => rw [hu] at hr; cases hr
      | ok v => rw [hu] at hr; exact congrArg Except.ok (Option.some.inj hr)
    · exact absurd h List.not_mem_nil

theorem Catalog.table_of_mem_rows {u : Tuple} (h : u ∈ k.rows files name) {a : Attribute}
    (ha : a ∈ u.attributes) : a.table = name :=
  Tuple.table_of_names (Catalog.names_of_mem_rows h) ha

/-- A row of a table has no values for columns of another one. -/
theorem Catalog.lookup_of_ne {u : Tuple} (h : u ∈ k.rows files name) {c : ColumnRef}
    {other : String} (hc : c.table = some other) (hne : other ≠ name) : u.lookup c = none := by
  rw [← Option.not_isSome_iff_eq_none, Tuple.isSome_lookup hc, Catalog.names_of_mem_rows h]
  rintro hmem
  obtain ⟨column, _, rfl⟩ := List.mem_map.1 hmem
  exact hne (Option.some.inj hc).symm

/-- A column that one row of a table lacks is lacking in all of them. -/
theorem Catalog.lookup_eq_none {u v : Tuple} (hu : u ∈ k.rows files name)
    (hv : v ∈ k.rows files name) {c : ColumnRef} {other : String} (hc : c.table = some other)
    (h : u.lookup c = none) : v.lookup c = none := by
  rw [← Option.not_isSome_iff_eq_none, Tuple.isSome_lookup hc] at h ⊢
  rwa [Catalog.names_of_mem_rows hv, ← Catalog.names_of_mem_rows hu]

theorem Catalog.hasColumn_iff {column : String} :
    k.hasColumn name column = true ↔ column ∈ k.columns name := by
  rw [Catalog.hasColumn, Catalog.columns]
  cases k.find? name with
  | none => exact ⟨nofun, fun h => absurd h List.not_mem_nil⟩
  | some t => exact List.contains_iff_mem

/-- A row of a table has a value for each column of the table. -/
theorem Catalog.isSome_lookup_of_mem_rows {u : Tuple} (hu : u ∈ k.rows files name)
    (column : String) : (u.lookup ⟨some name, column⟩).isSome = k.hasColumn name column := by
  rw [Bool.eq_iff_iff, Tuple.isSome_lookup rfl, Catalog.names_of_mem_rows hu, Catalog.hasColumn_iff]
  simp

/-- In a row of a table, a column name alone finds the column of that table. -/
theorem Catalog.find?_of_mem_rows {u : Tuple} (hu : u ∈ k.rows files name) (column : String) :
    u.find? column = (u.lookup ⟨some name, column⟩).map (⟨name, column, ·⟩) := by
  have htable : ∀ a ∈ u.attributes, a.table = name := fun a ha =>
    Catalog.table_of_mem_rows hu ha
  rw [Tuple.lookup_eq_find? rfl fun a ha _ => htable a ha]
  cases hfound : u.find? column with
  | none => rfl
  | some a =>
    obtain ⟨table, col, value⟩ := a
    obtain rfl : col = column := Tuple.column_of_find? hfound
    obtain rfl : table = name := htable _ (List.mem_of_find?_eq_some hfound)
    rfl

/-! ## Tuples of groups -/

/-- The tuple of a group is one of its members with the sums behind it. -/
theorem Aggregate.exists_of_mem_summaries {columns : List ColumnRef} {sums : List SumCall}
    {ts : List Tuple} {u : Tuple} (hu : u ∈ summaries columns sums ts) :
    ∃ t ∈ ts, ∃ members, u = t.merge ⟨sums.map (·.result members)⟩ := by
  obtain ⟨members, hmembers, hu⟩ := List.mem_filterMap.1 hu
  obtain ⟨key, _, rfl⟩ := List.mem_map.1 hmembers
  obtain ⟨t, ht, rfl⟩ := Option.map_eq_some_iff.1 hu
  exact ⟨t, (List.mem_filter.1 (List.mem_of_mem_head? ht)).1, _, rfl⟩

/-! ## What is shown of a tuple -/

namespace Projection

variable {items : List SelectItem}

/-- An item is found in what is shown of a tuple as it is found in the tuple. -/
theorem find?_pick {item : SelectItem} (h : item ∈ items) (t : Tuple) :
    (pick items t).find? item.name = t.find? item.name := by
  -- What an earlier item of the list finds counts only if it has the same name.
  have hname : ∀ {i : SelectItem}, ((t.find? i.name).any fun a => a.column == item.name) = true →
      i.name = item.name := by
    intro i hany
    obtain ⟨a, ha, hcolumn⟩ := (Option.any_eq_true _ _).1 hany
    exact (Tuple.column_of_find? ha).symm.trans (beq_iff_eq.1 hcolumn)
  rw [pick, Tuple.find?, List.find?_filterMap]
  cases ht : t.find? item.name with
  | none =>
    rw [List.find?_eq_none.2, Option.bind_none]
    intro i _ hany
    rw [hname hany, ht] at hany
    exact Bool.false_ne_true hany
  | some a =>
    have hitem : (items.find? fun i =>
        (t.find? i.name).any fun a => a.column == item.name).isSome = true := by
      refine List.find?_isSome.2 ⟨item, h, ?_⟩
      rw [ht, Option.any_some, Tuple.column_of_find? ht, beq_self_eq_true]
    obtain ⟨i, hi⟩ := Option.isSome_iff_exists.1 hitem
    have hany := List.find?_some hi
    rw [hi, Option.bind_some, hname hany, ht]

end Projection

/-! ## Columns that are found by name -/

/-- The first attribute with the name of a column is that column. -/
def Tuple.IsFound (c : ColumnRef) (t : Tuple) : Prop :=
  ∃ a, t.find? c.column = some a ∧ a.fits c = true

/-- Without its table, a column is looked up by its name. -/
theorem Tuple.lookup_unqualified (t : Tuple) (column : String) :
    t.lookup ⟨none, column⟩ = (t.find? column).map (·.value) := by
  simp only [lookup, find?, Attribute.fits, Option.all_none, Bool.and_true]

namespace Tuple.IsFound

variable {c : ColumnRef} {t : Tuple}

/-- The value of a column that is found by its name is that of the attribute found. -/
theorem lookup_eq (h : t.IsFound c) : t.lookup c = t.lookup ⟨none, c.column⟩ := by
  obtain ⟨a, ha, hfits⟩ := h
  rw [lookup_unqualified, ha]
  rw [find?, List.find?_eq_some_iff_append] at ha
  obtain ⟨_, before, behind, hattributes, hbefore⟩ := ha
  -- No attribute before this one has the name, and so none of them is the column.
  have hfound : t.attributes.find? (·.fits c) = some a := by
    refine List.find?_eq_some_iff_append.2 ⟨hfits, before, behind, hattributes, fun b hb => ?_⟩
    have hname := hbefore b hb
    simp only [Bool.not_eq_true'] at hname
    simp [Attribute.fits, hname]
  rw [lookup, hfound]

theorem isSome_lookup (h : t.IsFound c) : (t.lookup c).isSome = true := by
  rw [h.lookup_eq, lookup_unqualified]
  obtain ⟨a, ha, _⟩ := h
  rw [ha]
  rfl

theorem merge (h : t.IsFound c) (u : Tuple) : (t.merge u).IsFound c := by
  obtain ⟨a, ha, hfits⟩ := h
  exact ⟨a, by rw [find?_merge, ha, Option.some_or], hfits⟩

/-- A column that is an item is still found by its name in what is shown. -/
theorem pick (h : t.IsFound c) {items : List SelectItem} (hc : .column c ∈ items) :
    (Projection.pick items t).IsFound c := by
  obtain ⟨a, ha, hfits⟩ := h
  exact ⟨a, (Projection.find?_pick hc t).trans ha, hfits⟩

theorem lookup_pick (h : t.IsFound c) {items : List SelectItem} (hc : .column c ∈ items) :
    (Projection.pick items t).lookup c = t.lookup c := by
  rw [(h.pick hc).lookup_eq, h.lookup_eq, lookup_unqualified, lookup_unqualified]
  exact congrArg _ (Projection.find?_pick hc t)

/-- Where all attributes are of one table, its columns are found by their names. -/
theorem of_mem_names {name : String} {columns : List String} (hc : c ∈ t.names)
    (ht : t.names = columns.map (⟨some name, ·⟩)) : t.IsFound c := by
  obtain ⟨a, ha, rfl⟩ := List.mem_map.1 hc
  have hsome : (t.find? a.column).isSome = true :=
    List.find?_isSome.2 ⟨a, ha, beq_self_eq_true _⟩
  obtain ⟨b, hb⟩ := Option.isSome_iff_exists.1 hsome
  refine ⟨b, hb, ?_⟩
  simp [Attribute.fits, Tuple.column_of_find? hb, Tuple.table_of_names ht ha,
    Tuple.table_of_names ht (List.mem_of_find?_eq_some hb)]

end Tuple.IsFound

end CsvQuery
