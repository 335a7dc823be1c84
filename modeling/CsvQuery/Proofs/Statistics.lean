import CsvQuery.Proofs.SumNames
import Mathlib.Data.Finset.Card

/-!
# What statistics say

Statistics are taken of the values that the rows of a table have in a column:
the least and the greatest one, how many different ones there are, and how many
there are at all. Each table is read anew, and what is known of a column is
what was counted last, so it makes no difference how often a table is listed.

* `ColumnStatistics.Describes`: what statistics say about some values.
* `Statistics.column?_ofRows`: the statistics of the columns of one table.
* `Statistics.Covers`: statistics of some tables and of no other ones.
* `Statistics.result_build_describes`: when statistics can be taken, and what they say.
-/

namespace CsvQuery

/-! ## Some values -/

instance Int32.lawfulOrderMax : Std.LawfulOrderMax Int32 where
  max_eq_or a b := by
    change (if a ≤ b then b else a) = a ∨ (if a ≤ b then b else a) = b
    split
    · exact .inr rfl
    · exact .inl rfl
  max_le_iff a b c := by
    change (if a ≤ b then b else a) ≤ c ↔ a ≤ c ∧ b ≤ c
    split
    · rename_i h
      exact ⟨fun hc => ⟨Std.le_trans h hc, hc⟩, And.right⟩
    · rename_i h
      have hle : b ≤ a := Std.le_of_not_ge h
      exact ⟨fun hc => ⟨hc, Std.le_trans hle hc⟩, And.left⟩

namespace ColumnStatistics

/-- Statistics describe some values: the least and the greatest one are among them, the different
    ones are counted once each, and all of them are counted. -/
structure Describes (cs : ColumnStatistics) (values : List Int32) : Prop where
  least_mem : cs.least ∈ values
  least_le : ∀ v ∈ values, cs.least ≤ v
  greatest_mem : cs.greatest ∈ values
  le_greatest : ∀ v ∈ values, v ≤ cs.greatest
  distinct : cs.distinct = values.toFinset.card
  count : cs.count = values.length

/-- The statistics of some values describe them. -/
theorem describes_of? {cs : ColumnStatistics} {values : List Int32} (h : of? values = some cs) :
    cs.Describes values := by
  cases values with
  | nil => cases h
  | cons v values =>
    cases h
    have hmin : (v :: values).min? = some (values.foldl min v) := List.min?_cons'
    have hmax : (v :: values).max? = some (values.foldl max v) := List.max?_cons'
    obtain ⟨hleast, hle⟩ := List.min?_eq_some_iff.1 hmin
    obtain ⟨hgreatest, hge⟩ := List.max?_eq_some_iff.1 hmax
    refine ⟨hleast, hle, hgreatest, hge, ?_, rfl⟩
    have hsame : (v :: values).toFinset = (Aggregate.firstOccurrences (v :: values)).toFinset := by
      ext w
      rw [List.mem_toFinset, List.mem_toFinset, Aggregate.mem_firstOccurrences]
    rw [hsame, List.toFinset_card_of_nodup (Aggregate.nodup_firstOccurrences _)]

theorem of?_eq_none {values : List Int32} : of? values = none ↔ values = [] := by
  cases values with
  | nil => exact ⟨fun _ => rfl, fun _ => rfl⟩
  | cons v values => exact ⟨nofun, nofun⟩

/-- There is at least one value, and there are no more different ones than there are at all. -/
theorem Describes.distinct_le {cs : ColumnStatistics} {values : List Int32}
    (h : cs.Describes values) : 1 ≤ cs.distinct ∧ cs.distinct ≤ cs.count := by
  rw [h.distinct, h.count]
  exact ⟨Finset.card_pos.2 ⟨_, List.mem_toFinset.2 h.least_mem⟩, values.toFinset_card_le⟩

end ColumnStatistics

/-! ## The columns of a table -/

/-- The values of a column of a table, one for each row that has it. -/
def Catalog.valuesOf (k : Catalog) (files : Files) (table column : String) : List Int32 :=
  (k.rows files table).filterMap (·.lookup ⟨some table, column⟩)

/-- Each row of a table has a value for each of its columns. -/
theorem Catalog.length_valuesOf {k : Catalog} {files : Files} {table column : String}
    (h : column ∈ k.columns table) :
    (k.valuesOf files table column).length = (k.rows files table).length := by
  refine List.filterMap_length_eq_length.2 fun u hu => ?_
  rw [isSome_lookup_of_mem_rows hu, hasColumn_iff]
  exact h

namespace Statistics

variable {k : Catalog} {files : Files} {stats : Statistics} {table column : String}

/-- What statistics should say of a column of a table. -/
def ofColumn? (k : Catalog) (files : Files) (table column : String) : Option ColumnStatistics :=
  if column ∈ k.columns table then ColumnStatistics.of? (k.valuesOf files table column) else none

/-- Among entries for the columns of one table, that of a column is found if the table has it. -/
theorem find?_entries (entry : String → Option ColumnStatistics) (name table column : String)
    (columns : List String) :
    ((columns.filterMap fun c => (entry c).map ((⟨some name, c⟩ : ColumnRef), ·)).find?
        (·.1 == ⟨some table, column⟩)).map (·.2) =
      if table = name ∧ column ∈ columns then entry column else none := by
  induction columns with
  | nil => simp
  | cons first columns ih =>
    by_cases hsame : table = name ∧ column = first
    · obtain ⟨rfl, rfl⟩ := hsame
      cases hentry : entry column with
      | none => rw [List.filterMap_cons_none (by rw [hentry]; rfl), ih, hentry, ite_self, ite_self]
      | some cs =>
        rw [List.filterMap_cons_some (b := (⟨some table, column⟩, cs)) (by rw [hentry]; rfl)]
        simp
    · have hne : ((⟨some name, first⟩ : ColumnRef) == ⟨some table, column⟩) = false := by
        rw [beq_eq_false_iff_ne]
        rintro ⟨⟩
        exact hsame ⟨rfl, rfl⟩
      have hmem : (table = name ∧ column ∈ first :: columns) ↔ table = name ∧ column ∈ columns := by
        rw [List.mem_cons]
        exact and_congr_right fun htable => or_iff_right fun hcolumn => hsame ⟨htable, hcolumn⟩
      simp only [hmem, ← ih]
      cases hentry : entry first with
      | none => rw [List.filterMap_cons_none (by rw [hentry]; rfl)]
      | some cs =>
        rw [List.filterMap_cons_some (b := (⟨some name, first⟩, cs)) (by rw [hentry]; rfl),
          List.find?_cons, hne]

/-- The statistics of a table come before those taken earlier. -/
theorem column?_ofRows (t : Table) (rows : List Tuple) (stats : Statistics)
    (table column : String) :
    (Statistics.mk (ofRows t rows ++ stats.columns)).column? ⟨some table, column⟩ =
      ((if table = t.name ∧ column ∈ t.columns then
        ColumnStatistics.of? (rows.filterMap (·.lookup ⟨some t.name, column⟩))
      else none).or (stats.column? ⟨some table, column⟩)) := by
  rw [column?, List.find?_append, Option.map_or]
  congr 1
  exact find?_entries _ t.name table column t.columns

/-- Statistics of some tables have an entry for each of their columns and no others. -/
def Covers (k : Catalog) (files : Files) (listed : List String) (stats : Statistics) : Prop :=
  ∀ table column, stats.column? ⟨some table, column⟩ =
    if table ∈ listed then ofColumn? k files table column else none

/-- A table without rows has no statistics. -/
theorem ofRows_nil (t : Table) : ofRows t [] = [] :=
  List.filterMap_eq_nil_iff.2 fun _ _ => rfl

/-- Adding a table that is well formed puts the statistics of its rows before the others. -/
theorem result_addTable {t : Table} {name : String} (h : k.IsWellFormed files name)
    (ht : k.find? name = some t) (stats : Statistics) :
    (stats.addTable k files name).result =
      .ok ⟨ofRows t (k.rows files name) ++ stats.columns⟩ := by
  obtain ⟨t', ht', hsound⟩ := Catalog.isSound_iff.2 h
  obtain rfl : t = t' := Option.some.inj (ht.symm.trans ht')
  obtain ⟨scan, hopen, hleft⟩ := Scan.openTable_of_sound hsound
  have hrows : k.rows files name = t.rows files := by rw [Catalog.rows, ht, Option.elim_some]
  have hdrain : (Scan.cursor.drain files scan).result = .ok (k.rows files name) :=
    hrows ▸ ((Scan.delivers hsound).collect (fun _ => []) hleft).result
  have htable : scan.table = t := by
    obtain ⟨_, rfl, -⟩ := hleft
    rfl
  rw [addTable, Run.result_bind]
  change (Scan.open k files name >>= _) = _
  rw [Scan.open_eq_ok.2 ⟨t, ht, hopen⟩]
  change (_ >>= _ : Run _).result = _
  rw [Run.result_bind]
  change ((Scan.cursor.drain files scan).result >>= _) = _
  rw [hdrain, htable]
  cases k.rows files name with
  | nil => rw [ofRows_nil]; rfl
  | cons u rows => rfl

/-- Adding a table covers that table, too, whether or not it has been covered before. -/
theorem Covers.addTable {listed : List String} {stats' : Statistics} {name : String}
    (h : Covers k files listed stats) (hadd : (stats.addTable k files name).result = .ok stats') :
    Covers k files (name :: listed) stats' := by
  have hform := (stats.decides_addTable k files name).ok_iff.1 ⟨stats', hadd⟩
  obtain ⟨t, _, ht, -⟩ := id hform
  obtain rfl : t.name = name := by simpa using List.find?_some ht
  rw [result_addTable hform ht, Except.ok.injEq] at hadd
  subst hadd
  intro table column
  have hcolumns : k.columns t.name = t.columns := by rw [Catalog.columns, ht, Option.elim_some]
  rw [column?_ofRows, h table column, ← hcolumns]
  by_cases htable : table = t.name
  · subst htable
    -- An entry is taken of the rows, and without one there has been none before, either.
    rw [if_pos List.mem_cons_self]
    by_cases hcolumn : column ∈ k.columns t.name
    · rw [if_pos ⟨rfl, hcolumn⟩]
      change (Option.or (ColumnStatistics.of? (k.valuesOf files t.name column)) _) = _
      rw [ofColumn?, if_pos hcolumn]
      cases ColumnStatistics.of? (k.valuesOf files t.name column) with
      | none => rw [ite_self]; rfl
      | some cs => rfl
    · rw [if_neg fun h => hcolumn h.2, ofColumn?, if_neg hcolumn, ite_self]
      rfl
  · simp [htable]

/-- Coverage only depends on which tables are listed. -/
theorem Covers.congr {listed listed' : List String} (h : Covers k files listed stats)
    (hsame : ∀ name, name ∈ listed ↔ name ∈ listed') : Covers k files listed' stats := by
  intro table column
  rw [h table column]
  simp only [hsame]

theorem Covers.addTables {listed names : List String} {stats' : Statistics}
    (h : Covers k files listed stats)
    (hadd : (stats.addTables k files names).result = .ok stats') :
    Covers k files (names ++ listed) stats' := by
  induction names generalizing stats listed with
  | nil => exact Except.ok.inj hadd ▸ h
  | cons name names ih =>
    rw [Statistics.addTables, Run.result_bind] at hadd
    cases hfirst : (stats.addTable k files name).result with
    | error e =>
      rw [hfirst] at hadd
      cases hadd
    | ok next =>
      rw [hfirst] at hadd
      refine (ih (h.addTable hfirst) hadd).congr fun other => ?_
      simp only [List.mem_append, List.mem_cons]
      exact or_left_comm.trans or_assoc.symm

theorem covers_empty (k : Catalog) (files : Files) : Covers k files [] empty :=
  fun _ _ => (if_neg List.not_mem_nil).symm

/-- A column of a table with rows has an entry, which describes its values. -/
theorem ofColumn?_eq_some (hcolumn : column ∈ k.columns table) (hrows : k.rows files table ≠ []) :
    ∃ cs, ofColumn? k files table column = some cs ∧
      cs.Describes (k.valuesOf files table column) := by
  have hlength : (k.valuesOf files table column).length = (k.rows files table).length :=
    Catalog.length_valuesOf hcolumn
  rw [ofColumn?, if_pos hcolumn]
  cases hof : ColumnStatistics.of? (k.valuesOf files table column) with
  | some cs => exact ⟨cs, rfl, ColumnStatistics.describes_of? hof⟩
  | none =>
    rw [ColumnStatistics.of?_eq_none.1 hof, List.length_nil, eq_comm, List.length_eq_zero_iff]
      at hlength
    exact absurd hlength hrows

/-- There is no entry for a column of a table without rows, nor for a column it does not have. -/
theorem ofColumn?_eq_none (h : k.rows files table = [] ∨ column ∉ k.columns table) :
    ofColumn? k files table column = none := by
  rw [ofColumn?]
  split
  · rename_i hcolumn
    rw [Catalog.valuesOf, h.resolve_right (not_not_intro hcolumn)]
    rfl
  · rfl

/-- Statistics can be taken of some tables if and only if each of them is in the catalog and has a
    data file all of whose rows are well formed. Each column of each table with rows then has
    statistics that describe its values in the rows, of which there are as many as rows. No other
    column has any. -/
theorem result_build_describes (k : Catalog) (files : Files) (tables : List String) :
    ((∃ stats, (build k files tables).result = .ok stats) ↔
      ∀ name ∈ tables, k.IsWellFormed files name) ∧
    ∀ stats, (build k files tables).result = .ok stats → ∀ table column,
      (table ∈ tables → k.rows files table ≠ [] → column ∈ k.columns table →
        ∃ cs, stats.column? ⟨some table, column⟩ = some cs ∧
          cs.Describes (k.valuesOf files table column) ∧
          cs.count = (k.rows files table).length ∧ 1 ≤ cs.distinct ∧ cs.distinct ≤ cs.count) ∧
      (table ∉ tables ∨ k.rows files table = [] ∨ column ∉ k.columns table →
        stats.column? ⟨some table, column⟩ = none) := by
  refine ⟨(decides_addTables .empty k files tables).ok_iff, fun stats hstats table column => ?_⟩
  have hcovers : Covers k files tables stats := by
    have hall := (covers_empty k files).addTables hstats
    rwa [List.append_nil] at hall
  rw [hcovers table column]
  constructor
  · intro htable hrows hcolumn
    obtain ⟨cs, hentry, hdescribes⟩ := ofColumn?_eq_some hcolumn hrows
    rw [if_pos htable]
    exact ⟨cs, hentry, hdescribes, hdescribes.count.trans (Catalog.length_valuesOf hcolumn),
      hdescribes.distinct_le⟩
  · intro h
    split
    · rename_i htable
      exact ofColumn?_eq_none (h.resolve_left (not_not_intro htable))
    · rfl

end Statistics

namespace Sample

/-- A table that is listed twice is counted once, and one that is not listed is not counted. -/
theorem column?_build_stored :
    ∃ stats, (Statistics.build catalog files ["S", "S"]).result = .ok stats ∧
      (∃ cs, stats.column? ⟨some "S", "a"⟩ = some cs ∧ cs.Describes [3, 1, 3] ∧ cs.count = 3 ∧
        cs.distinct ≤ 3) ∧
      stats.column? ⟨some "S", "b"⟩ = none ∧ stats.column? ⟨some "R", "a"⟩ = none := by
  obtain ⟨hok, hcolumns⟩ := Statistics.result_build_describes catalog files ["S", "S"]
  have hform : ∀ name ∈ ["S", "S"], catalog.IsWellFormed files name := fun name hname =>
    Catalog.isSound_iff.1 (isSound name (List.mem_cons_of_mem _ (by simpa using hname)))
  have hvalues : catalog.valuesOf files "S" "a" = [3, 1, 3] := by decide
  have hlength : (catalog.rows files "S").length = 3 := by decide
  obtain ⟨stats, hstats⟩ := hok.2 hform
  obtain ⟨cs, hcs, hdescribes, hcount, -, hle⟩ :=
    (hcolumns stats hstats "S" "a").1 (by decide) (by decide) (by decide)
  rw [hvalues] at hdescribes
  rw [hlength] at hcount
  exact ⟨stats, hstats, ⟨cs, hcs, hdescribes, hcount, hcount ▸ hle⟩,
    (hcolumns stats hstats "S" "b").2 (.inr (.inr (by decide))),
    (hcolumns stats hstats "R" "a").2 (.inl (by decide))⟩

end Sample

end CsvQuery
