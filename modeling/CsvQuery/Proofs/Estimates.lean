import CsvQuery.Proofs.EarlyProjection
import CsvQuery.Proofs.Reordering
import CsvQuery.Proofs.Resolution

/-!
# What statistics can change

Statistics decide the order of joins, and nothing else. The order of joins
decides in which order the attributes of a joined tuple stand, and items are
found by their names alone, whatever table they are of: an item stands for a
column of the first table, in the order of joins, that has a column of its name
(`Statement.source?`). Two orders of joins therefore show the same rows as long
as every item has the same source in both.

That is so whatever the statistics are if the base table has a column of that
name, since it always comes first, or if no two joined tables have one
(`Statement.IsSettled`). Otherwise statistics can be seen in the rows
(`Sample.sharedName_estimates`).

* `Catalog.find?_of_mem_combined`: what an item finds in a combination of rows.
* `Statement.source?_of_isSettled`: items with only one possible source.
* `Statement.rendered_perm`: the rows for different statistics.
-/

namespace CsvQuery

/-! ## Where a column name is found -/

/-- The first member that passes a test is the same in two orders, if no other one passes it. -/
theorem find?_eq_of_perm {α : Type} {p : α → Bool} {xs ys : List α} (h : xs.Perm ys)
    (hone : ∀ x ∈ xs, ∀ y ∈ xs, p x = true → p y = true → x = y) : xs.find? p = ys.find? p := by
  cases hx : xs.find? p with
  | none =>
    rw [List.find?_eq_none] at hx
    exact (List.find?_eq_none.2 fun y hy => hx y (h.mem_iff.2 hy)).symm
  | some x =>
    have hmem := List.mem_of_find?_eq_some hx
    have hpx := List.find?_some hx
    have hsome : (ys.find? p).isSome = true := List.find?_isSome.2 ⟨x, h.mem_iff.1 hmem, hpx⟩
    obtain ⟨y, hy⟩ := Option.isSome_iff_exists.1 hsome
    rw [hy, hone x hmem y (h.mem_iff.2 (List.mem_of_find?_eq_some hy)) hpx (List.find?_some hy)]

namespace Catalog

variable {k : Catalog} {files : Files} {name : String}

/-- In a combination of rows, a column name alone finds the column of the first table that has one
    of that name. -/
theorem find?_of_mem_combined {names : List String} {t : Tuple} (ht : t ∈ k.combined files names)
    (column : String) :
    t.find? column = (names.find? (k.hasColumn · column)).bind fun name =>
      (t.lookup ⟨some name, column⟩).map (⟨name, column, ·⟩) := by
  induction names generalizing t with
  | nil =>
    obtain rfl := List.mem_singleton.1 ht
    rfl
  | cons name names ih =>
    obtain ⟨u, hu, v, hv, rfl⟩ := Tuple.mem_pairs.1 ht
    have hrow := isSome_lookup_of_mem_rows hu column
    rw [Tuple.find?_merge, find?_of_mem_rows hu, ih hv]
    by_cases hhas : k.hasColumn name column = true
    · -- The row itself has the column, and its value comes first in the combination, too.
      rw [List.find?_cons_of_pos (p := (k.hasColumn · column)) hhas, Option.bind_some,
        Tuple.lookup_merge]
      obtain ⟨n, hn⟩ := Option.isSome_iff_exists.1 (hrow.trans hhas)
      rw [hn]
      rfl
    · have hnone : u.lookup ⟨some name, column⟩ = none :=
        Option.not_isSome_iff_eq_none.1 fun h => hhas (hrow ▸ h)
      rw [List.find?_cons_of_neg (p := (k.hasColumn · column)) hhas, hnone]
      refine Option.bind_congr fun other hother => ?_
      have hne : other ≠ name := fun heq =>
        hhas (heq ▸ List.find?_some (p := (k.hasColumn · column)) hother)
      rw [Tuple.lookup_merge, lookup_of_ne hu rfl hne, Option.none_or]

end Catalog

/-! ## What is shown of a view -/

/-- What a list of items shows of a combination of rows with a view, if `source?` gives the first
    table with a column of a name. -/
def View.pick (source? : String → Option String) (items : List SelectItem) (v : View) : Tuple :=
  ⟨items.filterMap fun item => (source? item.name).bind fun name =>
    (v.value name item.name).map (⟨name, item.name, ·⟩)⟩

namespace Statement

/-- The first table, in the order of joins, with a column of a name. -/
def source? (k : Catalog) (stats : Statistics) (s : Statement) (column : String) : Option String :=
  (s.base :: (s.order stats).map (·.table)).find? (k.hasColumn · column)

/-- A name is settled if the base table has a column of that name, or else no two joined tables
    have one. -/
def IsSettled (k : Catalog) (s : Statement) (column : String) : Prop :=
  k.hasColumn s.base column = true ∨ ∀ j ∈ s.joins, ∀ j' ∈ s.joins,
    k.hasColumn j.table column = true → k.hasColumn j'.table column = true → j.table = j'.table

instance (k : Catalog) (s : Statement) (column : String) : Decidable (s.IsSettled k column) :=
  inferInstanceAs (Decidable (_ ∨ _))

variable {k : Catalog} {files : Files} {s : Statement}

/-- The source of a settled name does not depend on statistics. -/
theorem source?_of_isSettled {column : String} (h : s.IsSettled k column)
    (stats stats' : Statistics) : s.source? k stats column = s.source? k stats' column := by
  rw [source?, source?, List.find?_cons, List.find?_cons]
  cases hbase : k.hasColumn s.base column with
  | true => rfl
  | false =>
    refine find?_eq_of_perm (((s.order_perm stats).trans (s.order_perm stats').symm).map _) ?_
    simp only [List.mem_map]
    rintro _ ⟨j, hj, rfl⟩ _ ⟨j', hj', rfl⟩
    exact h.resolve_left (Bool.eq_false_iff.1 hbase) j ((s.order_perm stats).mem_iff.1 hj) j'
      ((s.order_perm stats).mem_iff.1 hj')

/-- What a list of items shows of the joined tuples is a function of their views. -/
theorem shown_selected (k : Catalog) (files : Files) {stats : Statistics}
    (hlist : s.projection.isAll = false) {source? : String → Option String}
    (h : ∀ item ∈ s.projection.items, s.source? k stats item.name = source? item.name) :
    ((s.selected k files stats).map s.projection.tuple : Multiset Tuple) =
      ((s.selected k files stats).map Tuple.view : Multiset View).map
        (View.pick source? s.projection.items) := by
  rw [Multiset.map_coe, List.map_map]
  refine congrArg _ (List.map_congr_left fun t ht => ?_)
  have hmem := (List.mem_filter.1 ht).1
  rw [combinations_eq_combined] at hmem
  rw [Projection.tuple, if_neg (Bool.eq_false_iff.1 hlist)]
  refine congrArg Tuple.mk (List.filterMap_congr fun item hitem => ?_)
  rw [Catalog.find?_of_mem_combined hmem, ← h item hitem]
  rfl

/-- Without groups and thinning out, a statement shows its items of its joined tuples, in some
    order. -/
theorem finish_perm_map (hg : s.groupBy = []) (hsums : s.sums = []) (hd : s.distinct = false)
    (ts : List Tuple) : (s.finish ts).Perm (ts.map s.projection.tuple) := by
  have hthin : ∀ us, s.thinning us = us := fun us => by
    rw [thinning, hd]
  rw [finish, hthin, grouping, hg, hsums, ordering]
  split
  · exact .refl _
  · exact (Sort.sorted_perm _ _).map _

/-- Over sound tables, the plans of the statement of a text for any two statistics show the same
    rows, each as often, if the statement shows a list of columns, makes no groups and does not
    thin out, and the name of each of these columns is settled or has the same source for both
    statistics. -/
theorem rendered_perm {text : String} (hs : Statement.ofText k text = .ok s)
    (h : ∀ name ∈ s.tables, k.IsSound files name) (hlist : s.projection.isAll = false)
    (hcolumns : ∀ item ∈ s.projection.items, ∃ c, item = .column c) (hg : s.groupBy = [])
    (hd : s.distinct = false) (stats stats' : Statistics)
    (hsource : ∀ item ∈ s.projection.items, s.IsSettled k item.name ∨
      s.source? k stats item.name = s.source? k stats' item.name) :
    ∃ ts ts', ((s.plan stats).value.tuples? k files).result = .ok ts ∧
      ((s.plan stats').value.tuples? k files).result = .ok ts' ∧
      (ts.map Tuple.render).Perm (ts'.map Tuple.render) := by
  have hresolved := isResolved_of_ofText hs
  have hsums : s.sums = [] := List.filterMap_eq_nil_iff.2 fun item hitem => by
    obtain ⟨c, rfl⟩ := hcolumns item hitem
    rfl
  have hresult : ∀ stats, ((s.plan stats).value.tuples? k files).result =
      .ok ((s.plan stats).value.rows k files) := fun stats => by
    rw [result_plan stats h, hsums]
    rfl
  have hsame : ∀ item ∈ s.projection.items,
      s.source? k stats item.name = s.source? k stats' item.name := fun item hitem =>
    (hsource item hitem).elim (fun hsettled => source?_of_isSettled hsettled stats stats') id
  -- Before anything is shown, the two orders of joins give the same views.
  have hviews := views_joined k files stats stats' hresolved.nodup (.refl _)
    (fun _ he => (Placement.isWithin_iff.1 (hresolved.isWithin he)).1) fun _ => Iff.rfl
  rw [rows_joinedOnto, rows_joinedOnto] at hviews
  have hshown : ((s.selected k files stats).map s.projection.tuple).Perm
      ((s.selected k files stats').map s.projection.tuple) := by
    rw [← Multiset.coe_eq_coe, shown_selected k files hlist hsame,
      shown_selected k files hlist fun _ _ => rfl]
    exact congrArg _ hviews
  refine ⟨_, _, hresult stats, hresult stats', ?_⟩
  rw [rows_plan, rows_plan]
  exact (((finish_perm_map hg hsums hd _).trans hshown).trans
    (finish_perm_map hg hsums hd _).symm).map _

end Statement

namespace Sample

/-- A database with the tables `R(a, b)`, `S(a, c)` and `T(b, c)`. -/
def threeTables : Catalog :=
  ⟨"db", [⟨"R", ["a", "b"], "db/data/R.csv"⟩, ⟨"S", ["a", "c"], "db/data/S.csv"⟩,
    ⟨"T", ["b", "c"], "db/data/T.csv"⟩]⟩

/-- Its data files. -/
def threeFiles : Files := fun path =>
  if path = "db/data/R.csv" then .ok "1,1\n".toUTF8
  else if path = "db/data/S.csv" then .ok "1,10\n1,11\n".toUTF8
  else if path = "db/data/T.csv" then .ok "1,20\n2,30\n".toUTF8
  else .error .missing

/-- What is counted in them about the columns `R.b` and `T.b`. -/
def counted : Statistics :=
  ⟨[(⟨some "R", "b"⟩, ⟨1, 1, 1, 1⟩), (⟨some "T", "b"⟩, ⟨1, 2, 2, 2⟩)]⟩

/-- A statement that joins the three tables and shows some items. -/
def ofThree (items : List SelectItem) : Statement where
  base := "R"
  joins := [
    ⟨"S", some (.compare (.column ⟨some "R", "a"⟩) .equal (.column ⟨some "S", "a"⟩))⟩,
    ⟨"T", some (.compare (.column ⟨some "R", "b"⟩) .equal (.column ⟨some "T", "b"⟩))⟩]
  selection := none
  projection := .list items
  groupBy := []
  orderBy := []
  distinct := false

theorem isSound_threeTables : ∀ name ∈ ["R", "S", "T"], threeTables.IsSound threeFiles name := by
  decide

/-- `SELECT S.a, T.b FROM R JOIN S ON R.a = S.a JOIN T ON R.b = T.b`. -/
def settled : Statement := ofThree [.column ⟨some "S", "a"⟩, .column ⟨some "T", "b"⟩]

/-- The base table settles both names, and the rows are the same although the statistics turn the
    order of the joins. -/
theorem settled_rendered :
    Statement.ofText threeTables
      "SELECT S.a, T.b FROM R JOIN S ON R.a = S.a JOIN T ON R.b = T.b" = .ok settled ∧
    (∀ name ∈ settled.tables, threeTables.IsSound threeFiles name) ∧
    (∀ item ∈ settled.projection.items, ∃ c, item = .column c) ∧
    (∀ item ∈ settled.projection.items, settled.IsSettled threeTables item.name) ∧
    (settled.order .empty).map (·.table) = ["S", "T"] ∧
    (settled.order counted).map (·.table) = ["T", "S"] ∧
    (settled.plan counted).value.rows threeTables threeFiles =
      [⟨[⟨"R", "a", 1⟩, ⟨"R", "b", 1⟩]⟩, ⟨[⟨"R", "a", 1⟩, ⟨"R", "b", 1⟩]⟩] ∧
    ∃ ts ts', ((settled.plan .empty).value.tuples? threeTables threeFiles).result = .ok ts ∧
      ((settled.plan counted).value.tuples? threeTables threeFiles).result = .ok ts' ∧
      (ts.map Tuple.render).Perm (ts'.map Tuple.render) :=
  have htext : Statement.ofText threeTables
      "SELECT S.a, T.b FROM R JOIN S ON R.a = S.a JOIN T ON R.b = T.b" = .ok settled := by
    decide +kernel
  have hcolumns : ∀ item ∈ settled.projection.items, ∃ c, item = .column c := by
    simp [settled, ofThree, Projection.items]
  have hsettled : ∀ item ∈ settled.projection.items, settled.IsSettled threeTables item.name := by
    decide
  ⟨htext, isSound_threeTables, hcolumns, hsettled, by decide +kernel, by decide +kernel,
    by decide +kernel, Statement.rendered_perm htext isSound_threeTables rfl hcolumns rfl rfl .empty
      counted fun item hitem => .inl (hsettled item hitem)⟩

/-- `SELECT S.c FROM R JOIN S ON R.a = S.a JOIN T ON R.b = T.b`: both joined tables have a column
    of that name. -/
def sharedName : Statement := ofThree [.column ⟨some "S", "c"⟩]

/-- Where two joined tables share the name of an item, statistics can turn the values of the one
    into those of the other. -/
theorem sharedName_estimates :
    Statement.ofText threeTables
      "SELECT S.c FROM R JOIN S ON R.a = S.a JOIN T ON R.b = T.b" = .ok sharedName ∧
    (∀ name ∈ sharedName.tables, threeTables.IsSound threeFiles name) ∧
    sharedName.projection.isAll = false ∧
    (∀ item ∈ sharedName.projection.items, ∃ c, item = .column c) ∧
    sharedName.groupBy = [] ∧ sharedName.distinct = false ∧
    ((sharedName.plan .empty).value.tuples? threeTables threeFiles).result =
      .ok [⟨[⟨"S", "c", 10⟩]⟩, ⟨[⟨"S", "c", 11⟩]⟩] ∧
    ((sharedName.plan counted).value.tuples? threeTables threeFiles).result =
      .ok [⟨[⟨"T", "c", 20⟩]⟩, ⟨[⟨"T", "c", 20⟩]⟩] ∧
    ¬([⟨[⟨"S", "c", 10⟩]⟩, ⟨[⟨"S", "c", 11⟩]⟩].map Tuple.render).Perm
      ([⟨[⟨"T", "c", 20⟩]⟩, ⟨[⟨"T", "c", 20⟩]⟩].map Tuple.render) := by
  have hsound : ∀ name ∈ sharedName.tables, threeTables.IsSound threeFiles name :=
    isSound_threeTables
  have hwritten : (sharedName.plan .empty).value.rows threeTables threeFiles =
      [⟨[⟨"S", "c", 10⟩]⟩, ⟨[⟨"S", "c", 11⟩]⟩] := by decide +kernel
  have hturned : (sharedName.plan counted).value.rows threeTables threeFiles =
      [⟨[⟨"T", "c", 20⟩]⟩, ⟨[⟨"T", "c", 20⟩]⟩] := by decide +kernel
  refine ⟨by decide +kernel, hsound, rfl, by simp [sharedName, ofThree, Projection.items], rfl, rfl,
    ?_, ?_, by decide +kernel⟩
  · rw [Statement.result_plan .empty hsound, hwritten]
    rfl
  · rw [Statement.result_plan counted hsound, hturned]
    rfl

end Sample

end CsvQuery
