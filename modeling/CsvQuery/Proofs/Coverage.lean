import CsvQuery.Proofs.EarlyProjection
import CsvQuery.Proofs.Notices
import CsvQuery.Proofs.Resolution
import CsvQuery.Query

/-!
# Columns are found where they are looked up

An operation that does not find a column in a tuple goes on without it and
tells so. In the plan of a statement that is resolved in a catalog, this never
happens, whatever the files hold: wherever a plan has joined some tables, its
tuples *cover* them (`Statement.Covers`), that is, they have values for all
columns of these tables that the statement names. A row covers its table, and
so does what is shown of it early, since then nothing but the items is named;
putting tuples side by side covers the tables of both; and a predicate is
applied only where its tables have been joined.

* `Notice.isMiss`: the notices on something that a tuple lacks.
* `Tuple.Has`: what is looked up where it is there gives no such notice.
* `Statement.keepsTo_joinAll`: the invariant of the joins.
* `Statement.result_answerWith`: the outcome of a statement for given statistics.
* `Statement.isMiss_answerWith`: what can be missing from planning a statement
  to the end of its rows.
-/

namespace CsvQuery

/-- Whether a notice tells that a tuple lacks a column or an item that is looked up in it. -/
def Notice.isMiss : Notice → Bool
  | columnMissing .. | itemMissing .. | leftOutOfGroups .. | leftOutOfSum .. | sortKeyIgnored ..
  | leftOutOfDistinct .. => true
  | catalogLoaded .. | schemaLineIgnored _ | statisticsComputed .. | projectedEarly _
  | pushedDown .. | joinOrder .. | appliedAfterJoins _ | produced _ | notEvaluated ..
  | notPredicate _ => false

/-! ## Tuples that have what is looked up -/

/-- A tuple has values for some columns. -/
def Tuple.Has (columns : List ColumnRef) (t : Tuple) : Prop :=
  ∀ c ∈ columns, (t.lookup c).isSome = true

section
variable {t : Tuple}

theorem Tuple.has_append {columns columns' : List ColumnRef} :
    t.Has (columns ++ columns') ↔ t.Has columns ∧ t.Has columns' :=
  List.forall_mem_append

theorem Tuple.Has.isNone_lookup {columns : List ColumnRef} (h : t.Has columns) {c : ColumnRef}
    (hc : c ∈ columns) : (t.lookup c).isNone = false :=
  Option.isNone_eq_false_iff.2 (h c hc)

/-- A column that has a value is found by its name. -/
theorem Tuple.isSome_find? {c : ColumnRef} (h : (t.lookup c).isSome = true) :
    (t.find? c.column).isSome = true := by
  rw [lookup, Option.isSome_map, List.find?_isSome] at h
  obtain ⟨a, ha, hfits⟩ := h
  rw [Attribute.fits, Bool.and_eq_true] at hfits
  exact List.find?_isSome.2 ⟨a, ha, hfits.1⟩

namespace Expr

/-- A scalar misses nothing on a tuple that has its columns. -/
theorem isMiss_evalNotices {e : Expr} (h : t.Has e.columns) :
    ∀ n ∈ e.evalNotices t, n.isMiss = false := by
  induction e with
  | literal v => exact nofun
  | column c => simp [evalNotices, h.isNone_lookup (List.mem_singleton_self c)]
  | compare l op r => exact nofun
  | and l r => exact nofun
  | arithmetic l op r ihl ihr =>
    obtain ⟨hl, hr⟩ := Tuple.has_append.1 h
    intro n hn
    rcases List.mem_append.1 hn with hn | hn
    · exact ihl hl n hn
    · split at hn
      · cases hn
      · rcases List.mem_append.1 hn with hn | hn
        · exact ihr hr n hn
        · -- A quotient by zero has no value, but nothing is missing for it.
          split at hn
          · cases hn
          · split at hn
            · rw [List.mem_singleton.1 hn]
              rfl
            · cases hn

/-- A predicate misses nothing on a tuple that has its columns. -/
theorem isMiss_holdsNotices {e : Expr} (h : t.Has e.columns) :
    ∀ n ∈ e.holdsNotices t, n.isMiss = false := by
  induction e with
  | and l r ihl ihr =>
    obtain ⟨hl, hr⟩ := Tuple.has_append.1 h
    exact List.forall_mem_append.2 ⟨ihl hl, ihr hr⟩
  | compare l op r =>
    obtain ⟨hl, hr⟩ := Tuple.has_append.1 h
    exact List.forall_mem_append.2 ⟨isMiss_evalNotices hl, isMiss_evalNotices hr⟩
  | literal v => exact List.forall_mem_singleton.2 rfl
  | column c => exact List.forall_mem_singleton.2 rfl
  | arithmetic l op r => exact List.forall_mem_singleton.2 rfl

theorem holdsNotices_foldl_and (e : Expr) (es : List Expr) (t : Tuple) :
    (es.foldl and e).holdsNotices t = e.holdsNotices t ++ es.flatMap (·.holdsNotices t) := by
  induction es generalizing e with
  | nil => exact (List.append_nil _).symm
  | cons e' es ih => rw [List.foldl_cons, ih, holdsNotices, List.flatMap_cons, List.append_assoc]

/-- A tuple that has the columns of an expression counts for the sum of it. -/
theorem shareNotices_eq_nil {e : Expr} (h : t.Has e.columns) : e.shareNotices t = [] := by
  induction e with
  | literal v => rfl
  | column c => simp [shareNotices, h.isNone_lookup (List.mem_singleton_self c)]
  | compare l op r => rfl
  | and l r => rfl
  | arithmetic l op r ihl ihr =>
    obtain ⟨hl, hr⟩ := Tuple.has_append.1 h
    rw [shareNotices, ihl hl, ihr hr, List.nil_append, ite_self]

end Expr

/-- The conjunction of some predicates misses nothing on a tuple that has the columns of all. -/
theorem Condition.isMiss_notices {es : List Expr} (h : ∀ e ∈ es, t.Has e.columns) :
    ∀ n ∈ Condition.notices (Expr.conjoin? es) t, n.isMiss = false := by
  cases es with
  | nil => exact nofun
  | cons e es =>
    obtain ⟨he, hes⟩ := List.forall_mem_cons.1 h
    rw [Expr.conjoin?, Condition.notices, Option.elim_some, Expr.holdsNotices_foldl_and]
    refine List.forall_mem_append.2 ⟨Expr.isMiss_holdsNotices he, List.forall_mem_flatMap.2 ?_⟩
    exact fun e' he' => Expr.isMiss_holdsNotices (hes e' he')

theorem Aggregate.groupingNotices_eq_nil {columns : List ColumnRef} (h : t.Has columns) :
    groupingNotices columns t = [] := by
  rw [groupingNotices, List.find?_eq_none.2 fun c hc => by simp [h.isNone_lookup hc]]
  rfl

theorem Sort.notices_eq_nil {keys : List ColumnRef} (h : t.Has keys) : notices keys t = [] := by
  rw [notices, List.filter_eq_nil_iff.2 fun c hc => by simp [h.isNone_lookup hc]]
  rfl

theorem Projection.notices_eq_nil {p : Projection}
    (h : ∀ item ∈ p.items, (t.find? item.name).isSome = true) : p.notices t = [] := by
  rw [notices, List.filter_eq_nil_iff.2 fun item hitem => by
    simp [Option.isSome_iff_ne_none.1 (h item hitem)]]
  rfl

end

/-! ## Tuples of joined tables -/

/-- The outcome of an opened plan shows the tuples that it delivers, if it delivers them all. -/
theorem Opened.result_execute (o : Opened) (files : Files) :
    (o.execute files).result = (o.drain files).result.map .ofTuples := by
  rw [Opened.execute]
  split <;> rename_i hread <;> rw [hread] <;> rfl

namespace Statement

/-- A tuple has a value for each column of some tables that a statement names. -/
def Covers (s : Statement) (tables : List String) (t : Tuple) : Prop :=
  ∀ c ∈ s.columnsNamed, ∀ name ∈ tables, c.table = some name → (t.lookup c).isSome = true

variable {k : Catalog} {s : Statement}

theorem mem_columnsNamed_of_item {item : SelectItem} (hitem : item ∈ s.projection.items)
    {c : ColumnRef} (hc : c ∈ item.columns) : c ∈ s.columnsNamed :=
  List.mem_append_right _ (List.mem_flatMap.2 ⟨item, hitem, hc⟩)

/-- A tuple that covers the tables of a predicate has its columns. -/
theorem Covers.has {tables : List String} {t : Tuple} (h : s.Covers tables t) {e : Expr}
    (he : e ∈ s.conjuncts) (hw : e.IsWithin tables) : t.Has e.columns := by
  intro c hc
  obtain ⟨name, hname, htable⟩ := hw c hc
  exact h c (List.mem_append_left _ (mem_columnsRead he hc)) name hname htable

/-- Tuples side by side cover the tables of both. -/
theorem Covers.merge {tables tables' : List String} {t u : Tuple} (ht : s.Covers tables t)
    (hu : s.Covers tables' u) : s.Covers (tables' ++ tables) (t.merge u) := by
  intro c hc name hname htable
  rw [Tuple.lookup_merge, Option.isSome_or, Bool.or_eq_true]
  rcases List.mem_append.1 hname with hname | hname
  · exact .inr (hu c hc name hname htable)
  · exact .inl (ht c hc name hname htable)

theorem Covers.mono {tables tables' : List String} {t : Tuple} (h : s.Covers tables t)
    (hsub : tables' ⊆ tables) : s.Covers tables' t :=
  fun c hc name hname => h c hc name (hsub hname)

/-- A column among the items is found by its name in a tuple that covers its table. -/
theorem Covers.isSome_find? {tables : List String} {t : Tuple} (h : s.Covers tables t)
    {c : ColumnRef} (hc : .column c ∈ s.projection.items) {name : String} (hname : name ∈ tables)
    (htable : c.table = some name) : (t.find? c.column).isSome = true :=
  Tuple.isSome_find? (h c (mem_columnsNamed_of_item hc (List.mem_singleton_self c)) name hname htable)

/-- The columns of a table that a statement names are among the attributes of its rows. -/
theorem mem_names_of_row (hs : s.IsResolved k) {name : String} {t : Tuple}
    (ht : t.names = (k.columns name).map (⟨some name, ·⟩)) {c : ColumnRef}
    (hc : c ∈ s.columnsNamed) (htable : c.table = some name) : c ∈ t.names := by
  obtain ⟨other, _, hother, hcolumn⟩ := hs.columns c hc
  obtain rfl : other = name := Option.some.inj (hother.symm.trans htable)
  rw [ht, List.mem_map]
  exact ⟨c.column, Catalog.hasColumn_iff.1 hcolumn, by rw [← htable]⟩

/-- A row covers its table. -/
theorem covers_of_row (hs : s.IsResolved k) {name : String} {t : Tuple}
    (ht : t.names = (k.columns name).map (⟨some name, ·⟩)) : s.Covers [name] t := by
  intro c hc name' hname htable
  obtain rfl : name' = name := List.mem_singleton.1 hname
  exact (Tuple.isSome_lookup htable).2 (mem_names_of_row hs ht hc htable)

/-- The items of a statement that cuts down its base table are columns of that table. -/
theorem column_mem_items_of_early (early : s.isProjectedEarly = true) {c : ColumnRef}
    (hc : c ∈ s.columnsNamed) : .column c ∈ s.projection.items := by
  rcases List.mem_append.1 hc with hc | hc
  · exact (mem_items_of_early early hc).1
  · obtain ⟨item, hitem, hc⟩ := List.mem_flatMap.1 hc
    obtain ⟨c', rfl, _⟩ := item_of_early early hitem
    exact List.mem_singleton.1 hc ▸ hitem

/-- What is shown early of a row of the base table still covers it. -/
theorem covers_pick (hs : s.IsResolved k) (early : s.isProjectedEarly = true) {t : Tuple}
    (ht : t.names = (k.columns s.base).map (⟨some s.base, ·⟩)) :
    s.Covers [s.base] (s.projection.tuple t) := by
  intro c hc name hname htable
  obtain rfl : name = s.base := List.mem_singleton.1 hname
  have hfound : t.IsFound c := .of_mem_names (mem_names_of_row hs ht hc htable) ht
  rw [tuple_of_early early]
  exact (hfound.pick (column_mem_items_of_early early hc)).isSome_lookup

/-! ## Notices of the joins -/

/-- Nothing is missing, but for the key of the tuples without repeats if that is a sum. -/
def Expects (s : Statement) (n : Notice) : Prop :=
  n.isMiss = true →
    ∃ call rest t, s.projection.items = .sum call :: rest ∧ n = .leftOutOfDistinct call.output t

theorem Expects.of_not_isMiss {n : Notice} (h : n.isMiss = false) : s.Expects n := by
  intro hmiss
  rw [h] at hmiss
  cases hmiss

/-- A filter by parts of the predicates on tables that are covered. -/
theorem keepsTo_filterBy {tables : List String} {p : Plan}
    (hp : p.KeepsTo k s.Expects (s.Covers tables)) {note : Expr → Notice}
    (hnote : ∀ e, (note e).isMiss = false) {es : List Expr}
    (hes : ∀ e ∈ es, e ∈ s.conjuncts ∧ e.IsWithin tables) :
    (Plan.filterBy note es p).KeepsTo s.Expects (Plan.KeepsTo k s.Expects (s.Covers tables)) := by
  cases es with
  | nil => exact .pure hp
  | cons e es =>
    refine ⟨List.forall_mem_singleton.2 (.of_not_isMiss (hnote _)), hp.filter fun t ht n hn => ?_⟩
    have hhas : ∀ e' ∈ e :: es, t.Has e'.columns := fun e' he' =>
      ht.has (hes e' he').1 (hes e' he').2
    exact .of_not_isMiss (Condition.isMiss_notices hhas n hn)

/-- One more table is covered after each join, and no predicate is applied before. -/
theorem keepsTo_joinAll (hs : s.IsResolved k) (joins : List JoinClause) {joined : List String}
    {waiting : List Expr} {root : Plan} (hroot : root.KeepsTo k s.Expects (s.Covers joined))
    (hw : ∀ e ∈ waiting, e ∈ s.conjuncts) :
    (Plan.joinAll joined waiting root joins).KeepsTo s.Expects fun (p, left) =>
      p.KeepsTo k s.Expects (s.Covers ((joins.map (·.table)).reverse ++ joined)) ∧
        ∀ e ∈ left, e ∈ s.conjuncts := by
  induction joins generalizing joined waiting root with
  | nil => exact .pure ⟨hroot, hw⟩
  | cons j joins ih =>
    have hplaced : ∀ {test : Expr → Bool} {e}, e ∈ waiting.filter test → e ∈ s.conjuncts :=
      fun he => hw _ (List.mem_filter.1 he).1
    have hscan : (Plan.scan j.table).KeepsTo k s.Expects (s.Covers [j.table]) :=
      (Plan.KeepsTo.scan k j.table).mono fun t ht => covers_of_row hs ht
    refine (keepsTo_filterBy hscan (fun _ => rfl) fun e he => ?_).bind fun right hright => ?_
    · exact ⟨hplaced he, Placement.isWithin_of_isRight (List.mem_filter.1 he).2⟩
    rw [List.map_cons, List.reverse_cons, List.append_assoc, List.singleton_append]
    refine ih (hroot.join hright (fun t u ht hu n hn => ?_) fun t u ht hu => ht.merge hu)
      fun e he => hplaced he
    -- The predicates of the join are on the tables that it brings together.
    refine .of_not_isMiss (Condition.isMiss_notices (fun e he => ?_) n hn)
    have hready := (List.mem_filter.1 he).2
    rw [Bool.and_eq_true] at hready
    exact (ht.merge hu).has (hplaced he) (Placement.isReady_iff.1 hready.1)

/-- The rows of the base table cover it, cut down early or not. -/
theorem keepsTo_baseScan (hs : s.IsResolved k) :
    s.baseScan.KeepsTo s.Expects (Plan.KeepsTo k s.Expects (s.Covers [s.base])) := by
  have hscan : (Plan.scan s.base).KeepsTo k s.Expects _ := .scan k s.base
  rw [baseScan]
  split
  · rename_i early
    refine ⟨List.forall_mem_singleton.2 (.of_not_isMiss rfl), hscan.project (fun t ht => ?_)
      fun t ht => covers_pick hs early ht⟩
    have hitems : ∀ item ∈ s.projection.items, (t.find? item.name).isSome = true := by
      intro item hitem
      obtain ⟨c, rfl, htable⟩ := item_of_early early hitem
      exact (covers_of_row hs ht).isSome_find? hitem (List.mem_singleton_self _) htable
    simp [Projection.notices_eq_nil hitems]
  · exact .pure (hscan.mono fun t ht => covers_of_row hs ht)

/-- The joined tuples of a statement cover its tables. -/
theorem keepsTo_joined (hs : s.IsResolved k) (stats : Statistics) :
    (s.joined stats).KeepsTo s.Expects (Plan.KeepsTo k s.Expects (s.Covers s.tables)) := by
  have hpart : ∀ {test : Expr → Bool} {e}, e ∈ s.conjuncts.filter test → e ∈ s.conjuncts :=
    fun he => (List.mem_filter.1 he).1
  rw [joined]
  refine (keepsTo_baseScan hs).bind fun base hbase => ?_
  refine (keepsTo_filterBy hbase (fun _ => rfl) fun e he => ?_).bind fun base hbase => ?_
  · exact ⟨hpart he, Placement.isAtBase_iff.1 (List.mem_filter.1 he).2⟩
  -- In whatever order the joins are made, they cover all tables in the end.
  have htables : s.tables ⊆ ((s.order stats).map (·.table)).reverse ++ [s.base] := by
    intro name hname
    have hmem := (((s.order_perm stats).map (·.table)).cons s.base).mem_iff.2 hname
    simpa [or_comm] using hmem
  have hjoins : (Plan.joinAll [s.base] s.waiting base (s.order stats) >>= fun (root, left) =>
      Plan.filterBy .appliedAfterJoins left root).KeepsTo s.Expects
        (Plan.KeepsTo k s.Expects (s.Covers s.tables)) := by
    refine (keepsTo_joinAll hs _ hbase fun e he => hpart he).bind ?_
    rintro ⟨root, left⟩ ⟨hroot, hleft⟩
    refine keepsTo_filterBy (hroot.mono fun t ht => ht.mono htables) (fun _ => rfl) fun e he => ?_
    exact ⟨hleft e he, hs.isWithin (hleft e he)⟩
  -- The order of joins is told if there are any.
  dsimp only
  split
  · have htold : (Logged.tell [.joinOrder s.base ((s.order stats).map (·.table))]).KeepsTo s.Expects
        fun _ => True := ⟨List.forall_mem_singleton.2 (.of_not_isMiss rfl), trivial⟩
    exact htold.bind fun _ _ => hjoins
  · exact hjoins

/-! ## Notices of the whole plan -/

/-- All items of a statement are found by their names. -/
def Shows (s : Statement) (t : Tuple) : Prop :=
  ∀ item ∈ s.projection.items, (t.find? item.name).isSome = true

/-- The columns of the items are found in a tuple that covers all tables. -/
theorem Covers.isSome_find?_column (hs : s.IsResolved k) {t : Tuple} (h : s.Covers s.tables t)
    {c : ColumnRef} (hc : .column c ∈ s.projection.items) : (t.find? c.column).isSome = true := by
  obtain ⟨name, hname, htable, _⟩ :=
    hs.columns c (mem_columnsNamed_of_item hc (List.mem_singleton_self c))
  exact h.isSome_find? hc hname htable

/-- A tuple that covers all tables has every column that is named. -/
theorem Covers.has_of_subset (hs : s.IsResolved k) {t : Tuple} (h : s.Covers s.tables t)
    {columns : List ColumnRef} (hsub : columns ⊆ s.columnsNamed) : t.Has columns := by
  intro c hc
  obtain ⟨name, hname, htable, _⟩ := hs.columns c (hsub hc)
  exact h c (hsub hc) name hname htable

/-- The sums of a statement are those among its items. -/
theorem mem_sums {call : SumCall} : call ∈ s.sums ↔ .sum call ∈ s.projection.items := by
  rw [sums, List.mem_filterMap]
  constructor
  · rintro ⟨item, hitem, hsum⟩
    cases item with
    | column c => cases hsum
    | sum call' => exact Option.some.inj hsum ▸ hitem
  · exact fun h => ⟨_, h, rfl⟩

/-- The items are found in the tuple of a group: the columns in its first member, and the sums
    behind it. -/
theorem Covers.shows_merge (hs : s.IsResolved k) {t : Tuple} (h : s.Covers s.tables t)
    (members : List Tuple) : s.Shows (t.merge ⟨s.sums.map (·.result members)⟩) := by
  intro item hitem
  rw [Tuple.find?_merge, Option.isSome_or, Bool.or_eq_true]
  cases item with
  | column c => exact .inl (h.isSome_find?_column hs hitem)
  | sum call =>
    refine .inr (List.find?_isSome.2 ⟨call.result members, ?_, beq_self_eq_true _⟩)
    exact List.mem_map_of_mem (mem_sums.2 hitem)

/-- Groups keep all tables covered, and their sums are found like the columns. -/
theorem keepsTo_grouped (hs : s.IsResolved k) {p : Plan}
    (hp : p.KeepsTo k s.Expects (s.Covers s.tables)) :
    (s.grouped p).KeepsTo k s.Expects fun t => s.Covers s.tables t ∧ s.Shows t := by
  rw [grouped]
  split
  · -- Without groups there are no sums, and all items are columns.
    rename_i hnone
    rw [Bool.and_eq_true, List.isEmpty_iff, List.isEmpty_iff] at hnone
    refine hp.mono fun t ht => ⟨ht, fun item hitem => ?_⟩
    cases item with
    | column c => exact ht.isSome_find?_column hs hitem
    | sum call =>
      rw [← mem_sums, hnone.2] at hitem
      cases hitem
  · refine hp.aggregate (fun t ht => ?_) (fun t ht call hcall => ?_) fun t members ht => ⟨?_, ?_⟩
    · have hgroupBy : s.groupBy ⊆ s.columnsNamed := fun c hc =>
        List.mem_append_left _ (List.mem_append_left _ (List.mem_append_right _ hc))
      simp [Aggregate.groupingNotices_eq_nil (ht.has_of_subset hs hgroupBy)]
    · have hargument : call.argument.columns ⊆ s.columnsNamed := fun c hc =>
        mem_columnsNamed_of_item (mem_sums.1 hcall) hc
      simp [Expr.shareNotices_eq_nil (ht.has_of_subset hs hargument)]
    · intro c hc name hname htable
      rw [Tuple.lookup_merge, Option.isSome_or, ht c hc name hname htable, Bool.true_or]
    · exact ht.shows_merge hs members

/-- The sorting columns of a statement are not missing. -/
theorem keepsTo_ordered (hs : s.IsResolved k) {p : Plan}
    (hp : p.KeepsTo k s.Expects fun t => s.Covers s.tables t ∧ s.Shows t) :
    (s.ordered p).KeepsTo k s.Expects s.Shows := by
  rw [ordered]
  split
  · exact hp.mono fun t ht => ht.2
  · have horderBy : s.orderBy ⊆ s.columnsNamed := fun c hc =>
      List.mem_append_left _ (List.mem_append_right _ hc)
    refine (hp.sort fun t ht => ?_).mono fun t ht => ht.2
    simp [Sort.notices_eq_nil (ht.1.has_of_subset hs horderBy)]

/-- The items are found in what is shown as they are in the tuples. -/
theorem keepsTo_projected {p : Plan} (hp : p.KeepsTo k s.Expects s.Shows) :
    (s.projected p).KeepsTo k s.Expects s.Shows := by
  rw [projected]
  split
  · exact hp
  · rename_i hlist
    rw [Bool.or_eq_true, not_or] at hlist
    refine hp.project (fun t ht => ?_) fun t ht item hitem => ?_
    · simp [Projection.notices_eq_nil ht]
    · rw [Projection.tuple, if_neg hlist.1, Projection.find?_pick hitem]
      exact ht item hitem

/-- The key of the tuples without repeats is found where the items are, if the first one of them is
    a column. A sum is looked up as a sum, though, and what is shown by its name need not be one. -/
theorem Shows.expects {t : Tuple} (h : s.Shows t) {key : ColumnRef}
    (hkey : s.distinctKey? = some key) : ∀ n ∈ Distinct.notices key t, s.Expects n := by
  intro n hn
  rw [Distinct.notices] at hn
  split at hn
  · rename_i hnone
    obtain rfl := List.mem_singleton.1 hn
    rw [distinctKey?] at hkey
    split at hkey
    · cases hkey
    · rename_i c rest hitems
      obtain rfl := Option.some.inj hkey
      have hsome : (t.find? c.column).isSome = true :=
        h (.column c) (hitems ▸ List.mem_cons_self)
      simp [Tuple.lookup_unqualified, Option.isSome_iff_ne_none.1 hsome] at hnone
    · rename_i call rest hitems
      obtain rfl := Option.some.inj hkey
      exact fun _ => ⟨call, rest, t, hitems, rfl⟩
  · cases hn

theorem keepsTo_thinnedOut {p : Plan} (hp : p.KeepsTo k s.Expects s.Shows) :
    (s.thinnedOut p).KeepsTo k s.Expects s.Shows := by
  rw [thinnedOut]
  split
  · rename_i key _ hkey
    exact hp.distinct fun t ht => ht.expects hkey
  · exact hp

/-- Planning a statement that is resolved gives no notice of something that is missing, and its
    plan gives only those that are expected. -/
theorem keepsTo_plan (hs : s.IsResolved k) (stats : Statistics) :
    (s.plan stats).KeepsTo s.Expects (Plan.KeepsTo k s.Expects s.Shows) :=
  (keepsTo_joined hs stats).bind fun _ hp => .pure
    (keepsTo_thinnedOut (keepsTo_projected (keepsTo_ordered hs (keepsTo_grouped hs hp))))

/-- The outcome of a statement whose joins are put in order by given statistics. -/
def answerWith (k : Catalog) (files : Files) (stats : Statistics) (s : Statement) : Run Outcome := do
  let plan ← ExceptT.lift (s.plan stats)
  let opened ← Opened.ofPlan k files plan
  (opened.execute files).run

/-- The outcome of a statement shows the tuples of its plan, if they can be pulled. -/
theorem result_answerWith (k : Catalog) (files : Files) (stats : Statistics) (s : Statement) :
    (s.answerWith k files stats).result =
      ((s.plan stats).value.tuples? k files).result.map .ofTuples := by
  have hlift : Run.result (ExceptT.lift (s.plan stats)) = .ok (s.plan stats).value := rfl
  rw [answerWith, Run.result_bind, hlift, Plan.tuples?, Run.result_bind]
  change Run.result ((Opened.ofPlan k files (s.plan stats).value) >>= fun o =>
    (o.execute files).run) = _
  rw [Run.result_bind]
  cases (Opened.ofPlan k files (s.plan stats).value).result with
  | error e => rfl
  | ok o => exact o.result_execute files

/-- Planning a statement that is resolved and running its plan to the end tells of nothing that is
    missing, whatever the files hold and whatever the statistics are. The only exception is the
    key of the tuples without repeats if the first item is a sum. -/
theorem isMiss_answerWith (hs : s.IsResolved k) (files : Files) (stats : Statistics) :
    ∀ n ∈ (s.answerWith k files stats).notices, n.isMiss = true →
      ∃ call rest t, s.projection.items = .sum call :: rest ∧
        n = .leftOutOfDistinct call.output t := by
  have hanswer : (s.answerWith k files stats).KeepsTo s.Expects fun _ => True := by
    refine Run.KeepsTo.bind (.lift (keepsTo_plan hs stats)) fun p hp => ?_
    exact (hp.ofPlan files).bind fun o ho => ho.execute (fun _ => .of_not_isMiss rfl) files
  intro n hn hmiss
  exact hanswer.notices n hn hmiss

/-- The same holds of the statement of a text when it is answered with the statistics of its
    tables. -/
theorem isMiss_answer {text : String} (hs : Statement.ofText k text = .ok s) (files : Files) :
    ∀ n ∈ (s.answer k files).notices, n.isMiss = true →
      ∃ call rest t, s.projection.items = .sum call :: rest ∧
        n = .leftOutOfDistinct call.output t := by
  have hresolved := isResolved_of_ofText hs
  have hbuild : (Statistics.build k files s.tables).KeepsTo s.Expects fun _ => True :=
    Statistics.keepsTo_build (fun _ _ => .of_not_isMiss rfl) k files s.tables
  have hopen : (s.open k files).KeepsTo s.Expects (Opened.KeepsTo s.Expects) := by
    refine hbuild.bind fun stats _ => ?_
    refine Run.KeepsTo.bind (.lift (keepsTo_plan hresolved stats)) fun p hp => ?_
    exact hp.ofPlan files
  have hanswer : (s.answer k files).KeepsTo s.Expects fun _ => True :=
    hopen.bind fun o ho => ho.execute (fun _ => .of_not_isMiss rfl) files
  intro n hn hmiss
  exact hanswer.notices n hn hmiss

end Statement

namespace Sample

/-- `SELECT DISTINCT R.b, SUM(S.c * S.a) FROM R JOIN S ON R.a <= S.a WHERE S.c - S.a > 1 GROUP BY R.b
    ORDER BY R.a`. -/
def everywhere : Statement where
  base := "R"
  joins := [⟨"S", some (.compare (.column ⟨some "R", "a"⟩) .atMost (.column ⟨some "S", "a"⟩))⟩]
  selection := some (.compare
    (.arithmetic (.column ⟨some "S", "c"⟩) .subtract (.column ⟨some "S", "a"⟩)) .greater
    (.literal (.int 1)))
  projection := .list [.column ⟨some "R", "b"⟩,
    .sum ⟨.arithmetic (.column ⟨some "S", "c"⟩) .multiply (.column ⟨some "S", "a"⟩)⟩]
  groupBy := [⟨some "R", "b"⟩]
  orderBy := [⟨some "R", "a"⟩]
  distinct := true

/-- A statement that looks up columns in every one of its clauses, and always finds them. -/
theorem everywhere_answerWith :
    everywhere.IsResolved catalog ∧
    (everywhere.selected catalog files .empty).length = 5 ∧
    (∃ ts, (everywhere.answerWith catalog files .empty).result = .ok (.ofTuples ts)) ∧
    ∀ n ∈ (everywhere.answerWith catalog files .empty).notices, n.isMiss = false := by
  have hresolved : everywhere.IsResolved catalog := ⟨by decide, by decide, by decide⟩
  have hsound : ∀ name ∈ everywhere.tables, catalog.IsSound files name := isSound
  refine ⟨hresolved, by decide +kernel, ⟨(everywhere.plan .empty).value.rows catalog files, ?_⟩,
    fun n hn => Bool.eq_false_iff.2 fun hmiss => ?_⟩
  · rw [Statement.result_answerWith, Statement.result_plan .empty hsound]
    rfl
  · obtain ⟨call, rest, t, hitems, _⟩ :=
      Statement.isMiss_answerWith hresolved files .empty n hn hmiss
    cases hitems

end Sample

end CsvQuery
