import CsvQuery.Proofs.Joined
import CsvQuery.Sql.Resolution
import Mathlib.Data.List.Forall2

/-!
# What a query text can refer to

The tables of a statement that is read from a text are different tables of the
catalog, and every column that it names, in whatever clause and at whatever
depth, names one of these tables and is a column of it
(`Statement.isResolved_of_ofText`).

All columns of a text pass through the scope of its query, which gives nothing
but columns of its tables (`Sql.Scope.Has`). Resolution only builds expressions
and lists of such columns, so that each of its functions keeps to the scope.

* `Sql.Scope.has_of_expr`, `Sql.Scope.has_of_item`,
  `Sql.Scope.has_of_constraints`: what comes out of one clause.
* `Sql.Scope.IsSound`: the tables of a scope, kept by each table that is added.
* `Sql.Select.resolve_eq_ok`, `Sql.Query.resolve_eq_ok`,
  `Statement.ofText_eq_ok`: what has a statement, and what the statement is made
  of.
-/

namespace CsvQuery

open List (Forall₂)

/-- The columns that an item shows or sums up. -/
def SelectItem.columns : SelectItem → List ColumnRef
  | column c => [c]
  | sum call => call.argument.columns

namespace Statement

/-- All columns that a statement names. -/
def columnsNamed (s : Statement) : List ColumnRef :=
  s.columnsRead ++ s.projection.items.flatMap (·.columns)

/-- What holds of all columns that a statement names holds of those of each clause. -/
theorem forall_mem_columnsNamed {s : Statement} {P : ColumnRef → Prop} :
    (∀ c ∈ s.columnsNamed, P c) ↔
      (∀ e ∈ s.predicates, ∀ c ∈ e.columns, P c) ∧ (∀ c ∈ s.groupBy, P c) ∧
      (∀ c ∈ s.orderBy, P c) ∧ ∀ item ∈ s.projection.items, ∀ c ∈ item.columns, P c := by
  simp only [columnsNamed, columnsRead, List.forall_mem_append, List.forall_mem_flatMap, and_assoc]

/-- The tables of a statement are different tables of a catalog, and each column that it names is
    a column of one of them, which it names, too. -/
structure IsResolved (k : Catalog) (s : Statement) : Prop where
  nodup : s.tables.Nodup
  known : ∀ name ∈ s.tables, k.hasTable name = true
  columns : ∀ c ∈ s.columnsNamed, ∃ name ∈ s.tables,
    c.table = some name ∧ k.hasColumn name c.column = true

/-- Every part of the predicates is on tables of the statement. -/
theorem IsResolved.isWithin {k : Catalog} {s : Statement} (hs : s.IsResolved k) {e : Expr}
    (he : e ∈ s.conjuncts) : e.IsWithin s.tables := by
  obtain ⟨p, hp, he⟩ := List.mem_flatMap.1 he
  intro c hc
  have hcolumn := Expr.columns_of_mem_conjuncts he hc
  obtain ⟨name, hname, htable, _⟩ := (forall_mem_columnsNamed.1 hs.columns).1 p hp c hcolumn
  exact ⟨name, hname, htable⟩

end Statement

namespace Sql

/-! ## Resolving step by step -/

section
variable {α β : Type} {b : β}

/-- Steps succeed one after the other if each of them does. -/
theorem bind_eq_ok {x : Resolved α} {f : α → Resolved β} :
    x >>= f = .ok b ↔ ∃ a, x = .ok a ∧ f a = .ok b := by
  cases x with
  | error e => exact ⟨nofun, nofun⟩
  | ok a => exact ⟨fun h => ⟨a, rfl, h⟩, fun ⟨_, ha, h⟩ => by cases ha; exact h⟩

theorem map_eq_ok {x : Resolved α} {f : α → β} : f <$> x = .ok b ↔ ∃ a, x = .ok a ∧ f a = b := by
  cases x with
  | error e => exact ⟨nofun, nofun⟩
  | ok a => exact ⟨fun h => ⟨a, rfl, Except.ok.inj h⟩, fun ⟨_, ha, h⟩ => by cases ha; exact h ▸ rfl⟩

/-- What a query lacks is one of the causes to reject it. -/
theorem lacks_eq_reject {f : Feature} : (lacks f : Resolved β) = reject (.unsupported f) := rfl

/-- Nothing follows what a query is rejected for. -/
theorem reject_bind {cause : Rejection} {g : α → Resolved β} :
    (reject cause >>= g) = reject cause := rfl

/-- A query that passes a test is not rejected for it. -/
theorem ite_reject_eq_ok {c : Prop} [Decidable c] {cause : Rejection} {x : Resolved β} :
    (if c then reject cause else x) = .ok b ↔ ¬c ∧ x = .ok b := by
  by_cases hc : c
  · simp [hc, reject]
  · simp [hc]

/-- Resolving a list resolves its members one by one. -/
theorem forall₂_of_mapM {f : α → Resolved β} {xs : List α} {ys : List β}
    (h : xs.mapM f = .ok ys) : Forall₂ (fun x y => f x = .ok y) xs ys := by
  induction xs generalizing ys with
  | nil =>
    cases h
    exact .nil
  | cons x xs ih =>
    rw [List.mapM_cons] at h
    obtain ⟨y, hy, h⟩ := bind_eq_ok.1 h
    obtain ⟨ys', hys, h⟩ := bind_eq_ok.1 h
    cases h
    exact .cons hy (ih hys)

/-- What is related to one list member by member is related to each of its members. -/
theorem exists_of_forall₂ {R : α → β → Prop} {xs : List α} {ys : List β} (h : Forall₂ R xs ys)
    {x : α} (hx : x ∈ xs) : ∃ y ∈ ys, R x y := by
  induction h with
  | nil => cases hx
  | @cons _ y _ ys hxy _ ih =>
    rcases List.mem_cons.1 hx with rfl | hx
    · exact ⟨y, List.mem_cons_self, hxy⟩
    · obtain ⟨y', hy', hxy'⟩ := ih hx
      exact ⟨y', List.mem_cons_of_mem _ hy', hxy'⟩

/-- A list can only be resolved if each member can. -/
theorem exists_of_mapM {f : α → Resolved β} {xs : List α} {ys : List β} (h : xs.mapM f = .ok ys)
    {x : α} (hx : x ∈ xs) : ∃ y, f x = .ok y := by
  obtain ⟨y, _, hxy⟩ := exists_of_forall₂ (forall₂_of_mapM h) hx
  exact ⟨y, hxy⟩

theorem mem_of_mapM {f : α → Resolved β} {xs : List α} {ys : List β} (h : xs.mapM f = .ok ys)
    {y : β} (hy : y ∈ ys) : ∃ x ∈ xs, f x = .ok y :=
  exists_of_forall₂ (forall₂_of_mapM h).flip hy

/-- Resolving what may be absent resolves it if it is there. -/
theorem of_mapM_option {f : α → Resolved β} {x : Option α} {y : Option β} (h : x.mapM f = .ok y)
    (hy : y = some b) : ∃ a, x = some a ∧ f a = .ok b := by
  cases x with
  | none => cases h; cases hy
  | some a =>
    subst hy
    obtain ⟨b', hb, h⟩ := map_eq_ok.1 h
    cases h
    exact ⟨a, rfl, hb⟩

end

namespace Scope

variable {s : Scope}

/-! ## Columns -/

/-- A column is one of a table of a scope, which it names. -/
def Has (s : Scope) (c : ColumnRef) : Prop :=
  ∃ name ∈ s.tables, c.table = some name ∧ s.catalog.hasColumn name c.column = true

/-- A name stands for a column of the scope. -/
theorem has_of_column {parts : List String} {c : ColumnRef} (h : s.column parts = .ok c) :
    s.Has c := by
  rw [column.eq_def] at h
  split at h
  · -- A name of two parts gives the table itself.
    rename_i table column
    split at h
    · rename_i hin
      cases h
      rw [Bool.and_eq_true, List.contains_iff_mem] at hin
      exact ⟨table, hin.1, rfl, hin.2⟩
    · cases h
  · cases h
  · simp only at h
    split at h
    · cases h
    · rename_i table honly
      cases h
      have hmem : table ∈ s.tablesWith _ := honly ▸ List.mem_singleton_self table
      obtain ⟨hin, hcolumn⟩ := List.mem_filter.1 hmem
      exact ⟨table, hin, rfl, hcolumn⟩
    · cases h

theorem has_of_columnOf {e : Term} {c : ColumnRef} (h : s.columnOf e = .ok c) : s.Has c := by
  rw [columnOf.eq_def] at h
  split at h
  · exact has_of_column h
  · exact has_of_column h
  · cases h

/-! ## Expressions and items -/

theorem columns_of_signed {sign : Sign} {e e' : Expr} (h : signed sign e = .ok e') :
    e'.columns = e.columns := by
  rw [signed.eq_def] at h
  split at h <;> cases h <;> rfl

theorem columns_of_combined {l r e : Expr} {op : Operator} (h : combined l op r = .ok e) :
    e.columns = l.columns ++ r.columns := by
  cases op <;> cases h <;> rfl

/-- A resolved expression names columns of the scope only. -/
theorem has_of_expr {e : Term} {e' : Expr} (h : s.expr e = .ok e') : ∀ c ∈ e'.columns, s.Has c := by
  induction e generalizing e' with
  | name n =>
    obtain ⟨c, hc, rfl⟩ := map_eq_ok.1 h
    exact fun _ hmem => List.mem_singleton.1 hmem ▸ has_of_column hc
  | path parts =>
    obtain ⟨c, hc, rfl⟩ := map_eq_ok.1 h
    exact fun _ hmem => List.mem_singleton.1 hmem ▸ has_of_column hc
  | number text long =>
    rw [expr] at h
    split at h <;> cases h
    exact fun _ hmem => absurd hmem List.not_mem_nil
  | string text =>
    cases h
    exact fun _ hmem => absurd hmem List.not_mem_nil
  | nested e ih => exact ih h
  | signed sign e ih =>
    obtain ⟨a, ha, h⟩ := bind_eq_ok.1 h
    rw [columns_of_signed h]
    exact ih ha
  | binary l op r ihl ihr =>
    obtain ⟨a, ha, h⟩ := bind_eq_ok.1 h
    obtain ⟨b, hb, h⟩ := bind_eq_ok.1 h
    rw [columns_of_combined h]
    intro c hc
    rcases List.mem_append.1 hc with hc | hc
    · exact ihl ha c hc
    · exact ihr hb c hc
  | literal text => cases h
  | call head arguments => cases h
  | callOn head argument => cases h
  | other text => cases h

theorem has_of_item {i : Item} {item : SelectItem} (h : s.item i = .ok item) :
    ∀ c ∈ item.columns, s.Has c := by
  rw [Scope.item.eq_def] at h
  split at h
  · cases h
  · rename_i e
    rw [shown.eq_def] at h
    split at h
    · obtain ⟨_, _, h⟩ := bind_eq_ok.1 h
      cases h
    · obtain ⟨_, _, h⟩ := bind_eq_ok.1 h
      obtain ⟨a, ha, h⟩ := bind_eq_ok.1 h
      cases h
      exact has_of_expr ha
    · obtain ⟨c, hc, rfl⟩ := map_eq_ok.1 h
      exact fun _ hmem => List.mem_singleton.1 hmem ▸ has_of_columnOf hc
  · cases h
  · cases h

theorem has_of_projection {items : List Item} {p : Projection} (h : s.projection items = .ok p) :
    ∀ item ∈ p.items, ∀ c ∈ item.columns, s.Has c := by
  rw [projection.eq_def] at h
  split at h
  · cases h
    exact fun _ hmem => absurd hmem List.not_mem_nil
  · obtain ⟨shown, hshown, rfl⟩ := map_eq_ok.1 h
    intro item hitem
    obtain ⟨_, _, hi⟩ := mem_of_mapM hshown hitem
    exact has_of_item hi

/-! ## Predicates of joins -/

theorem has_of_constraint {j : Join} {p : Option Expr} (h : s.constraint j = .ok p) :
    ∀ e ∈ p, ∀ c ∈ e.columns, s.Has c := by
  rw [Scope.constraint.eq_def] at h
  split at h
  · obtain ⟨e, he, rfl⟩ := map_eq_ok.1 h
    rintro _ ⟨⟩
    exact has_of_expr he
  · cases h
    exact nofun
  · cases h
    exact nofun
  · cases h
  · cases h

/-- The predicates that are written with the tables of a query, one for each table. -/
theorem has_of_constraints {relations : List JoinedRelation} {ps : List (Option Expr)}
    (h : s.constraints relations = .ok ps) :
    ps.length = (relations.flatMap fun r => r.relation :: r.joins.map (·.relation)).length ∧
      ∀ p ∈ ps, ∀ e ∈ p, ∀ c ∈ e.columns, s.Has c := by
  induction relations generalizing ps with
  | nil =>
    cases h
    exact ⟨rfl, fun _ hmem => absurd hmem List.not_mem_nil⟩
  | cons r relations ih =>
    obtain ⟨first, hfirst, h⟩ := bind_eq_ok.1 h
    obtain ⟨others, hothers, h⟩ := bind_eq_ok.1 h
    cases h
    obtain ⟨hlength, hcolumns⟩ := ih hothers
    refine ⟨?_, fun p hp => ?_⟩
    · simp [hlength, (forall₂_of_mapM hfirst).length_eq]
    · rcases List.mem_cons.1 hp with rfl | hp
      · exact nofun
      · rcases List.mem_append.1 hp with hp | hp
        · obtain ⟨_, _, hj⟩ := mem_of_mapM hfirst hp
          exact has_of_constraint hj
        · exact hcolumns p hp

/-! ## Tables -/

/-- The tables of a scope are different tables of its catalog. -/
structure IsSound (k : Catalog) (s : Scope) : Prop where
  catalog_eq : s.catalog = k
  nodup : s.tables.Nodup
  known : ∀ name ∈ s.tables, k.hasTable name = true

theorem hasTable_of_table {k : Catalog} {name : String} {t : Table} (h : k.table name = .ok t) :
    k.hasTable name = true := by
  rw [Catalog.table] at h
  rw [Catalog.hasTable]
  split at h
  · rename_i ht
    rw [ht]
    rfl
  · cases h

/-- A table can only be added to a scope if it is another table of the catalog. -/
theorem IsSound.addTable {k : Catalog} {s s' : Scope} {r : Relation} (hs : s.IsSound k)
    (h : s.addTable r = .ok s') : s'.IsSound k ∧ s'.tables.length = s.tables.length + 1 := by
  rw [Scope.addTable] at h
  split at h
  · cases h
  · cases h
  · simp only [lacks_eq_reject, reject_bind, ite_reject_eq_ok, bind_eq_ok] at h
    obtain ⟨_, _, name, _, _, ht, hnew, h⟩ := h
    cases h
    have hknown := hasTable_of_table ht
    rw [hs.catalog_eq] at hknown
    -- A table that is in the scope already is rejected, which keeps them different.
    rw [List.contains_iff_mem] at hnew
    refine ⟨⟨hs.catalog_eq, ?_, fun other hother => ?_⟩, by simp⟩
    · refine List.nodup_append.2 ⟨hs.nodup, List.pairwise_singleton _ name, ?_⟩
      rintro other hother _ hmem rfl
      exact hnew (List.mem_singleton.1 hmem ▸ hother)
    · rcases List.mem_append.1 hother with hother | hother
      · exact hs.known other hother
      · rw [List.mem_singleton.1 hother]
        exact hknown

theorem IsSound.addTables {k : Catalog} {relations : List Relation} {s s' : Scope}
    (hs : s.IsSound k) (h : relations.foldlM Scope.addTable s = .ok s') :
    s'.IsSound k ∧ s'.tables.length = s.tables.length + relations.length := by
  induction relations generalizing s with
  | nil =>
    cases h
    exact ⟨hs, rfl⟩
  | cons r relations ih =>
    rw [List.foldlM_cons] at h
    obtain ⟨next, hnext, h⟩ := bind_eq_ok.1 h
    obtain ⟨hsound, hlength⟩ := hs.addTable hnext
    obtain ⟨hsound', hlength'⟩ := ih hsound h
    refine ⟨hsound', ?_⟩
    rw [hlength', hlength, List.length_cons]
    omega

end Scope

/-! ## Statements -/

theorem has_of_orderItem {s : Scope} {o : OrderItem} {c : ColumnRef} (h : o.resolve s = .ok c) :
    s.Has c := by
  simp only [OrderItem.resolve, lacks_eq_reject, reject_bind, ite_reject_eq_ok] at h
  exact Scope.has_of_columnOf h.2.2

/-- Joins of some tables with as many predicates. -/
theorem map_table_zipWith {names : List String} {ps : List (Option Expr)}
    (h : names.length = ps.length) : (List.zipWith JoinClause.mk names ps).map (·.table) = names := by
  rw [← List.map_uncurry_zip_eq_zipWith, List.map_map]
  exact List.map_fst_zip (Nat.le_of_eq h)

theorem map_constraint_zipWith {names : List String} {ps : List (Option Expr)}
    (h : names.length = ps.length) :
    (List.zipWith JoinClause.mk names ps).map (·.constraint) = ps := by
  rw [← List.map_uncurry_zip_eq_zipWith, List.map_map]
  exact List.map_snd_zip (Nat.le_of_eq h.symm)

/-- There is one predicate, or none, for each table of a query, and none for the first one. -/
theorem exists_of_constraints {scope : Scope} {relations : List JoinedRelation}
    {ps : List (Option Expr)} (hps : scope.constraints relations = .ok ps) {n : Nat}
    (hcount : n + 1 = (relations.flatMap fun r => r.relation :: r.joins.map (·.relation)).length) :
    ∃ qs, ps = none :: qs ∧ n = qs.length := by
  obtain ⟨hlength, _⟩ := Scope.has_of_constraints hps
  cases relations with
  | nil => simp at hcount
  | cons r relations =>
    obtain ⟨first, _, hps⟩ := bind_eq_ok.1 hps
    obtain ⟨others, _, hps⟩ := bind_eq_ok.1 hps
    cases hps
    exact ⟨first ++ others, rfl, Nat.succ.inj (hcount.trans hlength.symm)⟩

/-- What the statement of a `SELECT` is made of: each clause is resolved in the scope of the tables,
    and each table keeps the predicate that is written with it. -/
structure Select.IsResolvedTo (q : Select) (orderBy : List OrderItem) (scope : Scope)
    (s : Statement) : Prop where
  tables : scope.tables = s.tables
  constraints : scope.constraints q.relations = .ok (none :: s.joins.map (·.constraint))
  selection : q.selection.mapM scope.expr = .ok s.selection
  projection : scope.projection q.items = .ok s.projection
  groupBy : q.groupBy.mapM scope.columnOf = .ok s.groupBy
  orderBy : orderBy.mapM (OrderItem.resolve scope) = .ok s.orderBy
  distinct : s.distinct = decide (q.repeats = .drop)

section
variable {k : Catalog} {s : Statement} {q : Select} {orderBy : List OrderItem}

theorem Scope.IsSound.ofRelations {relations : List JoinedRelation} {scope : Scope}
    (h : Scope.ofRelations k relations = .ok scope) :
    scope.IsSound k ∧ scope.tables.length =
      (relations.flatMap fun r => r.relation :: r.joins.map (·.relation)).length := by
  have hempty : Scope.IsSound k ⟨k, []⟩ :=
    ⟨rfl, List.nodup_nil, fun _ hmem => absurd hmem List.not_mem_nil⟩
  obtain ⟨hsound, hlength⟩ := hempty.addTables h
  exact ⟨hsound, by rw [hlength, List.length_nil, Nat.zero_add]⟩

/-- A `SELECT` has a statement if it passes the check and all of its clauses can be resolved. -/
theorem Select.resolve_eq_ok : q.resolve k orderBy = .ok s ↔
    q.check = .ok () ∧
      ∃ scope, Scope.ofRelations k q.relations = .ok scope ∧ q.IsResolvedTo orderBy scope s := by
  rw [Select.resolve]
  simp only [bind_eq_ok]
  constructor
  · rintro ⟨⟨⟩, hcheck, scope, hscope, h⟩
    refine ⟨hcheck, scope, hscope, ?_⟩
    split at h
    · cases h
    · rename_i base joined htables
      simp only [bind_eq_ok] at h
      obtain ⟨ps, hps, selection, hselection, projection, hprojection, groupBy, hgroupBy, keys,
        hkeys, h⟩ := h
      cases h
      obtain ⟨_, hlength⟩ := Scope.IsSound.ofRelations hscope
      rw [htables] at hlength
      obtain ⟨qs, rfl, hcount⟩ := exists_of_constraints hps hlength
      exact {
        tables := by rw [htables, Statement.tables, List.tail_cons, map_table_zipWith hcount]
        constraints := by rw [hps, List.tail_cons, map_constraint_zipWith hcount]
        selection := hselection
        projection := hprojection
        groupBy := hgroupBy
        orderBy := hkeys
        distinct := rfl }
  · rintro ⟨hcheck, scope, hscope, h⟩
    refine ⟨(), hcheck, scope, hscope, ?_⟩
    rw [h.tables, Statement.tables]
    simp only [bind_eq_ok]
    refine ⟨_, h.constraints, _, h.selection, _, h.projection, _, h.groupBy, _, h.orderBy, ?_⟩
    have hjoins : List.zipWith .mk (s.joins.map (·.table)) (s.joins.map (·.constraint)) =
        s.joins := by
      rw [List.zipWith_map, List.zipWith_self]
      exact List.map_id _
    rw [List.tail_cons, hjoins, ← h.distinct]
    rfl

/-- All clauses of a `SELECT` that has a statement are resolved in the scope of its tables. -/
theorem Select.isResolvedTo_of_resolve {scope : Scope}
    (hscope : Scope.ofRelations k q.relations = .ok scope) (h : q.resolve k orderBy = .ok s) :
    q.check = .ok () ∧ q.IsResolvedTo orderBy scope s := by
  obtain ⟨hcheck, scope', hscope', hs⟩ := Select.resolve_eq_ok.1 h
  obtain rfl : scope = scope' := Except.ok.inj (hscope.symm.trans hscope')
  exact ⟨hcheck, hs⟩

/-- A `SELECT` with some columns to sort by refers to its own tables only. -/
theorem isResolved_of_select (h : q.resolve k orderBy = .ok s) : s.IsResolved k := by
  obtain ⟨_, scope, hscope, h⟩ := Select.resolve_eq_ok.1 h
  obtain ⟨hsound, _⟩ := Scope.IsSound.ofRelations hscope
  obtain ⟨_, hconstraints⟩ := Scope.has_of_constraints h.constraints
  refine ⟨h.tables ▸ hsound.nodup, h.tables ▸ hsound.known, ?_⟩
  rw [← h.tables, ← hsound.catalog_eq]
  refine Statement.forall_mem_columnsNamed.2 ⟨fun e he => ?_, fun c hc => ?_, fun c hc => ?_,
    Scope.has_of_projection h.projection⟩
  · rcases List.mem_append.1 he with he | he
    · obtain ⟨_, _, he⟩ := of_mapM_option h.selection (Option.mem_toList.1 he)
      exact Scope.has_of_expr he
    · obtain ⟨j, hj, he⟩ := List.mem_filterMap.1 he
      exact hconstraints _ (List.mem_cons_of_mem _ (List.mem_map_of_mem hj)) e he
  · obtain ⟨_, _, hc⟩ := mem_of_mapM h.groupBy hc
    exact Scope.has_of_columnOf hc
  · obtain ⟨_, _, hc⟩ := mem_of_mapM h.orderBy hc
    exact has_of_orderItem hc

theorem Query.resolve_eq_ok {q : Query} : q.resolve k = .ok s ↔
    q.withClause = none ∧ q.limit = none ∧ q.offset = none ∧ q.fetch = none ∧
      ∃ sel, q.body = .select sel ∧ sel.resolve k q.orderBy = .ok s := by
  simp only [Query.resolve, lacks_eq_reject, ite_reject_eq_ok, Bool.or_eq_true, not_or,
    Option.isSome_iff_ne_none, not_not, and_assoc]
  cases q.body <;> simp [reject]

end

end Sql

namespace Statement

variable {k : Catalog} {text : String} {s : Statement}

/-- A text has a statement if it holds one query that has one. -/
theorem ofText_eq_ok : Statement.ofText k text = .ok s ↔
    ∃ q, Sql.statementsOf? text = some [.query q] ∧ q.resolve k = .ok s := by
  rw [Statement.ofText]
  split <;> simp_all [Sql.reject, Sql.lacks]

/-- The statement of a text refers to its own tables only. -/
theorem isResolved_of_ofText (h : Statement.ofText k text = .ok s) : s.IsResolved k := by
  obtain ⟨q, _, h⟩ := ofText_eq_ok.1 h
  obtain ⟨_, _, _, _, sel, _, h⟩ := Sql.Query.resolve_eq_ok.1 h
  exact Sql.isResolved_of_select h

end Statement

end CsvQuery
