import CsvQuery.Proofs.Clauses
import Mathlib.Data.List.Perm.Basic

/-!
# Names with and without their tables

A name without a table means the one table of its query that has such a column;
it is rejected if there is none or more than one, so the order of the tables does
not matter. Writing the table before the name changes nothing.

For the latter, a query is compared with its *qualified* forms, which have the
table before each column, in all clauses and at any depth. What is not resolved
may differ: marks of quotation, the wording of calls and the parts that are passed
over. A function that resolves parts of queries *keeps* such a relation if all
that it resolves has related forms, and each of them is resolved to the same
(`Sql.Keeps`); this is shown clause by clause.

* `Sql.Scope.column_singleton_eq_ok`: what a name without a table means.
* `Sql.Scope.ofRelations_eq_ok`, `Sql.Scope.column_perm`: tables in another order.
* `Sql.Scope.keeps_expr`, `Sql.Scope.keeps_item`, `Sql.Scope.keeps_constraints`:
  qualified forms of one clause.
* `Sql.Query.names_mean_tables`: all of it, for queries.
-/

namespace CsvQuery

open List (Forall₂)

namespace Sql

namespace Scope

variable {s s' : Scope}

/-! ## What a name means -/

theorem mem_tablesWith {table column : String} :
    table ∈ s.tablesWith column ↔
      table ∈ s.tables ∧ s.catalog.hasColumn table column = true :=
  List.mem_filter

section
variable {name table other : String} {rest : List String}

theorem column_of_nil (h : s.tablesWith name = []) :
    s.column [name] = reject (.unknownField name) := by
  simp [column, h]

theorem column_of_singleton (h : s.tablesWith name = [table]) :
    s.column [name] = .ok ⟨some table, name⟩ := by
  simp [column, h]

theorem column_of_cons_cons (h : s.tablesWith name = table :: other :: rest) :
    s.column [name] = reject (.ambiguousField name) := by
  simp [column, h]

end

/-- A name means the column of the one table that has it. -/
theorem column_singleton_eq_ok (hnodup : s.tables.Nodup) {name : String} {c : ColumnRef} :
    s.column [name] = .ok c ↔ ∃ table, c = ⟨some table, name⟩ ∧
      ∀ other, other ∈ s.tables ∧ s.catalog.hasColumn other name = true ↔ other = table := by
  have hwith : (s.tablesWith name).Nodup := hnodup.filter _
  simp only [← mem_tablesWith]
  constructor
  · intro h
    rcases htables : s.tablesWith name with _ | ⟨table, _ | ⟨other, rest⟩⟩
    · rw [column_of_nil htables] at h
      cases h
    · rw [column_of_singleton htables] at h
      cases h
      exact ⟨table, rfl, fun other => List.mem_singleton⟩
    · rw [column_of_cons_cons htables] at h
      cases h
  · rintro ⟨table, rfl, honly⟩
    have hperm : (s.tablesWith name).Perm [table] :=
      (List.perm_ext_iff_of_nodup hwith (List.pairwise_singleton _ table)).2 fun other => by
        rw [honly, List.mem_singleton]
    exact column_of_singleton (List.perm_singleton.1 hperm)

/-- A column names its table. -/
theorem exists_of_column {parts : List String} {c : ColumnRef} (h : s.column parts = .ok c) :
    ∃ table column, c = ⟨some table, column⟩ ∧ s.column [table, column] = .ok c := by
  obtain ⟨table, hin, htable, hcolumn⟩ := has_of_column h
  obtain ⟨_, column⟩ := c
  cases htable
  refine ⟨table, column, rfl, if_pos ?_⟩
  rw [Bool.and_eq_true, List.contains_iff_mem]
  exact ⟨hin, hcolumn⟩

/-! ## Tables in another order -/

/-- The order of the tables makes no difference to what a name alone means. -/
theorem column_singleton_perm (hcatalog : s'.catalog = s.catalog)
    (hperm : s'.tables.Perm s.tables) (name : String) : s'.column [name] = s.column [name] := by
  have hwith : (s'.tablesWith name).Perm (s.tablesWith name) := by
    rw [tablesWith, tablesWith, hcatalog]
    exact hperm.filter _
  -- All that counts is whether there is no such table, one or more than one.
  rcases htables : s.tablesWith name with _ | ⟨table, _ | ⟨other, rest⟩⟩
  · rw [htables, List.perm_nil] at hwith
    rw [column_of_nil htables, column_of_nil hwith]
  · rw [htables, List.perm_singleton] at hwith
    rw [column_of_singleton htables, column_of_singleton hwith]
  · have hlength := hwith.length_eq
    rcases htables' : s'.tablesWith name with _ | ⟨table', _ | ⟨other', rest'⟩⟩
    · simp [htables, htables'] at hlength
    · simp [htables, htables'] at hlength
    · rw [column_of_cons_cons htables, column_of_cons_cons htables']

/-- The order of the tables makes no difference to what a name means. -/
theorem column_perm (hcatalog : s'.catalog = s.catalog) (hperm : s'.tables.Perm s.tables)
    (parts : List String) : s'.column parts = s.column parts := by
  have hcontains (table : String) : s'.tables.contains table = s.tables.contains table :=
    Bool.eq_iff_iff.2 (by rw [List.contains_iff_mem, List.contains_iff_mem, hperm.mem_iff])
  rcases parts with _ | ⟨table, _ | ⟨name, _ | ⟨_, _⟩⟩⟩
  · exact column_singleton_perm hcatalog hperm ""
  · exact column_singleton_perm hcatalog hperm table
  · rw [column, column, hcontains, hcatalog]
  · rfl

/-! ## Tables that a scope can have -/

theorem addTable_of_isNamed {r : Relation} {name : String} (hname : r.IsNamed name)
    (hknown : s.catalog.hasTable name = true) (hnew : name ∉ s.tables) :
    s.addTable r = .ok { s with tables := s.tables ++ [name] } := by
  obtain ⟨⟨quote, hkind⟩, hnewName⟩ := hname
  obtain ⟨t, ht⟩ := Option.isSome_iff_exists.1 hknown
  rw [addTable, hkind, hnewName]
  simp only [lacks_eq_reject, reject_bind, ite_reject_eq_ok, bind_eq_ok]
  refine ⟨Bool.false_ne_true, Bool.false_ne_true, name, rfl, t, by rw [Catalog.table, ht], ?_, rfl⟩
  rwa [List.contains_iff_mem]

/-- Different tables of the catalog can be put into a scope by their plain names. -/
theorem foldlM_addTable {relations : List Relation} {names : List String}
    (hnamed : Forall₂ Relation.IsNamed relations names)
    (hknown : ∀ name ∈ names, s.catalog.hasTable name = true)
    (hnodup : (s.tables ++ names).Nodup) :
    relations.foldlM addTable s = .ok { s with tables := s.tables ++ names } := by
  induction hnamed generalizing s with
  | nil => rw [List.append_nil]; rfl
  | @cons r name relations names hname hnamed ih =>
    rw [List.forall_mem_cons] at hknown
    have hnew : name ∉ s.tables := fun hin =>
      (List.nodup_append.1 hnodup).2.2 name hin name List.mem_cons_self rfl
    rw [List.append_cons] at hnodup ⊢
    rw [List.foldlM_cons, addTable_of_isNamed hname hknown.1 hnew]
    exact ih (s := { s with tables := s.tables ++ [name] }) hknown.2 hnodup

theorem ofRelations_eq_ok {k : Catalog} {relations : List JoinedRelation} :
    ofRelations k relations = .ok s ↔ s.catalog = k ∧
      Forall₂ Relation.IsNamed (relations.flatMap fun r => r.relation :: r.joins.map (·.relation))
        s.tables ∧
      (∀ name ∈ s.tables, k.hasTable name = true) ∧ s.tables.Nodup := by
  constructor
  · intro h
    obtain ⟨hsound, _⟩ := IsSound.ofRelations h
    obtain ⟨names, hnamed, htables⟩ := forall₂_isNamed_of_foldlM h
    rw [List.nil_append] at htables
    exact ⟨hsound.catalog_eq, htables ▸ hnamed, hsound.known, hsound.nodup⟩
  · rintro ⟨rfl, hnamed, hknown, hnodup⟩
    exact foldlM_addTable (s := ⟨s.catalog, []⟩) hnamed hknown hnodup

/-- The tables of a query may be written in any other order. -/
theorem exists_ofRelations_perm {k : Catalog} {relations relations' : List JoinedRelation}
    (hperm : (relations'.flatMap fun r => r.relation :: r.joins.map (·.relation)).Perm
      (relations.flatMap fun r => r.relation :: r.joins.map (·.relation)))
    (h : ofRelations k relations = .ok s) :
    ∃ s', ofRelations k relations' = .ok s' ∧ ∀ parts, s'.column parts = s.column parts := by
  obtain ⟨rfl, hnamed, hknown, hnodup⟩ := ofRelations_eq_ok.1 h
  obtain ⟨names, hnamed', htables⟩ := List.perm_comp_forall₂ hperm hnamed
  refine ⟨⟨s.catalog, names⟩, ofRelations_eq_ok.2 ⟨rfl, hnamed', ?_, ?_⟩,
    column_perm rfl htables⟩
  · exact fun name hname => hknown name (htables.mem_iff.1 hname)
  · exact htables.nodup_iff.2 hnodup

end Scope

/-! ## Qualified forms -/

/-- All that a function resolves has related forms, and each of them is resolved to the same. -/
def Keeps {α β : Type} (f : α → Resolved β) (R : α → α → Prop) : Prop :=
  ∀ ⦃x y⦄, f x = .ok y → (∃ x', R x x') ∧ ∀ x', R x x' → f x' = .ok y

section
variable {α β : Type} {f : α → Resolved β} {R : α → α → Prop}

theorem Keeps.mapM (h : Keeps f R) : Keeps (List.mapM f) (Forall₂ R) := by
  intro xs ys hys
  induction xs generalizing ys with
  | nil => exact ⟨⟨[], .nil⟩, fun xs' hxs' => by rwa [List.forall₂_nil_left_iff.1 hxs']⟩
  | cons x xs ih =>
    rw [List.mapM_cons] at hys
    obtain ⟨y, hy, hys⟩ := bind_eq_ok.1 hys
    obtain ⟨others, hothers, hys⟩ := bind_eq_ok.1 hys
    obtain ⟨⟨x', hx'⟩, hkept⟩ := h hy
    obtain ⟨⟨xs', hxs'⟩, hkepts⟩ := ih hothers
    refine ⟨⟨x' :: xs', .cons hx' hxs'⟩, ?_⟩
    rintro _ (_ | ⟨hx', hxs'⟩)
    rw [List.mapM_cons, hkept _ hx', hkepts _ hxs']
    exact hys

theorem Keeps.mapM_option (h : Keeps f R) : Keeps (Option.mapM f) (Option.Rel R) := by
  intro x y hy
  cases x with
  | none =>
    refine ⟨⟨none, .none⟩, ?_⟩
    rintro _ ⟨⟩
    exact hy
  | some a =>
    obtain ⟨b, hb, rfl⟩ := map_eq_ok.1 hy
    obtain ⟨⟨a', ha'⟩, hkept⟩ := h hb
    refine ⟨⟨some a', .some ha'⟩, ?_⟩
    rintro _ (⟨ha'⟩ | _)
    exact map_eq_ok.2 ⟨b, hkept _ ha', rfl⟩

end

/-- The parts of a name. -/
def Term.parts? : Term → Option (List String)
  | name n => some [n.text]
  | path parts => some (parts.map (·.text))
  | _ => none

/-- An expression has the table of each column before its name in another one. The wording of a
    call has changed with its argument. -/
inductive Term.IsQualified (s : Scope) : Term → Term → Prop
  | column {e e' : Term} {parts : List String} {table column : String}
      (he : e.parts? = some parts) (hc : s.column parts = .ok ⟨some table, column⟩)
      (he' : e'.parts? = some [table, column]) : IsQualified s e e'
  | number (text : String) (long : Bool) : IsQualified s (.number text long) (.number text long)
  | string (text : String) : IsQualified s (.string text) (.string text)
  | nested {e e' : Term} (he : IsQualified s e e') : IsQualified s (.nested e) (.nested e')
  | signed (sign : Sign) {e e' : Term} (he : IsQualified s e e') :
      IsQualified s (.signed sign e) (.signed sign e')
  | binary {l l' r r' : Term} (op : Operator) (hl : IsQualified s l l') (hr : IsQualified s r r') :
      IsQualified s (.binary l op r) (.binary l' op r')
  | callOn (head : CallHead) (text : String) {e e' : Term} (he : IsQualified s e e') :
      IsQualified s (.callOn head e) (.callOn { head with text } e')

namespace Scope

variable {s : Scope}

/-! ### Expressions and items -/

theorem columnOf_eq_column {e : Term} {parts : List String} (h : e.parts? = some parts) :
    s.columnOf e = s.column parts := by
  cases e <;> cases h <;> rfl

theorem expr_eq_column {e : Term} {parts : List String} (h : e.parts? = some parts) :
    s.expr e = .column <$> s.column parts := by
  cases e <;> cases h <;> rfl

theorem shown_eq_column {e : Term} {parts : List String} (h : e.parts? = some parts) :
    s.shown e = .column <$> s.column parts := by
  cases e <;> cases h <;> rfl

theorem exists_parts_of_columnOf {e : Term} {c : ColumnRef} (h : s.columnOf e = .ok c) :
    ∃ parts, e.parts? = some parts ∧ s.column parts = .ok c := by
  cases e with
  | name n => exact ⟨_, rfl, h⟩
  | path parts => exact ⟨_, rfl, h⟩
  | _ => cases h

/-- A column has a qualified form. -/
theorem exists_isQualified_of_column {e : Term} {parts : List String} {c : ColumnRef}
    (he : e.parts? = some parts) (hc : s.column parts = .ok c) : ∃ e', e.IsQualified s e' := by
  obtain ⟨table, column, rfl, _⟩ := exists_of_column hc
  exact ⟨.path [⟨table, none⟩, ⟨column, none⟩], .column he hc rfl⟩

theorem column_qualified {parts : List String} {table column : String}
    (h : s.column parts = .ok ⟨some table, column⟩) :
    s.column [table, column] = s.column parts := by
  obtain ⟨_, _, hc, hqualified⟩ := exists_of_column h
  cases hc
  rw [hqualified, h]

/-- What is resolved has a qualified form. -/
theorem exists_isQualified_of_expr {e : Term} {p : Expr} (h : s.expr e = .ok p) :
    ∃ e', e.IsQualified s e' := by
  induction e generalizing p with
  | name n =>
    obtain ⟨c, hc, _⟩ := map_eq_ok.1 h
    exact exists_isQualified_of_column rfl hc
  | path parts =>
    obtain ⟨c, hc, _⟩ := map_eq_ok.1 h
    exact exists_isQualified_of_column rfl hc
  | number text long => exact ⟨_, .number text long⟩
  | string text => exact ⟨_, .string text⟩
  | nested e ih =>
    obtain ⟨e', he'⟩ := ih h
    exact ⟨_, .nested he'⟩
  | signed sign e ih =>
    obtain ⟨a, ha, _⟩ := bind_eq_ok.1 h
    obtain ⟨e', he'⟩ := ih ha
    exact ⟨_, .signed sign he'⟩
  | binary l op r ihl ihr =>
    obtain ⟨a, ha, h⟩ := bind_eq_ok.1 h
    obtain ⟨b, hb, _⟩ := bind_eq_ok.1 h
    obtain ⟨l', hl'⟩ := ihl ha
    obtain ⟨r', hr'⟩ := ihr hb
    exact ⟨_, .binary op hl' hr'⟩
  | literal text => cases h
  | call head arguments => cases h
  | callOn head argument => cases h
  | other text => cases h

/-- An expression is resolved as its qualified form is, or neither can be. -/
theorem expr_qualified {e e' : Term} (h : e.IsQualified s e') : s.expr e' = s.expr e := by
  induction h with
  | column he hc he' => rw [expr_eq_column he, expr_eq_column he', column_qualified hc]
  | number text long => rfl
  | string text => rfl
  | nested _ ih => exact ih
  | signed sign _ ih => rw [expr, expr, ih]
  | binary op _ _ ihl ihr => rw [expr, expr, ihl, ihr]
  | callOn head text _ _ => rfl

theorem keeps_expr : Keeps s.expr (Term.IsQualified s) := fun _ _ h =>
  ⟨exists_isQualified_of_expr h, fun _ h' => (expr_qualified h').trans h⟩

theorem keeps_columnOf : Keeps s.columnOf (Term.IsQualified s) := by
  intro e c h
  obtain ⟨parts, he, hc⟩ := exists_parts_of_columnOf h
  refine ⟨exists_isQualified_of_column he hc, fun e' he' => ?_⟩
  cases he' with
  | column he hc he' => rw [columnOf_eq_column he', column_qualified hc, ← columnOf_eq_column he, h]
  | _ => cases he

end Scope

/-- An item has the table of each column before its name in another one. -/
inductive Item.IsQualified (s : Scope) : Item → Item → Prop
  | wildcard (modifiers modifiers' : String) :
      IsQualified s (.wildcard modifiers) (.wildcard modifiers')
  | plain {e e' : Term} (he : e.IsQualified s e') : IsQualified s (.plain e) (.plain e')

namespace Scope

variable {s : Scope}

theorem keeps_item : Keeps s.item (Item.IsQualified s) := by
  intro i item h
  obtain ⟨e, rfl⟩ := exists_of_item h
  cases e with
  | callOn head argument =>
    obtain ⟨⟨⟩, hcheck, h⟩ := bind_eq_ok.1 h
    obtain ⟨p, hp, h⟩ := bind_eq_ok.1 h
    obtain ⟨argument', hargument⟩ := exists_isQualified_of_expr hp
    refine ⟨⟨_, .plain (.callOn head head.text hargument)⟩, ?_⟩
    rintro _ (_ | he')
    cases he' with
    | column he => cases he
    | callOn _ text he' =>
      exact bind_eq_ok.2 ⟨(), hcheck, bind_eq_ok.2 ⟨p, (expr_qualified he').trans hp, h⟩⟩
  | call head arguments =>
    obtain ⟨_, _, h⟩ := bind_eq_ok.1 h
    cases h
  | _ =>
    obtain ⟨c, hc, rfl⟩ := map_eq_ok.1 h
    obtain ⟨⟨e', he'⟩, hkept⟩ := keeps_columnOf hc
    refine ⟨⟨_, .plain he'⟩, ?_⟩
    rintro _ (_ | he')
    obtain ⟨parts, hparts, hc⟩ := exists_parts_of_columnOf (hkept _ he')
    exact (shown_eq_column hparts).trans (map_eq_ok.2 ⟨c, hc, rfl⟩)

theorem projection_eq_ok {items : List Item} {p : Projection} : s.projection items = .ok p ↔
    (∃ modifiers, items = [.wildcard modifiers]) ∧ p = .all ∨
      ∃ shown, items.mapM s.item = .ok shown ∧ p = .list shown := by
  rw [projection.eq_def]
  split
  · rename_i modifiers
    constructor
    · intro h
      exact .inl ⟨⟨modifiers, rfl⟩, (Except.ok.inj h).symm⟩
    · rintro (⟨_, rfl⟩ | ⟨shown, hshown, _⟩)
      · rfl
      · cases hshown
  · rename_i hmany
    rw [map_eq_ok]
    constructor
    · rintro ⟨shown, hshown, rfl⟩
      exact .inr ⟨shown, hshown, rfl⟩
    · rintro (⟨⟨modifiers, rfl⟩, _⟩ | ⟨shown, hshown, rfl⟩)
      · exact absurd rfl (hmany modifiers)
      · exact ⟨shown, hshown, rfl⟩

theorem keeps_projection : Keeps s.projection (Forall₂ (Item.IsQualified s)) := by
  intro items p h
  rcases projection_eq_ok.1 h with ⟨⟨modifiers, rfl⟩, rfl⟩ | ⟨shown, hshown, rfl⟩
  · refine ⟨⟨_, .cons (.wildcard modifiers modifiers) .nil⟩, ?_⟩
    rintro _ (_ | ⟨⟨_, modifiers'⟩, ⟨⟩⟩)
    rfl
  · obtain ⟨hexists, hkept⟩ := keeps_item.mapM hshown
    exact ⟨hexists, fun items' hitems =>
      projection_eq_ok.2 (.inr ⟨shown, hkept items' hitems, rfl⟩)⟩

end Scope

/-! ### Predicates of joins and columns to sort by -/

/-- A join has the table of each column before its name in another one. -/
inductive Join.IsQualified (s : Scope) : Join → Join → Prop
  | cross {j : Join} (hkind : j.kind = .cross) : IsQualified s j j
  | bare {j : Join} (hkind : j.kind = .inner) (hbare : j.constraint = .none) : IsQualified s j j
  | joinedOn {j : Join} {e e' : Term} (hkind : j.kind = .inner) (hon : j.constraint = .predicate e)
      (he : e.IsQualified s e') : IsQualified s j { j with constraint := .predicate e' }

theorem Join.IsQualified.relation_eq {s : Scope} {j j' : Join} (h : j.IsQualified s j') :
    j'.relation = j.relation := by
  cases h <;> rfl

/-- The joins behind a relation have the table of each column before its name in other ones. -/
structure JoinedRelation.IsQualified (s : Scope) (r r' : JoinedRelation) : Prop where
  relation : r'.relation = r.relation
  joins : Forall₂ (Join.IsQualified s) r.joins r'.joins

/-- What a query is sorted by has the table before its name in another one. -/
structure OrderItem.IsQualified (s : Scope) (o o' : OrderItem) : Prop where
  term : o.term.IsQualified s o'.term
  ascending : o'.ascending = o.ascending
  nullsFirst : o'.nullsFirst = o.nullsFirst

namespace Scope

variable {s : Scope}

theorem constraint_qualified {j j' : Join} (h : j.IsQualified s j') :
    s.constraint j' = s.constraint j := by
  cases h with
  | cross => rfl
  | bare => rfl
  | joinedOn hkind hon he =>
    rw [constraint, constraint, hkind, hon]
    exact congrArg (some <$> ·) (expr_qualified he)

theorem keeps_constraint : Keeps s.constraint (Join.IsQualified s) := by
  refine fun j p h => ⟨?_, fun j' hj => (constraint_qualified hj).trans h⟩
  rw [constraint.eq_def] at h
  split at h
  · rename_i hkind hon
    obtain ⟨e, he, _⟩ := map_eq_ok.1 h
    obtain ⟨e', he'⟩ := exists_isQualified_of_expr he
    exact ⟨_, .joinedOn hkind hon he'⟩
  · rename_i hkind hbare
    exact ⟨j, .bare hkind hbare⟩
  · rename_i hkind
    exact ⟨j, .cross hkind⟩
  · cases h
  · cases h

theorem keeps_constraints : Keeps s.constraints (Forall₂ (JoinedRelation.IsQualified s)) := by
  intro relations ps h
  induction relations generalizing ps with
  | nil =>
    refine ⟨⟨[], .nil⟩, ?_⟩
    rintro _ ⟨⟩
    exact h
  | cons r relations ih =>
    obtain ⟨first, hfirst, h⟩ := bind_eq_ok.1 h
    obtain ⟨others, hothers, h⟩ := bind_eq_ok.1 h
    obtain ⟨⟨joins', hjoins⟩, hkept⟩ := keeps_constraint.mapM hfirst
    obtain ⟨⟨relations', hrelations⟩, hkepts⟩ := ih hothers
    refine ⟨⟨⟨r.relation, joins'⟩ :: relations', .cons ⟨rfl, hjoins⟩ hrelations⟩, ?_⟩
    rintro _ (_ | ⟨hr, hrelations⟩)
    exact bind_eq_ok.2 ⟨first, hkept _ hr.joins, bind_eq_ok.2 ⟨others, hkepts _ hrelations, h⟩⟩

theorem keeps_orderItem : Keeps (OrderItem.resolve s) (OrderItem.IsQualified s) := by
  intro o c h
  simp only [OrderItem.resolve, lacks_eq_reject, reject_bind, ite_reject_eq_ok] at h
  obtain ⟨hascending, hnullsFirst, hc⟩ := h
  obtain ⟨⟨e', he'⟩, hkept⟩ := keeps_columnOf hc
  refine ⟨⟨{ o with term := e' }, he', rfl, rfl⟩, fun o' ho => ?_⟩
  simp only [OrderItem.resolve, lacks_eq_reject, reject_bind, ite_reject_eq_ok, ho.ascending,
    ho.nullsFirst]
  exact ⟨hascending, hnullsFirst, hkept _ ho.term⟩

end Scope

/-! ### Queries -/

theorem relations_qualified {s : Scope} {relations relations' : List JoinedRelation}
    (h : Forall₂ (JoinedRelation.IsQualified s) relations relations') :
    (relations'.flatMap fun r => r.relation :: r.joins.map (·.relation)) =
      relations.flatMap fun r => r.relation :: r.joins.map (·.relation) := by
  induction h with
  | nil => rfl
  | @cons r r' _ _ hr _ ih =>
    have hjoins : r'.joins.map (·.relation) = r.joins.map (·.relation) := by
      rw [← List.forall₂_eq_eq_eq, List.forall₂_map_left_iff, List.forall₂_map_right_iff]
      exact hr.joins.flip.imp fun _ _ hj => hj.relation_eq
    rw [List.flatMap_cons, List.flatMap_cons, ih, hr.relation, hjoins]

/-- A `SELECT` has the table of each column before its name in another one. Clauses that are passed
    over may differ. -/
structure Select.IsQualified (s : Scope) (q q' : Select) : Prop where
  repeats : q'.repeats = q.repeats
  top : q'.top = q.top
  items : Forall₂ (Item.IsQualified s) q.items q'.items
  into : q'.into = q.into
  relations : Forall₂ (JoinedRelation.IsQualified s) q.relations q'.relations
  lateralViews : q'.lateralViews = q.lateralViews
  selection : Option.Rel (Term.IsQualified s) q.selection q'.selection
  groupBy : Forall₂ (Term.IsQualified s) q.groupBy q'.groupBy
  having : q'.having = q.having
  qualify : q'.qualify = q.qualify

/-- A query has the table of each column before its name in another one. Locks may differ. -/
structure Query.IsQualified (s : Scope) (q q' : Query) : Prop where
  withClause : q'.withClause = q.withClause
  body : ∃ sel sel', q.body = .select sel ∧ q'.body = .select sel' ∧ sel.IsQualified s sel'
  orderBy : Forall₂ (OrderItem.IsQualified s) q.orderBy q'.orderBy
  limit : q'.limit = q.limit
  offset : q'.offset = q.offset
  fetch : q'.fetch = q.fetch

section
variable {k : Catalog} {scope : Scope} {q : Select} {orderBy : List OrderItem} {s : Statement}

theorem Select.check_qualified {q' : Select} (h : q.IsQualified scope q') : q'.check = q.check := by
  rw [check, check, h.repeats, h.top, h.into, h.having, h.lateralViews, h.qualify]

/-- All clauses of a `SELECT` have qualified forms. -/
theorem Select.IsResolvedTo.exists_isQualified (h : q.IsResolvedTo orderBy scope s) :
    (∃ q', q.IsQualified scope q') ∧
      ∃ orderBy', Forall₂ (OrderItem.IsQualified scope) orderBy orderBy' := by
  obtain ⟨relations, hrelations⟩ := (Scope.keeps_constraints h.constraints).1
  obtain ⟨selection, hselection⟩ := (Scope.keeps_expr.mapM_option h.selection).1
  obtain ⟨items, hitems⟩ := (Scope.keeps_projection h.projection).1
  obtain ⟨groupBy, hgroupBy⟩ := (Scope.keeps_columnOf.mapM h.groupBy).1
  exact ⟨⟨{ q with relations, selection, items, groupBy },
    ⟨rfl, rfl, hitems, rfl, hrelations, rfl, hselection, hgroupBy, rfl, rfl⟩⟩,
    (Scope.keeps_orderItem.mapM h.orderBy).1⟩

/-- All clauses of a `SELECT` are resolved as their qualified forms are. -/
theorem Select.IsResolvedTo.qualified (h : q.IsResolvedTo orderBy scope s) {q' : Select}
    {orderBy' : List OrderItem} (hq : q.IsQualified scope q')
    (horder : Forall₂ (OrderItem.IsQualified scope) orderBy orderBy') :
    q'.IsResolvedTo orderBy' scope s where
  tables := h.tables
  constraints := (Scope.keeps_constraints h.constraints).2 _ hq.relations
  selection := (Scope.keeps_expr.mapM_option h.selection).2 _ hq.selection
  projection := (Scope.keeps_projection h.projection).2 _ hq.items
  groupBy := (Scope.keeps_columnOf.mapM h.groupBy).2 _ hq.groupBy
  orderBy := (Scope.keeps_orderItem.mapM h.orderBy).2 _ horder
  distinct := by rw [h.distinct, hq.repeats]

theorem Select.resolve_qualified {q' : Select} {orderBy' : List OrderItem}
    (hscope : Scope.ofRelations k q.relations = .ok scope) (hq : q.IsQualified scope q')
    (horder : Forall₂ (OrderItem.IsQualified scope) orderBy orderBy')
    (h : q.resolve k orderBy = .ok s) : q'.resolve k orderBy' = .ok s := by
  obtain ⟨hcheck, hs⟩ := Select.isResolvedTo_of_resolve hscope h
  refine Select.resolve_eq_ok.2
    ⟨(check_qualified hq).trans hcheck, scope, ?_, hs.qualified hq horder⟩
  rw [Scope.ofRelations, relations_qualified hq.relations]
  exact hscope

end

section
variable {k : Catalog} {scope : Scope} {q : Query} {s : Statement}

theorem Query.exists_isQualified {sel : Select} (hbody : q.body = .select sel)
    (hscope : Scope.ofRelations k sel.relations = .ok scope) (h : q.resolve k = .ok s) :
    ∃ q', q.IsQualified scope q' := by
  obtain ⟨_, _, _, _, sel', hbody', hsel⟩ := Query.resolve_eq_ok.1 h
  obtain rfl : sel = sel' := Body.select.inj (hbody.symm.trans hbody')
  obtain ⟨_, hs⟩ := Select.isResolvedTo_of_resolve hscope hsel
  obtain ⟨⟨sel', hsel'⟩, orderBy, horder⟩ := hs.exists_isQualified
  exact ⟨{ q with body := .select sel', orderBy },
    ⟨rfl, ⟨sel, sel', hbody, rfl, hsel'⟩, horder, rfl, rfl, rfl⟩⟩

theorem Query.resolve_qualified {sel : Select} (hbody : q.body = .select sel)
    (hscope : Scope.ofRelations k sel.relations = .ok scope) {q' : Query}
    (hq : q.IsQualified scope q') (h : q.resolve k = .ok s) : q'.resolve k = .ok s := by
  obtain ⟨hwith, hlimit, hoffset, hfetch, sel₁, hsel₁, hs⟩ := Query.resolve_eq_ok.1 h
  obtain ⟨sel₂, sel', hsel₂, hsel', hqualified⟩ := hq.body
  obtain rfl : sel = sel₁ := Body.select.inj (hbody.symm.trans hsel₁)
  obtain rfl : sel = sel₂ := Body.select.inj (hbody.symm.trans hsel₂)
  exact Query.resolve_eq_ok.2 ⟨hq.withClause.trans hwith, hq.limit.trans hlimit,
    hq.offset.trans hoffset, hq.fetch.trans hfetch, sel', hsel',
    Select.resolve_qualified hscope hqualified hq.orderBy hs⟩

/-- Let the tables of a query be in a scope. They are those that are listed in it. A name without a
    table is resolved if and only if exactly one of them has such a column, which it means then;
    the tables may be listed in any other order. If the query has a statement, it has qualified
    forms, which have the table of each column before its name, and each of them has the same
    statement. -/
theorem Query.names_mean_tables {sel : Select} (hbody : q.body = .select sel)
    (hscope : Scope.ofRelations k sel.relations = .ok scope) :
    Forall₂ Relation.IsNamed sel.listed scope.tables ∧
    (∀ name c, scope.column [name] = .ok c ↔ ∃ table, c = ⟨some table, name⟩ ∧
      ∀ other, other ∈ scope.tables ∧ k.hasColumn other name = true ↔ other = table) ∧
    (∀ sel' : Select, sel'.listed.Perm sel.listed →
      ∃ scope', Scope.ofRelations k sel'.relations = .ok scope' ∧
        ∀ parts, scope'.column parts = scope.column parts) ∧
    ∀ s, q.resolve k = .ok s → (∃ q', q.IsQualified scope q') ∧
      ∀ q', q.IsQualified scope q' → q'.resolve k = .ok s := by
  obtain ⟨rfl, hnamed, _, hnodup⟩ := Scope.ofRelations_eq_ok.1 hscope
  exact ⟨hnamed, fun name c => Scope.column_singleton_eq_ok hnodup,
    fun sel' hperm => Scope.exists_ofRelations_perm hperm hscope,
    fun s hs => ⟨exists_isQualified hbody hscope hs,
      fun q' hq => resolve_qualified hbody hscope hq hs⟩⟩

end

end Sql

namespace Sample

/-- The query of `SELECT c, SUM(b) FROM S, R WHERE c > 1 GROUP BY c ORDER BY c` with some terms for
    the columns `c` and `b`, and some wording of the call. -/
def totalsBy (c b : Sql.Term) (text : String) : Sql.Query where
  withClause := none
  body := .select {
    repeats := .keep
    top := none
    items := [.plain c, .plain (.callOn ⟨[⟨"SUM", none⟩], false, false, text⟩ b)]
    into := none
    relations := [⟨⟨.table [⟨"S", none⟩] none, none, ""⟩, []⟩,
      ⟨⟨.table [⟨"R", none⟩] none, none, ""⟩, []⟩]
    lateralViews := []
    selection := some (.binary c (.compare .greater) (.number "1" false))
    groupBy := [c]
    clusterBy := []
    distributeBy := []
    sortBy := []
    having := none
    windows := []
    qualify := none }
  orderBy := [⟨c, none, none⟩]
  limit := none
  offset := none
  fetch := none
  locks := []

/-- The query with names alone. -/
def withNames : Sql.Query := totalsBy (.name ⟨"c", none⟩) (.name ⟨"b", none⟩) "SUM(b)"

/-- The query with the tables before the names. -/
def withTables : Sql.Query :=
  totalsBy (.path [⟨"S", none⟩, ⟨"c", none⟩]) (.path [⟨"R", none⟩, ⟨"b", none⟩]) "SUM(R.b)"

/-- The names `c` and `b` mean the columns of `S` and `R`; there are two columns `a`. -/
theorem withNames_mean_tables :
    Sql.statementsOf? "SELECT c, SUM(b) FROM S, R WHERE c > 1 GROUP BY c ORDER BY c" =
      some [.query withNames] ∧
    Sql.statementsOf? "SELECT S.c, SUM(R.b) FROM S, R WHERE S.c > 1 GROUP BY S.c ORDER BY S.c" =
      some [.query withTables] ∧
    (∀ c, Sql.Scope.column ⟨catalog, ["S", "R"]⟩ ["a"] ≠ .ok c) ∧
    withNames.IsQualified ⟨catalog, ["S", "R"]⟩ withTables ∧
    withNames.resolve catalog = .ok inOrder ∧ withTables.resolve catalog = .ok inOrder := by
  have hresolve : withNames.resolve catalog = .ok inOrder := by decide +kernel
  have hscope : Sql.Scope.ofRelations catalog
      [⟨⟨.table [⟨"S", none⟩] none, none, ""⟩, []⟩, ⟨⟨.table [⟨"R", none⟩] none, none, ""⟩, []⟩] =
      .ok ⟨catalog, ["S", "R"]⟩ := by rfl
  obtain ⟨_, hmeans, _, hkept⟩ := Sql.Query.names_mean_tables (q := withNames) rfl hscope
  have hc : Sql.Term.IsQualified ⟨catalog, ["S", "R"]⟩ (.name ⟨"c", none⟩)
      (.path [⟨"S", none⟩, ⟨"c", none⟩]) :=
    .column rfl (by decide +kernel) rfl
  have hb : Sql.Term.IsQualified ⟨catalog, ["S", "R"]⟩ (.name ⟨"b", none⟩)
      (.path [⟨"R", none⟩, ⟨"b", none⟩]) :=
    .column rfl (by decide +kernel) rfl
  have hqualified : withNames.IsQualified ⟨catalog, ["S", "R"]⟩ withTables := {
    withClause := rfl
    body := ⟨_, _, rfl, rfl, {
      repeats := rfl
      top := rfl
      items := .cons (.plain hc) (.cons (.plain (.callOn _ _ hb)) .nil)
      into := rfl
      relations := .cons ⟨rfl, .nil⟩ (.cons ⟨rfl, .nil⟩ .nil)
      lateralViews := rfl
      selection := .some (.binary _ hc (.number _ _))
      groupBy := .cons hc .nil
      having := rfl
      qualify := rfl }⟩
    orderBy := .cons ⟨hc, rfl, rfl⟩ .nil
    limit := rfl
    offset := rfl
    fetch := rfl }
  refine ⟨by decide +kernel, by decide +kernel, fun c h => ?_, hqualified, hresolve,
    (hkept _ hresolve).2 _ hqualified⟩
  -- The one table that has a column `a` would be both.
  obtain ⟨table, _, honly⟩ := (hmeans "a" c).1 h
  have hS : "S" = table := (honly "S").1 ⟨by decide, by decide⟩
  have hR : "R" = table := (honly "R").1 ⟨by decide, by decide⟩
  exact absurd (hS.trans hR.symm) (by decide)

end Sample

end CsvQuery
