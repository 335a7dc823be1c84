import CsvQuery.Proofs.Resolution

/-!
# What a text says and what its statement keeps

The tables of a statement are those that are written behind `FROM`, in the order
in which they are written (`Sql.forall₂_isNamed`). Most clauses that a statement
has no place for are checked for: a query that has one of them is rejected, and
one that has a statement is *plain* (`Sql.Query.IsPlain`).

Some parts are passed over instead. A query has the same statement without what
is said about single columns of a star, what follows the name of a table, its
`CLUSTER BY`, `DISTRIBUTE BY` and `SORT BY`, its windows and its locks
(`Sql.Query.stripped`), and so it may mean more than its statement says
(`Sample.passedOver_ofText`).

* `Statement.refersTo_of_ofText`: which tables and columns a statement refers to.
* `Sql.Query.isPlain_of_resolve`: what is checked for.
* `Sql.Query.resolve_stripped`: what is passed over.
* `Statement.isPlain_of_ofText`: both, for texts.
-/

namespace CsvQuery

open List (Forall₂)

namespace Sql

/-! ## The tables of a query -/

/-- A relation is a table by its plain name: one part, without arguments and without a new name. -/
structure Relation.IsNamed (r : Relation) (name : String) : Prop where
  kind : ∃ quote, r.kind = .table [⟨name, quote⟩] none
  newName : r.newName = none

/-- The relations of a `SELECT` in the order in which they are written: each before those that are
    joined to it. -/
def Select.listed (q : Select) : List Relation :=
  q.relations.flatMap fun r => r.relation :: r.joins.map (·.relation)

namespace Scope

variable {s s' : Scope}

theorem singleName_eq_ok {path : List Name} {name : String} :
    singleName path = .ok name ↔ ∃ quote, path = [⟨name, quote⟩] := by
  rw [singleName.eq_def]
  split
  · rename_i n
    constructor
    · intro h
      exact ⟨n.quote, by rw [← Except.ok.inj h]⟩
    · rintro ⟨quote, h⟩
      rw [(List.cons.inj h).1]
  · rename_i hmany
    exact ⟨nofun, fun ⟨quote, h⟩ => absurd h (hmany _)⟩

/-- A table is added to a scope behind the others, by its plain name. -/
theorem isNamed_of_addTable {r : Relation} (h : s.addTable r = .ok s') :
    ∃ name, r.IsNamed name ∧ s'.tables = s.tables ++ [name] := by
  rw [addTable] at h
  split at h
  · cases h
  · cases h
  · rename_i path arguments hkind
    simp only [lacks_eq_reject, reject_bind, ite_reject_eq_ok, bind_eq_ok,
      Option.isSome_iff_ne_none, not_not] at h
    obtain ⟨hnewName, rfl, name, hname, _, _, _, h⟩ := h
    obtain ⟨quote, rfl⟩ := singleName_eq_ok.1 hname
    cases h
    exact ⟨name, ⟨⟨quote, hkind⟩, hnewName⟩, rfl⟩

theorem forall₂_isNamed_of_foldlM {relations : List Relation}
    (h : relations.foldlM addTable s = .ok s') :
    ∃ names, Forall₂ Relation.IsNamed relations names ∧ s'.tables = s.tables ++ names := by
  induction relations generalizing s with
  | nil =>
    cases h
    exact ⟨[], .nil, (List.append_nil _).symm⟩
  | cons r relations ih =>
    rw [List.foldlM_cons] at h
    obtain ⟨next, hnext, h⟩ := bind_eq_ok.1 h
    obtain ⟨name, hname, hadded⟩ := isNamed_of_addTable hnext
    obtain ⟨names, hnames, htables⟩ := ih h
    exact ⟨name :: names, .cons hname hnames, by rw [htables, hadded, List.append_assoc]; rfl⟩

end Scope

/-- The tables of the statement of a `SELECT` are those that are written in it, in their order. -/
theorem forall₂_isNamed {k : Catalog} {q : Select} {orderBy : List OrderItem} {s : Statement}
    (h : q.resolve k orderBy = .ok s) : Forall₂ Relation.IsNamed q.listed s.tables := by
  obtain ⟨_, scope, hscope, h⟩ := Select.resolve_eq_ok.1 h
  obtain ⟨names, hnames, htables⟩ := Scope.forall₂_isNamed_of_foldlM hscope
  rwa [← h.tables, htables, List.nil_append]

/-! ## Clauses that are checked for -/

/-- A cross join, or an inner join on a predicate or on nothing. -/
def Join.IsPlain (j : Join) : Prop :=
  j.kind = .cross ∨ j.kind = .inner ∧ (j.constraint = .none ∨ ∃ e, j.constraint = .predicate e)

/-- One star, or expressions without new names. -/
def IsPlainList (items : List Item) : Prop :=
  (∃ modifiers, items = [.wildcard modifiers]) ∨ ∀ i ∈ items, ∃ e, i = .plain e

/-- A `SELECT` without the clauses that are checked for. -/
structure Select.IsPlain (q : Select) : Prop where
  repeats : ∀ keys, q.repeats ≠ .dropOn keys
  top : q.top = none
  items : IsPlainList q.items
  into : q.into = none
  relations : ∀ r ∈ q.listed, ∃ name, r.IsNamed name
  joins : ∀ r ∈ q.relations, ∀ j ∈ r.joins, j.IsPlain
  lateralViews : q.lateralViews = []
  having : q.having = none
  qualify : q.qualify = none

/-- A column to sort by in ascending order. -/
structure OrderItem.IsPlain (o : OrderItem) : Prop where
  ascending : o.ascending ≠ some false
  nullsFirst : o.nullsFirst = none

/-- A query of a single `SELECT`, without the clauses that are checked for. -/
structure Query.IsPlain (q : Query) : Prop where
  withClause : q.withClause = none
  body : ∃ sel, q.body = .select sel ∧ sel.IsPlain
  orderBy : ∀ o ∈ q.orderBy, o.IsPlain
  limit : q.limit = none
  offset : q.offset = none
  fetch : q.fetch = none

section
variable {scope : Scope}

theorem Scope.isPlain_of_constraint {j : Join} {p : Option Expr} (h : scope.constraint j = .ok p) :
    j.IsPlain := by
  rw [constraint.eq_def] at h
  split at h
  · rename_i e hkind hconstraint
    exact .inr ⟨hkind, .inr ⟨e, hconstraint⟩⟩
  · rename_i hkind hconstraint
    exact .inr ⟨hkind, .inl hconstraint⟩
  · rename_i hkind
    exact .inl hkind
  · cases h
  · cases h

theorem Scope.isPlain_of_constraints {relations : List JoinedRelation} {ps : List (Option Expr)}
    (h : scope.constraints relations = .ok ps) : ∀ r ∈ relations, ∀ j ∈ r.joins, j.IsPlain := by
  induction relations generalizing ps with
  | nil => exact nofun
  | cons r relations ih =>
    obtain ⟨first, hfirst, h⟩ := bind_eq_ok.1 h
    obtain ⟨others, hothers, _⟩ := bind_eq_ok.1 h
    refine List.forall_mem_cons.2 ⟨fun j hj => ?_, ih hothers⟩
    obtain ⟨p, hp⟩ := exists_of_mapM hfirst hj
    exact isPlain_of_constraint hp

theorem Scope.exists_of_item {i : Item} {item : SelectItem} (h : scope.item i = .ok item) :
    ∃ e, i = .plain e := by
  cases i with
  | plain e => exact ⟨e, rfl⟩
  | _ => cases h

theorem Scope.isPlainList_of_projection {items : List Item} {p : Projection}
    (h : scope.projection items = .ok p) : IsPlainList items := by
  rw [projection.eq_def] at h
  split at h
  · rename_i modifiers
    exact .inl ⟨modifiers, rfl⟩
  · obtain ⟨shown, hshown, _⟩ := map_eq_ok.1 h
    refine .inr fun i hi => ?_
    obtain ⟨item, hitem⟩ := exists_of_mapM hshown hi
    exact exists_of_item hitem

theorem OrderItem.isPlain_of_resolve {o : OrderItem} {c : ColumnRef} (h : o.resolve scope = .ok c) :
    o.IsPlain := by
  simp only [resolve, lacks_eq_reject, reject_bind, ite_reject_eq_ok] at h
  exact ⟨h.1, Option.not_isSome_iff_eq_none.1 h.2.1⟩

theorem Select.check_eq_ok {q : Select} : q.check = .ok () ↔
    (∀ keys, q.repeats ≠ .dropOn keys) ∧ q.top = none ∧ q.into = none ∧ q.having = none ∧
      q.lateralViews = [] ∧ q.qualify = none := by
  simp only [Select.check, lacks_eq_reject, reject_bind, ite_reject_eq_ok]
  cases q.repeats <;> simp [pure, Except.pure, and_assoc]

theorem Select.isPlain_of_resolve {k : Catalog} {q : Select} {orderBy : List OrderItem}
    {s : Statement} (h : q.resolve k orderBy = .ok s) :
    q.IsPlain ∧ ∀ o ∈ orderBy, o.IsPlain := by
  obtain ⟨hcheck, scope, _, hs⟩ := Select.resolve_eq_ok.1 h
  obtain ⟨hrepeats, htop, hinto, hhaving, hlateral, hqualify⟩ := Select.check_eq_ok.1 hcheck
  refine ⟨?_, fun o ho => ?_⟩
  · exact {
      repeats := hrepeats
      top := htop
      items := Scope.isPlainList_of_projection hs.projection
      into := hinto
      relations := fun r hr => by
        obtain ⟨name, _, hname⟩ := exists_of_forall₂ (forall₂_isNamed h) hr
        exact ⟨name, hname⟩
      joins := Scope.isPlain_of_constraints hs.constraints
      lateralViews := hlateral
      having := hhaving
      qualify := hqualify }
  · obtain ⟨c, hc⟩ := exists_of_mapM hs.orderBy ho
    exact OrderItem.isPlain_of_resolve hc

theorem Query.isPlain_of_resolve {k : Catalog} {q : Query} {s : Statement}
    (h : q.resolve k = .ok s) : q.IsPlain := by
  obtain ⟨hwith, hlimit, hoffset, hfetch, sel, hbody, hsel⟩ := Query.resolve_eq_ok.1 h
  obtain ⟨hplain, horder⟩ := Select.isPlain_of_resolve hsel
  exact ⟨hwith, ⟨sel, hbody, hplain⟩, horder, hlimit, hoffset, hfetch⟩

end

/-! ## Parts that are passed over -/

/-- An item without what is said about single columns of a star. -/
def Item.stripped : Item → Item
  | wildcard _ => wildcard ""
  | item => item

/-- A relation without what follows its name. -/
def Relation.stripped (r : Relation) : Relation := { r with trailer := "" }

def Join.stripped (j : Join) : Join := { j with relation := j.relation.stripped }

def JoinedRelation.stripped (r : JoinedRelation) : JoinedRelation :=
  ⟨r.relation.stripped, r.joins.map (·.stripped)⟩

/-- A `SELECT` without the parts that are passed over. -/
def Select.stripped (q : Select) : Select :=
  { q with
    items := q.items.map (·.stripped)
    relations := q.relations.map (·.stripped)
    clusterBy := []
    distributeBy := []
    sortBy := []
    windows := [] }

def Body.stripped : Body → Body
  | select s => select s.stripped
  | body => body

/-- A query without the parts that are passed over. -/
def Query.stripped (q : Query) : Query := { q with body := q.body.stripped, locks := [] }

theorem Scope.ofRelations_stripped (k : Catalog) (relations : List JoinedRelation) :
    ofRelations k (relations.map (·.stripped)) = ofRelations k relations := by
  have hlisted :
      (relations.map (·.stripped)).flatMap (fun r => r.relation :: r.joins.map (·.relation)) =
      (relations.flatMap fun r => r.relation :: r.joins.map (·.relation)).map (·.stripped) := by
    simp [List.flatMap_map, List.map_flatMap, JoinedRelation.stripped, Join.stripped,
      Function.comp_def]
  rw [ofRelations, hlisted, List.foldlM_map]
  rfl

theorem Scope.constraints_stripped (s : Scope) (relations : List JoinedRelation) :
    s.constraints (relations.map (·.stripped)) = s.constraints relations := by
  induction relations with
  | nil => rfl
  | cons r relations ih =>
    rw [List.map_cons, constraints, constraints, ih, JoinedRelation.stripped, List.mapM_map]
    rfl

theorem Scope.item_stripped (s : Scope) (i : Item) : s.item i.stripped = s.item i := by
  cases i <;> rfl

theorem Scope.projection_stripped (s : Scope) (items : List Item) :
    s.projection (items.map (·.stripped)) = s.projection items := by
  have hitems : (items.map (·.stripped)).mapM s.item = items.mapM s.item := by
    rw [List.mapM_map]
    exact congrArg (items.mapM ·) (funext s.item_stripped)
  rw [projection.eq_def s items]
  split
  · rfl
  · rename_i hmany
    rw [projection, hitems]
    rintro modifiers hstar
    obtain ⟨i, rfl, hi⟩ := List.map_eq_singleton_iff.1 hstar
    cases i with
    | wildcard modifiers' => exact hmany modifiers' rfl
    | _ => cases hi

/-- A `SELECT` has the same statement, or the same failure, without the parts that are passed
    over. -/
theorem Select.resolve_stripped (k : Catalog) (q : Select) (orderBy : List OrderItem) :
    q.stripped.resolve k orderBy = q.resolve k orderBy := by
  have hcheck : q.stripped.check = q.check := rfl
  rw [resolve, resolve, hcheck, stripped]
  simp only [Scope.ofRelations_stripped, Scope.constraints_stripped, Scope.projection_stripped]

/-- A query has the same statement, or the same failure, without the parts that are passed over. -/
theorem Query.resolve_stripped (k : Catalog) (q : Query) : q.stripped.resolve k = q.resolve k := by
  rw [resolve, resolve, stripped]
  cases q.body with
  | select s => simp only [Body.stripped, Select.resolve_stripped]
  | _ => rfl

end Sql

namespace Statement

variable {k : Catalog} {text : String} {s : Statement}

/-- The tables of the statement of a text are different tables of the catalog and stand in the order
    in which they are written, and each column that it names, in whatever clause and at whatever
    depth, names one of these tables and is a column of it. -/
theorem refersTo_of_ofText (h : Statement.ofText k text = .ok s) :
    s.IsResolved k ∧ ∃ q sel, Sql.statementsOf? text = some [.query q] ∧ q.body = .select sel ∧
      Forall₂ Sql.Relation.IsNamed sel.listed s.tables := by
  obtain ⟨q, hq, hs⟩ := ofText_eq_ok.1 h
  obtain ⟨_, _, _, _, sel, hbody, hsel⟩ := Sql.Query.resolve_eq_ok.1 hs
  exact ⟨isResolved_of_ofText h, q, sel, hq, hbody, Sql.forall₂_isNamed hsel⟩

/-- A text that has a statement holds one query without any of the clauses that are checked for, and
    its statement is that of the query without the parts that are passed over. -/
theorem isPlain_of_ofText (h : Statement.ofText k text = .ok s) :
    ∃ q, Sql.statementsOf? text = some [.query q] ∧ q.IsPlain ∧ q.stripped.resolve k = .ok s := by
  obtain ⟨q, hq, hs⟩ := ofText_eq_ok.1 h
  exact ⟨q, hq, Sql.Query.isPlain_of_resolve hs, by rwa [Sql.Query.resolve_stripped]⟩

end Statement

namespace Sample

/-- `SELECT S.c, SUM(R.b) FROM S, R WHERE S.c > 1 GROUP BY S.c ORDER BY S.c`. -/
def inOrder : Statement where
  base := "S"
  joins := [⟨"R", none⟩]
  selection := some (.compare (.column ⟨some "S", "c"⟩) .greater (.literal (.int 1)))
  projection := .list [.column ⟨some "S", "c"⟩, .sum ⟨.column ⟨some "R", "b"⟩⟩]
  groupBy := [⟨some "S", "c"⟩]
  orderBy := [⟨some "S", "c"⟩]
  distinct := false

/-- Columns without their tables are resolved in every clause, and the tables keep their order. -/
theorem inOrder_refersTo :
    Statement.ofText catalog "SELECT c, SUM(b) FROM S, R WHERE c > 1 GROUP BY c ORDER BY c" =
      .ok inOrder ∧
    inOrder.tables = ["S", "R"] ∧ inOrder.IsResolved catalog ∧
    ∃ q sel, Sql.statementsOf? "SELECT c, SUM(b) FROM S, R WHERE c > 1 GROUP BY c ORDER BY c" =
      some [.query q] ∧ q.body = .select sel ∧
      Forall₂ Sql.Relation.IsNamed sel.listed inOrder.tables := by
  have htext : Statement.ofText catalog
      "SELECT c, SUM(b) FROM S, R WHERE c > 1 GROUP BY c ORDER BY c" = .ok inOrder := by
    decide +kernel
  obtain ⟨hresolved, hlisted⟩ := Statement.refersTo_of_ofText htext
  exact ⟨htext, rfl, hresolved, hlisted⟩

/-- The text of a query with a join, a condition, an order, and each of the parts that are passed
    over. -/
def crowdedText : String :=
  "SELECT * EXCLUDE (c) FROM R WITH (NOLOCK) JOIN S ON R.a = S.a WHERE b > 1 " ++
    "CLUSTER BY b DISTRIBUTE BY b SORT BY a WINDOW w AS (ORDER BY b) ORDER BY c FOR UPDATE"

/-- The query of `crowdedText`. -/
def crowded : Sql.Query where
  withClause := none
  body := .select {
    repeats := .keep
    top := none
    items := [.wildcard " EXCLUDE (c)"]
    into := none
    relations := [⟨⟨.table [⟨"R", none⟩] none, none, " WITH (NOLOCK)"⟩,
      [⟨⟨.table [⟨"S", none⟩] none, none, ""⟩, .inner, .predicate
        (.binary (.path [⟨"R", none⟩, ⟨"a", none⟩]) (.compare .equal)
          (.path [⟨"S", none⟩, ⟨"a", none⟩]))⟩]⟩]
    lateralViews := []
    selection := some (.binary (.name ⟨"b", none⟩) (.compare .greater) (.number "1" false))
    groupBy := []
    clusterBy := [.name ⟨"b", none⟩]
    distributeBy := [.name ⟨"b", none⟩]
    sortBy := [.name ⟨"a", none⟩]
    having := none
    windows := ["w AS (ORDER BY b)"]
    qualify := none }
  orderBy := [⟨.name ⟨"c", none⟩, none, none⟩]
  limit := none
  offset := none
  fetch := none
  locks := ["FOR UPDATE"]

/-- `SELECT * FROM R JOIN S ON R.a = S.a WHERE R.b > 1 ORDER BY S.c`. -/
def uncrowded : Statement where
  base := "R"
  joins := [⟨"S", some (.compare (.column ⟨some "R", "a"⟩) .equal (.column ⟨some "S", "a"⟩))⟩]
  selection := some (.compare (.column ⟨some "R", "b"⟩) .greater (.literal (.int 1)))
  projection := .all
  groupBy := []
  orderBy := [⟨some "S", "c"⟩]
  distinct := false

/-- A query is plain although it has parts that are passed over. Without them it is the query of a
    shorter text, and its statement is the same. -/
theorem crowded_isPlain :
    Statement.ofText catalog crowdedText = .ok uncrowded ∧
    Sql.statementsOf? crowdedText = some [.query crowded] ∧ crowded.IsPlain ∧
    crowded.stripped.resolve catalog = .ok uncrowded ∧
    Sql.statementsOf? "SELECT * FROM R JOIN S ON R.a = S.a WHERE b > 1 ORDER BY c" =
      some [.query crowded.stripped] := by
  have hread : Sql.statementsOf? crowdedText = some [.query crowded] := by decide +kernel
  have htext : Statement.ofText catalog crowdedText = .ok uncrowded := by
    rw [Statement.ofText, hread]
    decide +kernel
  obtain ⟨q, hq, hplain, hstripped⟩ := Statement.isPlain_of_ofText htext
  obtain rfl : crowded = q := by simpa using hread.symm.trans hq
  exact ⟨htext, hread, hplain, hstripped, by decide +kernel⟩

/-- `SELECT * FROM R`. -/
def allOfR : Statement where
  base := "R"
  joins := []
  selection := none
  projection := .all
  groupBy := []
  orderBy := []
  distinct := false

/-- The query of `SELECT * EXCLUDE (a) FROM R SORT BY b`. -/
def sortedBy : Sql.Select where
  repeats := .keep
  top := none
  items := [.wildcard " EXCLUDE (a)"]
  into := none
  relations := [⟨⟨.table [⟨"R", none⟩] none, none, ""⟩, []⟩]
  lateralViews := []
  selection := none
  groupBy := []
  clusterBy := []
  distributeBy := []
  sortBy := [.name ⟨"b", none⟩]
  having := none
  windows := []
  qualify := none

/-- A text that leaves out a column and asks for an order has the statement of one that does
    neither. -/
theorem passedOver_ofText :
    Sql.statementsOf? "SELECT * EXCLUDE (a) FROM R SORT BY b" =
      some [.query ⟨none, .select sortedBy, [], none, none, none, []⟩] ∧
    sortedBy.items = [.wildcard " EXCLUDE (a)"] ∧ sortedBy.sortBy = [.name ⟨"b", none⟩] ∧
    Statement.ofText catalog "SELECT * EXCLUDE (a) FROM R SORT BY b" =
      Statement.ofText catalog "SELECT * FROM R" ∧
    Statement.ofText catalog "SELECT * FROM R" = .ok allOfR := by
  have hread : Sql.statementsOf? "SELECT * EXCLUDE (a) FROM R SORT BY b" =
      some [.query ⟨none, .select sortedBy, [], none, none, none, []⟩] := by decide +kernel
  have hall : Statement.ofText catalog "SELECT * FROM R" = .ok allOfR := by decide +kernel
  refine ⟨hread, rfl, rfl, ?_, hall⟩
  rw [hall, Statement.ofText, hread]
  decide +kernel

end Sample

end CsvQuery
