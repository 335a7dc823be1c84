import CsvQuery.Proofs.Clauses

/-!
# The tables behind `FROM` and their predicates

What stands behind `FROM` is read twice. First all tables are put into the scope.
Then each but the first one becomes a join, with the predicate that is written
with it; the table of a join is found by its place in the scope, behind the base
table and the tables of the joins so far (`Sql.Scope.attach`). However commas
and joins are mixed, there is a table at that place, and it is the one that is
being read.

* `Sql.written`: the relations in the order in which they are written, each with
  the join that it is part of.
* `Sql.Scope.Carries`: the predicate that is written with a relation.
* `Sql.Scope.joinsByPlace_eq`: the second reading never goes beyond the scope,
  and gives each table its own predicate.
* `Sql.Select.joins_as_written`: the same for the joins of a statement.
-/

namespace CsvQuery

open List (Forall₂)

namespace Sql

/-- The relations behind `FROM` in the order in which they are written, each with the join that it
    is part of. The first one and those behind a comma are part of none. -/
def written (relations : List JoinedRelation) : List (Relation × Option Join) :=
  relations.flatMap fun r => (r.relation, none) :: r.joins.map fun j => (j.relation, some j)

theorem map_fst_written (relations : List JoinedRelation) :
    (written relations).map Prod.fst =
      relations.flatMap fun r => r.relation :: r.joins.map (·.relation) := by
  simp [written, List.map_flatMap, Function.comp_def]

theorem length_written_cons (r : JoinedRelation) (relations : List JoinedRelation) :
    (written (r :: relations)).length = r.joins.length + 1 + (written relations).length := by
  rw [written, List.flatMap_cons, List.length_append, List.length_cons, List.length_map]
  rfl

namespace Scope

variable {s : Scope}

/-! ## Predicates -/

/-- The predicate that is written with a relation: that of the join that it is part of. There is
    none behind a comma, in a cross join and in a join without a condition. -/
inductive Carries (s : Scope) : Option Join → Option Expr → Prop
  | listed : s.Carries none none
  | cross {j : Join} (hkind : j.kind = .cross) : s.Carries (some j) none
  | bare {j : Join} (hkind : j.kind = .inner) (hbare : j.constraint = .none) :
      s.Carries (some j) none
  | joinedOn {j : Join} {e : Term} {p : Expr} (hkind : j.kind = .inner)
      (hon : j.constraint = .predicate e) (hp : s.expr e = .ok p) : s.Carries (some j) (some p)

theorem carries_of_constraint {j : Join} {p : Option Expr} (h : s.constraint j = .ok p) :
    s.Carries (some j) p := by
  rw [constraint.eq_def] at h
  split at h
  · rename_i hkind hon
    obtain ⟨e, he, rfl⟩ := map_eq_ok.1 h
    exact .joinedOn hkind hon he
  · rename_i hkind hbare
    cases h
    exact .bare hkind hbare
  · rename_i hkind
    cases h
    exact .cross hkind
  · cases h
  · cases h

/-- Each predicate belongs to the relation that it is written with. -/
theorem forall₂_carries {relations : List JoinedRelation} {ps : List (Option Expr)}
    (h : s.constraints relations = .ok ps) :
    Forall₂ (fun w p => s.Carries w.2 p) (written relations) ps := by
  induction relations generalizing ps with
  | nil =>
    cases h
    exact .nil
  | cons r relations ih =>
    obtain ⟨first, hfirst, h⟩ := bind_eq_ok.1 h
    obtain ⟨others, hothers, h⟩ := bind_eq_ok.1 h
    cases h
    have hjoins : Forall₂ (fun w p => s.Carries w.2 p)
        (r.joins.map fun j => (j.relation, some j)) first :=
      List.forall₂_map_left_iff.2 ((forall₂_of_mapM hfirst).imp fun _ _ => carries_of_constraint)
    exact .cons .listed (List.rel_append hjoins (ih hothers))

/-! ## Joins put together by places -/

/-- The joins so far with one more, of the table behind the base table and those of the joins. It
    gives nothing if the scope has no such table. -/
def attach (s : Scope) (joins : List JoinClause) (p : Option Expr) :
    OptionT Resolved (List JoinClause) :=
  OptionT.mk (.ok (s.tables[joins.length + 1]?.map fun table => joins ++ [⟨table, p⟩]))

/-- The joins so far with those that are written behind a relation. -/
def attachJoins (s : Scope) (joins : List JoinClause) (r : JoinedRelation) :
    OptionT Resolved (List JoinClause) :=
  r.joins.foldlM (fun joins j => do s.attach joins (← OptionT.lift (s.constraint j))) joins

/-- The joins of all relations behind `FROM`, put together one by one. A relation behind a comma is
    one more, before those that are written behind it. -/
def joinsByPlace (s : Scope) : List JoinedRelation → OptionT Resolved (List JoinClause)
  | [] => return []
  | r :: rest => do
    rest.foldlM (fun joins r => do s.attachJoins (← s.attach joins none) r) (← s.attachJoins [] r)

/-- The tables behind the base table, each with its predicate. -/
def joinsWith (s : Scope) (ps : List (Option Expr)) : List JoinClause :=
  List.zipWith .mk s.tables.tail ps

/-- One more pair at the end of two lists, of which the first may be longer. -/
theorem zipWith_concat {α β γ : Type} {f : α → β → γ} {as : List α} {bs : List β} {a : α} (b : β)
    (h : as[bs.length]? = some a) :
    List.zipWith f as (bs ++ [b]) = List.zipWith f as bs ++ [f a b] := by
  induction bs generalizing as with
  | nil =>
    cases as with
    | nil => cases h
    | cons a' as =>
      cases h
      simp
  | cons b' bs ih =>
    cases as with
    | nil => cases h
    | cons a' as =>
      rw [List.cons_append, List.zipWith_cons_cons, ih h]
      rfl

theorem attach_joinsWith {ps : List (Option Expr)} (p : Option Expr)
    (h : ps.length + 1 < s.tables.length) :
    s.attach (s.joinsWith ps) p = pure (s.joinsWith (ps ++ [p])) := by
  have hplace : s.tables[ps.length + 1]? = some s.tables[ps.length + 1] :=
    List.getElem?_eq_getElem h
  have hlength : (s.joinsWith ps).length = ps.length := by
    rw [joinsWith, List.length_zipWith, List.length_tail]
    omega
  rw [attach, hlength, hplace, joinsWith, joinsWith,
    zipWith_concat p (by rw [List.getElem?_tail, hplace])]
  rfl

/-- The joins behind one relation, as long as the scope has enough tables. -/
theorem attachJoins_joinsWith (ps : List (Option Expr)) {r : JoinedRelation}
    (h : ps.length + r.joins.length < s.tables.length) :
    (s.attachJoins (s.joinsWith ps) r).run =
      (fun qs => some (s.joinsWith (ps ++ qs))) <$> r.joins.mapM s.constraint := by
  rw [attachJoins]
  generalize r.joins = joins at h
  induction joins generalizing ps with
  | nil =>
    rw [List.foldlM_nil, List.mapM_nil, map_pure, List.append_nil]
    rfl
  | cons j joins ih =>
    rw [List.length_cons] at h
    rw [List.foldlM_cons, List.mapM_cons]
    cases hj : s.constraint j with
    | error e => rfl
    | ok p =>
      have hstep : (do s.attach (s.joinsWith ps) (← OptionT.lift (.ok p : Resolved _))) =
          pure (s.joinsWith (ps ++ [p])) := attach_joinsWith p (by omega)
      rw [hstep, pure_bind, ih _ (by rw [List.length_append, List.length_singleton]; omega)]
      simp only [List.append_assoc]
      cases joins.mapM s.constraint <;> rfl

/-- The joins of the relations behind commas, as long as the scope has enough tables. -/
theorem foldlM_joinsWith (ps : List (Option Expr)) {relations : List JoinedRelation}
    (h : ps.length + (written relations).length < s.tables.length) :
    (relations.foldlM (fun joins r => do s.attachJoins (← s.attach joins none) r)
      (s.joinsWith ps)).run =
      (fun qs => some (s.joinsWith (ps ++ qs))) <$> s.constraints relations := by
  induction relations generalizing ps with
  | nil =>
    have hnil : s.constraints [] = .ok [] := rfl
    rw [List.foldlM_nil, hnil]
    exact congrArg (fun qs => Except.ok (some (s.joinsWith qs))) (List.append_nil ps).symm
  | cons r relations ih =>
    rw [length_written_cons] at h
    have hfirst := s.attachJoins_joinsWith (ps ++ [none]) (r := r)
      (by rw [List.length_append, List.length_singleton]; omega)
    rw [List.foldlM_cons, attach_joinsWith none (by omega), pure_bind, OptionT.run_bind, hfirst,
      constraints]
    cases hqs : r.joins.mapM s.constraint with
    | error e => rfl
    | ok qs =>
      have hlength : r.joins.length = qs.length := (forall₂_of_mapM hqs).length_eq
      refine (ih (ps ++ [none] ++ qs) ?_).trans ?_
      · rw [List.length_append, List.length_append, List.length_singleton]
        omega
      · simp only [List.append_assoc, List.singleton_append]
        cases s.constraints relations <;> rfl

/-- The joins that are put together by places are those of the tables behind the base table, each
    with its own predicate, and what stops the one reading stops the other. -/
theorem joinsByPlace_eq {relations : List JoinedRelation}
    (h : (written relations).length = s.tables.length) :
    (s.joinsByPlace relations).run =
      (fun ps => some (s.joinsWith ps.tail)) <$> s.constraints relations := by
  have hnil : s.joinsWith [] = [] := List.zipWith_nil_right
  cases relations with
  | nil => exact congrArg (fun joins => Except.ok (some joins)) hnil.symm
  | cons r relations =>
    rw [length_written_cons] at h
    have hfirst := s.attachJoins_joinsWith [] (r := r) (by rw [List.length_nil]; omega)
    rw [hnil] at hfirst
    rw [joinsByPlace, OptionT.run_bind, hfirst, constraints]
    cases hqs : r.joins.mapM s.constraint with
    | error e => rfl
    | ok qs =>
      have hlength : r.joins.length = qs.length := (forall₂_of_mapM hqs).length_eq
      refine (foldlM_joinsWith qs (by omega)).trans ?_
      cases s.constraints relations <;> rfl

end Scope

/-! ## The joins of a statement -/

section
variable {scope : Scope} {q : Select} {orderBy : List OrderItem} {s : Statement}

theorem Select.IsResolvedTo.joinsWith_eq (h : q.IsResolvedTo orderBy scope s) :
    scope.joinsWith (s.joins.map (·.constraint)) = s.joins := by
  rw [Scope.joinsWith, h.tables, Statement.tables, List.tail_cons, List.zipWith_map,
    List.zipWith_self]
  exact List.map_id _

/-- The base table is the first one that is written, and each further one has a join with the
    predicate that is written with it. -/
theorem Select.IsResolvedTo.written_eq_cons (h : q.IsResolvedTo orderBy scope s)
    (hnamed : Forall₂ Relation.IsNamed q.listed s.tables) :
    ∃ first others, written q.relations = (first, none) :: others ∧ first.IsNamed s.base ∧
      Forall₂ (fun w j => w.1.IsNamed j.table ∧ scope.Carries w.2 j.constraint) others
        s.joins := by
  have hcarries := Scope.forall₂_carries h.constraints
  rw [Select.listed, ← map_fst_written, List.forall₂_map_left_iff] at hnamed
  cases hrelations : q.relations with
  | nil =>
    rw [hrelations] at hnamed
    cases hnamed
  | cons r rest =>
    rw [hrelations, written, List.flatMap_cons, List.cons_append] at hnamed hcarries
    obtain ⟨hbase, hnamed⟩ := List.forall₂_cons.1 hnamed
    obtain ⟨_, hcarries⟩ := List.forall₂_cons.1 hcarries
    exact ⟨_, _, rfl, hbase, Forall₂.mp (fun _ _ hname hcarried => ⟨hname, hcarried⟩)
      (List.forall₂_map_right_iff.1 hnamed) (List.forall₂_map_right_iff.1 hcarries)⟩

end

/-- Once the tables behind `FROM` are in the scope, each place at which the base table and the
    tables of the joins are looked up is one of the scope. If there is a statement, its base table
    is the first one that is written, and its joins are those of the further ones, in the order in
    which they are written; each has the predicate that is written with its table, and none if the
    table stands behind a comma, in a cross join or in a join without a condition. -/
theorem Select.joins_as_written {k : Catalog} {q : Select} {scope : Scope}
    (hscope : Scope.ofRelations k q.relations = .ok scope) :
    (q.relations ≠ [] → ∃ base, scope.tables[0]? = some base) ∧
    (scope.joinsByPlace q.relations).run ≠ .ok none ∧
    ∀ orderBy s, q.resolve k orderBy = .ok s →
      scope.tables[0]? = some s.base ∧
      (scope.joinsByPlace q.relations).run = .ok (some s.joins) ∧
      ∃ first others, written q.relations = (first, none) :: others ∧ first.IsNamed s.base ∧
        Forall₂ (fun w j => w.1.IsNamed j.table ∧ scope.Carries w.2 j.constraint) others
          s.joins := by
  obtain ⟨_, hcount⟩ := Scope.IsSound.ofRelations hscope
  have hlength : (written q.relations).length = scope.tables.length := by
    rw [hcount, ← map_fst_written, List.length_map]
  have hplaces := Scope.joinsByPlace_eq hlength
  refine ⟨fun hne => ?_, fun hnone => ?_, fun orderBy s hs => ?_⟩
  · obtain ⟨r, rest, hrest⟩ := List.exists_cons_of_ne_nil hne
    rw [hrest, length_written_cons] at hlength
    exact ⟨_, List.getElem?_eq_getElem (by omega)⟩
  · rw [hplaces] at hnone
    obtain ⟨ps, _, hps⟩ := map_eq_ok.1 hnone
    cases hps
  · obtain ⟨_, hresolved⟩ := Select.isResolvedTo_of_resolve hscope hs
    refine ⟨by rw [hresolved.tables]; rfl, ?_, hresolved.written_eq_cons (forall₂_isNamed hs)⟩
    rw [hplaces, hresolved.constraints]
    exact congrArg (fun joins => Except.ok (some joins)) hresolved.joinsWith_eq

end Sql

namespace Sample

/-- A database with the tables `R(r)`, `S(s)`, `T(t)`, `U(u)` and `V(v)`. -/
def fiveTables : Catalog :=
  ⟨"db", [⟨"R", ["r"], "db/data/R.csv"⟩, ⟨"S", ["s"], "db/data/S.csv"⟩,
    ⟨"T", ["t"], "db/data/T.csv"⟩, ⟨"U", ["u"], "db/data/U.csv"⟩, ⟨"V", ["v"], "db/data/V.csv"⟩]⟩

/-- A table by its name alone. -/
def plainTable (name : String) : Sql.Relation := ⟨.table [⟨name, none⟩] none, none, ""⟩

/-- The query of `SELECT * FROM R CROSS JOIN S, T JOIN U JOIN V ON t < v`. -/
def mixedJoins : Sql.Select where
  repeats := .keep
  top := none
  items := [.wildcard ""]
  into := none
  relations := [
    ⟨plainTable "R", [⟨plainTable "S", .cross, .none⟩]⟩,
    ⟨plainTable "T", [⟨plainTable "U", .inner, .none⟩,
      ⟨plainTable "V", .inner,
        .predicate (.binary (.name ⟨"t", none⟩) (.compare .less) (.name ⟨"v", none⟩))⟩]⟩]
  lateralViews := []
  selection := none
  groupBy := []
  clusterBy := []
  distributeBy := []
  sortBy := []
  having := none
  windows := []
  qualify := none

/-- The statement of that query. -/
def mixedJoined : Statement where
  base := "R"
  joins := [⟨"S", none⟩, ⟨"T", none⟩, ⟨"U", none⟩,
    ⟨"V", some (.compare (.column ⟨some "T", "t"⟩) .less (.column ⟨some "V", "v"⟩))⟩]
  selection := none
  projection := .all
  groupBy := []
  orderBy := []
  distinct := false

/-- A predicate behind a cross join, a comma and a join without a condition. -/
theorem mixedJoins_as_written :
    Sql.statementsOf? "SELECT * FROM R CROSS JOIN S, T JOIN U JOIN V ON t < v" =
      some [.query ⟨none, .select mixedJoins, [], none, none, none, []⟩] ∧
    Sql.Scope.ofRelations fiveTables mixedJoins.relations =
      .ok ⟨fiveTables, ["R", "S", "T", "U", "V"]⟩ ∧
    mixedJoins.resolve fiveTables [] = .ok mixedJoined ∧
    (Sql.Scope.joinsByPlace ⟨fiveTables, ["R", "S", "T", "U", "V"]⟩ mixedJoins.relations).run =
      .ok (some mixedJoined.joins) ∧
    ∃ first others, Sql.written mixedJoins.relations = (first, none) :: others ∧
      first.IsNamed mixedJoined.base ∧
      Forall₂ (fun w j => w.1.IsNamed j.table ∧
        Sql.Scope.Carries ⟨fiveTables, ["R", "S", "T", "U", "V"]⟩ w.2 j.constraint) others
        mixedJoined.joins := by
  have hscope : Sql.Scope.ofRelations fiveTables mixedJoins.relations =
      .ok ⟨fiveTables, ["R", "S", "T", "U", "V"]⟩ := by rfl
  have hresolve : mixedJoins.resolve fiveTables [] = .ok mixedJoined := by decide +kernel
  obtain ⟨_, _, hall⟩ := Sql.Select.joins_as_written hscope
  obtain ⟨_, hplaces, hwritten⟩ := hall [] mixedJoined hresolve
  exact ⟨by decide +kernel, hscope, hresolve, hplaces, hwritten⟩

end Sample

end CsvQuery
