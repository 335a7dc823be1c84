import CsvQuery.Statement
import CsvQuery.Statistics

/-!
# The order of joins

Tables are joined one after the other, each time the one that is expected to leave the fewest
pairs. An equality of two columns leaves one pair in as many as the column with more different
values has; any other predicate is expected to leave all pairs. A table that no predicate links to
those before it is joined only if there is no other, and tables that tie keep their order.

* `spread`: the number of pairs of which one is left.
* `rank`: the greatest such number among the predicates that link a table to others.
* `joinOrder`: the joins in the order in which they are made.
-/

namespace CsvQuery.JoinOrder

/-- The number of pairs of which a predicate is expected to leave one. -/
def spread (stats : Statistics) : Expr → Nat
  | .compare (.column l) .equal (.column r) =>
    match stats.column? l, stats.column? r with
    | some a, some b => max 1 (max a.distinct b.distinct)
    | _, _ => 1
  | _ => 1

/-- Whether a predicate links a table to tables joined before it, and needs no others. -/
def links (joined : List String) (table : String) (e : Expr) : Bool :=
  e.tables.contains table && e.tables.any joined.contains
    && e.tables.all fun t => t == table || joined.contains t

/-- How well a table goes with those joined before it; 0 if nothing links it to them. -/
def rank (stats : Statistics) (conjuncts : List Expr) (joined : List String) (j : JoinClause) :
    Nat :=
  ((conjuncts.filter (links joined j.table)).map (spread stats)).foldl max 0

/-- The first member of greatest rank of a list that is not empty, and the others in order. -/
def pick {α : Type} (rank : α → Nat) (a : α) : List α → α × List α
  | [] => (a, [])
  | b :: rest =>
    let best := pick rank b rest
    if rank best.1 ≤ rank a then (a, b :: rest) else (best.1, a :: best.2)

theorem length_pick {α : Type} (rank : α → Nat) (a : α) (rest : List α) :
    (pick rank a rest).2.length = rest.length := by
  induction rest generalizing a with
  | nil => rfl
  | cons b rest ih =>
    simp only [pick]
    split <;> simp [ih]

/-- The joins in the order in which they are made, after some tables. -/
def order (stats : Statistics) (conjuncts : List Expr) (joined : List String) :
    List JoinClause → List JoinClause
  | [] => []
  | j :: rest =>
    let best := pick (rank stats conjuncts joined) j rest
    best.1 :: order stats conjuncts (best.1.table :: joined) best.2
termination_by joins => joins.length
decreasing_by simp [length_pick]

end CsvQuery.JoinOrder

namespace CsvQuery

/-- The joins of a statement in the order in which they are made. -/
def joinOrder (stats : Statistics) (base : String) (joins : List JoinClause)
    (conjuncts : List Expr) : List JoinClause :=
  JoinOrder.order stats conjuncts [base] joins

end CsvQuery
