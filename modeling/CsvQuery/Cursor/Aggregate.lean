import CsvQuery.Cursor
import CsvQuery.Expr.Eval

/-!
# Sums over groups

The tuples with the same values of some columns form a group. Each group gives one tuple: its first
one, followed by one attribute for each sum. Sums are taken of integers, columns and products of
such, and wrap around.

* `SumCall.check`: the sums that cannot be taken.
* `SumCall.total`: a sum over some tuples.
* `Aggregate.groups`: the groups of a list of tuples, in the order of their first tuples.
* `Aggregate.cursor`: the cursor over the tuples of the groups.
-/

namespace CsvQuery

namespace Expr

/-- The first part of an expression that no sum can be taken of. -/
def unsummable? : Expr → Option Expr
  | literal (.int _) | column _ => none
  | arithmetic l .multiply r => l.unsummable?.or r.unsummable?
  | e => some e

/-- What a tuple adds to a sum of an expression; a tuple that lacks a column adds nothing. -/
def share? (t : Tuple) : Expr → Option Int32
  | literal (.int n) => some n
  | column c => t.lookup c
  | arithmetic l op r => do op.value? (← l.share? t) (← r.share? t)
  | _ => none

/-- The notice on a column that a tuple lacks, if that keeps it out of a sum. The right factor of a
    product is not looked at when the left one is lacking. -/
def shareNotices (t : Tuple) : Expr → List Notice
  | column c => if (t.lookup c).isNone then [.leftOutOfSum c t] else []
  | arithmetic l _ r => l.shareNotices t ++ if (l.share? t).isSome then r.shareNotices t else []
  | _ => []

end Expr

namespace SumCall

/-- The sum over some tuples. -/
def total (s : SumCall) (ts : List Tuple) : Int32 :=
  (ts.filterMap s.argument.share?).foldl (· + ·) 0

/-- The attribute with the sum over some tuples. -/
def result (s : SumCall) (ts : List Tuple) : Attribute := ⟨sumTable, s.name, s.total ts⟩

/-- The notices on the tuples that do not count for a sum. -/
def notices (s : SumCall) (ts : List Tuple) : List Notice := ts.flatMap (s.argument.shareNotices ·)

/-- The failure of the first sum that cannot be taken. -/
def check : List SumCall → Except QueryError Unit
  | [] => .ok ()
  | s :: rest =>
    match s.argument.unsummable? with
    | some e => .error (.notSummable e)
    | none => check rest

end SumCall

namespace Aggregate

/-- The members of a list, each once, in the order in which they first occur. -/
def firstOccurrences {α : Type} [DecidableEq α] : List α → List α
  | [] => []
  | a :: rest => a :: (firstOccurrences rest).filter (· ≠ a)

/-- The values of the grouping columns, if a tuple has them all. -/
def key? (columns : List ColumnRef) (t : Tuple) : Option (List Int32) := columns.mapM t.lookup

/-- The tuples of a list with given values of the grouping columns. -/
def group (columns : List ColumnRef) (ts : List Tuple) (key : List Int32) : List Tuple :=
  ts.filter fun t => key? columns t = some key

/-- The groups of a list, in the order of their first tuples. -/
def groups (columns : List ColumnRef) (ts : List Tuple) : List (List Tuple) :=
  (firstOccurrences (ts.filterMap (key? columns))).map (group columns ts)

/-- The tuple of a group. -/
def summary? (sums : List SumCall) (members : List Tuple) : Option Tuple :=
  members.head?.map fun t => ⟨t.attributes ++ sums.map (·.result members)⟩

/-- The tuples of the groups of a list. -/
def summaries (columns : List ColumnRef) (sums : List SumCall) (ts : List Tuple) : List Tuple :=
  (groups columns ts).filterMap (summary? sums)

/-- The notice on a tuple that lacks a grouping column: the first one that it lacks. -/
def groupingNotices (columns : List ColumnRef) (t : Tuple) : List Notice :=
  ((columns.find? fun c => (t.lookup c).isNone).map (.leftOutOfGroups · t)).toList

/-- The notices on the way to the tuples of the groups of a list. -/
def sumNotices (columns : List ColumnRef) (sums : List SumCall) (ts : List Tuple) : List Notice :=
  (groups columns ts).flatMap fun members => sums.flatMap (·.notices members)

/-- A cursor that has been read to its end, and what is left of the tuples of its groups. -/
structure State (σ : Type) where
  child : σ
  rest : List Tuple

variable {σ : Type}

/-- Reads a cursor to its end. A failure leaves the tuples that were at hand before. -/
def fill (columns : List ColumnRef) (sums : List SumCall) (c : Cursor σ) (files : Files)
    (s : State σ) : Reply Unit (State σ) :=
  match c.collect (groupingNotices columns) files s.child with
  | ⟨.ok ts, child, ns⟩ =>
    ⟨.ok (), ⟨child, summaries columns sums ts⟩, ns ++ sumNotices columns sums ts⟩
  | ⟨.error e, child, ns⟩ => ⟨.error e, { s with child }, ns⟩

/-- The groups of a cursor. -/
def «open» (columns : List ColumnRef) (sums : List SumCall) (c : Cursor σ) (files : Files) (s : σ) :
    Run (State σ) := do
  SumCall.check sums
  let filled := fill columns sums c files ⟨s, []⟩
  filled.run
  return filled.state

/-- The tuple of the next group. -/
def next (_ : Files) (s : State σ) : Reply (Option Tuple) (State σ) :=
  match s.rest with
  | [] => ⟨.ok none, s, []⟩
  | t :: rest => ⟨.ok (some t), { s with rest }, []⟩

/-- Puts the cursor back and reads it again. -/
def reset (columns : List ColumnRef) (sums : List SumCall) (c : Cursor σ) (files : Files)
    (s : State σ) : Reply Unit (State σ) :=
  match c.reset files s.child with
  | ⟨.ok (), child, ns⟩ => (fill columns sums c files { s with child }).after ns
  | ⟨.error e, child, ns⟩ => ⟨.error e, { s with child }, ns⟩

theorem length_next {files : Files} {s : State σ} {t : Tuple}
    (h : (next files s).result = .ok (some t)) :
    (next files s).state.rest.length < s.rest.length := by
  unfold next at *
  split at h <;> simp_all

/-- The cursor over the tuples of the groups of another one. -/
def cursor (columns : List ColumnRef) (sums : List SumCall) (c : Cursor σ) : Cursor (State σ) where
  next := next
  reset := reset columns sums c
  ends := Cursor.ends_of_length State.rest length_next

end Aggregate

end CsvQuery
