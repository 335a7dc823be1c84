import CsvQuery.Proofs.Coverage
import CsvQuery.Proofs.Regrouping
import CsvQuery.Proofs.Totals

/-!
# Evaluating expressions

A scalar is evaluated in two places: under a predicate, where it may be a text
and an operator may have no result, and as the argument of a sum, where it adds
an integer or nothing. Both evaluations give the same integer for any expression
(`Expr.share?_eq_number?`). For what sums are taken of, a value is lacking for one
reason only, a column that the tuple lacks, and both evaluations stop at the
first such column and tell of it.

Neither evaluation reads more of a tuple than the columns that the expression
reports: two tuples on which these have the same values are told apart by no
value, no predicate and no notice, but for the tuple that a notice shows
(`Notice.showing`).

* `Tuple.firstMissing?`: the column that a notice names.
* `Expr.IsSummable.notices_eq`: one induction for the notices of both evaluations.
* `Expr.evaluations_agree`: the two evaluations compared.
* `Names.pairwise_ofList`: a set of names is in order, and has no name twice.
* `Expr.reads_columns`: what evaluation reads, and the tables it is reported to read.
-/

namespace CsvQuery

variable {t u : Tuple}

/-! ## Columns that a tuple lacks -/

/-- The first of some columns that a tuple lacks. -/
def Tuple.firstMissing? (columns : List ColumnRef) (t : Tuple) : Option ColumnRef :=
  columns.find? fun c => (t.lookup c).isNone

namespace Tuple

theorem firstMissing?_append (columns columns' : List ColumnRef) :
    t.firstMissing? (columns ++ columns') =
      (t.firstMissing? columns).or (t.firstMissing? columns') :=
  List.find?_append

theorem firstMissing?_eq_none {columns : List ColumnRef} :
    t.firstMissing? columns = none ↔ t.Has columns := by
  rw [firstMissing?, List.find?_eq_none]
  exact forall₂_congr fun c _ => by rw [Bool.not_eq_true, Option.isNone_eq_false_iff]

end Tuple

namespace Expr

variable {e l r : Expr}

/-! ## The two evaluations of scalars -/

/-- What a tuple adds to a sum is the integer that the expression stands for, if it does. -/
theorem share?_eq_number? (e : Expr) (t : Tuple) : e.share? t = number? t e := by
  induction e with
  | literal v => cases v <;> rfl
  | column c =>
    rw [share?, number?, eval?]
    cases t.lookup c <;> rfl
  | compare l op r => rfl
  | and l r => rfl
  | arithmetic l op r ihl ihr =>
    rw [number?_arithmetic, ← ihl, ← ihr]
    rfl

/-- What sums are taken of has integers as values only. -/
theorem IsSummable.eval?_eq (he : e.IsSummable) (t : Tuple) :
    e.eval? t = (e.share? t).map .int := by
  rw [share?_eq_number?]
  refine eval?_eq_number? ?_
  rintro s rfl
  cases he

/-- A tuple adds something to a sum exactly if it has all columns of it. -/
theorem IsSummable.isSome_share? (he : e.IsSummable) (t : Tuple) :
    (e.share? t).isSome = e.isCarriedBy t := by
  rw [he.share?_eq_ofInt]
  cases e.isCarriedBy t <;> rfl

theorem isCarriedBy_iff : e.isCarriedBy t = true ↔ t.Has e.columns := List.all_eq_true

theorem IsSummable.share?_eq_none (he : e.IsSummable) (t : Tuple) :
    e.share? t = none ↔ ∃ c ∈ e.columns, t.lookup c = none := by
  rw [← Option.not_isSome_iff_eq_none, he.isSome_share?, isCarriedBy_iff, Tuple.Has]
  push Not
  exact exists_congr fun c => and_congr_right fun _ => Option.not_isSome_iff_eq_none

/-! ## Their notices -/

/-- A product has no notice of its own, and that on a column comes from the right factor only
    if the left one has a value. -/
theorem evalNotices_product :
    (arithmetic l .multiply r).evalNotices t =
      l.evalNotices t ++ if (l.share? t).isSome then r.evalNotices t else [] := by
  rw [evalNotices, share?_eq_number?, number?]
  rcases int? (l.eval? t) with _ | a
  · rfl
  · rcases int? (r.eval? t) with _ | b <;> simp [Arithmetic.value?]

/-- Notices of which a column has one if it is lacking, and a product those of its left factor
    and behind them, if that has a value, those of its right one, are on the first column that is
    lacking. -/
theorem IsSummable.notices_eq (he : e.IsSummable) {notices : Expr → List Notice}
    {note : ColumnRef → Notice} (hliteral : ∀ n, notices (.literal (.int n)) = [])
    (hcolumn : ∀ c, notices (.column c) = if (t.lookup c).isNone then [note c] else [])
    (hproduct : ∀ l r, notices (arithmetic l .multiply r) =
      notices l ++ if (l.share? t).isSome then notices r else []) :
    notices e = ((t.firstMissing? e.columns).map note).toList := by
  induction he with
  | literal n => exact hliteral n
  | column c =>
    rw [hcolumn, columns, Tuple.firstMissing?]
    cases h : (t.lookup c).isNone <;> simp [h]
  | @product l r hl hr ihl ihr =>
    rw [hproduct, ihl, ihr, columns, Tuple.firstMissing?_append, hl.isSome_share?]
    cases h : t.firstMissing? l.columns with
    | none =>
      rw [isCarriedBy_iff.2 (Tuple.firstMissing?_eq_none.1 h)]
      rfl
    | some c =>
      have hlacks : l.isCarriedBy t = false := by
        rw [Bool.eq_false_iff, Ne, isCarriedBy_iff, ← Tuple.firstMissing?_eq_none, h]
        exact Option.some_ne_none c
      rw [hlacks]
      rfl

/-- On an expression that a sum can be taken of, both evaluations give the same integer on any
    tuple. Both have no value exactly if the tuple lacks a column of the expression; they then tell
    of the first such column, and of nothing else. -/
theorem evaluations_agree (h : e.unsummable? = none) (t : Tuple) :
    e.eval? t = (e.share? t).map .int ∧
    (e.share? t = none ↔ ∃ c ∈ e.columns, t.lookup c = none) ∧
    (e.eval? t = none ↔ ∃ c ∈ e.columns, t.lookup c = none) ∧
    e.shareNotices t = ((t.firstMissing? e.columns).map (.leftOutOfSum · t)).toList ∧
    e.evalNotices t = ((t.firstMissing? e.columns).map (.columnMissing · t)).toList := by
  have he : e.IsSummable := unsummable?_eq_none.1 h
  have hshare := he.share?_eq_none t
  refine ⟨he.eval?_eq t, hshare, ?_, ?_, ?_⟩
  · rw [he.eval?_eq, Option.map_eq_none_iff, hshare]
  · exact he.notices_eq (fun _ => rfl) (fun _ => rfl) fun _ _ => rfl
  · exact he.notices_eq (fun _ => rfl) (fun _ => rfl) fun _ _ => evalNotices_product

end Expr

namespace Sample

/-- `R.a * (S.c * (3 * R.b))`. -/
def acrossTables : Expr :=
  .arithmetic (.column ⟨some "R", "a"⟩) .multiply
    (.arithmetic (.column ⟨some "S", "c"⟩) .multiply
      (.arithmetic (.literal (.int 3)) .multiply (.column ⟨some "R", "b"⟩)))

/-- A row of each of the tables, side by side. -/
def bothRows : Tuple :=
  (Tuple.ofRow "R" ["a", "b"] [2, 5]).merge (.ofRow "S" ["a", "c"] [7, 200000000])

/-- A row of `S` alone. -/
def loneRow : Tuple := .ofRow "S" ["a", "c"] [7, 200000000]

/-- The product wraps around on the two rows; on the row that lacks two of its columns, there is a
    notice on the first one only. -/
theorem acrossTables_agree :
    acrossTables.unsummable? = none ∧
    acrossTables.eval? bothRows = some (.int 1705032704) ∧
    acrossTables.share? bothRows = some 1705032704 ∧
    acrossTables.eval? loneRow = none ∧ acrossTables.share? loneRow = none ∧
    acrossTables.shareNotices loneRow = [.leftOutOfSum ⟨some "R", "a"⟩ loneRow] ∧
    acrossTables.evalNotices loneRow = [.columnMissing ⟨some "R", "a"⟩ loneRow] := by
  have hsum : acrossTables.unsummable? = none := rfl
  have hwrapped : acrossTables.share? bothRows = some 1705032704 := by decide +kernel
  have hlacks : ∃ c ∈ acrossTables.columns, loneRow.lookup c = none := by decide
  obtain ⟨hvalue, -⟩ := Expr.evaluations_agree hsum bothRows
  obtain ⟨-, hshare, heval, hleft, hmissing⟩ := Expr.evaluations_agree hsum loneRow
  rw [hwrapped] at hvalue
  exact ⟨hsum, hvalue, hwrapped, heval.2 hlacks, hshare.2 hlacks, hleft, hmissing⟩

end Sample

/-! ## What evaluation reads -/

/-- A notice with a tuple in place of the one that it shows, if it shows one. -/
def Notice.showing (t : Tuple) : Notice → Notice
  | columnMissing c _ => .columnMissing c t
  | notEvaluated e _ => .notEvaluated e t
  | itemMissing i _ => .itemMissing i t
  | leftOutOfGroups c _ => .leftOutOfGroups c t
  | leftOutOfSum c _ => .leftOutOfSum c t
  | sortKeyIgnored c _ => .sortKeyIgnored c t
  | leftOutOfDistinct c _ => .leftOutOfDistinct c t
  | n => n

namespace Expr

variable {e : Expr}

/-- A scalar gives the same notices on tuples on which its columns have the same values. -/
theorem evalNotices_congr (h : ∀ c ∈ e.columns, t.lookup c = u.lookup c) :
    e.evalNotices u = (e.evalNotices t).map (·.showing u) := by
  induction e with
  | literal v => rfl
  | compare l op r => rfl
  | and l r => rfl
  | column c =>
    rw [evalNotices, evalNotices, h c (List.mem_singleton_self c)]
    cases (u.lookup c).isNone <;> rfl
  | arithmetic l op r ihl ihr =>
    obtain ⟨hl, hr⟩ := List.forall_mem_append.1 h
    rw [evalNotices, evalNotices, ihl hl, ihr hr, eval?_congr hl, eval?_congr hr, List.map_append]
    congr 1
    rcases int? (l.eval? u) with _ | a
    · rfl
    rcases int? (r.eval? u) with _ | b
    · simp
    · cases h : op.value? a b <;> simp [h, Notice.showing]

/-- A predicate gives the same notices on tuples on which its columns have the same values. -/
theorem holdsNotices_congr (h : ∀ c ∈ e.columns, t.lookup c = u.lookup c) :
    e.holdsNotices u = (e.holdsNotices t).map (·.showing u) := by
  induction e with
  | literal v => rfl
  | column c => rfl
  | arithmetic l op r => rfl
  | compare l op r =>
    obtain ⟨hl, hr⟩ := List.forall_mem_append.1 h
    rw [holdsNotices, holdsNotices, evalNotices_congr hl, evalNotices_congr hr, List.map_append]
  | and l r ihl ihr =>
    obtain ⟨hl, hr⟩ := List.forall_mem_append.1 h
    rw [holdsNotices, holdsNotices, ihl hl, ihr hr, List.map_append]

end Expr

/-! ## The tables of an expression -/

namespace Names

theorem pairwise_insert {s : String} {names : List String} (h : names.Pairwise (· < ·)) :
    (insert s names).Pairwise (· < ·) := by
  induction names with
  | nil => exact List.pairwise_singleton _ s
  | cons name names ih =>
    obtain ⟨hname, hnames⟩ := List.pairwise_cons.1 h
    rw [insert]
    split
    · rename_i hlt
      refine List.pairwise_cons.2 ⟨List.forall_mem_cons.2 ⟨hlt, fun other hother => ?_⟩, h⟩
      exact String.lt_trans hlt (hname other hother)
    · rename_i hnot
      split
      · exact h
      · rename_i hne
        refine List.pairwise_cons.2 ⟨fun other hother => ?_, ih hnames⟩
        rcases mem_insert.1 hother with rfl | hother
        · exact Std.lt_of_le_of_ne (String.not_lt.1 hnot) (Ne.symm hne)
        · exact hname other hother

/-- The set of the members of a list is in ascending order, and has no member twice. -/
theorem pairwise_ofList (names : List String) : (ofList names).Pairwise (· < ·) := by
  induction names with
  | nil => exact .nil
  | cons name names ih => exact pairwise_insert ih

end Names

/-- An expression has the same value, holds alike and gives the same notices, but for the tuple
    that they show, on any two tuples on which each column that it reports has the same value or is
    lacking in both. The tables that it reports are those that its columns name, in ascending
    order, each once. -/
theorem Expr.reads_columns (e : Expr) :
    (∀ t u : Tuple, (∀ c ∈ e.columns, t.lookup c = u.lookup c) →
      e.eval? t = e.eval? u ∧ e.holds t = e.holds u ∧
      e.evalNotices u = (e.evalNotices t).map (·.showing u) ∧
      e.holdsNotices u = (e.holdsNotices t).map (·.showing u)) ∧
    (∀ name, name ∈ e.tables ↔ ∃ c ∈ e.columns, c.table = some name) ∧
    e.tables.Pairwise (· < ·) := by
  refine ⟨fun t u h => ?_, fun _ => mem_tables, Names.pairwise_ofList _⟩
  exact ⟨eval?_congr h, holds_congr h, evalNotices_congr h, holdsNotices_congr h⟩

namespace Sample

/-- `b / R.d`, where `b` is of whichever table comes first. -/
def quotient : Expr := .arithmetic (.column ⟨none, "b"⟩) .divide (.column ⟨some "R", "d"⟩)

/-- `S.c < R.a * 2 AND b / R.d = 1`. -/
def ofQuotient : Expr :=
  .and (.compare (.column ⟨some "S", "c"⟩) .less
      (.arithmetic (.column ⟨some "R", "a"⟩) .multiply (.literal (.int 2))))
    (.compare quotient .equal (.literal (.int 1)))

/-- A row of `R` with the columns that the predicate reads of it. -/
def narrow : Tuple := .ofRow "R" ["a", "b", "d"] [1, 4, 0]

/-- The same values in another order, one of them in another table, among other values. -/
def wide : Tuple := ⟨[⟨"T", "a", 8⟩, ⟨"R", "d", 0⟩, ⟨"T", "b", 4⟩, ⟨"R", "b", 5⟩, ⟨"R", "a", 1⟩]⟩

/-- A column that is lacking in both tuples and a division by zero are told of both. -/
theorem ofQuotient_reads_columns :
    (∀ c ∈ ofQuotient.columns, narrow.lookup c = wide.lookup c) ∧
    quotient.eval? narrow = quotient.eval? wide ∧
    ofQuotient.holds narrow = ofQuotient.holds wide ∧
    ofQuotient.holdsNotices narrow =
      [.columnMissing ⟨some "S", "c"⟩ narrow, .notEvaluated quotient narrow] ∧
    ofQuotient.holdsNotices wide =
      [.columnMissing ⟨some "S", "c"⟩ wide, .notEvaluated quotient wide] ∧
    ofQuotient.tables = ["R", "S"] ∧ ofQuotient.tables.Pairwise (· < ·) := by
  have hsame : ∀ c ∈ ofQuotient.columns, narrow.lookup c = wide.lookup c := by decide
  have hnarrow : ofQuotient.holdsNotices narrow =
      [.columnMissing ⟨some "S", "c"⟩ narrow, .notEvaluated quotient narrow] := by decide
  obtain ⟨hreads, -, hascending⟩ := ofQuotient.reads_columns
  obtain ⟨-, hholds, -, hnotices⟩ := hreads narrow wide hsame
  obtain ⟨heval, -⟩ := quotient.reads_columns.1 narrow wide fun c hc =>
    hsame c (List.mem_append_right _ (List.mem_append_left _ hc))
  rw [hnarrow] at hnotices
  exact ⟨hsame, heval, hholds, hnarrow, hnotices, by decide, hascending⟩

end Sample

end CsvQuery
