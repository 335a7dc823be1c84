import CsvQuery.Cursor

/-!
# Tuples at hand

A cursor over a list of tuples that are known from the start.
-/

namespace CsvQuery

/-- A list of tuples and what is left of it. -/
structure Replay where
  rows : List Tuple
  rest : List Tuple
  deriving DecidableEq, Repr

namespace Replay

/-- All of a list. -/
def start (rows : List Tuple) : Replay := ⟨rows, rows⟩

/-- The next tuple of a list. -/
def next (_ : Files) (s : Replay) : Reply (Option Tuple) Replay :=
  match s.rest with
  | [] => ⟨.ok none, s, []⟩
  | t :: rest => ⟨.ok (some t), { s with rest }, []⟩

theorem length_next {files : Files} {s : Replay} {t : Tuple}
    (h : (next files s).result = .ok (some t)) :
    (next files s).state.rest.length < s.rest.length := by
  unfold next at *
  split at h <;> simp_all

/-- The cursor over a list. -/
def cursor : Cursor Replay where
  next := next
  reset _ s := ⟨.ok (), start s.rows, []⟩
  ends := Cursor.ends_of_length rest length_next

end Replay

end CsvQuery
