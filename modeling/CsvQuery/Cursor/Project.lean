import CsvQuery.Cursor

/-!
# The items to show of each tuple

Items are found by their names alone, whatever table they are of. An item that a tuple lacks is
left out of it with a notice.

* `Projection.tuple`: what a projection shows of a tuple.
* `Project.cursor`: the cursor over what a projection shows of the tuples of another one.
-/

namespace CsvQuery

namespace Projection

/-- The attributes of a tuple that items name, in the order of the items. -/
def pick (items : List SelectItem) (t : Tuple) : Tuple :=
  ⟨items.filterMap fun item => t.find? item.name⟩

/-- What a projection shows of a tuple. -/
def tuple (p : Projection) (t : Tuple) : Tuple := if p.isAll then t else pick p.items t

/-- The notices on the items that a tuple lacks. -/
def notices (p : Projection) (t : Tuple) : List Notice :=
  (p.items.filter fun item => (t.find? item.name).isNone).map (.itemMissing · t)

end Projection

namespace Project

variable {σ : Type}

/-- What a projection shows of the next tuple. -/
def next (p : Projection) (c : Cursor σ) (files : Files) (s : σ) : Reply (Option Tuple) σ :=
  match c.next files s with
  | ⟨.ok (some t), s', ns⟩ => ⟨.ok (some (p.tuple t)), s', ns ++ p.notices t⟩
  | r => r

theorem pulls_of_next (p : Projection) (c : Cursor σ) {s s' : σ} (h : Pulls (next p c) s' s) :
    Pulls c.next s' s := by
  obtain ⟨files, t, h, rfl⟩ := h
  unfold next at *
  split at h
  · exact pulls_of_eq ‹_›
  · exact ⟨files, t, h, rfl⟩

/-- The cursor over what a projection shows of the tuples of another one. -/
def cursor (p : Projection) (c : Cursor σ) : Cursor σ where
  next := next p c
  reset := c.reset
  ends := Subrelation.wf (pulls_of_next p c) c.ends

end Project

end CsvQuery
