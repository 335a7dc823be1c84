import CsvQuery.Cursor
import CsvQuery.Expr.Eval

/-!
# The tuples that a predicate keeps

* `Condition`: a predicate that may be absent, and then keeps every tuple.
* `Filter.cursor`: the cursor over the tuples of another one that a condition keeps.
-/

namespace CsvQuery

/-- A predicate, or none. -/
abbrev Condition := Option Expr

/-- Whether a condition keeps a tuple. -/
def Condition.keeps (p : Condition) (t : Tuple) : Bool := p.all (·.holds t)

/-- The notices on the way to that. -/
def Condition.notices (p : Condition) (t : Tuple) : List Notice :=
  p.elim [] (·.holdsNotices t)

namespace Filter

variable {σ : Type}

/-- The next tuple that a condition keeps. -/
def next (p : Condition) (c : Cursor σ) (files : Files) (s : σ) : Reply (Option Tuple) σ :=
  match _h : c.next files s with
  | ⟨.ok (some t), s', ns⟩ =>
    if p.keeps t then ⟨.ok (some t), s', ns ++ p.notices t⟩
    else (next p c files s').after (ns ++ p.notices t)
  | r => r
termination_by (⟨s⟩ : c.At)
decreasing_by exact pulls_of_eq _h

theorem transGen_of_next (p : Condition) (c : Cursor σ) (files : Files) (s : σ) {t : Tuple}
    (h : (next p c files s).result = .ok (some t)) :
    Relation.TransGen (Pulls c.next) (next p c files s).state s := by
  fun_induction next p c files s with
  | case1 s u v ns hn keep => exact .single (pulls_of_eq hn)
  | case2 s u v ns hn keep ih => exact (ih h).tail (pulls_of_eq hn)
  | case3 s hr => exact .single ⟨files, t, h, rfl⟩

/-- The cursor over the tuples of another one that a condition keeps. -/
def cursor (p : Condition) (c : Cursor σ) : Cursor σ where
  next := next p c
  reset := c.reset
  ends := Subrelation.wf (fun ⟨files, _, h, hs⟩ => hs ▸ transGen_of_next p c files _ h)
    c.ends.transGen

end Filter

end CsvQuery
