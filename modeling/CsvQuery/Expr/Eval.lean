import CsvQuery.Notice

/-!
# Values of expressions on a tuple

An expression without a value on a tuple is no failure: what depends on it has no value either, and
a comparison with it does not hold.

* `Expr.eval?`: the value of a scalar.
* `Expr.holds`: whether a predicate holds.
* `Expr.evalNotices`, `Expr.holdsNotices`: the notices that go with them.
-/

namespace CsvQuery

/-- Whether a comparison holds between two members of an order. -/
def Comparison.test {α : Type} [DecidableEq α] [LT α] [DecidableLT α] (op : Comparison)
    (a b : α) : Bool :=
  match op with
  | equal => a = b
  | greater => b < a
  | less => a < b
  | atMost => !(b < a)
  | atLeast => !(a < b)
  | unequal => a ≠ b

/-- Whether a comparison holds between two values: both are integers or both are texts. -/
def Comparison.holds (op : Comparison) : Value → Value → Bool
  | .int a, .int b => op.test a b
  | .text a, .text b => op.test a b
  | _, _ => false

/-- The result of an operator on two words of 32 bits, which wraps around. A quotient is cut off
    toward zero, and there is none by zero. -/
def Arithmetic.value? (op : Arithmetic) (a b : Int32) : Option Int32 :=
  match op with
  | add => some (a + b)
  | subtract => some (a - b)
  | multiply => some (a * b)
  | divide => if b = 0 then none else some (a / b)

namespace Expr

/-- The integer that a scalar stands for on a tuple. -/
def int? (v : Option Value) : Option Int32 := v.bind Value.int?

/-- The value of a scalar on a tuple. A predicate has none. -/
def eval? (t : Tuple) : Expr → Option Value
  | literal v => some v
  | column c => (t.lookup c).map .int
  | arithmetic l op r => do
    let a ← int? (l.eval? t)
    let b ← int? (r.eval? t)
    (op.value? a b).map .int
  | compare .. | and .. => none

/-- The notices on the way to the value of a scalar. The right operand is not looked at unless the
    left one is an integer. -/
def evalNotices (t : Tuple) : Expr → List Notice
  | literal _ => []
  | column c => if (t.lookup c).isNone then [.columnMissing c t] else []
  | arithmetic l op r =>
    l.evalNotices t ++
      match int? (l.eval? t) with
      | none => []
      | some a =>
        r.evalNotices t ++
          match int? (r.eval? t) with
          | none => []
          | some b =>
            if (op.value? a b).isNone then [.notEvaluated (arithmetic l op r) t] else []
  | compare .. | and .. => []

/-- Whether a predicate holds on a tuple. A scalar does not. -/
def holds (t : Tuple) : Expr → Bool
  | and l r => l.holds t && r.holds t
  | compare l op r =>
    match l.eval? t, r.eval? t with
    | some a, some b => op.holds a b
    | _, _ => false
  | literal _ | column _ | arithmetic .. => false

/-- The notices on the way to the truth of a predicate. Both sides of a conjunction and of a
    comparison are looked at, whatever the left one gives. -/
def holdsNotices (t : Tuple) : Expr → List Notice
  | and l r => l.holdsNotices t ++ r.holdsNotices t
  | compare l _ r => l.evalNotices t ++ r.evalNotices t
  | e => [.notPredicate e]

/-- The truth of a predicate on a tuple, with its notices. -/
def check (e : Expr) (t : Tuple) : Logged Bool := ⟨e.holds t, e.holdsNotices t⟩

end Expr

end CsvQuery
