import CsvQuery.Cursor.Filter

/-!
# Pairs of tuples

A join pairs each tuple of its left cursor with every tuple of its right one, and keeps the pairs
that satisfy a condition. The right cursor is put back to its first tuple after each pass.

* `Join.State`: the states of both cursors and the left tuple in hand.
* `Join.cursor`: the cursor over the pairs.
-/

namespace CsvQuery.Join

/-- Where a join of two cursors stands. -/
structure State (σ τ : Type) where
  left : σ
  right : τ
  /-- The left tuple that is being paired. -/
  inHand : Option Tuple
  /-- Whether the left cursor has come to its end. -/
  atEnd : Bool

variable {σ τ : Type}

/-- A join of two cursors, before its first pair. -/
def State.start (left : σ) (right : τ) : State σ τ := ⟨left, right, none, false⟩

/-- How far a join is from its end: first by its left cursor, then by whether a left tuple is in
    hand, then by its right cursor. -/
def State.rank {l : Cursor σ} {r : Cursor τ} (s : State σ τ) : l.At × Nat × r.At :=
  (⟨s.left⟩, if s.inHand.isSome then 1 else 0, ⟨s.right⟩)

/-- Whether a join is nearer to its end in one state than in another one. -/
def Nearer (l : Cursor σ) (r : Cursor τ) (s' s : State σ τ) : Prop :=
  WellFoundedRelation.rel (s'.rank : l.At × Nat × r.At) s.rank

theorem nearer_of_left {l : Cursor σ} {r : Cursor τ} {s' s : State σ τ}
    (h : Pulls l.next s'.left s.left) : Nearer l r s' s :=
  Prod.Lex.left _ _ h

theorem nearer_of_right {l : Cursor σ} {r : Cursor τ} {s : State σ τ} {right : τ}
    (h : Pulls r.next right s.right) :
    Nearer l r { s with right } s := by
  unfold Nearer State.rank
  exact Prod.Lex.right _ (Prod.Lex.right _ h)

theorem nearer_of_hand {l : Cursor σ} {r : Cursor τ} {s' s : State σ τ} {t : Tuple}
    (hand : s.inHand = some t) (left : s'.left = s.left) (empty : s'.inHand = none) :
    Nearer l r s' s := by
  unfold Nearer State.rank
  rw [left, empty, hand]
  exact Prod.Lex.right _ (Prod.Lex.left _ _ Nat.one_pos)

/-- The next pair that a condition keeps. -/
def next (p : Condition) (l : Cursor σ) (r : Cursor τ) (files : Files) (s : State σ τ) :
    Reply (Option Tuple) (State σ τ) :=
  if s.atEnd then ⟨.ok none, s, []⟩
  else match _hand : s.inHand with
    | none =>
      match _h : l.next files s.left with
      | ⟨.ok (some t), left, ns⟩ =>
        (next p l r files { s with left, inHand := some t }).after ns
      | ⟨.ok none, left, ns⟩ => ⟨.ok none, { s with left, atEnd := true }, ns⟩
      | ⟨.error e, left, ns⟩ => ⟨.error e, { s with left }, ns⟩
    | some t =>
      match _h : r.next files s.right with
      | ⟨.ok (some u), right, ns⟩ =>
        let pair := t.merge u
        if p.keeps pair then ⟨.ok (some pair), { s with right }, ns ++ p.notices pair⟩
        else (next p l r files { s with right }).after (ns ++ p.notices pair)
      | ⟨.ok none, right, ns⟩ =>
        match r.reset files right with
        | ⟨.ok (), right, ms⟩ =>
          (next p l r files { s with right, inHand := none }).after (ns ++ ms)
        | ⟨.error e, right, ms⟩ => ⟨.error e, { s with right }, ns ++ ms⟩
      | ⟨.error e, right, ns⟩ => ⟨.error e, { s with right }, ns⟩
termination_by s.rank (l := l) (r := r)
decreasing_by
  · exact nearer_of_left (pulls_of_eq _h)
  · exact nearer_of_right (pulls_of_eq _h)
  · exact nearer_of_hand _hand rfl rfl

theorem transGen_of_next (p : Condition) (l : Cursor σ) (r : Cursor τ) (files : Files)
    (s : State σ τ) {t : Tuple} (h : (next p l r files s).result = .ok (some t)) :
    Relation.TransGen (Nearer l r) (next p l r files s).state s := by
  fun_induction next p l r files s with
  | case1 | case3 | case4 | case8 | case9 => simp at h
  | case2 s _ _ u left ns hn ih => exact (ih h).tail (nearer_of_left (pulls_of_eq hn))
  | case5 s _ t hand u right ns hn pair keep =>
    exact .single (nearer_of_right (pulls_of_eq hn))
  | case6 s _ t hand u right ns hn pair keep ih =>
    exact (ih h).tail (nearer_of_right (pulls_of_eq hn))
  | case7 s _ t hand right ns hn right' ms hr ih => exact (ih h).tail (nearer_of_hand hand rfl rfl)

/-- Goes back to the first pair: both cursors go back, the left one first. -/
def reset (l : Cursor σ) (r : Cursor τ) (files : Files) (s : State σ τ) :
    Reply Unit (State σ τ) :=
  match l.reset files s.left with
  | ⟨.error e, left, ns⟩ => ⟨.error e, { s with left }, ns⟩
  | ⟨.ok (), left, ns⟩ =>
    match r.reset files s.right with
    | ⟨.error e, right, ms⟩ => ⟨.error e, { s with left, right }, ns ++ ms⟩
    | ⟨.ok (), right, ms⟩ => ⟨.ok (), .start left right, ns ++ ms⟩

/-- The cursor over the pairs of the tuples of two others that a condition keeps. -/
def cursor (p : Condition) (l : Cursor σ) (r : Cursor τ) : Cursor (State σ τ) where
  next := next p l r
  reset := reset l r
  ends := Subrelation.wf (fun ⟨files, _, h, hs⟩ => hs ▸ transGen_of_next p l r files _ h)
    (InvImage.wf State.rank WellFoundedRelation.wf).transGen

end CsvQuery.Join
