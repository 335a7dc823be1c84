import CsvQuery.Proofs.Rows

/-!
# When a call to go back fails

Going back can fail because a file is away, or because a row that is read again
is malformed. A scan and an aggregation then stay where they are: they take over
nothing of what a failed call has read. A join puts its cursors back one after
the other. If the left one is back and the right one fails, the join goes on
with its tuple in hand and then with all left tuples anew
(`Sample.crossed_repeats`), unless it has come to its end. Whatever a failed
call did, a later one that succeeds makes up for it.

* `Cursor.Rewinds`: states that calls cannot tell apart, and what going back depends on.
* `Filter.rewinds`, `Project.rewinds`, `Join.rewinds`, `Aggregate.rewinds`: the same for an
  operation from the cursors below it.
* `Plan.StaysPut`: whether no join of a plan has put back its left side only.
* `Opened.after_failed_reset`: what a failed call to go back leaves unchanged.
-/

namespace CsvQuery

/-- Two replies give the same result and leave states that are alike. -/
def Reply.Alike {α σ : Type} (alike : σ → σ → Prop) (r r' : Reply α σ) : Prop :=
  r.result = r'.result ∧ alike r.state r'.state

/-- Two replies are the same, or both of them tell of the same failure. -/
def Reply.SameUnlessFailed {α σ : Type} (r r' : Reply α σ) : Prop :=
  r = r' ∨ ∃ e, r.result = .error e ∧ r'.result = .error e

theorem Reply.eq_of_result {α σ : Type} {r : Reply α σ} {a : Except QueryError α}
    (h : r.result = a) : r = ⟨a, r.state, r.notices⟩ := by
  rw [← h]

theorem Reply.Alike.exists_eq {α σ : Type} {alike : σ → σ → Prop} {r r' : Reply α σ}
    {a : Except QueryError α} {s : σ} {ns : List Notice} (h : Reply.Alike alike r r')
    (hr : r = ⟨a, s, ns⟩) : ∃ s' ns', r' = ⟨a, s', ns'⟩ ∧ alike s s' := by
  obtain ⟨a', s', ns'⟩ := r'
  obtain ⟨ha, hs⟩ := h
  subst hr
  cases ha
  exact ⟨s', ns', rfl, hs⟩

/-- No call tells states of a cursor apart that are alike. What going back gives depends on the
    origin of a state only, which no call changes, and unless it fails, so does where it leads. -/
structure Cursor.Rewinds {σ α : Type} (c : Cursor σ) (origin : σ → α) (alike : σ → σ → Prop) :
    Prop where
  origin_next : ∀ files s, origin (c.next files s).state = origin s
  origin_reset : ∀ files s, origin (c.reset files s).state = origin s
  refl : ∀ s, alike s s
  origin_of_alike : ∀ {s s'}, alike s s' → origin s = origin s'
  next : ∀ files {s s'}, alike s s' → Reply.Alike alike (c.next files s) (c.next files s')
  reset : ∀ files {s s'}, origin s = origin s' →
    (c.reset files s).SameUnlessFailed (c.reset files s')
  reset_alike : ∀ files {s s'}, alike s s' → Reply.Alike alike (c.reset files s) (c.reset files s')

variable {σ τ α β : Type}

/-! ## Tuples at hand and rows of tables -/

theorem Replay.rewinds : Replay.cursor.Rewinds Replay.rows Eq where
  origin_next := by
    rintro files ⟨rows, rest⟩
    cases rest <;> rfl
  origin_reset _ _ := rfl
  refl _ := rfl
  origin_of_alike h := congrArg _ h
  next := by
    rintro files s _ rfl
    exact ⟨rfl, rfl⟩
  reset := by
    rintro files ⟨rows, rest⟩ ⟨_, rest'⟩ rfl
    exact .inl rfl
  reset_alike := by
    rintro files s _ rfl
    exact ⟨rfl, rfl⟩

/-- A scan that fails to go back is where it was. -/
theorem Scan.state_of_reset_error {files : Files} {s : Scan} {e : QueryError}
    (he : (Scan.reset files s).result = .error e) : (Scan.reset files s).state = s := by
  rw [Scan.reset] at he ⊢
  cases h : Scan.openTable s.table files with
  | ok s' =>
    rw [h] at he
    cases he
  | error e' => rfl

theorem Scan.rewinds : Scan.cursor.Rewinds Scan.table Eq where
  origin_next := by
    rintro files ⟨t, rest⟩
    match rest with
    | .error _ | .ok [] | .ok (_ :: _) => rfl
  origin_reset := by
    rintro files ⟨t, rest⟩
    simp only [Scan.cursor, Scan.reset, Scan.openTable]
    cases Scan.rows (files t.path) <;> rfl
  refl _ := rfl
  origin_of_alike h := congrArg _ h
  next := by
    rintro files s _ rfl
    exact ⟨rfl, rfl⟩
  reset := by
    rintro files ⟨t, rest⟩ ⟨_, rest'⟩ rfl
    simp only [Scan.cursor, Scan.reset, Scan.openTable]
    cases Scan.rows (files t.path) with
    | ok rs => exact .inl rfl
    | error cause => exact .inr ⟨_, rfl, rfl⟩
  reset_alike := by
    rintro files s _ rfl
    exact ⟨rfl, rfl⟩

/-! ## Operations on one cursor -/

section
variable {c : Cursor σ} {origin : σ → α} {alike : σ → σ → Prop}

theorem Cursor.Rewinds.origin_of_next (h : c.Rewinds origin alike) {files : Files} {s s' : σ}
    {a : Except QueryError (Option Tuple)} {ns : List Notice}
    (hn : c.next files s = ⟨a, s', ns⟩) : origin s' = origin s := by
  rw [← h.origin_next files s, hn]

theorem Cursor.Rewinds.origin_of_reset (h : c.Rewinds origin alike) {files : Files} {s s' : σ}
    {a : Except QueryError Unit} {ns : List Notice}
    (hr : c.reset files s = ⟨a, s', ns⟩) : origin s' = origin s := by
  rw [← h.origin_reset files s, hr]

theorem Filter.origin_next (h : c.Rewinds origin alike) (p : Condition) (files : Files) (s : σ) :
    origin (Filter.next p c files s).state = origin s := by
  fun_induction Filter.next p c files s with
  | case1 s t s' ns hn _ => exact h.origin_of_next hn
  | case2 s t s' ns hn _ ih => exact ih.trans (h.origin_of_next hn)
  | case3 s _ => exact h.origin_next files s

/-- A filter goes through the same tuples from states that are alike. -/
theorem Filter.next_alike (h : c.Rewinds origin alike) (p : Condition) (files : Files) {s s' : σ}
    (hs : alike s s') :
    Reply.Alike alike (Filter.next p c files s) (Filter.next p c files s') := by
  fun_induction Filter.next p c files s generalizing s' with
  | case1 s t s₁ ns hn keep =>
    obtain ⟨s₁', ns', hn', hs₁⟩ := (h.next files hs).exists_eq hn
    rw [Filter.next_tuple hn', if_pos keep]
    exact ⟨rfl, hs₁⟩
  | case2 s t s₁ ns hn keep ih =>
    obtain ⟨s₁', ns', hn', hs₁⟩ := (h.next files hs).exists_eq hn
    rw [Filter.next_tuple hn', if_neg keep]
    exact ih hs₁
  | case3 s hother =>
    have hn := h.next files hs
    rw [Filter.next_other]
    · exact hn
    · intro t ht
      rw [← hn.1] at ht
      exact hother t _ _ (by rw [← ht])

theorem Filter.rewinds (h : c.Rewinds origin alike) (p : Condition) :
    (Filter.cursor p c).Rewinds origin alike where
  origin_next := Filter.origin_next h p
  origin_reset := h.origin_reset
  refl := h.refl
  origin_of_alike := h.origin_of_alike
  next files _ _ := Filter.next_alike h p files
  reset := h.reset
  reset_alike := h.reset_alike

theorem Project.rewinds (h : c.Rewinds origin alike) (p : Projection) :
    (Project.cursor p c).Rewinds origin alike where
  origin_next files s := by
    rw [← h.origin_next files s]
    simp only [Project.cursor, Project.next]
    split <;> simp_all
  origin_reset := h.origin_reset
  refl := h.refl
  origin_of_alike := h.origin_of_alike
  next files s s' hs := by
    have hn := h.next files hs
    simp only [Project.cursor, Project.next]
    generalize hr : c.next files s = r at hn
    obtain ⟨a, s₁, ns⟩ := r
    obtain ⟨s₁', ns', hn', hs₁⟩ := hn.exists_eq rfl
    rw [hn']
    rcases a with e | t | t <;> exact ⟨rfl, hs₁⟩
  reset := h.reset
  reset_alike := h.reset_alike

/-- Pulling all tuples does not change where going back leads. -/
theorem Cursor.Rewinds.origin_collect (h : c.Rewinds origin alike) (note : Tuple → List Notice)
    (files : Files) (s : σ) : origin (c.collect note files s).state = origin s := by
  fun_induction Cursor.collect c note files s with
  | case1 s t s' ns hn others ih => exact ih.trans (h.origin_of_next hn)
  | case2 s s' ns hn | case3 s e s' ns hn => exact h.origin_of_next hn

/-- Reading a cursor to its end does not change where going back leads. -/
theorem Aggregate.origin_fill (h : c.Rewinds origin alike) (columns : List ColumnRef)
    (sums : List SumCall) (files : Files) (s : Aggregate.State σ) :
    origin (Aggregate.fill columns sums c files s).state.child = origin s.child := by
  rw [← h.origin_collect (Aggregate.groupingNotices columns) files s.child, Aggregate.fill]
  split <;> simp_all

theorem Aggregate.origin_reset (h : c.Rewinds origin alike) (columns : List ColumnRef)
    (sums : List SumCall) (files : Files) (s : Aggregate.State σ) :
    origin (Aggregate.reset columns sums c files s).state.child = origin s.child := by
  rw [Aggregate.reset]
  split
  · rename_i child ns hr
    exact (Aggregate.origin_fill h ..).trans (h.origin_of_reset hr)
  · rename_i hr
    exact h.origin_of_reset hr

theorem Aggregate.rest_of_fill_error {columns : List ColumnRef} {sums : List SumCall}
    {files : Files} {s : Aggregate.State σ} {e : QueryError}
    (he : (Aggregate.fill columns sums c files s).result = .error e) :
    (Aggregate.fill columns sums c files s).state.rest = s.rest := by
  rw [Aggregate.fill] at he ⊢
  generalize c.collect (Aggregate.groupingNotices columns) files s.child = r at he ⊢
  obtain ⟨e' | ts, child, ns⟩ := r
  · rfl
  · cases he

/-- An aggregation that fails to go back keeps the groups at hand. -/
theorem Aggregate.rest_of_reset_error {columns : List ColumnRef} {sums : List SumCall}
    {files : Files} {s : Aggregate.State σ} {e : QueryError}
    (he : (Aggregate.reset columns sums c files s).result = .error e) :
    (Aggregate.reset columns sums c files s).state.rest = s.rest := by
  rw [Aggregate.reset] at he ⊢
  generalize c.reset files s.child = r at he ⊢
  obtain ⟨e' | _, child, ns⟩ := r
  · rfl
  · exact Aggregate.rest_of_fill_error (s := ⟨child, s.rest⟩) he

/-- Going back gives the same whatever groups are at hand, unless it fails. -/
theorem Aggregate.reset_same (h : c.Rewinds origin alike) (columns : List ColumnRef)
    (sums : List SumCall) (files : Files) {s s' : Aggregate.State σ}
    (ho : origin s.child = origin s'.child) :
    (Aggregate.reset columns sums c files s).SameUnlessFailed
      (Aggregate.reset columns sums c files s') := by
  rw [Aggregate.reset, Aggregate.reset]
  rcases h.reset files ho with hr | ⟨e, he, he'⟩
  · -- The cursor below is in one and the same state when its tuples are read.
    rw [hr]
    obtain ⟨e | _, child, ns⟩ := c.reset files s'.child
    · exact .inr ⟨e, rfl, rfl⟩
    · simp only [Aggregate.fill]
      obtain ⟨e | ts, child, ms⟩ := c.collect (Aggregate.groupingNotices columns) files child
      · exact .inr ⟨e, rfl, rfl⟩
      · exact .inl rfl
  · rw [Reply.eq_of_result he, Reply.eq_of_result he']
    exact .inr ⟨e, rfl, rfl⟩

theorem Aggregate.rewinds (h : c.Rewinds origin alike) (columns : List ColumnRef)
    (sums : List SumCall) :
    (Aggregate.cursor columns sums c).Rewinds (origin ·.child)
      fun s s' => s.rest = s'.rest ∧ origin s.child = origin s'.child where
  origin_next := by
    rintro files ⟨child, rest⟩
    cases rest <;> rfl
  origin_reset := Aggregate.origin_reset h columns sums
  refl _ := ⟨rfl, rfl⟩
  origin_of_alike := And.right
  next := by
    rintro files ⟨child, rest⟩ ⟨child', _⟩ ⟨rfl, hs⟩
    cases rest with
    | nil => exact ⟨rfl, rfl, hs⟩
    | cons t rest => exact ⟨rfl, rfl, hs⟩
  reset files _ _ := Aggregate.reset_same h columns sums files
  reset_alike := by
    rintro files s s' ⟨hrest, ho⟩
    rcases Aggregate.reset_same h columns sums files ho with hr | ⟨e, he, he'⟩
    · exact ⟨congrArg _ hr, congrArg (·.state.rest) hr, congrArg (origin ·.state.child) hr⟩
    · refine ⟨he.trans he'.symm, ?_, ?_⟩
      · exact (Aggregate.rest_of_reset_error he).trans
          (hrest.trans (Aggregate.rest_of_reset_error he').symm)
      · exact (Aggregate.origin_reset h ..).trans (ho.trans (Aggregate.origin_reset h ..).symm)

end

/-! ## Joins -/

/-- States of a join that no call tells apart. At the end it does not matter what the cursors have
    left. -/
inductive Join.Alike (originLeft : σ → α) (originRight : τ → β) (alikeLeft : σ → σ → Prop)
    (alikeRight : τ → τ → Prop) (s s' : Join.State σ τ) : Prop
  | going (hs : alikeLeft s.left s'.left) (hs' : alikeRight s.right s'.right)
    (hand : s.inHand = s'.inHand) (atEnd : s.atEnd = s'.atEnd)
  | ended (ho : originLeft s.left = originLeft s'.left)
    (ho' : originRight s.right = originRight s'.right) (atEnd : s.atEnd = true)
    (atEnd' : s'.atEnd = true)

/-- What is alike to a state that is not at its end. -/
theorem Join.Alike.exists_eq {originLeft : σ → α} {originRight : τ → β} {alikeLeft : σ → σ → Prop}
    {alikeRight : τ → τ → Prop} {s s' : Join.State σ τ} {hand : Option Tuple}
    (h : Join.Alike originLeft originRight alikeLeft alikeRight s s') (going : ¬s.atEnd = true)
    (inHand : s.inHand = hand) : ∃ l r, s' = ⟨l, r, hand, false⟩ ∧ alikeLeft s.left l ∧
      alikeRight s.right r ∧ s.atEnd = false := by
  cases h with
  | going hs hs' hand atEnd =>
    have hfalse := eq_false_of_ne_true going
    exact ⟨s'.left, s'.right, by rw [← inHand, ← hfalse, hand, atEnd], hs, hs', hfalse⟩
  | ended _ _ atEnd _ => exact absurd atEnd going

section
variable {l : Cursor σ} {r : Cursor τ} {originLeft : σ → α} {originRight : τ → β}
  {alikeLeft : σ → σ → Prop} {alikeRight : τ → τ → Prop}

theorem Join.origin_next (hl : l.Rewinds originLeft alikeLeft)
    (hr : r.Rewinds originRight alikeRight) (p : Condition) (files : Files)
    (s : Join.State σ τ) : originLeft (Join.next p l r files s).state.left = originLeft s.left ∧
      originRight (Join.next p l r files s).state.right = originRight s.right := by
  fun_induction Join.next p l r files s with
  | case1 s _ => exact ⟨rfl, rfl⟩
  | case2 s _ _ t left ns hn ih => exact ⟨ih.1.trans (hl.origin_of_next hn), ih.2⟩
  | case3 s _ _ left ns hn | case4 s _ _ e left ns hn => exact ⟨hl.origin_of_next hn, rfl⟩
  | case5 s _ t _ u right ns hn | case9 s _ t _ e right ns hn =>
    exact ⟨rfl, hr.origin_of_next hn⟩
  | case6 s _ t _ u right ns hn pair _ ih => exact ⟨ih.1, ih.2.trans (hr.origin_of_next hn)⟩
  | case7 s _ t _ right ns hn right' ms hm ih =>
    exact ⟨ih.1, ih.2.trans ((hr.origin_of_reset hm).trans (hr.origin_of_next hn))⟩
  | case8 s _ t _ right ns hn e right' ms hm =>
    exact ⟨rfl, (hr.origin_of_reset hm).trans (hr.origin_of_next hn)⟩

theorem Join.origin_reset (hl : l.Rewinds originLeft alikeLeft)
    (hr : r.Rewinds originRight alikeRight) (files : Files) (s : Join.State σ τ) :
    originLeft (Join.reset l r files s).state.left = originLeft s.left ∧
      originRight (Join.reset l r files s).state.right = originRight s.right := by
  rw [Join.reset]
  split
  · rename_i hn
    exact ⟨hl.origin_of_reset hn, rfl⟩
  · rename_i hn
    split
    all_goals
      rename_i hm
      exact ⟨hl.origin_of_reset hn, hr.origin_of_reset hm⟩

/-- A join makes the same pairs from states that are alike. -/
theorem Join.next_alike (hl : l.Rewinds originLeft alikeLeft)
    (hr : r.Rewinds originRight alikeRight) (p : Condition) (files : Files)
    {s s' : Join.State σ τ} (hs : Join.Alike originLeft originRight alikeLeft alikeRight s s') :
    Reply.Alike (Join.Alike originLeft originRight alikeLeft alikeRight)
      (Join.next p l r files s) (Join.next p l r files s') := by
  -- The induction follows the search for a pair from `s`. What the cursors give there they also
  -- give in `s'`, so that the search takes the same branch.
  fun_induction Join.next p l r files s generalizing s' with
  | case1 s atEnd =>
    have atEnd' : s'.atEnd = true := by
      cases hs with
      | going _ _ _ h => exact h ▸ atEnd
      | ended _ _ _ h => exact h
    rw [Join.next_atEnd atEnd']
    exact ⟨rfl, hs⟩
  | case2 s going hand t left ns hn ih =>
    obtain ⟨s₁, s₂, rfl, hs₁, hs₂, going⟩ := hs.exists_eq going hand
    obtain ⟨left', ns', hn', hleft⟩ := (hl.next files hs₁).exists_eq hn
    rw [Join.next_fetch hn']
    exact ih (.going hleft hs₂ rfl going)
  | case3 s going hand left ns hn =>
    obtain ⟨s₁, s₂, rfl, hs₁, hs₂, going⟩ := hs.exists_eq going hand
    obtain ⟨left', ns', hn', hleft⟩ := (hl.next files hs₁).exists_eq hn
    rw [Join.next_finish hn']
    exact ⟨rfl, .going hleft hs₂ hand rfl⟩
  | case4 s going hand e left ns hn =>
    obtain ⟨s₁, s₂, rfl, hs₁, hs₂, going⟩ := hs.exists_eq going hand
    obtain ⟨left', ns', hn', hleft⟩ := (hl.next files hs₁).exists_eq hn
    rw [Join.next_fetch_error hn']
    exact ⟨rfl, .going hleft hs₂ hand going⟩
  | case5 s going t hand u right ns hn pair =>
    rename_i keep
    obtain ⟨s₁, s₂, rfl, hs₁, hs₂, going⟩ := hs.exists_eq going hand
    obtain ⟨right', ns', hn', hright⟩ := (hr.next files hs₂).exists_eq hn
    rw [Join.next_pair hn', if_pos keep]
    exact ⟨rfl, .going hs₁ hright hand going⟩
  | case6 s going t hand u right ns hn pair =>
    rename_i keep ih
    obtain ⟨s₁, s₂, rfl, hs₁, hs₂, going⟩ := hs.exists_eq going hand
    obtain ⟨right', ns', hn', hright⟩ := (hr.next files hs₂).exists_eq hn
    rw [Join.next_pair hn', if_neg keep]
    exact ih (.going hs₁ hright hand going)
  | case7 s going t hand right ns hn back ms hm ih =>
    obtain ⟨s₁, s₂, rfl, hs₁, hs₂, going⟩ := hs.exists_eq going hand
    obtain ⟨right', ns', hn', hright⟩ := (hr.next files hs₂).exists_eq hn
    -- Both right cursors go back to the very same state, as they have one origin.
    rcases hr.reset files (hr.origin_of_alike hright) with hback | ⟨e, he, -⟩
    · rw [hm] at hback
      rw [Join.next_pass hn' hback.symm]
      exact ih (.going hs₁ (hr.refl _) rfl going)
    · rw [hm] at he
      cases he
  | case8 s going t hand right ns hn e back ms hm =>
    obtain ⟨s₁, s₂, rfl, hs₁, hs₂, going⟩ := hs.exists_eq going hand
    obtain ⟨right', ns', hn', hright⟩ := (hr.next files hs₂).exists_eq hn
    obtain ⟨back', ms', hm', hback⟩ := (hr.reset_alike files hright).exists_eq hm
    rw [Join.next_pass_error hn' hm']
    exact ⟨rfl, .going hs₁ hback hand going⟩
  | case9 s going t hand e right ns hn =>
    obtain ⟨s₁, s₂, rfl, hs₁, hs₂, going⟩ := hs.exists_eq going hand
    obtain ⟨right', ns', hn', hright⟩ := (hr.next files hs₂).exists_eq hn
    rw [Join.next_pair_error hn']
    exact ⟨rfl, .going hs₁ hright hand going⟩

/-- A join fails to go back when its left cursor does, and its right cursor is not moved. -/
theorem Join.reset_of_left_error {files : Files} {s : Join.State σ τ} {left : σ} {e : QueryError}
    {ns : List Notice} (h : l.reset files s.left = ⟨.error e, left, ns⟩) :
    Join.reset l r files s = ⟨.error e, { s with left }, ns⟩ := by
  rw [Join.reset, h]

/-- Going back gives the same wherever the cursors are, unless it fails. -/
theorem Join.reset_same (hl : l.Rewinds originLeft alikeLeft)
    (hr : r.Rewinds originRight alikeRight) (files : Files) {s s' : Join.State σ τ}
    (ho : originLeft s.left = originLeft s'.left) (ho' : originRight s.right = originRight s'.right) :
    (Join.reset l r files s).SameUnlessFailed (Join.reset l r files s') := by
  rw [Join.reset, Join.reset]
  rcases hl.reset files ho with hls | ⟨e, he, he'⟩
  · rw [hls]
    obtain ⟨e | _, left, ns⟩ := l.reset files s'.left
    · exact .inr ⟨e, rfl, rfl⟩
    · rcases hr.reset files ho' with hrs | ⟨e, he, he'⟩
      · simp only [hrs]
        obtain ⟨e | _, right, ms⟩ := r.reset files s'.right
        · exact .inr ⟨e, rfl, rfl⟩
        · exact .inl rfl
      · rw [Reply.eq_of_result he, Reply.eq_of_result he']
        exact .inr ⟨e, rfl, rfl⟩
  · rw [Reply.eq_of_result he, Reply.eq_of_result he']
    exact .inr ⟨e, rfl, rfl⟩

/-- A join that fails to go back is at its end if it was before. -/
theorem Join.atEnd_of_reset_error {files : Files} {s : Join.State σ τ} {e : QueryError}
    (he : (Join.reset l r files s).result = .error e) :
    (Join.reset l r files s).state.atEnd = s.atEnd := by
  rw [Join.reset] at he ⊢
  generalize l.reset files s.left = reply at he ⊢
  obtain ⟨e' | _, left, ns⟩ := reply
  · rfl
  · generalize r.reset files s.right = reply' at he ⊢
    obtain ⟨e' | _, right, ms⟩ := reply'
    · rfl
    · cases he

/-- Going back from states that are alike gives the same and leads to states that are alike. -/
theorem Join.reset_alike (hl : l.Rewinds originLeft alikeLeft)
    (hr : r.Rewinds originRight alikeRight) (files : Files) {s s' : Join.State σ τ}
    (hs : Join.Alike originLeft originRight alikeLeft alikeRight s s') :
    Reply.Alike (Join.Alike originLeft originRight alikeLeft alikeRight)
      (Join.reset l r files s) (Join.reset l r files s') := by
  cases hs with
  | going hs hs' hand atEnd =>
    have hls := hl.reset_alike files hs
    have hrs := hr.reset_alike files hs'
    rw [Join.reset, Join.reset]
    generalize l.reset files s.left = reply at hls
    generalize r.reset files s.right = reply' at hrs
    obtain ⟨a, left, ns⟩ := reply
    obtain ⟨b, right, ms⟩ := reply'
    obtain ⟨left', ns', hls', hleft⟩ := hls.exists_eq rfl
    obtain ⟨right', ms', hrs', hright⟩ := hrs.exists_eq rfl
    rw [hls', hrs']
    rcases a with e | _
    · exact ⟨rfl, .going hleft hs' hand atEnd⟩
    rcases b with e | _
    · exact ⟨rfl, .going hleft hright hand atEnd⟩
    · exact ⟨rfl, .going hleft hright rfl rfl⟩
  | ended ho ho' atEnd atEnd' =>
    rcases Join.reset_same hl hr files ho ho' with heq | ⟨e, he, he'⟩
    · rw [heq]
      exact ⟨rfl, .going (hl.refl _) (hr.refl _) rfl rfl⟩
    · have hs := Join.origin_reset hl hr files s
      have hs' := Join.origin_reset hl hr files s'
      exact ⟨he.trans he'.symm, .ended (hs.1.trans (ho.trans hs'.1.symm))
        (hs.2.trans (ho'.trans hs'.2.symm)) ((Join.atEnd_of_reset_error he).trans atEnd)
        ((Join.atEnd_of_reset_error he').trans atEnd')⟩

theorem Join.rewinds (hl : l.Rewinds originLeft alikeLeft) (hr : r.Rewinds originRight alikeRight)
    (p : Condition) : (Join.cursor p l r).Rewinds
      (fun s => (originLeft s.left, originRight s.right))
      (Join.Alike originLeft originRight alikeLeft alikeRight) where
  origin_next files s := Prod.ext_iff.2 (Join.origin_next hl hr p files s)
  origin_reset files s := Prod.ext_iff.2 (Join.origin_reset hl hr files s)
  refl s := .going (hl.refl _) (hr.refl _) rfl rfl
  origin_of_alike h := by
    cases h with
    | going hs hs' => exact Prod.ext (hl.origin_of_alike hs) (hr.origin_of_alike hs')
    | ended ho ho' => exact Prod.ext ho ho'
  next files _ _ := Join.next_alike hl hr p files
  reset files _ _ h :=
    Join.reset_same hl hr files (Prod.ext_iff.1 h).1 (Prod.ext_iff.1 h).2
  reset_alike files _ _ := Join.reset_alike hl hr files

end

/-! ## Plans -/

namespace Plan

/-- What going back depends on. -/
def Origin : Plan → Type
  | tuples _ | sort .. | distinct .. => List Tuple
  | scan _ => Table
  | filter _ child | project _ child | aggregate _ _ child => child.Origin
  | join _ left right => left.Origin × right.Origin

/-- The tuples and tables that a state of a plan goes back to. -/
def origin : (p : Plan) → p.State → p.Origin
  | tuples _ | sort .. | distinct .. => Replay.rows
  | scan _ => Scan.table
  | filter _ child | project _ child => child.origin
  | join _ left right => fun s => (left.origin s.left, right.origin s.right)
  | aggregate _ _ child => fun s => child.origin s.child

/-- States of a plan that no call tells apart. -/
def Alike : (p : Plan) → p.State → p.State → Prop
  | tuples _ | scan _ | sort .. | distinct .. => Eq
  | filter _ child | project _ child => child.Alike
  | join _ left right => Join.Alike left.origin right.origin left.Alike right.Alike
  | aggregate _ _ child => fun s s' =>
    s.rest = s'.rest ∧ child.origin s.child = child.origin s'.child

theorem rewinds : (p : Plan) → p.cursor.Rewinds p.origin p.Alike
  | tuples _ | sort .. | distinct .. => Replay.rewinds
  | scan _ => Scan.rewinds
  | filter condition child => Filter.rewinds child.rewinds condition
  | project projection child => Project.rewinds child.rewinds projection
  | join condition left right => Join.rewinds left.rewinds right.rewinds condition
  | aggregate columns sums child => Aggregate.rewinds child.rewinds columns sums

/-- Whether no join of a plan that is still going would put back its left side and then fail to put
    back the right one. Going back ends at the first failure, so that nothing is asked of the right
    sides. -/
def StaysPut (files : Files) : (p : Plan) → p.State → Prop
  | tuples _ | scan _ | aggregate .. | sort .. | distinct .. => fun _ => True
  | filter _ child | project _ child => child.StaysPut files
  | join _ left _ => fun s => s.atEnd = true ∨
    (∃ e, (left.cursor.reset files s.left).result = .error e) ∧ left.StaysPut files s.left

/-- A failed call to go back leaves a plan that stays put in a state like the one before. -/
theorem alike_of_reset_error {files : Files} {e : QueryError} : {p : Plan} → {s : p.State} →
    (p.cursor.reset files s).result = .error e → p.StaysPut files s →
    p.Alike s (p.cursor.reset files s).state
  | tuples _, _, he, _ | sort .., _, he, _ | distinct .., _, he, _ => nomatch he
  | scan _, _, he, _ => (Scan.state_of_reset_error he).symm
  | filter _ child, _, he, hput => alike_of_reset_error (p := child) he hput
  | project _ child, _, he, hput => alike_of_reset_error (p := child) he hput
  | aggregate columns sums child, s, he, _ =>
    ⟨(Aggregate.rest_of_reset_error he).symm,
      (Aggregate.origin_reset child.rewinds columns sums files s).symm⟩
  | join condition left right, s, he, hput => by
    have ho := Join.origin_reset left.rewinds right.rewinds files s
    rcases hput with atEnd | ⟨⟨e', he'⟩, hput⟩
    · exact .ended ho.1.symm ho.2.symm atEnd ((Join.atEnd_of_reset_error he).trans atEnd)
    · have hreset : (join condition left right).cursor.reset files s = _ :=
        Join.reset_of_left_error (Reply.eq_of_result he')
      rw [hreset]
      exact .going (alike_of_reset_error he' hput) (right.rewinds.refl _) rfl rfl

end Plan

/-! ## Opened plans -/

/-- An opened plan after some calls, each with the files there are at that moment. -/
def Opened.through (o : Opened) : List (Files × Call) → Opened
  | [] => o
  | (files, .next) :: later => (o.next files).state.through later
  | (files, .reset) :: later => (o.reset files).state.through later

/-- Calls take states that are alike to states that are alike. -/
theorem Opened.exists_through (calls : List (Files × Call)) {p : Plan} {s s' : p.State}
    (hs : p.Alike s s') : ∃ t t', p.Alike t t' ∧
      Opened.through ⟨p, s⟩ calls = ⟨p, t⟩ ∧ Opened.through ⟨p, s'⟩ calls = ⟨p, t'⟩ := by
  induction calls generalizing s s' with
  | nil => exact ⟨s, s', hs, rfl, rfl⟩
  | cons call calls ih =>
    obtain ⟨files, call⟩ := call
    cases call with
    | next => exact ih (p.rewinds.next files hs).2
    | reset => exact ih (p.rewinds.reset_alike files hs).2

/-- After a call to go back that has failed, all calls give what they would have given without it,
    if the plan stays put; and if it does not, they do so from the next call on that does go
    back. -/
theorem Opened.after_failed_reset {o : Opened} {files : Files} {e : QueryError}
    (he : (o.reset files).result = .error e) :
    (o.plan.StaysPut files o.state → ∀ calls now,
      (((o.reset files).state.through calls).next now).result = ((o.through calls).next now).result ∧
      (((o.reset files).state.through calls).reset now).result =
        ((o.through calls).reset now).result) ∧
    ∀ now, (o.reset now).result = .ok () → (o.reset files).state.reset now = o.reset now := by
  obtain ⟨p, s⟩ := o
  refine ⟨fun hput calls now => ?_, fun now hok => ?_⟩
  · have halike := Plan.alike_of_reset_error he hput
    obtain ⟨t, t', ht, hthrough, hthrough'⟩ := exists_through calls halike
    have hreset : (Opened.reset files ⟨p, s⟩).state = ⟨p, (p.cursor.reset files s).state⟩ := rfl
    rw [hreset, hthrough, hthrough']
    exact ⟨(p.rewinds.next now ht).1.symm, (p.rewinds.reset_alike now ht).1.symm⟩
  · have horigin := p.rewinds.origin_reset files s
    rcases p.rewinds.reset now horigin with heq | ⟨e', -, he'⟩
    · exact congrArg (Reply.mapState _) heq
    · cases hok.symm.trans he'

/-! ## A join half put back -/

namespace Sample

/-- The tables of the database. -/
def tableR : Table := ⟨"R", ["a", "b"], "db/data/R.csv"⟩

@[inherit_doc tableR]
def tableS : Table := ⟨"S", ["a", "c"], "db/data/S.csv"⟩

/-- Data files with two rows of `R` and one of `S`. -/
def briefFiles : Files := fun path =>
  if path = tableR.path then .ok "1,2\n3,4\n".toUTF8
  else if path = tableS.path then .ok "5,6\n".toUTF8
  else .error .missing

/-- The same files, but that of one table is away. -/
def briefWithout (t : Table) : Files := fun path =>
  if path = t.path then .error .missing else briefFiles path

/-- Each row of `R` beside every row of `S`. -/
def crossed : Plan := .join none (.scan "R") (.scan "S")

/-- This plan with some rows of `R` and of `S` left, and a row of `R` in hand. -/
def crossedAt (rows rows' : List Record) (hand : Option Tuple) : Opened :=
  ⟨crossed, ⟨tableR, .ok rows⟩, ⟨tableS, .ok rows'⟩, hand, false⟩

/-- The rows of `R` and `S` with given values. -/
def rowR (a b : Int32) : Tuple := ⟨[⟨"R", "a", a⟩, ⟨"R", "b", b⟩]⟩

@[inherit_doc rowR]
def rowS (a c : Int32) : Tuple := ⟨[⟨"S", "a", a⟩, ⟨"S", "c", c⟩]⟩

/-- A plan that does not get to put back its right side stays put. -/
theorem crossed_staysPut :
    ∃ o e, o = crossedAt [.fields ["3", "4"]] [] (some (rowR 1 2)) ∧
      (o.reset (briefWithout tableR)).result = .error e ∧
      o.plan.StaysPut (briefWithout tableR) o.state ∧
      (∀ calls now,
        (((o.reset (briefWithout tableR)).state.through calls).next now).result =
          ((o.through calls).next now).result ∧
        (((o.reset (briefWithout tableR)).state.through calls).reset now).result =
          ((o.through calls).reset now).result) ∧
      ∀ now, (o.reset now).result = .ok () →
        (o.reset (briefWithout tableR)).state.reset now = o.reset now := by
  have hput : crossed.StaysPut (briefWithout tableR)
      (crossedAt [.fields ["3", "4"]] [] (some (rowR 1 2))).state := .inr ⟨⟨_, rfl⟩, trivial⟩
  have hfailed : ((crossedAt [.fields ["3", "4"]] [] (some (rowR 1 2))).reset
      (briefWithout tableR)).result = .error (.tableUnreadable tableR.path .missing) := rfl
  have hafter := Opened.after_failed_reset hfailed
  exact ⟨_, _, rfl, hfailed, hput, hafter.1 hput, hafter.2⟩

/-- Behind a pass over `S` come the pairs of the rows of `R` that are left. -/
theorem next_crossedAt (rows : List Record) (t : Tuple) (ts : List Tuple)
    (h : rows.map tableR.tuple = ts.map .ok) :
    ((crossedAt rows [] (some t)).next briefFiles).result =
      .ok (Join.pairs none ts (catalog.rows briefFiles "S")).head? := by
  have hR : tableR.IsSound briefFiles := by decide +kernel
  have hS : tableS.IsSound briefFiles := by decide +kernel
  have hleft : Opened.Left catalog briefFiles (crossed.rows catalog briefFiles)
      (Join.pairs none ts (catalog.rows briefFiles "S")) (crossedAt rows [] (some t)) :=
    ⟨rfl, .pair (r := []) ⟨_, rfl, hR, rows, rfl, h⟩ ⟨_, rfl, hS, [], rfl, rfl⟩⟩
  exact (Opened.next_gives hleft).result

/-- A join that has handed out its first pair and then fails to go back, because the file of `S` is
    away, hands out that pair once more. Had it not been called to go back, the second one would
    come. -/
theorem crossed_repeats :
    ∃ o o' e, (Opened.ofPlan catalog briefFiles crossed).result = .ok o ∧
      (o.next briefFiles).result = .ok (some ((rowR 1 2).merge (rowS 5 6))) ∧
      (o.next briefFiles).state = o' ∧
      (o'.reset (briefWithout tableS)).result = .error e ∧
      ((o'.reset (briefWithout tableS)).state.next briefFiles).result =
        .ok (some ((rowR 1 2).merge (rowS 5 6))) ∧
      (o'.next briefFiles).result = .ok (some ((rowR 3 4).merge (rowS 5 6))) := by
  have hR : records "1,2\n3,4\n".toUTF8 = [.fields ["1", "2"], .fields ["3", "4"]] := by
    decide +kernel
  have hS : records "5,6\n".toUTF8 = [.fields ["5", "6"]] := by decide +kernel
  have hopen : (Opened.ofPlan catalog briefFiles crossed).result =
      .ok (crossedAt [.fields ["1", "2"], .fields ["3", "4"]] [.fields ["5", "6"]] none) := by
    rw [← hR, ← hS]
    rfl
  have hnextR : Scan.cursor.next briefFiles
      ⟨tableR, .ok [.fields ["1", "2"], .fields ["3", "4"]]⟩ =
      ⟨.ok (some (rowR 1 2)), ⟨tableR, .ok [.fields ["3", "4"]]⟩, []⟩ := rfl
  have hnextS : Scan.cursor.next briefFiles ⟨tableS, .ok [.fields ["5", "6"]]⟩ =
      ⟨.ok (some (rowS 5 6)), ⟨tableS, .ok []⟩, []⟩ := rfl
  have hnext : (crossedAt [.fields ["1", "2"], .fields ["3", "4"]] [.fields ["5", "6"]] none).next
      briefFiles = ⟨.ok (some ((rowR 1 2).merge (rowS 5 6))),
        crossedAt [.fields ["3", "4"]] [] (some (rowR 1 2)), []⟩ :=
    congrArg (Reply.mapState _) ((Join.next_fetch (p := none) hnextR).trans
      (congrArg (Reply.after []) (Join.next_pair hnextS)))
  -- The left cursor is back at its first row, with that row still in hand.
  have hreset : (crossedAt [.fields ["3", "4"]] [] (some (rowR 1 2))).reset (briefWithout tableS) =
      ⟨.error (.tableUnreadable tableS.path .missing),
        crossedAt [.fields ["1", "2"], .fields ["3", "4"]] [] (some (rowR 1 2)), []⟩ := by
    rw [← hR]
    rfl
  refine ⟨_, _, _, hopen, by rw [hnext], by rw [hnext], by rw [hreset], ?_, ?_⟩
  · rw [hreset]
    exact (next_crossedAt _ _ [rowR 1 2, rowR 3 4] rfl).trans
      (congrArg Except.ok (by decide +kernel))
  · exact (next_crossedAt _ _ [rowR 3 4] rfl).trans (congrArg Except.ok (by decide +kernel))

end Sample

end CsvQuery
