import CsvQuery.Plan

/-!
# What cursors deliver

A cursor *delivers* a list of tuples if each of its states has some end of that
list left, hands it out tuple by tuple and then nothing more, and has the whole
list left again after going back. What a state has left is told by a relation
between lists and states, one for each kind of cursor.

* `Cursor.Delivers`: such a relation, with what one call does.
* `Cursor.Delivers.collect`: pulling all tuples gives what is left.
* `Filter.delivers`, `Project.delivers`, `Join.delivers`, `Aggregate.delivers`:
  the list of an operation is a function of the lists below it.
-/

namespace CsvQuery

/-- A reply gives `a` and leaves a state that is `good`. -/
def Reply.Gives {α σ : Type} (r : Reply α σ) (a : α) (good : σ → Prop) : Prop :=
  ∃ s ns, r = ⟨.ok a, s, ns⟩ ∧ good s

theorem Reply.Gives.after {α σ : Type} {r : Reply α σ} {a : α} {good : σ → Prop}
    (h : r.Gives a good) (ns : List Notice) : (r.after ns).Gives a good := by
  obtain ⟨s, ms, rfl, hs⟩ := h
  exact ⟨s, ns ++ ms, rfl, hs⟩

theorem Reply.Gives.result {α σ : Type} {r : Reply α σ} {a : α} {good : σ → Prop}
    (h : r.Gives a good) : r.result = .ok a := by
  obtain ⟨_, _, rfl, _⟩ := h
  rfl

theorem Reply.Gives.state {α σ : Type} {r : Reply α σ} {a : α} {good : σ → Prop}
    (h : r.Gives a good) : good r.state := by
  obtain ⟨_, _, rfl, hs⟩ := h
  exact hs

/-- While the files stay as they are, a cursor delivers `rows`: a state that has `rest` left gives
    the first tuple of `rest`, if there is one, and keeps the others, and going back leaves all of
    `rows`. -/
structure Cursor.Delivers {σ : Type} (c : Cursor σ) (files : Files) (rows : List Tuple)
    (left : List Tuple → σ → Prop) : Prop where
  next : ∀ {rest s}, left rest s → (c.next files s).Gives rest.head? (left rest.tail)
  reset : ∀ {rest s}, left rest s → (c.reset files s).Gives () (left rows)

variable {σ τ : Type} {files : Files}

/-- Pulling all tuples gives what is left, and leaves nothing. -/
theorem Cursor.Delivers.collect {c : Cursor σ} {rows rest : List Tuple}
    {left : List Tuple → σ → Prop} (h : c.Delivers files rows left) (note : Tuple → List Notice)
    {s : σ} (hs : left rest s) : (c.collect note files s).Gives rest (left []) := by
  induction rest generalizing s with
  | nil =>
    obtain ⟨s', ns, hn, hs'⟩ := h.next hs
    refine ⟨s', ns, ?_, hs'⟩
    rw [Cursor.collect]
    split <;> simp_all
  | cons t rest ih =>
    obtain ⟨s', ns, hn, hs'⟩ := h.next hs
    obtain ⟨s'', ms, hm, hs''⟩ := ih hs'
    refine ⟨s'', ns ++ note t ++ ms, ?_, hs''⟩
    rw [Cursor.collect]
    split <;> simp_all [Except.map]

/-! ## Tuples at hand and rows of tables -/

/-- A list at hand is delivered as it is. -/
theorem Replay.delivers (rows : List Tuple) :
    Replay.cursor.Delivers files rows fun rest s => s = ⟨rows, rest⟩ where
  next {rest s} hs := by
    subst hs
    cases rest with
    | nil => exact ⟨_, _, rfl, rfl⟩
    | cons t rest => exact ⟨_, _, rfl, rfl⟩
  reset {_ s} hs := by
    subst hs
    exact ⟨_, _, rfl, rfl⟩

/-- The rows of a table in its data file, those that are malformed left out. -/
def Table.rows (t : Table) (files : Files) : List Tuple :=
  match files t.path with
  | .ok bytes => (records bytes).filterMap fun r => (t.tuple r).toOption
  | .error _ => []

/-- Whether a table has a data file, none of whose rows is malformed. -/
def Table.IsSound (t : Table) (files : Files) : Prop :=
  ∃ bytes, files t.path = .ok bytes ∧ ∀ r ∈ records bytes, ∃ u, t.tuple r = .ok u

/-- A scan of a table has `rest` left if its records stand for these tuples. -/
def Scan.Left (t : Table) (rest : List Tuple) (s : Scan) : Prop :=
  ∃ rs, s = ⟨t, .ok rs⟩ ∧ rs.map t.tuple = rest.map .ok

/-- Records none of which is malformed stand for the tuples that can be made of them. -/
theorem map_tuple_of_sound {t : Table} {rs : List Record} (h : ∀ r ∈ rs, ∃ u, t.tuple r = .ok u) :
    rs.map t.tuple = (rs.filterMap fun r => (t.tuple r).toOption).map .ok := by
  induction rs with
  | nil => rfl
  | cons r rs ih =>
    obtain ⟨u, hu⟩ := h r List.mem_cons_self
    have hrs := ih fun r' hr' => h r' (List.mem_cons_of_mem _ hr')
    rw [List.filterMap_cons_some (b := u) (by rw [hu]; rfl), List.map_cons, List.map_cons, hu, hrs]

/-- Opening a sound table leaves all of its rows. -/
theorem Scan.openTable_of_sound {t : Table} (h : t.IsSound files) :
    ∃ s, Scan.openTable t files = .ok s ∧ Scan.Left t (t.rows files) s := by
  obtain ⟨bytes, hb, hr⟩ := h
  refine ⟨⟨t, .ok (records bytes)⟩, ?_, records bytes, rfl, ?_⟩
  · rw [Scan.openTable, hb]
    rfl
  · rw [Table.rows, hb]
    exact map_tuple_of_sound hr

/-- A scan delivers the rows of its table. -/
theorem Scan.delivers {t : Table} (h : t.IsSound files) :
    Scan.cursor.Delivers files (t.rows files) (Scan.Left t) where
  next {rest s} hs := by
    obtain ⟨rs, rfl, hrs⟩ := hs
    cases rest with
    | nil =>
      obtain rfl : rs = [] := by simpa using hrs
      exact ⟨_, _, rfl, [], rfl, rfl⟩
    | cons u rest =>
      cases rs with
      | nil => simp at hrs
      | cons r rs =>
        obtain ⟨hu, hrs⟩ := List.cons.inj hrs
        exact ⟨⟨t, .ok rs⟩, [], by simp [Scan.cursor, Scan.next, hu, Except.map], rs, rfl, hrs⟩
  reset {_ s} hs := by
    obtain ⟨rs, rfl, _⟩ := hs
    obtain ⟨s', ho, hs'⟩ := Scan.openTable_of_sound h
    exact ⟨s', [], by simp [Scan.cursor, Scan.reset, ho], hs'⟩

/-! ## Operations on one cursor -/

section
variable {c : Cursor σ} {rows : List Tuple} {left : List Tuple → σ → Prop}

/-- A filter hands out a tuple that its condition keeps and goes on behind any other one. -/
theorem Filter.next_tuple {p : Condition} {t : Tuple} {s s' : σ} {ns : List Notice}
    (h : c.next files s = ⟨.ok (some t), s', ns⟩) :
    Filter.next p c files s =
      if p.keeps t then ⟨.ok (some t), s', ns ++ p.notices t⟩
      else (Filter.next p c files s').after (ns ++ p.notices t) := by
  conv => lhs; rw [Filter.next]
  split <;> simp_all

/-- A filter passes on whatever else it gets. -/
theorem Filter.next_other {p : Condition} {s : σ}
    (h : ∀ t, (c.next files s).result ≠ .ok (some t)) :
    Filter.next p c files s = c.next files s := by
  rw [Filter.next]
  split <;> simp_all

/-- The next tuple that a condition keeps is the first one of those that are left. -/
theorem Filter.next_gives (h : c.Delivers files rows left) (p : Condition) {rest : List Tuple}
    {s : σ} (hs : left rest s) :
    (Filter.next p c files s).Gives (rest.filter p.keeps).head?
      fun s' => ∃ l, left l s' ∧ l.filter p.keeps = (rest.filter p.keeps).tail := by
  induction rest generalizing s with
  | nil =>
    obtain ⟨s', ns, hn, hs'⟩ := h.next hs
    refine ⟨s', ns, ?_, [], hs', rfl⟩
    rw [Filter.next]
    split <;> simp_all
  | cons t rest ih =>
    -- The search goes on behind a tuple that is not kept, with the tuples left there.
    obtain ⟨s', ns, hn, hs'⟩ := h.next hs
    rw [Filter.next]
    split
    · rename_i u s'' ms hm
      obtain ⟨hu, rfl, rfl⟩ : t = u ∧ s' = s'' ∧ ns = ms := by simpa [hn] using hm
      subst hu
      by_cases keep : p.keeps t
      · rw [if_pos keep, List.filter_cons_of_pos keep]
        exact ⟨s', _, rfl, rest, hs', rfl⟩
      · rw [if_neg keep, List.filter_cons_of_neg keep]
        exact (ih hs').after _
    · simp_all

/-- A filter delivers the tuples that its condition keeps. -/
theorem Filter.delivers (h : c.Delivers files rows left) (p : Condition) :
    (Filter.cursor p c).Delivers files (rows.filter p.keeps)
      fun rest s => ∃ l, left l s ∧ l.filter p.keeps = rest where
  next := by
    rintro _ s ⟨l, hl, rfl⟩
    exact Filter.next_gives h p hl
  reset := by
    rintro _ s ⟨l, hl, rfl⟩
    obtain ⟨s', ns, hr, hs'⟩ := h.reset hl
    exact ⟨s', ns, hr, rows, hs', rfl⟩

/-- A projection delivers what it shows of each tuple. -/
theorem Project.delivers (h : c.Delivers files rows left) (p : Projection) :
    (Project.cursor p c).Delivers files (rows.map p.tuple)
      fun rest s => ∃ l, left l s ∧ l.map p.tuple = rest where
  next := by
    rintro _ s ⟨l, hl, rfl⟩
    obtain ⟨s', ns, hn, hs'⟩ := h.next hl
    cases l with
    | nil => exact ⟨s', ns, by simp_all [Project.cursor, Project.next], [], hs', rfl⟩
    | cons t l =>
      exact ⟨s', ns ++ p.notices t, by simp_all [Project.cursor, Project.next], l, hs', rfl⟩
  reset := by
    rintro _ s ⟨l, hl, rfl⟩
    obtain ⟨s', ns, hr, hs'⟩ := h.reset hl
    exact ⟨s', ns, hr, rows, hs', rfl⟩

/-- Reading a cursor to its end leaves the tuples of the groups of what it had left. -/
theorem Aggregate.fill_gives (h : c.Delivers files rows left) (columns : List ColumnRef)
    (sums : List SumCall) {rest : List Tuple} {s : Aggregate.State σ} (hs : left rest s.child) :
    (Aggregate.fill columns sums c files s).Gives ()
      fun s' => s'.rest = Aggregate.summaries columns sums rest ∧ ∃ l, left l s'.child := by
  obtain ⟨child, ns, hc, hs'⟩ := h.collect (Aggregate.groupingNotices columns) hs
  refine ⟨⟨child, Aggregate.summaries columns sums rest⟩,
    ns ++ Aggregate.sumNotices columns sums rest, ?_, rfl, [], hs'⟩
  simp only [Aggregate.fill, hc]

/-- An aggregation delivers the tuples of the groups of the whole list below it, however far that
    has been pulled. -/
theorem Aggregate.delivers (h : c.Delivers files rows left) (columns : List ColumnRef)
    (sums : List SumCall) :
    (Aggregate.cursor columns sums c).Delivers files (Aggregate.summaries columns sums rows)
      fun rest s => s.rest = rest ∧ ∃ l, left l s.child where
  next := by
    rintro _ ⟨child, rest⟩ ⟨rfl, hl⟩
    cases rest with
    | nil => exact ⟨_, _, rfl, rfl, hl⟩
    | cons t rest => exact ⟨_, _, rfl, rfl, hl⟩
  reset := by
    rintro _ ⟨child, rest⟩ ⟨rfl, l, hl⟩
    obtain ⟨child', ns, hr, hs'⟩ := h.reset hl
    have hf := Aggregate.fill_gives h columns sums (s := ⟨child', rest⟩) hs'
    simpa [Aggregate.cursor, Aggregate.reset, hr] using hf.after ns

end

/-! ## Joins -/

/-- Each tuple of one list beside every tuple of another one. -/
def Tuple.pairs (ts us : List Tuple) : List Tuple := ts.flatMap fun t => us.map t.merge

/-- The pairs that a join makes. -/
def Join.pairs (p : Condition) (ts us : List Tuple) : List Tuple :=
  (Tuple.pairs ts us).filter p.keeps

theorem Join.pairs_cons (p : Condition) (t : Tuple) (ts us : List Tuple) :
    Join.pairs p (t :: ts) us = (us.map t.merge).filter p.keeps ++ Join.pairs p ts us := by
  rw [Join.pairs, Tuple.pairs, List.flatMap_cons, List.filter_append]
  rfl

/-- What a join of cursors has left: the pairs of the tuple in hand with what the right cursor has
    left, and then those of what the left cursor has left with all of the right rows. -/
inductive Join.Left (p : Condition) (rows : List Tuple) (left : List Tuple → σ → Prop)
    (right : List Tuple → τ → Prop) : List Tuple → Join.State σ τ → Prop
  /-- No tuple is in hand. -/
  | fetch {l : List Tuple} {s : σ} {s' : τ} : left l s → right rows s' →
      Left p rows left right (Join.pairs p l rows) ⟨s, s', none, false⟩
  /-- A tuple is being paired. -/
  | pair {t : Tuple} {l r : List Tuple} {s : σ} {s' : τ} : left l s → right r s' →
      Left p rows left right ((r.map t.merge).filter p.keeps ++ Join.pairs p l rows)
        ⟨s, s', some t, false⟩
  /-- The left cursor has come to its end. -/
  | finish {l r : List Tuple} {s : σ} {s' : τ} : left l s → right r s' →
      Left p rows left right [] ⟨s, s', none, true⟩

section
variable {l : Cursor σ} {r : Cursor τ} {ts us : List Tuple} {left : List Tuple → σ → Prop}
  {right : List Tuple → τ → Prop}

/-- Without a tuple in hand, a join takes the next left one. -/
theorem Join.next_fetch {p : Condition} {t : Tuple} {s s₁ : σ} {s' : τ} {ns : List Notice}
    (h : l.next files s = ⟨.ok (some t), s₁, ns⟩) :
    Join.next p l r files ⟨s, s', none, false⟩ =
      (Join.next p l r files ⟨s₁, s', some t, false⟩).after ns := by
  conv => lhs; rw [Join.next]
  simp only [Bool.false_eq_true, ↓reduceIte]
  split <;> simp_all

/-- A join ends when there is no left tuple to take. -/
theorem Join.next_finish {p : Condition} {s s₁ : σ} {s' : τ} {ns : List Notice}
    (h : l.next files s = ⟨.ok none, s₁, ns⟩) :
    Join.next p l r files ⟨s, s', none, false⟩ = ⟨.ok none, ⟨s₁, s', none, true⟩, ns⟩ := by
  rw [Join.next]
  simp only [Bool.false_eq_true, ↓reduceIte]
  split <;> simp_all

/-- The tuple in hand is paired with the next right one. -/
theorem Join.next_pair {p : Condition} {t u : Tuple} {s : σ} {s' s₁ : τ} {ns : List Notice}
    (h : r.next files s' = ⟨.ok (some u), s₁, ns⟩) :
    Join.next p l r files ⟨s, s', some t, false⟩ =
      if p.keeps (t.merge u) then
        ⟨.ok (some (t.merge u)), ⟨s, s₁, some t, false⟩, ns ++ p.notices (t.merge u)⟩
      else
        (Join.next p l r files ⟨s, s₁, some t, false⟩).after (ns ++ p.notices (t.merge u)) := by
  conv => lhs; rw [Join.next]
  simp only [Bool.false_eq_true, ↓reduceIte]
  split <;> simp_all

/-- When there is no right tuple to pair, the right cursor goes back for the next pass. -/
theorem Join.next_pass {p : Condition} {t : Tuple} {s : σ} {s' s₁ s₂ : τ} {ns ms : List Notice}
    (h : r.next files s' = ⟨.ok none, s₁, ns⟩) (h' : r.reset files s₁ = ⟨.ok (), s₂, ms⟩) :
    Join.next p l r files ⟨s, s', some t, false⟩ =
      (Join.next p l r files ⟨s, s₂, none, false⟩).after (ns ++ ms) := by
  conv => lhs; rw [Join.next]
  simp only [Bool.false_eq_true, ↓reduceIte]
  split <;> simp_all

/-- A failure to take a left tuple leaves the join without one. -/
theorem Join.next_fetch_error {p : Condition} {e : QueryError} {s s₁ : σ} {s' : τ}
    {ns : List Notice} (h : l.next files s = ⟨.error e, s₁, ns⟩) :
    Join.next p l r files ⟨s, s', none, false⟩ = ⟨.error e, ⟨s₁, s', none, false⟩, ns⟩ := by
  rw [Join.next]
  simp only [Bool.false_eq_true, ↓reduceIte]
  split <;> simp_all

/-- A failure to take a right tuple leaves the left one in hand. -/
theorem Join.next_pair_error {p : Condition} {t : Tuple} {e : QueryError} {s : σ} {s' s₁ : τ}
    {ns : List Notice} (h : r.next files s' = ⟨.error e, s₁, ns⟩) :
    Join.next p l r files ⟨s, s', some t, false⟩ = ⟨.error e, ⟨s, s₁, some t, false⟩, ns⟩ := by
  rw [Join.next]
  simp only [Bool.false_eq_true, ↓reduceIte]
  split <;> simp_all

/-- A failure of the right cursor to go back leaves the left tuple in hand. -/
theorem Join.next_pass_error {p : Condition} {t : Tuple} {e : QueryError} {s : σ} {s' s₁ s₂ : τ}
    {ns ms : List Notice} (h : r.next files s' = ⟨.ok none, s₁, ns⟩)
    (h' : r.reset files s₁ = ⟨.error e, s₂, ms⟩) :
    Join.next p l r files ⟨s, s', some t, false⟩ =
      ⟨.error e, ⟨s, s₂, some t, false⟩, ns ++ ms⟩ := by
  rw [Join.next]
  simp only [Bool.false_eq_true, ↓reduceIte]
  split <;> simp_all

/-- A join that has come to its end has no pair. -/
theorem Join.next_atEnd {p : Condition} {s : Join.State σ τ} (h : s.atEnd = true) :
    Join.next p l r files s = ⟨.ok none, s, []⟩ := by
  rw [Join.next, if_pos h]

/-- With a tuple in hand, a join gives the next pair, provided that it does so without one. -/
theorem Join.next_gives_of_hand (hr : r.Delivers files us right) (p : Condition) {rest : List Tuple}
    {s : σ} (hl : left rest s)
    (fetch : ∀ {s'}, right us s' → (Join.next p l r files ⟨s, s', none, false⟩).Gives
      (Join.pairs p rest us).head? (Join.Left p us left right (Join.pairs p rest us).tail))
    (t : Tuple) {rest' : List Tuple} {s' : τ} (hs' : right rest' s') :
    (Join.next p l r files ⟨s, s', some t, false⟩).Gives
      ((rest'.map t.merge).filter p.keeps ++ Join.pairs p rest us).head?
      (Join.Left p us left right
        ((rest'.map t.merge).filter p.keeps ++ Join.pairs p rest us).tail) := by
  induction rest' generalizing s' with
  | nil =>
    -- The pass is over: the right cursor goes back, and the next left tuple is fetched.
    obtain ⟨s₁, ns, hn, hs₁⟩ := hr.next hs'
    obtain ⟨s₂, ms, hm, hs₂⟩ := hr.reset hs₁
    rw [Join.next_pass hn hm]
    exact (fetch hs₂).after _
  | cons u rest' ih =>
    obtain ⟨s₁, ns, hn, hs₁⟩ := hr.next hs'
    rw [Join.next_pair hn, List.map_cons]
    by_cases keep : p.keeps (t.merge u)
    · rw [if_pos keep, List.filter_cons_of_pos keep]
      exact ⟨_, _, rfl, .pair hl hs₁⟩
    · rw [if_neg keep, List.filter_cons_of_neg keep]
      exact (ih hs₁).after _

/-- Without a tuple in hand, a join gives the next pair. -/
theorem Join.next_gives_of_fetch (hl : l.Delivers files ts left) (hr : r.Delivers files us right)
    (p : Condition) {rest : List Tuple} {s : σ} {s' : τ} (hs : left rest s) (hs' : right us s') :
    (Join.next p l r files ⟨s, s', none, false⟩).Gives (Join.pairs p rest us).head?
      (Join.Left p us left right (Join.pairs p rest us).tail) := by
  induction rest generalizing s s' with
  | nil =>
    obtain ⟨s₁, ns, hn, hs₁⟩ := hl.next hs
    rw [Join.next_finish hn]
    exact ⟨_, _, rfl, .finish hs₁ hs'⟩
  | cons t rest ih =>
    -- The right cursor is at its start whenever a tuple is taken, so the pass of `t` is a whole one.
    obtain ⟨s₁, ns, hn, hs₁⟩ := hl.next hs
    rw [Join.next_fetch hn, Join.pairs_cons]
    exact (Join.next_gives_of_hand hr p hs₁ (ih hs₁) t hs').after _

/-- A join delivers the pairs of all left rows with all right rows that its condition keeps, left
    rows first. -/
theorem Join.delivers (hl : l.Delivers files ts left) (hr : r.Delivers files us right)
    (p : Condition) :
    (Join.cursor p l r).Delivers files (Join.pairs p ts us) (Join.Left p us left right) where
  next h := by
    cases h with
    | fetch hs hs' => exact Join.next_gives_of_fetch hl hr p hs hs'
    | pair hs hs' =>
      exact Join.next_gives_of_hand hr p hs (Join.next_gives_of_fetch hl hr p hs) _ hs'
    | finish hs hs' =>
      refine ⟨_, [], ?_, .finish hs hs'⟩
      simp [Join.cursor, Join.next]
  reset {rest s} h := by
    -- Wherever the join is, both cursors have something left, and that is all that going back needs.
    obtain ⟨k, k', hs, hs'⟩ : ∃ k k', left k s.left ∧ right k' s.right := by
      cases h <;> exact ⟨_, _, ‹_›, ‹_›⟩
    obtain ⟨s₁, ns, hn, hs₁⟩ := hl.reset hs
    obtain ⟨s₂, ms, hm, hs₂⟩ := hr.reset hs'
    exact ⟨.start s₁ s₂, ns ++ ms, by simp [Join.cursor, Join.reset, hn, hm], .fetch hs₁ hs₂⟩

end

end CsvQuery
