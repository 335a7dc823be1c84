import CsvQuery.Proofs.Failures
import Mathlib.Data.List.ReduceOption

/-!
# Going on after failures

A tuple may fail to come because the next row of a file is malformed, or
because a join cannot put its right side back while a file is away. Whoever
goes on pulling gets all tuples all the same, each once and in order: a
malformed row is passed over, and a join that could not put its right side back
tries that again. What a cursor has left is then told by a list of *turns*, one
for each tuple and one for each failure over a malformed row. A call takes the
next turn, or fails because of a file that is away and leaves all turns to be
taken.

* `Reply.Takes`: what a call does to the turns that are left.
* `Cursor.Resumes`: a cursor that keeps its turns through all failures.
* `Filter.resumes`, `Project.resumes`, `Join.resumes`: the turns of an operation are a function of
  the turns below it.
* `Plan.handed_cleared`: what pulling again after each failure gives in the end.
-/

namespace CsvQuery

/-- What a call may hand out: a tuple, or the failure over a malformed row. -/
abbrev Turn := Option Tuple

/-- A reply takes the first of some turns, or reports that there is none. If the files are not all
    there, it may also fail and take none. -/
inductive Reply.Takes {σ : Type} (allThere : Prop) (left : List Turn → σ → Prop)
    (ended : σ → Prop) : List Turn → Reply (Option Tuple) σ → Prop
  | tuple {t : Tuple} {turns : List Turn} {s : σ} {ns : List Notice} (h : left turns s) :
    Takes allThere left ended (some t :: turns) ⟨.ok (some t), s, ns⟩
  | failure {turns : List Turn} {s : σ} {ns : List Notice} {e : QueryError} (h : left turns s) :
    Takes allThere left ended (none :: turns) ⟨.error e, s, ns⟩
  | finish {s : σ} {ns : List Notice} (h : ended s) :
    Takes allThere left ended [] ⟨.ok none, s, ns⟩
  | stall {turns : List Turn} {s : σ} {ns : List Notice} {e : QueryError} (h : left turns s)
    (away : ¬allThere) : Takes allThere left ended turns ⟨.error e, s, ns⟩

/-- While the files change as `fair` allows, a cursor hands out its turns one by one, whatever
    failures there are in between. A state that has been at the end stays there until it has been
    put back, which may take more than one call while not all files are there. -/
structure Cursor.Resumes {σ : Type} (c : Cursor σ) (fair allThere : Files → Prop)
    (turns : List Turn) (left : List Turn → σ → Prop) (ended valid : σ → Prop) : Prop where
  left_of_ended : ∀ {s}, ended s → left [] s
  valid_of_left : ∀ {rest s}, left rest s → valid s
  next : ∀ {files rest s}, fair files → left rest s →
    (c.next files s).Takes (allThere files) left ended rest
  reset : ∀ {files s}, fair files → valid s →
    (c.reset files s).Gives () (left turns) ∨
      ¬allThere files ∧ ∃ e s' ns, c.reset files s = ⟨.error e, s', ns⟩ ∧ valid s' ∧
        (ended s → ended s')

variable {σ τ : Type} {fair allThere : Files → Prop}

/-! ## Tuples at hand and rows of tables -/

theorem Reply.Takes.after {allThere : Prop} {left : List Turn → σ → Prop} {ended : σ → Prop}
    {rest : List Turn} {r : Reply (Option Tuple) σ} (h : r.Takes allThere left ended rest)
    (ns : List Notice) : (r.after ns).Takes allThere left ended rest := by
  cases h with
  | tuple h => exact .tuple h
  | failure h => exact .failure h
  | finish h => exact .finish h
  | stall h away => exact .stall h away

theorem Replay.resumes (rows : List Tuple) :
    Replay.cursor.Resumes fair allThere (rows.map some)
      (fun rest s => s.rows = rows ∧ s.rest.map some = rest)
      (fun s => s.rows = rows ∧ s.rest = []) (fun s => s.rows = rows) where
  left_of_ended := fun ⟨hrows, hrest⟩ => ⟨hrows, by rw [hrest, List.map_nil]⟩
  valid_of_left := And.left
  next := by
    rintro files _ ⟨rows, ts⟩ - ⟨rfl, rfl⟩
    cases ts with
    | nil => exact .finish ⟨rfl, rfl⟩
    | cons t ts => exact .tuple ⟨rfl, rfl⟩
  reset := by
    rintro files ⟨rows, ts⟩ - rfl
    exact .inl ⟨_, _, rfl, rfl, rfl⟩

/-- The turn of a record of a table. -/
def Table.turn (t : Table) (r : Record) : Turn := (t.tuple r).toOption

/-- A scan hands out a turn for each record of its file, as long as that is the same whenever it can
    be opened. -/
theorem Scan.resumes {t : Table} {bytes : ByteArray}
    (hfair : ∀ {files}, fair files → files t.path = .ok bytes ∨
      ¬allThere files ∧ ∃ cause, cause ≠ .isFolder ∧ files t.path = .error cause) :
    Scan.cursor.Resumes fair allThere ((records bytes).map t.turn)
      (fun rest s => ∃ rs, s = ⟨t, .ok rs⟩ ∧ rs.map t.turn = rest) (· = ⟨t, .ok []⟩)
      (·.table = t) where
  left_of_ended hs := ⟨[], hs, rfl⟩
  valid_of_left := by
    rintro _ _ ⟨rs, rfl, -⟩
    rfl
  next := by
    rintro files _ _ - ⟨rs, rfl, rfl⟩
    cases rs with
    | nil => exact .finish rfl
    | cons r rs =>
      have hnext : Scan.cursor.next files ⟨t, .ok (r :: rs)⟩ =
        ⟨(t.tuple r).map some, ⟨t, .ok rs⟩, []⟩ := rfl
      rw [hnext, List.map_cons, Table.turn]
      cases t.tuple r with
      | ok u => exact .tuple ⟨rs, rfl, rfl⟩
      | error e => exact .failure ⟨rs, rfl, rfl⟩
  reset := by
    rintro files ⟨t', rest⟩ hf ht
    obtain rfl : t = t' := ht.symm
    rcases hfair hf with hpath | ⟨haway, cause, hfolder, hpath⟩
    · exact .inl ⟨⟨_, .ok (records bytes)⟩, [],
        by simp [Scan.cursor, Scan.reset, Scan.openTable, hpath, Scan.rows], _, rfl, rfl⟩
    · have hopen : Scan.rows (files t.path) = .error cause := by
        rw [hpath]
        cases cause <;> first | rfl | exact absurd rfl hfolder
      exact .inr ⟨haway, .tableUnreadable t.path cause, ⟨t, rest⟩, [],
        by simp [Scan.cursor, Scan.reset, Scan.openTable, hopen], rfl, id⟩

/-! ## Filters and projections -/

/-- The turns that a condition keeps: the tuples that it keeps, and all failures. -/
def Filter.turns (p : Condition) (turns : List Turn) : List Turn := turns.filter (·.all p.keeps)

theorem Filter.turns_tuple (p : Condition) (t : Tuple) (turns : List Turn) :
    Filter.turns p (some t :: turns) =
      if p.keeps t then some t :: Filter.turns p turns else Filter.turns p turns :=
  List.filter_cons

theorem Filter.turns_failure (p : Condition) (turns : List Turn) :
    Filter.turns p (none :: turns) = none :: Filter.turns p turns :=
  rfl

section
variable {c : Cursor σ} {turns : List Turn} {left : List Turn → σ → Prop} {ended valid : σ → Prop}

/-- The next turn of a filter is the first one that is left and that its condition keeps. -/
theorem Filter.next_takes (h : c.Resumes fair allThere turns left ended valid) (p : Condition)
    {files : Files} (hf : fair files) {rest : List Turn} {s : σ} (hs : left rest s) :
    (Filter.next p c files s).Takes (allThere files)
      (fun kept s => ∃ l, left l s ∧ Filter.turns p l = kept) ended (Filter.turns p rest) := by
  induction rest generalizing s with
  | nil =>
    have hn := h.next hf hs
    generalize hr : c.next files s = r at hn
    cases hn with
    | finish hs' =>
      rw [Filter.next_other (by simp [hr]), hr]
      exact .finish hs'
    | stall hs' haway =>
      rw [Filter.next_other (by simp [hr]), hr]
      exact .stall ⟨[], hs', rfl⟩ haway
  | cons turn rest ih =>
    have hn := h.next hf hs
    generalize hr : c.next files s = r at hn
    cases hn with
    | @tuple t _ s' ns hs' =>
      rw [Filter.next_tuple hr, Filter.turns_tuple]
      split
      · exact .tuple ⟨rest, hs', rfl⟩
      · exact (ih hs').after _
    | failure hs' =>
      rw [Filter.next_other (by simp [hr]), hr, Filter.turns_failure]
      exact .failure ⟨rest, hs', rfl⟩
    | stall hs' haway =>
      rw [Filter.next_other (by simp [hr]), hr]
      exact .stall ⟨turn :: rest, hs', rfl⟩ haway

/-- A filter hands out the turns that its condition keeps. -/
theorem Filter.resumes (h : c.Resumes fair allThere turns left ended valid) (p : Condition) :
    (Filter.cursor p c).Resumes fair allThere (Filter.turns p turns)
      (fun kept s => ∃ l, left l s ∧ Filter.turns p l = kept) ended valid where
  left_of_ended hs := ⟨[], h.left_of_ended hs, rfl⟩
  valid_of_left := fun ⟨_, hs, _⟩ => h.valid_of_left hs
  next := by
    rintro files _ s hf ⟨l, hs, rfl⟩
    exact Filter.next_takes h p hf hs
  reset hf hs := (h.reset hf hs).imp_left fun ⟨s', ns, hr, hs'⟩ => ⟨s', ns, hr, turns, hs', rfl⟩

/-- A projection hands out what it shows of each tuple, and the failures in between. -/
theorem Project.resumes (h : c.Resumes fair allThere turns left ended valid) (p : Projection) :
    (Project.cursor p c).Resumes fair allThere (turns.map (Option.map p.tuple))
      (fun shown s => ∃ l, left l s ∧ l.map (Option.map p.tuple) = shown) ended valid where
  left_of_ended hs := ⟨[], h.left_of_ended hs, rfl⟩
  valid_of_left := fun ⟨_, hs, _⟩ => h.valid_of_left hs
  next := by
    rintro files _ s hf ⟨l, hs, rfl⟩
    have hn := h.next hf hs
    have hnext : (Project.cursor p c).next files s = Project.next p c files s := rfl
    generalize hr : c.next files s = r at hn
    rw [hnext, Project.next, hr]
    cases hn with
    | tuple hs' => exact .tuple ⟨_, hs', rfl⟩
    | failure hs' => exact .failure ⟨_, hs', rfl⟩
    | finish hs' => exact .finish hs'
    | stall hs' haway => exact .stall ⟨_, hs', rfl⟩ haway
  reset hf hs := (h.reset hf hs).imp_left fun ⟨s', ns, hr, hs'⟩ => ⟨s', ns, hr, turns, hs', rfl⟩

end

/-! ## Joins -/

/-- The turns of a join with a left tuple in hand: those of the right side, each tuple behind the
    one in hand. -/
def Join.passTurns (p : Condition) (t : Tuple) (us : List Turn) : List Turn :=
  Filter.turns p (us.map (Option.map t.merge))

/-- The turns of a join: for each left tuple those of a pass over the right side. A left turn that
    is a failure is one of the join. -/
def Join.turns (p : Condition) (us : List Turn) : List Turn → List Turn
  | [] => []
  | some t :: ts => Join.passTurns p t us ++ Join.turns p us ts
  | none :: ts => none :: Join.turns p us ts

/-- What a join has left: the turns of the tuple in hand with what the right cursor has left, and
    then those of what the left cursor has left. A join that has been at its end has nothing left,
    however far its cursors have been put back since. -/
inductive Join.TurnsLeft (p : Condition) (us : List Turn) (left : List Turn → σ → Prop)
    (right : List Turn → τ → Prop) (validLeft : σ → Prop) (validRight : τ → Prop) :
    List Turn → Join.State σ τ → Prop
  | fetch {ts : List Turn} {s : σ} {s' : τ} (hs : left ts s) (hs' : right us s') :
    TurnsLeft p us left right validLeft validRight (Join.turns p us ts) ⟨s, s', none, false⟩
  | pair {t : Tuple} {ts rest : List Turn} {s : σ} {s' : τ} (hs : left ts s) (hs' : right rest s') :
    TurnsLeft p us left right validLeft validRight (Join.passTurns p t rest ++ Join.turns p us ts)
      ⟨s, s', some t, false⟩
  | finish {s : Join.State σ τ} (hs : validLeft s.left) (hs' : validRight s.right)
    (atEnd : s.atEnd = true) : TurnsLeft p us left right validLeft validRight [] s

section
variable {l : Cursor σ} {r : Cursor τ} {ts us : List Turn} {left : List Turn → σ → Prop}
  {right : List Turn → τ → Prop} {endedLeft validLeft : σ → Prop} {endedRight validRight : τ → Prop}

/-- With a tuple in hand, a join takes its next turn, provided that it does so without one. -/
theorem Join.next_takes_of_hand {ended : Join.State σ τ → Prop}
    (hr : r.Resumes fair allThere us right endedRight validRight) (p : Condition) {files : Files}
    (hf : fair files) {rest : List Turn} {s : σ} (hs : left rest s)
    (fetch : ∀ {s'}, right us s' → (Join.next p l r files ⟨s, s', none, false⟩).Takes
      (allThere files) (Join.TurnsLeft p us left right validLeft validRight) ended
      (Join.turns p us rest))
    (t : Tuple) {rest' : List Turn} {s' : τ} (hs' : right rest' s') :
    (Join.next p l r files ⟨s, s', some t, false⟩).Takes (allThere files)
      (Join.TurnsLeft p us left right validLeft validRight) ended
      (Join.passTurns p t rest' ++ Join.turns p us rest) := by
  induction rest' generalizing s' with
  | nil =>
    have hn := hr.next hf hs'
    generalize hnext : r.next files s' = reply at hn
    cases hn with
    | @finish s₁ ns hs₁ =>
      -- The pass is over. The right cursor stays at its end until it has been put back.
      rcases hr.reset hf (hr.valid_of_left (hr.left_of_ended hs₁)) with
        ⟨s₂, ms, hreset, hs₂⟩ | ⟨haway, e, s₂, ms, hreset, -, hs₂⟩
      · rw [Join.next_pass hnext hreset]
        exact (fetch hs₂).after _
      · rw [Join.next_pass_error hnext hreset]
        exact .stall (.pair hs (hr.left_of_ended (hs₂ hs₁))) haway
    | stall hs₁ haway =>
      rw [Join.next_pair_error hnext]
      exact .stall (.pair hs hs₁) haway
  | cons turn rest' ih =>
    have hn := hr.next hf hs'
    generalize hnext : r.next files s' = reply at hn
    cases hn with
    | @tuple u _ s₁ ns hs₁ =>
      rw [Join.next_pair hnext, Join.passTurns, List.map_cons, Option.map_some, Filter.turns_tuple]
      split
      · exact .tuple (.pair hs hs₁)
      · exact (ih hs₁).after _
    | failure hs₁ =>
      rw [Join.next_pair_error hnext]
      exact .failure (.pair hs hs₁)
    | stall hs₁ haway =>
      rw [Join.next_pair_error hnext]
      exact .stall (.pair hs hs₁) haway

/-- Without a tuple in hand, a join takes its next turn. -/
theorem Join.next_takes_of_fetch (hl : l.Resumes fair allThere ts left endedLeft validLeft)
    (hr : r.Resumes fair allThere us right endedRight validRight) (p : Condition) {files : Files}
    (hf : fair files) {rest : List Turn} {s : σ} {s' : τ} (hs : left rest s) (hs' : right us s') :
    (Join.next p l r files ⟨s, s', none, false⟩).Takes (allThere files)
      (Join.TurnsLeft p us left right validLeft validRight)
      (fun s => validLeft s.left ∧ validRight s.right ∧ s.atEnd = true)
      (Join.turns p us rest) := by
  induction rest generalizing s s' with
  | nil =>
    have hn := hl.next hf hs
    generalize hnext : l.next files s = reply at hn
    cases hn with
    | finish hs₁ =>
      rw [Join.next_finish hnext]
      exact .finish ⟨hl.valid_of_left (hl.left_of_ended hs₁), hr.valid_of_left hs', rfl⟩
    | stall hs₁ haway =>
      rw [Join.next_fetch_error hnext]
      exact .stall (.fetch hs₁ hs') haway
  | cons turn rest ih =>
    have hn := hl.next hf hs
    generalize hnext : l.next files s = reply at hn
    cases hn with
    | @tuple t _ s₁ ns hs₁ =>
      rw [Join.next_fetch hnext]
      exact (Join.next_takes_of_hand hr p hf hs₁ (ih hs₁) t hs').after _
    | failure hs₁ =>
      rw [Join.next_fetch_error hnext]
      exact .failure (.fetch hs₁ hs')
    | stall hs₁ haway =>
      rw [Join.next_fetch_error hnext]
      exact .stall (.fetch hs₁ hs') haway

/-- A join hands out the turns of each left tuple with all of the right side. -/
theorem Join.resumes (hl : l.Resumes fair allThere ts left endedLeft validLeft)
    (hr : r.Resumes fair allThere us right endedRight validRight) (p : Condition) :
    (Join.cursor p l r).Resumes fair allThere (Join.turns p us ts)
      (Join.TurnsLeft p us left right validLeft validRight)
      (fun s => validLeft s.left ∧ validRight s.right ∧ s.atEnd = true)
      (fun s => validLeft s.left ∧ validRight s.right) where
  left_of_ended := fun ⟨hs, hs', atEnd⟩ => .finish hs hs' atEnd
  valid_of_left h := by
    cases h with
    | fetch hs hs' => exact ⟨hl.valid_of_left hs, hr.valid_of_left hs'⟩
    | pair hs hs' => exact ⟨hl.valid_of_left hs, hr.valid_of_left hs'⟩
    | finish hs hs' _ => exact ⟨hs, hs'⟩
  next := by
    rintro files rest s hf h
    have hnext : (Join.cursor p l r).next files s = Join.next p l r files s := rfl
    rw [hnext]
    cases h with
    | fetch hs hs' => exact Join.next_takes_of_fetch hl hr p hf hs hs'
    | pair hs hs' =>
      exact Join.next_takes_of_hand hr p hf hs (Join.next_takes_of_fetch hl hr p hf hs) _ hs'
    | finish hs hs' atEnd =>
      rw [Join.next_atEnd atEnd]
      exact .finish ⟨hs, hs', atEnd⟩
  reset := by
    rintro files ⟨s, s', hand, atEnd⟩ hf ⟨hs, hs'⟩
    have hreset : (Join.cursor p l r).reset files ⟨s, s', hand, atEnd⟩ =
      Join.reset l r files ⟨s, s', hand, atEnd⟩ := rfl
    rw [hreset, Join.reset]
    rcases hl.reset hf hs with ⟨s₁, ns, hls, hs₁⟩ | ⟨haway, e, s₁, ns, hls, hs₁, -⟩
    · rcases hr.reset hf hs' with ⟨s₂, ms, hrs, hs₂⟩ | ⟨haway, e, s₂, ms, hrs, hs₂, -⟩
      · simp only [hls, hrs]
        exact .inl ⟨_, _, rfl, .fetch hs₁ hs₂⟩
      · -- Only the left cursor has gone back. At the end, the join stays there all the same.
        have hvalid := hl.valid_of_left hs₁
        simp only [hls, hrs]
        exact .inr ⟨haway, e, _, _, rfl, ⟨hvalid, hs₂⟩, fun h => ⟨hvalid, hs₂, h.2.2⟩⟩
    · simp only [hls]
      exact .inr ⟨haway, e, _, _, rfl, ⟨hs₁, hs'⟩, fun h => ⟨hs₁, hs', h.2.2⟩⟩

end

/-! ## Calling again and again -/

/-- The tuples that calls give, one call on each of some files, whatever fails in between. -/
def Cursor.handed (c : Cursor σ) : List Files → σ → List Tuple
  | [], _ => []
  | files :: later, s =>
    let reply := c.next files s
    reply.result.toOption.join.toList ++ c.handed later reply.state

/-- The state behind these calls. -/
def Cursor.goOn (c : Cursor σ) : List Files → σ → σ
  | [], s => s
  | files :: later, s => c.goOn later (c.next files s).state

theorem Cursor.goOn_append (c : Cursor σ) (now later : List Files) (s : σ) :
    c.goOn (now ++ later) s = c.goOn later (c.goOn now s) := by
  induction now generalizing s with
  | nil => rfl
  | cons files now ih => exact ih _

section
variable {c : Cursor σ} {turns : List Turn} {left : List Turn → σ → Prop} {ended valid : σ → Prop}

/-- Calls take some turns in order and hand out their tuples. -/
theorem Cursor.Resumes.handed (h : c.Resumes fair allThere turns left ended valid)
    {later : List Files} (hlater : ∀ files ∈ later, fair files) {rest : List Turn} {s : σ}
    (hs : left rest s) :
    ∃ taken rest', rest = taken ++ rest' ∧ left rest' (c.goOn later s) ∧
      c.handed later s = taken.reduceOption := by
  induction later generalizing rest s with
  | nil => exact ⟨[], rest, rfl, hs, rfl⟩
  | cons files later ih =>
    rw [List.forall_mem_cons] at hlater
    have hn := h.next hlater.1 hs
    rw [Cursor.goOn, Cursor.handed]
    generalize c.next files s = reply at hn
    cases hn with
    | @tuple t rest s' ns hs' =>
      obtain ⟨taken, rest', rfl, hs'', ht⟩ := ih hlater.2 hs'
      exact ⟨some t :: taken, rest', rfl, hs'', congrArg (t :: ·) ht⟩
    | @failure rest s' ns e hs' =>
      obtain ⟨taken, rest', rfl, hs'', ht⟩ := ih hlater.2 hs'
      exact ⟨none :: taken, rest', rfl, hs'', ht⟩
    | finish hs' => exact ih hlater.2 (h.left_of_ended hs')
    | stall hs' _ => exact ih hlater.2 hs'

/-- There is nothing left when a call says so. -/
theorem Cursor.Resumes.eq_nil_of_next (h : c.Resumes fair allThere turns left ended valid)
    {files : Files} (hf : fair files) {rest : List Turn} {s : σ} (hs : left rest s)
    (hend : (c.next files s).result = .ok none) : rest = [] := by
  have hn := h.next hf hs
  generalize c.next files s = reply at hn hend
  cases hn <;> first | rfl | cases hend

/-- If the files are all there time and again, some call comes to the end. -/
theorem Cursor.Resumes.ends (h : c.Resumes fair allThere turns left ended valid)
    {moment : Nat → Files} (hfair : ∀ i, fair (moment i))
    (hback : ∀ i, ∃ j, i ≤ j ∧ allThere (moment j)) {rest : List Turn} {s : σ} (hs : left rest s) :
    ∃ n, (c.next (moment n) (c.goOn ((List.range n).map moment) s)).result = .ok none := by
  induction hlen : rest.length using Nat.strongRecOn generalizing rest s moment with
  | _ len ih =>
    subst hlen
    -- Whatever happens until all files are there, the call at that moment takes a turn.
    obtain ⟨j, -, hj⟩ := hback 0
    have hearlier : ∀ files ∈ (List.range j).map moment, fair files := by
      simpa using fun i _ => hfair i
    obtain ⟨taken, rest', rfl, hs', -⟩ := h.handed hearlier hs
    have hn := h.next (hfair j) hs'
    have ahead {rest'' : List Turn} (hlt : rest''.length < rest'.length)
        (hs'' : left rest'' (c.next (moment j) (c.goOn ((List.range j).map moment) s)).state) :
        ∃ n, (c.next (moment n) (c.goOn ((List.range n).map moment) s)).result = .ok none := by
      have hback' (i : Nat) : ∃ m, i ≤ m ∧ allThere (moment (j + 1 + m)) := by
        obtain ⟨m, hm, hthere⟩ := hback (j + 1 + i)
        exact ⟨m - (j + 1), by omega, by rwa [show j + 1 + (m - (j + 1)) = m by omega]⟩
      obtain ⟨n, hend⟩ := ih rest''.length (by rw [List.length_append]; omega) (fun _ => hfair _)
        hback' hs'' rfl
      refine ⟨j + 1 + n, ?_⟩
      rw [List.range_add, List.map_append, Cursor.goOn_append, List.range_succ, List.map_append,
        Cursor.goOn_append, List.map_map]
      exact hend
    generalize hr : c.next (moment j) (c.goOn ((List.range j).map moment) s) = reply at hn ahead
    cases hn with
    | tuple hs'' => exact ahead (Nat.lt_succ_self _) hs''
    | failure hs'' => exact ahead (Nat.lt_succ_self _) hs''
    | finish _ => exact ⟨j, by rw [hr]⟩
    | stall _ haway => exact absurd hj haway

end

/-! ## The tuples among turns -/

theorem Filter.reduceOption_turns (p : Condition) (turns : List Turn) :
    (Filter.turns p turns).reduceOption = turns.reduceOption.filter p.keeps := by
  induction turns with
  | nil => rfl
  | cons turn turns ih =>
    cases turn with
    | none => exact ih
    | some t =>
      rw [Filter.turns_tuple, List.reduceOption_cons_of_some, List.filter_cons]
      split
      · rw [List.reduceOption_cons_of_some, ih]
      · exact ih

theorem Join.reduceOption_turns (p : Condition) (us ts : List Turn) :
    (Join.turns p us ts).reduceOption = Join.pairs p ts.reduceOption us.reduceOption := by
  induction ts with
  | nil => rfl
  | cons turn ts ih =>
    cases turn with
    | none => exact ih
    | some t =>
      rw [Join.turns, List.reduceOption_append, Join.passTurns, Filter.reduceOption_turns,
        List.reduceOption_map, List.reduceOption_cons_of_some, Join.pairs_cons, ih]

theorem Table.reduceOption_turns {t : Table} {files : Files} {bytes : ByteArray}
    (h : files t.path = .ok bytes) :
    ((records bytes).map t.turn).reduceOption = t.rows files := by
  rw [Table.rows, h, List.reduceOption, List.filterMap_map]
  rfl

/-! ## Plans whose files are away at times -/

theorem Table.isRow_iff_tuple {t : Table} {fields : List (List UInt8)} :
    t.IsRow fields ↔ (t.tuple (.ofFields fields)).toOption.isSome := by
  rw [← (t.decides_tuple fields).ok_iff]
  cases t.tuple (.ofFields fields) <;> simp [Except.toOption]

instance (t : Table) (fields : List (List UInt8)) : Decidable (t.IsRow fields) :=
  decidable_of_iff _ Table.isRow_iff_tuple.symm

namespace Catalog

/-- Whether there is a table of a name, with a data file. -/
def IsReadable (k : Catalog) (files : Files) (name : String) : Prop :=
  ∃ t bytes, k.find? name = some t ∧ files t.path = .ok bytes

/-- Whether the data file of a table is now the one it was. -/
def IsThere (k : Catalog) (files now : Files) (name : String) : Prop :=
  ∀ t ∈ k.find? name, now t.path = files t.path

/-- Whether the data file of a table is now the one it was or cannot be opened. -/
def IsThereOrAway (k : Catalog) (files now : Files) (name : String) : Prop :=
  ∀ t ∈ k.find? name,
    now t.path = files t.path ∨ ∃ cause, cause ≠ .isFolder ∧ now t.path = .error cause

/-- Whether the data file of a table has the well-formed rows of another one and no other rows. -/
def IsCleared (k : Catalog) (files clean : Files) (name : String) : Prop :=
  ∃ t bytes cleared, k.find? name = some t ∧ files t.path = .ok bytes ∧
    clean t.path = .ok cleared ∧
    split cleared.data.toList = (split bytes.data.toList).filter fun fields => t.IsRow fields

variable {k : Catalog} {files clean : Files} {name : String}

theorem IsCleared.isReadable (h : k.IsCleared files clean name) : k.IsReadable files name := by
  obtain ⟨t, bytes, -, ht, hb, -⟩ := h
  exact ⟨t, bytes, ht, hb⟩

theorem IsCleared.isSound (h : k.IsCleared files clean name) : k.IsSound clean name := by
  obtain ⟨t, bytes, cleared, ht, -, hc, hr⟩ := h
  refine isSound_iff.2 ⟨t, cleared, ht, hc, fun fields hmem => ?_⟩
  rw [hr, List.mem_filter] at hmem
  exact of_decide_eq_true hmem.2

theorem IsCleared.rows_eq (h : k.IsCleared files clean name) :
    k.rows clean name = k.rows files name := by
  obtain ⟨t, bytes, cleared, ht, hb, hc, hr⟩ := h
  simp only [rows, ht, Option.elim_some, Table.rows, hb, hc, records, hr, List.filterMap_map,
    List.filterMap_filter]
  congr 1
  funext fields
  -- A row that is cleared away has no tuple.
  by_cases hrow : t.IsRow fields
  · simp [hrow]
  · simp only [hrow, decide_false, Bool.false_eq_true, ↓reduceIte]
    rw [Table.isRow_iff_tuple, Bool.not_eq_true, Option.isSome_eq_false_iff,
      Option.isNone_iff_eq_none] at hrow
    exact hrow.symm

end Catalog

namespace Plan

/-- Whether a plan hands out its tuples as it pulls them: it scans, filters, projects and joins. -/
def isStreamed : Plan → Bool
  | tuples _ | scan _ => true
  | filter _ child | project _ child => child.isStreamed
  | join _ left right => left.isStreamed && right.isStreamed
  | aggregate .. | sort .. | distinct .. => false

variable {k : Catalog} {files clean : Files} {p : Plan}

theorem checkSums_of_isStreamed (hp : p.isStreamed) : p.checkSums = .ok () := by
  induction p with
  | tuples | scan => rfl
  | filter _ _ ih | project _ _ ih => exact ih hp
  | join _ left right ihl ihr =>
    obtain ⟨hl, hr⟩ := (Bool.and_eq_true _ _).mp hp
    rw [checkSums, ihl hl]
    exact ihr hr
  | aggregate | sort | distinct => cases hp

theorem rows_eq_of_isCleared (hp : ∀ name ∈ p.tables, k.IsCleared files clean name) :
    p.rows k clean = p.rows k files := by
  induction p with
  | tuples => rfl
  | scan table => exact (hp table (List.mem_singleton_self _)).rows_eq
  | filter _ _ ih | project _ _ ih | aggregate _ _ _ ih | sort _ _ ih | distinct _ _ ih =>
    simp only [rows, ih hp]
  | join _ left right ihl ihr =>
    simp only [rows, ihl fun name hn => hp name (List.mem_append_left _ hn),
      ihr fun name hn => hp name (List.mem_append_right _ hn)]

/-- A plan that hands out tuples as it pulls them opens, and goes on after failures. -/
theorem exists_resumes {names : List String} (hp : p.isStreamed)
    (hread : ∀ name ∈ p.tables, k.IsReadable files name) (hsub : ∀ name ∈ p.tables, name ∈ names) :
    ∃ turns left ended valid s, p.cursor.Resumes
        (fun now => ∀ name ∈ names, k.IsThereOrAway files now name)
        (fun now => ∀ name ∈ names, k.IsThere files now name) turns left ended valid ∧
      turns.reduceOption = p.rows k files ∧ (p.open k files).result = .ok s ∧ left turns s := by
  induction p with
  | tuples rows =>
    exact ⟨_, _, _, _, Replay.start rows, Replay.resumes rows, List.filterMap_map.trans
      List.filterMap_some, rfl, rfl, rfl⟩
  | scan table =>
    obtain ⟨t, bytes, ht, hb⟩ := hread table (List.mem_singleton_self _)
    have hname := hsub table (List.mem_singleton_self _)
    have hfair {now : Files} (hnow : ∀ name ∈ names, k.IsThereOrAway files now name) :
        now t.path = .ok bytes ∨ ¬(∀ name ∈ names, k.IsThere files now name) ∧
          ∃ cause, cause ≠ .isFolder ∧ now t.path = .error cause := by
      rcases hnow table hname t ht with hsame | ⟨cause, hfolder, haway⟩
      · exact .inl (hsame.trans hb)
      · refine .inr ⟨fun hthere => ?_, cause, hfolder, haway⟩
        rw [hthere table hname t ht, hb] at haway
        cases haway
    refine ⟨_, _, _, _, ⟨t, .ok (records bytes)⟩, Scan.resumes hfair, ?_, ?_, records bytes, rfl,
      rfl⟩
    · rw [Table.reduceOption_turns hb, rows, Catalog.rows, ht]
      rfl
    · exact Scan.open_of_ok ht hb
  | filter condition child ih =>
    obtain ⟨turns, left, ended, valid, s, hr, ht, ho, hs⟩ := ih hp hread hsub
    exact ⟨_, _, _, _, s, Filter.resumes hr condition,
      (Filter.reduceOption_turns _ _).trans (by rw [ht, rows]), ho, turns, hs, rfl⟩
  | project projection child ih =>
    obtain ⟨turns, left, ended, valid, s, hr, ht, ho, hs⟩ := ih hp hread hsub
    exact ⟨_, _, _, _, s, Project.resumes hr projection,
      List.reduceOption_map.trans (by rw [ht, rows]), ho, turns, hs, rfl⟩
  | join condition l r ihl ihr =>
    obtain ⟨hpl, hpr⟩ := (Bool.and_eq_true _ _).mp hp
    obtain ⟨ts, left, endedLeft, validLeft, s, hl, ht, ho, hs⟩ :=
      ihl hpl (fun name hn => hread name (List.mem_append_left _ hn))
        fun name hn => hsub name (List.mem_append_left _ hn)
    obtain ⟨us, right, endedRight, validRight, s', hr, hu, ho', hs'⟩ :=
      ihr hpr (fun name hn => hread name (List.mem_append_right _ hn))
        fun name hn => hsub name (List.mem_append_right _ hn)
    have hopen : (l.open k files).result = (Except.ok ()).map fun _ => s := ho
    have hopen' : (r.open k files).result = (Except.ok ()).map fun _ => s' := ho'
    exact ⟨_, _, _, _, .start s s', Join.resumes hl hr condition,
      (Join.reduceOption_turns _ _ _).trans (by rw [ht, hu, rows]),
      Run.result_bind_ok hopen (Run.result_bind_ok hopen' rfl), .fetch hs hs'⟩
  | aggregate | sort | distinct => cases hp

/-- A plan that hands out tuples as it pulls them gives its tuples whatever fails on the way, each
    once and in order, and they are those of the data files without their malformed rows. While
    files are away, calls give the first tuples of that list, and a call comes to its end only
    behind all of them. One does if all files are there time and again. -/
theorem handed_cleared (hp : p.isStreamed)
    (hclean : ∀ name ∈ p.tables, k.IsCleared files clean name) :
    ∃ s rows, (p.open k files).result = .ok s ∧ (p.tuples? k clean).result = .ok rows ∧
      (∀ later, (∀ now ∈ later, ∀ name ∈ p.tables, k.IsThereOrAway files now name) →
        p.cursor.handed later s <+: rows ∧
        ∀ now, (∀ name ∈ p.tables, k.IsThereOrAway files now name) →
          (p.cursor.next now (p.cursor.goOn later s)).result = .ok none →
          p.cursor.handed later s = rows) ∧
      ∀ moment : Nat → Files, (∀ i, ∀ name ∈ p.tables, k.IsThereOrAway files (moment i) name) →
        (∀ i, ∃ j, i ≤ j ∧ ∀ name ∈ p.tables, k.IsThere files (moment j) name) →
        ∃ n, (p.cursor.next (moment n)
          (p.cursor.goOn ((List.range n).map moment) s)).result = .ok none := by
  obtain ⟨turns, left, ended, valid, s, hr, ht, ho, hs⟩ :=
    exists_resumes hp (fun name hn => (hclean name hn).isReadable) fun _ hn => hn
  have hrows : (p.tuples? k clean).result = .ok (p.rows k files) := by
    rw [result_of_checkSums (fun name hn => (hclean name hn).isSound) (checkSums_of_isStreamed hp),
      rows_eq_of_isCleared hclean]
  refine ⟨s, p.rows k files, ho, hrows, fun later hlater => ?_, fun moment hfair hback =>
    hr.ends hfair hback hs⟩
  obtain ⟨taken, rest, rfl, hs', hh⟩ := hr.handed hlater hs
  rw [List.reduceOption_append] at ht
  refine ⟨⟨rest.reduceOption, by rw [hh, ht]⟩, fun now hnow hend => ?_⟩
  obtain rfl := hr.eq_nil_of_next hnow hs' hend
  rw [hh, ← ht]
  exact (List.append_nil _).symm

end Plan

namespace Sample

/-- Data files with a field that is no integer, a row that is too short and a byte of no text. -/
def roughFiles : Files := fun path =>
  if path = "db/data/R.csv" then .ok "1,2\nx,9\n3,4\n".toUTF8
  else if path = "db/data/S.csv" then .ok ("3,5\n7\n1,6\n8,".toUTF8.push 0xFF)
  else .error .missing

/-- These files without their malformed rows. -/
def smoothFiles : Files := fun path =>
  if path = "db/data/R.csv" then .ok "1,2\n3,4\n".toUTF8
  else if path = "db/data/S.csv" then .ok "3,5\n1,6\n".toUTF8
  else .error .missing

/-- The rough files, with that of `S` away at every other moment. -/
def comeAndGo (i : Nat) : Files := fun path =>
  if i % 2 = 0 ∧ path = "db/data/S.csv" then .error .missing else roughFiles path

/-- Each row of `R` beside all pairs of a row of `S` and one of `R` with the same `a`. -/
def joinedTwice : Plan :=
  .project (.list [.column ⟨some "R", "b"⟩, .column ⟨some "S", "c"⟩])
    (.join none (.scan "R")
      (.join (some (.compare (.column ⟨some "S", "a"⟩) .equal (.column ⟨some "R", "a"⟩)))
        (.scan "S") (.filter none (.scan "R"))))

/-- A join of joins over rough files, one of which comes and goes, comes to its end, and has then
    handed out all tuples. -/
theorem joinedTwice_handed :
    joinedTwice.isStreamed = true ∧
    (∀ name ∈ joinedTwice.tables, catalog.IsCleared roughFiles smoothFiles name) ∧
    (∀ i, ∀ name ∈ joinedTwice.tables, catalog.IsThereOrAway roughFiles (comeAndGo i) name) ∧
    (∀ i, ∃ j, i ≤ j ∧
      ∀ name ∈ joinedTwice.tables, catalog.IsThere roughFiles (comeAndGo j) name) ∧
    ∃ s n, (joinedTwice.open catalog roughFiles).result = .ok s ∧
      (joinedTwice.cursor.next (comeAndGo n)
        (joinedTwice.cursor.goOn ((List.range n).map comeAndGo) s)).result = .ok none ∧
      joinedTwice.cursor.handed ((List.range n).map comeAndGo) s =
        [⟨[⟨"R", "b", 2⟩, ⟨"S", "c", 5⟩]⟩, ⟨[⟨"R", "b", 2⟩, ⟨"S", "c", 6⟩]⟩,
          ⟨[⟨"R", "b", 4⟩, ⟨"S", "c", 5⟩]⟩, ⟨[⟨"R", "b", 4⟩, ⟨"S", "c", 6⟩]⟩] := by
  have hclean : ∀ name ∈ joinedTwice.tables, catalog.IsCleared roughFiles smoothFiles name := by
    simp only [joinedTwice, Plan.tables, List.singleton_append, List.forall_mem_cons]
    have hR : catalog.IsCleared roughFiles smoothFiles "R" :=
      ⟨⟨"R", ["a", "b"], "db/data/R.csv"⟩, _, _, rfl, rfl, rfl, by decide +kernel⟩
    have hS : catalog.IsCleared roughFiles smoothFiles "S" :=
      ⟨⟨"S", ["a", "c"], "db/data/S.csv"⟩, _, _, rfl, rfl, rfl, by decide +kernel⟩
    exact ⟨hR, hS, hR, List.forall_mem_nil _⟩
  have hfair (i : Nat) : ∀ name ∈ joinedTwice.tables,
      catalog.IsThereOrAway roughFiles (comeAndGo i) name := by
    intro name _ t _
    simp only [comeAndGo]
    split
    · exact .inr ⟨.missing, by decide, rfl⟩
    · exact .inl rfl
  have hback (i : Nat) : ∃ j, i ≤ j ∧
      ∀ name ∈ joinedTwice.tables, catalog.IsThere roughFiles (comeAndGo j) name := by
    refine ⟨2 * i + 1, by omega, fun name _ t _ => ?_⟩
    rw [comeAndGo, if_neg (by omega)]
  obtain ⟨s, rows, ho, hrows, hany, hend⟩ := Plan.handed_cleared rfl hclean
  obtain ⟨n, hn⟩ := hend comeAndGo hfair hback
  have hlater : ∀ now ∈ (List.range n).map comeAndGo, ∀ name ∈ joinedTwice.tables,
      catalog.IsThereOrAway roughFiles now name := by
    simpa using fun i _ => hfair i
  refine ⟨rfl, hclean, hfair, hback, s, n, ho, hn, ?_⟩
  rw [(hany _ hlater).2 _ (hfair n) hn]
  have hsound := Plan.result_tuples? (k := catalog) (p := joinedTwice)
    fun name hname => (hclean name hname).isSound
  rw [hrows] at hsound
  refine (Except.ok.inj hsound).trans ?_
  decide +kernel

end Sample

end CsvQuery
