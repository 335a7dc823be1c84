import CsvQuery.Execution
import CsvQuery.Proofs.Lookup
import CsvQuery.Proofs.StableSort

/-!
# What is told along the way

What notices a plan gives depends on the tuples that its operations meet. If
each operation gives only notices of some kind on tuples of some shape, and
makes tuples of the shape that the operation above it expects, the whole plan
gives only notices of that kind, whatever the files hold, whether its calls
succeed or fail, and however often it goes back.

* `Logged.KeepsTo`, `Run.KeepsTo`, `Reply.KeepsTo`: computations that keep to
  notices of some kind and to results of some kind.
* `Cursor.KeepsTo`: a cursor that does so at each call, by an invariant of its
  states.
* `Plan.KeepsTo`: a plan with such a cursor, with one lemma for each operation.
* `Opened.KeepsTo.execute`: running such a plan to the end of its tuples.
* `Statistics.keepsTo_build`: what is told while statistics are built.
-/

namespace CsvQuery

/-! ## Computations -/

theorem exceptMap_eq_ok {α β ε : Type} {x : Except ε α} {f : α → β} {b : β} :
    x.map f = .ok b ↔ ∃ a, x = .ok a ∧ f a = b := by
  cases x <;> simp [Except.map]

section
variable {α β : Type} {ok : Notice → Prop}

/-- A computation gives only notices that are `ok`, and a value that is `good`. -/
structure Logged.KeepsTo (ok : Notice → Prop) (good : α → Prop) (x : Logged α) : Prop where
  notices : ∀ n ∈ x.notices, ok n
  value : good x.value

namespace Logged.KeepsTo

variable {good : α → Prop} {good' : β → Prop}

theorem pure {a : α} (h : good a) : KeepsTo ok good (Pure.pure a) := ⟨nofun, h⟩

theorem bind {x : Logged α} {f : α → Logged β} (hx : x.KeepsTo ok good)
    (hf : ∀ a, good a → (f a).KeepsTo ok good') : (x >>= f).KeepsTo ok good' where
  notices := by
    intro n hn
    rcases List.mem_append.1 hn with hn | hn
    · exact hx.notices n hn
    · exact (hf _ hx.value).notices n hn
  value := (hf _ hx.value).value

end Logged.KeepsTo

/-- The notices of a computation that may fail. -/
def Run.notices (x : Run α) : List Notice := x.run.notices

/-- A computation that may fail gives only notices that are `ok`, and a result that is `good` if it
    does not fail. -/
def Run.KeepsTo (ok : Notice → Prop) (good : α → Prop) (x : Run α) : Prop :=
  Logged.KeepsTo ok (fun r => ∀ a, r = .ok a → good a) x.run

namespace Run.KeepsTo

variable {good : α → Prop} {good' : β → Prop}

theorem pure {a : α} (h : good a) : KeepsTo ok good (Pure.pure a : Run α) :=
  Logged.KeepsTo.pure fun _ ha => Except.ok.inj ha ▸ h

theorem ofExcept {r : Except QueryError α} (h : ∀ a, r = .ok a → good a) :
    KeepsTo ok good (ExceptT.mk (Pure.pure r)) :=
  Logged.KeepsTo.pure h

theorem lift {x : Logged α} (h : x.KeepsTo ok good) : KeepsTo ok good (ExceptT.lift x : Run α) :=
  h.bind fun _ ha => .pure fun _ heq => Except.ok.inj heq ▸ ha

theorem bind {x : Run α} {f : α → Run β} (hx : x.KeepsTo ok good)
    (hf : ∀ a, good a → (f a).KeepsTo ok good') : (x >>= f).KeepsTo ok good' := by
  refine Logged.KeepsTo.bind hx fun r hr => ?_
  cases r with
  | error e => exact .pure nofun
  | ok a => exact hf a (hr a rfl)

end Run.KeepsTo

end

/-! ## Cursors -/

/-- A reply gives only notices that are `ok`, leaves a state that keeps `inv`, and gives something
    `good` if it gives anything. -/
structure Reply.KeepsTo {α σ : Type} (ok : Notice → Prop) (good : α → Prop) (inv : σ → Prop)
    (r : Reply α σ) : Prop where
  notices : ∀ n ∈ r.notices, ok n
  result : ∀ a, r.result = .ok a → good a
  state : inv r.state

namespace Reply.KeepsTo

variable {α σ : Type} {ok : Notice → Prop} {good : α → Prop} {inv : σ → Prop} {r : Reply α σ}

theorem after {ns : List Notice} (hns : ∀ n ∈ ns, ok n) (h : r.KeepsTo ok good inv) :
    (r.after ns).KeepsTo ok good inv where
  notices := List.forall_mem_append.2 ⟨hns, h.notices⟩
  result := h.result
  state := h.state

/-- A call that fails may leave any state that keeps the invariant. -/
theorem error {e : QueryError} {s : σ} {ns : List Notice} (hns : ∀ n ∈ ns, ok n) (hs : inv s) :
    KeepsTo ok good inv ⟨.error e, s, ns⟩ :=
  ⟨hns, nofun, hs⟩

theorem of_ok {a : α} {s : σ} {ns : List Notice} (hns : ∀ n ∈ ns, ok n) (ha : good a)
    (hs : inv s) : KeepsTo ok good inv ⟨.ok a, s, ns⟩ :=
  ⟨hns, fun _ heq => Except.ok.inj heq ▸ ha, hs⟩

theorem mapState {τ : Type} {inv' : τ → Prop} {f : σ → τ} (h : r.KeepsTo ok good inv)
    (hf : ∀ s, inv s → inv' (f s)) : (r.mapState f).KeepsTo ok good inv' :=
  ⟨h.notices, h.result, hf _ h.state⟩

theorem run (h : r.KeepsTo ok good inv) : r.run.KeepsTo ok good := ⟨h.notices, h.result⟩

end Reply.KeepsTo

/-- From states that keep `inv`, a cursor gives only notices that are `ok` and tuples of some
    shape. -/
structure Cursor.KeepsTo {σ : Type} (ok : Notice → Prop) (shape : Tuple → Prop) (inv : σ → Prop)
    (c : Cursor σ) : Prop where
  next : ∀ {files s}, inv s → (c.next files s).KeepsTo ok (fun t => ∀ u ∈ t, shape u) inv
  reset : ∀ {files s}, inv s → (c.reset files s).KeepsTo ok (fun _ => True) inv

variable {σ τ : Type} {ok : Notice → Prop} {shape shape' shape'' : Tuple → Prop} {inv : σ → Prop}
  {inv' : τ → Prop} {files : Files}

theorem Cursor.KeepsTo.of_next {c : Cursor σ} (h : c.KeepsTo ok shape inv) {s : σ}
    {r : Reply (Option Tuple) σ} (hr : c.next files s = r) (hs : inv s) :
    r.KeepsTo ok (fun t => ∀ u ∈ t, shape u) inv :=
  hr ▸ h.next hs

theorem Cursor.KeepsTo.of_reset {c : Cursor σ} (h : c.KeepsTo ok shape inv) {s : σ}
    {r : Reply Unit σ} (hr : c.reset files s = r) (hs : inv s) :
    r.KeepsTo ok (fun _ => True) inv :=
  hr ▸ h.reset hs

/-- Pulling all tuples gives tuples of the shape, with notices on each. -/
theorem Cursor.KeepsTo.collect {c : Cursor σ} (h : c.KeepsTo ok shape inv)
    {note : Tuple → List Notice} (hnote : ∀ t, shape t → ∀ n ∈ note t, ok n) {s : σ} (hs : inv s) :
    (c.collect note files s).KeepsTo ok (fun ts => ∀ t ∈ ts, shape t) inv := by
  fun_induction Cursor.collect c note files s with
  | case1 s t s' ns hn others ih =>
    have hnext := h.of_next hn hs
    have ht : shape t := hnext.result _ rfl t rfl
    have hothers := ih hnext.state
    refine ⟨?_, ?_, hothers.state⟩
    · simp only [List.forall_mem_append]
      exact ⟨⟨hnext.notices, hnote t ht⟩, hothers.notices⟩
    · intro ts hts
      obtain ⟨us, hus, rfl⟩ := exceptMap_eq_ok.1 hts
      exact List.forall_mem_cons.2 ⟨ht, hothers.result us hus⟩
  | case2 s s' ns hn =>
    have hnext := h.of_next hn hs
    exact .of_ok hnext.notices nofun hnext.state
  | case3 s e s' ns hn =>
    have hnext := h.of_next hn hs
    exact .error hnext.notices hnext.state

/-- Tuples at hand are given without notices. -/
theorem Replay.keepsTo : Replay.cursor.KeepsTo ok shape fun s =>
    (∀ t ∈ s.rows, shape t) ∧ ∀ t ∈ s.rest, shape t where
  next {files s} hs := by
    obtain ⟨rows, rest⟩ := s
    cases rest with
    | nil => exact .of_ok nofun nofun hs
    | cons t rest =>
      obtain ⟨ht, hrest⟩ := List.forall_mem_cons.1 hs.2
      exact .of_ok nofun (fun u hu => Option.some.inj hu ▸ ht) ⟨hs.1, hrest⟩
  reset hs := .of_ok nofun trivial ⟨hs.1, hs.1⟩

/-- The rows of a table are given without notices. -/
theorem Scan.keepsTo (t : Table) :
    Scan.cursor.KeepsTo ok (fun u => u.names = t.columns.map (⟨some t.name, ·⟩))
      (fun s => s.table = t) where
  next {files s} hs := by
    obtain ⟨table, rest⟩ := s
    obtain rfl : table = t := hs
    match rest with
    | .error cause => exact .error nofun rfl
    | .ok [] => exact .of_ok nofun nofun rfl
    | .ok (r :: rest) =>
      refine ⟨nofun, fun u hu v hv => ?_, rfl⟩
      obtain ⟨w, ht, rfl⟩ := exceptMap_eq_ok.1 hu
      exact Option.some.inj hv ▸ Table.names_tuple ht
  reset {files s} hs := by
    simp only [cursor, reset, openTable]
    split
    · rename_i s' hopen
      split at hopen
      · cases hopen
        exact .of_ok nofun trivial hs
      · cases hopen
    · exact .error nofun hs

section
variable {c : Cursor σ}

/-- A filter gives the notices of its condition on the tuples below it. -/
theorem Filter.keepsTo (h : c.KeepsTo ok shape inv) {p : Condition}
    (hp : ∀ t, shape t → ∀ n ∈ p.notices t, ok n) :
    (Filter.cursor p c).KeepsTo ok shape inv where
  next {files s} hs := by
    change (Filter.next p c files s).KeepsTo ok _ inv
    fun_induction Filter.next p c files s with
    | case1 s t s' ns hn keep =>
      have hnext := h.of_next hn hs
      have ht := hnext.result _ rfl
      exact .of_ok (List.forall_mem_append.2 ⟨hnext.notices, hp t (ht t rfl)⟩) ht hnext.state
    | case2 s t s' ns hn keep ih =>
      have hnext := h.of_next hn hs
      have ht := hnext.result _ rfl t rfl
      exact (ih hnext.state).after (List.forall_mem_append.2 ⟨hnext.notices, hp t ht⟩)
    | case3 s hr => exact h.next hs
  reset hs := h.reset hs

/-- A projection gives notices of the items that the tuples below it lack. -/
theorem Project.keepsTo (h : c.KeepsTo ok shape inv) {p : Projection}
    (hp : ∀ t, shape t → ∀ n ∈ p.notices t, ok n) (hshape : ∀ t, shape t → shape' (p.tuple t)) :
    (Project.cursor p c).KeepsTo ok shape' inv where
  next {files s} hs := by
    simp only [cursor, next]
    split
    · rename_i t s' ns hn
      have hnext := h.of_next hn hs
      have ht := hnext.result _ rfl t rfl
      refine .of_ok (List.forall_mem_append.2 ⟨hnext.notices, hp t ht⟩) ?_ hnext.state
      exact fun u hu => Option.some.inj hu ▸ hshape t ht
    · -- Nothing is shown at the end or of a failure.
      rename_i hnone
      have hnext : (c.next files s).KeepsTo ok _ inv := h.next hs
      refine ⟨hnext.notices, fun t ht u hu => ?_, hnext.state⟩
      subst hu
      exact (hnone u (c.next files s).state (c.next files s).notices (by rw [← ht])).elim
  reset hs := h.reset hs

/-- Reading a cursor to its end gives notices on the tuples that lack what their groups or sums are
    made of. -/
theorem Aggregate.fill_keepsTo (h : c.KeepsTo ok shape inv) {columns : List ColumnRef}
    {sums : List SumCall} (hcolumns : ∀ t, shape t → ∀ n ∈ groupingNotices columns t, ok n)
    (hsums : ∀ t, shape t → ∀ call ∈ sums, ∀ n ∈ call.argument.shareNotices t, ok n)
    (hshape : ∀ t members, shape t → shape' (t.merge ⟨sums.map (·.result members)⟩))
    {s : State σ} (hs : inv s.child ∧ ∀ t ∈ s.rest, shape' t) :
    (fill columns sums c files s).KeepsTo ok (fun _ => True)
      (fun s => inv s.child ∧ ∀ t ∈ s.rest, shape' t) := by
  have hcollect : (c.collect (groupingNotices columns) files s.child).KeepsTo ok _ inv :=
    h.collect hcolumns hs.1
  rw [fill]
  split
  · rename_i ts child ns hread
    rw [hread] at hcollect
    have hts : ∀ t ∈ ts, shape t := hcollect.result ts rfl
    have htold : ∀ n ∈ sumNotices columns sums ts, ok n := by
      intro n hn
      obtain ⟨members, hmembers, hn⟩ := List.mem_flatMap.1 hn
      obtain ⟨key, _, rfl⟩ := List.mem_map.1 hmembers
      obtain ⟨call, hcall, hn⟩ := List.mem_flatMap.1 hn
      obtain ⟨t, ht, hn⟩ := List.mem_flatMap.1 hn
      exact hsums t (hts t (List.mem_filter.1 ht).1) call hcall n hn
    refine .of_ok (List.forall_mem_append.2 ⟨hcollect.notices, htold⟩) trivial
      ⟨hcollect.state, fun u hu => ?_⟩
    obtain ⟨t, ht, members, rfl⟩ := exists_of_mem_summaries hu
    exact hshape t members (hts t ht)
  · rename_i e child ns hread
    rw [hread] at hcollect
    exact .error hcollect.notices ⟨hcollect.state, hs.2⟩

/-- An aggregation gives its notices when it goes back, and none when a tuple is pulled. -/
theorem Aggregate.keepsTo (h : c.KeepsTo ok shape inv) {columns : List ColumnRef}
    {sums : List SumCall} (hcolumns : ∀ t, shape t → ∀ n ∈ groupingNotices columns t, ok n)
    (hsums : ∀ t, shape t → ∀ call ∈ sums, ∀ n ∈ call.argument.shareNotices t, ok n)
    (hshape : ∀ t members, shape t → shape' (t.merge ⟨sums.map (·.result members)⟩)) :
    (Aggregate.cursor columns sums c).KeepsTo ok shape'
      (fun s => inv s.child ∧ ∀ t ∈ s.rest, shape' t) where
  next {files s} hs := by
    obtain ⟨child, rest⟩ := s
    cases rest with
    | nil => exact .of_ok nofun nofun hs
    | cons t rest =>
      obtain ⟨ht, hrest⟩ := List.forall_mem_cons.1 hs.2
      exact .of_ok nofun (fun u hu => Option.some.inj hu ▸ ht) ⟨hs.1, hrest⟩
  reset {files s} hs := by
    simp only [cursor, reset]
    split
    · rename_i child ns hback
      have hreset := h.of_reset hback hs.1
      exact (fill_keepsTo h hcolumns hsums hshape (s := ⟨child, s.rest⟩)
        ⟨hreset.state, hs.2⟩).after hreset.notices
    · rename_i e child ns hback
      have hreset := h.of_reset hback hs.1
      exact .error hreset.notices ⟨hreset.state, hs.2⟩

end

/-- A join keeps the invariants of both cursors, and the shape of the left tuple in hand. -/
structure Join.Keeps (inv : σ → Prop) (inv' : τ → Prop) (shape : Tuple → Prop)
    (s : Join.State σ τ) : Prop where
  left : inv s.left
  right : inv' s.right
  hand : ∀ t ∈ s.inHand, shape t

section
variable {l : Cursor σ} {r : Cursor τ}

/-- The search for the next pair gives the notices of the condition on the pairs on the way. -/
theorem Join.next_keepsTo (hl : l.KeepsTo ok shape inv) (hr : r.KeepsTo ok shape' inv')
    {p : Condition} (hp : ∀ t u, shape t → shape' u → ∀ n ∈ p.notices (t.merge u), ok n)
    (hshape : ∀ t u, shape t → shape' u → shape'' (t.merge u)) {s : Join.State σ τ}
    (hs : Join.Keeps inv inv' shape s) :
    (Join.next p l r files s).KeepsTo ok (fun t => ∀ u ∈ t, shape'' u)
      (Join.Keeps inv inv' shape) := by
  -- A pair is made of the tuple in hand, which keeps its shape until the next one is pulled.
  fun_induction Join.next p l r files s with
  | case1 s hend => exact .of_ok (by simp) (by simp) hs
  | case2 s hend hand t left ns hn ih =>
    have hnext := hl.of_next hn hs.left
    refine (ih ⟨hnext.state, hs.right, fun u hu => ?_⟩).after hnext.notices
    exact Option.some.inj hu ▸ hnext.result _ rfl t rfl
  | case3 s hend hand left ns hn =>
    have hnext := hl.of_next hn hs.left
    exact .of_ok hnext.notices (by simp) ⟨hnext.state, hs.right, hs.hand⟩
  | case4 s hend hand e left ns hn =>
    have hnext := hl.of_next hn hs.left
    exact .error hnext.notices ⟨hnext.state, hs.right, hs.hand⟩
  | case5 s hend t hand u right ns hn pair keep =>
    have hnext := hr.of_next hn hs.right
    have ht := hs.hand t hand
    have hu := hnext.result _ rfl u rfl
    refine .of_ok (List.forall_mem_append.2 ⟨hnext.notices, hp t u ht hu⟩) ?_
      ⟨hs.left, hnext.state, hs.hand⟩
    exact fun v hv => Option.some.inj hv ▸ hshape t u ht hu
  | case6 s hend t hand u right ns hn pair keep ih =>
    have hnext := hr.of_next hn hs.right
    have htold := hp t u (hs.hand t hand) (hnext.result _ rfl u rfl)
    exact (ih ⟨hs.left, hnext.state, hs.hand⟩).after
      (List.forall_mem_append.2 ⟨hnext.notices, htold⟩)
  | case7 s hend t hand right ns hn right' ms hback ih =>
    have hnext := hr.of_next hn hs.right
    have hreset := hr.of_reset hback hnext.state
    exact (ih ⟨hs.left, hreset.state, by simp⟩).after
      (List.forall_mem_append.2 ⟨hnext.notices, hreset.notices⟩)
  | case8 s hend t hand right ns hn e right' ms hback =>
    have hnext := hr.of_next hn hs.right
    have hreset := hr.of_reset hback hnext.state
    exact .error (List.forall_mem_append.2 ⟨hnext.notices, hreset.notices⟩)
      ⟨hs.left, hreset.state, hs.hand⟩
  | case9 s hend t hand e right ns hn =>
    have hnext := hr.of_next hn hs.right
    exact .error hnext.notices ⟨hs.left, hnext.state, hs.hand⟩

/-- Going back gives the notices of both cursors, also if one of them fails. -/
theorem Join.reset_keepsTo (hl : l.KeepsTo ok shape inv) (hr : r.KeepsTo ok shape' inv')
    {s : Join.State σ τ} (hs : Join.Keeps inv inv' shape s) :
    (Join.reset l r files s).KeepsTo ok (fun _ => True) (Join.Keeps inv inv' shape) := by
  rw [Join.reset]
  split
  · rename_i e left ns hback
    have hleft := hl.of_reset hback hs.left
    exact .error hleft.notices ⟨hleft.state, hs.right, hs.hand⟩
  · rename_i left ns hback
    have hleft := hl.of_reset hback hs.left
    split
    · rename_i e right ms hback'
      have hright := hr.of_reset hback' hs.right
      exact .error (List.forall_mem_append.2 ⟨hleft.notices, hright.notices⟩)
        ⟨hleft.state, hright.state, hs.hand⟩
    · rename_i right ms hback'
      have hright := hr.of_reset hback' hs.right
      exact .of_ok (List.forall_mem_append.2 ⟨hleft.notices, hright.notices⟩) trivial
        ⟨hleft.state, hright.state, by simp [Join.State.start]⟩

/-- A join gives the notices of its condition on the pairs that it makes. -/
theorem Join.keepsTo (hl : l.KeepsTo ok shape inv) (hr : r.KeepsTo ok shape' inv') {p : Condition}
    (hp : ∀ t u, shape t → shape' u → ∀ n ∈ p.notices (t.merge u), ok n)
    (hshape : ∀ t u, shape t → shape' u → shape'' (t.merge u)) :
    (Join.cursor p l r).KeepsTo ok shape'' (Join.Keeps inv inv' shape) where
  next hs := Join.next_keepsTo hl hr hp hshape hs
  reset hs := Join.reset_keepsTo hl hr hs

end

/-! ## Plans -/

namespace Plan

/-- A plan over the tables of a catalog gives only notices that are `ok` and tuples of some shape,
    by an invariant of its cursor that opening it sets up. -/
def KeepsTo (k : Catalog) (ok : Notice → Prop) (shape : Tuple → Prop) (p : Plan) : Prop :=
  ∃ inv : p.State → Prop, p.cursor.KeepsTo ok shape inv ∧ ∀ files, (p.open k files).KeepsTo ok inv

namespace KeepsTo

variable {k : Catalog} {p : Plan}

theorem mono (h : p.KeepsTo k ok shape) (hshape : ∀ t, shape t → shape' t) :
    p.KeepsTo k ok shape' := by
  obtain ⟨inv, hcursor, hopen⟩ := h
  refine ⟨inv, ⟨fun {files s} hs => ?_, hcursor.reset⟩, hopen⟩
  have hnext : (p.cursor.next files s).KeepsTo ok _ inv := hcursor.next hs
  exact ⟨hnext.notices, fun t ht u hu => hshape u (hnext.result t ht u hu), hnext.state⟩

/-- The rows of a table have the columns of the table, and no notice is given of them. -/
theorem scan (k : Catalog) (name : String) :
    KeepsTo k ok (fun u => u.names = (k.columns name).map (⟨some name, ·⟩)) (.scan name) := by
  cases ht : k.find? name with
  | none =>
    -- Opening fails, so that there is no state to keep an invariant.
    refine ⟨fun _ => False, ⟨nofun, nofun⟩, fun files => .ofExcept fun s hs => ?_⟩
    simp [Scan.open, Catalog.table, ht, bind, Except.bind] at hs
  | some t =>
    obtain rfl : t.name = name := by simpa using List.find?_some ht
    -- The scan keeps its table, so that going back opens the same one.
    rw [Catalog.columns, ht, Option.elim_some]
    refine ⟨fun s => Scan.table s = t, Scan.keepsTo t, fun files => .ofExcept fun s hs => ?_⟩
    rw [Scan.open, Catalog.table, ht] at hs
    change Scan.openTable t files = .ok s at hs
    rw [Scan.openTable] at hs
    split at hs
    · cases hs
      rfl
    · cases hs

theorem filter (h : p.KeepsTo k ok shape) {condition : Condition}
    (hp : ∀ t, shape t → ∀ n ∈ condition.notices t, ok n) :
    KeepsTo k ok shape (.filter condition p) := by
  obtain ⟨inv, hcursor, hopen⟩ := h
  exact ⟨inv, Filter.keepsTo hcursor hp, hopen⟩

theorem project (h : p.KeepsTo k ok shape) {projection : Projection}
    (hp : ∀ t, shape t → ∀ n ∈ projection.notices t, ok n)
    (hshape : ∀ t, shape t → shape' (projection.tuple t)) :
    KeepsTo k ok shape' (.project projection p) := by
  obtain ⟨inv, hcursor, hopen⟩ := h
  exact ⟨inv, Project.keepsTo hcursor hp hshape, hopen⟩

theorem join {l r : Plan} (hl : l.KeepsTo k ok shape) (hr : r.KeepsTo k ok shape')
    {condition : Condition}
    (hp : ∀ t u, shape t → shape' u → ∀ n ∈ condition.notices (t.merge u), ok n)
    (hshape : ∀ t u, shape t → shape' u → shape'' (t.merge u)) :
    KeepsTo k ok shape'' (.join condition l r) := by
  obtain ⟨inv, hleft, hopen⟩ := hl
  obtain ⟨inv', hright, hopen'⟩ := hr
  refine ⟨Join.Keeps inv inv' shape, Join.keepsTo hleft hright hp hshape, fun files => ?_⟩
  exact (hopen files).bind fun s hs => (hopen' files).bind fun s' hs' => .pure ⟨hs, hs', nofun⟩

theorem aggregate (h : p.KeepsTo k ok shape) {columns : List ColumnRef} {sums : List SumCall}
    (hcolumns : ∀ t, shape t → ∀ n ∈ Aggregate.groupingNotices columns t, ok n)
    (hsums : ∀ t, shape t → ∀ call ∈ sums, ∀ n ∈ call.argument.shareNotices t, ok n)
    (hshape : ∀ t members, shape t → shape' (t.merge ⟨sums.map (·.result members)⟩)) :
    KeepsTo k ok shape' (.aggregate columns sums p) := by
  obtain ⟨inv, hcursor, hopen⟩ := h
  refine ⟨fun s => inv s.child ∧ ∀ t ∈ s.rest, shape' t,
    Aggregate.keepsTo hcursor hcolumns hsums hshape, fun files => ?_⟩
  refine (hopen files).bind fun s hs => Run.KeepsTo.bind (.ofExcept fun _ _ => trivial) fun _ _ => ?_
  have hfill : (Aggregate.fill columns sums p.cursor files ⟨s, []⟩).KeepsTo ok _ _ :=
    Aggregate.fill_keepsTo hcursor hcolumns hsums hshape ⟨hs, nofun⟩
  exact hfill.run.bind fun _ _ => .pure hfill.state

theorem sort (h : p.KeepsTo k ok shape) {keys : List ColumnRef}
    (hkeys : ∀ t, shape t → ∀ n ∈ Sort.notices keys t, ok n) :
    KeepsTo k ok shape (.sort keys p) := by
  obtain ⟨inv, hcursor, hopen⟩ := h
  refine ⟨_, Replay.keepsTo, fun files => (hopen files).bind fun s hs => ?_⟩
  refine (hcursor.collect hkeys hs).run.bind fun ts hts => .pure ?_
  have hsorted : ∀ t ∈ Sort.sorted keys ts, shape t := fun t ht =>
    hts t ((Sort.sorted_perm keys ts).mem_iff.1 ht)
  exact ⟨hsorted, hsorted⟩

theorem distinct (h : p.KeepsTo k ok shape) {key : ColumnRef}
    (hkey : ∀ t, shape t → ∀ n ∈ Distinct.notices key t, ok n) :
    KeepsTo k ok shape (.distinct key p) := by
  obtain ⟨inv, hcursor, hopen⟩ := h
  refine ⟨_, Replay.keepsTo, fun files => (hopen files).bind fun s hs => ?_⟩
  refine (hcursor.collect hkey hs).run.bind fun ts hts => .pure ?_
  have hfirsts : ∀ t ∈ Distinct.firsts key ts, shape t := fun t ht =>
    hts t (Distinct.of_mem_firsts ht).1
  exact ⟨hfirsts, hfirsts⟩

end KeepsTo

end Plan

/-! ## Running a plan -/

/-- An opened plan gives only notices that are `ok`, by an invariant of its cursor. -/
def Opened.KeepsTo (ok : Notice → Prop) (o : Opened) : Prop :=
  ∃ shape inv, o.plan.cursor.KeepsTo ok shape inv ∧ inv o.state

theorem Plan.KeepsTo.ofPlan {k : Catalog} {p : Plan} (h : p.KeepsTo k ok shape) (files : Files) :
    (Opened.ofPlan k files p).KeepsTo ok (Opened.KeepsTo ok) := by
  obtain ⟨inv, hcursor, hopen⟩ := h
  exact (hopen files).bind fun s hs => .pure ⟨shape, inv, hcursor, hs⟩

/-- Pulling all tuples of an opened plan gives only notices that are `ok`, if that of their number
    is. -/
theorem Opened.KeepsTo.execute {o : Opened} (h : o.KeepsTo ok) (hproduced : ∀ n, ok (.produced n))
    (files : Files) : (o.execute files).run.KeepsTo ok fun _ => True := by
  obtain ⟨shape, inv, hcursor, hs⟩ := h
  have hcollect : (o.plan.cursor.drain files o.state).KeepsTo ok _ inv :=
    hcursor.collect (fun _ _ _ hn => absurd hn List.not_mem_nil) hs
  have hdrain : (o.drain files).KeepsTo ok _ fun _ => True := hcollect.mapState fun _ _ => trivial
  have hexecute : (o.execute files).KeepsTo ok (fun _ => True) fun _ => True := by
    rw [Opened.execute]
    split
    · rename_i ts o' ns hread
      rw [hread] at hdrain
      refine .of_ok (List.forall_mem_append.2 ⟨hdrain.notices, ?_⟩) trivial trivial
      exact List.forall_mem_singleton.2 (hproduced _)
    · rename_i e o' ns hread
      rw [hread] at hdrain
      exact .error hdrain.notices trivial
  exact hexecute.run

namespace Statistics

theorem keepsTo_addTable (hcomputed : ∀ name rows, ok (.statisticsComputed name rows))
    (stats : Statistics) (k : Catalog) (files : Files) (name : String) :
    (stats.addTable k files name).KeepsTo ok fun _ => True := by
  have hopen : Run.KeepsTo ok (fun _ => True) (ExceptT.mk (Pure.pure (Scan.open k files name))) :=
    .ofExcept fun _ _ => trivial
  refine hopen.bind fun scan _ => ?_
  have hdrain : (Scan.cursor.drain files scan).KeepsTo ok _ (fun s => s.table = scan.table) :=
    (Scan.keepsTo scan.table).collect (fun _ _ _ hn => absurd hn List.not_mem_nil) rfl
  refine hdrain.run.bind fun rows _ => ?_
  split
  · exact .pure trivial
  · have htold : (Run.tell [.statisticsComputed name rows.length]).KeepsTo ok fun _ => True :=
      .lift ⟨List.forall_mem_singleton.2 (hcomputed _ _), trivial⟩
    exact htold.bind fun _ _ => .pure trivial

/-- Building statistics gives no notices but of the tables that are counted. -/
theorem keepsTo_build (hcomputed : ∀ name rows, ok (.statisticsComputed name rows)) (k : Catalog)
    (files : Files) (tables : List String) : (build k files tables).KeepsTo ok fun _ => True := by
  rw [build]
  generalize empty = stats
  induction tables generalizing stats with
  | nil => exact .pure trivial
  | cons name tables ih =>
    exact (keepsTo_addTable hcomputed stats k files name).bind fun stats' _ => ih stats'

end Statistics

end CsvQuery
