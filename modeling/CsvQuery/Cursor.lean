import CsvQuery.Notice

/-!
# Cursors

A cursor over tuples hands them out one at a time and can be put back to its first tuple. It reads
files as they are at each call. A call that fails leaves the cursor in a state to go on from.

* `Cursor`: a way of pulling tuples from states of some type.
* `Cursor.collect`, `Cursor.drain`: all tuples up to the end.
* `Cursor.At`: the states of a cursor, ordered by how far they are from the end, for recursion over
  the tuples of a cursor.
-/

namespace CsvQuery

/-- What a call of a cursor gives. -/
structure Reply (α σ : Type) where
  result : Except QueryError α
  /-- The state to go on from. -/
  state : σ
  notices : List Notice

/-- A reply after some notices. -/
def Reply.after {α σ : Type} (notices : List Notice) (r : Reply α σ) : Reply α σ :=
  { r with notices := notices ++ r.notices }

/-- A reply of the same kind, with a function of its state. -/
def Reply.mapState {α σ τ : Type} (f : σ → τ) (r : Reply α σ) : Reply α τ :=
  ⟨r.result, f r.state, r.notices⟩

/-- The result of a reply whose state is not needed any more. -/
def Reply.run {α σ : Type} (r : Reply α σ) : Run α := ExceptT.mk ⟨r.result, r.notices⟩

/-- Whether `next` can pull a tuple from the state `s` and leave the state `s'`. -/
def Pulls {σ : Type} (next : Files → σ → Reply (Option Tuple) σ) (s' s : σ) : Prop :=
  ∃ files t, (next files s).result = .ok (some t) ∧ (next files s).state = s'

theorem pulls_of_eq {σ : Type} {next : Files → σ → Reply (Option Tuple) σ} {files : Files}
    {s s' : σ} {t : Tuple} {ns : List Notice} (h : next files s = ⟨.ok (some t), s', ns⟩) :
    Pulls next s' s :=
  ⟨files, t, by rw [h], by rw [h]⟩

/-- A cursor whose states are of the type `σ`. -/
structure Cursor (σ : Type) where
  /-- Pulls the next tuple; there is none at the end. -/
  next : Files → σ → Reply (Option Tuple) σ
  /-- Goes back to the first tuple. -/
  reset : Files → σ → Reply Unit σ
  /-- No state has tuples without end, whatever becomes of the files. -/
  ends : WellFounded (Pulls next)

namespace Cursor

variable {σ : Type}

/-- A state of a cursor. -/
structure At (c : Cursor σ) where
  state : σ

/-- A state that is reached from another one by pulling a tuple comes before it. -/
instance (c : Cursor σ) : WellFoundedRelation c.At where
  rel a b := Pulls c.next a.state b.state
  wf := InvImage.wf At.state c.ends

/-- Pulls all tuples up to the end, with the notices that `note` gives of each. The tuples pulled
    before a failure are lost. -/
def collect (c : Cursor σ) (note : Tuple → List Notice) (files : Files) (s : σ) :
    Reply (List Tuple) σ :=
  match _h : c.next files s with
  | ⟨.ok (some t), s', ns⟩ =>
    let others := c.collect note files s'
    ⟨others.result.map (t :: ·), others.state, ns ++ note t ++ others.notices⟩
  | ⟨.ok none, s', ns⟩ => ⟨.ok [], s', ns⟩
  | ⟨.error e, s', ns⟩ => ⟨.error e, s', ns⟩
termination_by (⟨s⟩ : c.At)
decreasing_by exact pulls_of_eq _h

/-- Pulls all tuples up to the end. -/
def drain (c : Cursor σ) (files : Files) (s : σ) : Reply (List Tuple) σ :=
  c.collect (fun _ => []) files s

/-- A function that pulls no tuple without shortening a list ends. -/
theorem ends_of_length {next : Files → σ → Reply (Option Tuple) σ} {α : Type} (left : σ → List α)
    (h : ∀ {files s t}, (next files s).result = .ok (some t) →
      (left (next files s).state).length < (left s).length) : WellFounded (Pulls next) :=
  Subrelation.wf (fun ⟨_, _, hr, hs⟩ => hs ▸ h hr) (measure fun s => (left s).length).wf

end Cursor

end CsvQuery
