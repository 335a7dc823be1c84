import CsvQuery.Proofs.Delivery

/-!
# The tuples of a plan

Over sound tables, that is, tables with data files without malformed rows, a
plan stands for one list of tuples (`Plan.rows`), whose parts are functions of
the lists of the plans below: the rows of a file in order, the tuples that a
condition keeps, what is shown of each, all pairs, groups, sorted tuples and
tuples without repeats.

* `Plan.delivers`: the cursor of a plan delivers that list.
* `Plan.result_open`: a plan opens unless some sum in it cannot be taken.
* `Plan.result_tuples?`: what pulling all tuples of a plan gives.
* `Plan.rewindable`: after any calls, the next tuple is that at the number of
  tuples pulled since the plan last went back to its start.
-/

namespace CsvQuery

/-! ## Results without notices -/

/-- The result of a computation, without its notices. -/
def Run.result {α : Type} (x : Run α) : Except QueryError α := x.run.value

theorem Run.result_bind {α β : Type} (x : Run α) (f : α → Run β) :
    (x >>= f).result = x.result >>= fun a => (f a).result := by
  change Logged.value (Logged.bind x.run (ExceptT.bindCont f)) = Logged.value x.run >>= _
  cases h : x.run.value <;> simp only [Logged.bind, h] <;> rfl

/-- A computation that fails where one check does goes on with one that fails where another check
    does. -/
theorem Run.result_bind_map {α β : Type} {x : Run α} {f : α → Run β}
    {check check' : Except QueryError Unit} {a : α} {b : β}
    (hx : x.result = check.map fun _ => a) (hf : (f a).result = check'.map fun _ => b) :
    (x >>= f).result = (check >>= fun _ => check').map fun _ => b := by
  rw [Run.result_bind, hx]
  cases check with
  | error e => rfl
  | ok _ => exact hf

/-- A computation that fails where a check does goes on with one that does not fail. -/
theorem Run.result_bind_ok {α β : Type} {x : Run α} {f : α → Run β}
    {check : Except QueryError Unit} {a : α} {b : β} (hx : x.result = check.map fun _ => a)
    (hf : (f a).result = .ok b) : (x >>= f).result = check.map fun _ => b := by
  rw [Run.result_bind, hx]
  cases check with
  | error e => rfl
  | ok _ => exact hf

/-! ## Opening operations on one cursor -/

section
variable {σ : Type} {files : Files} {c : Cursor σ} {rows rest : List Tuple}
  {left : List Tuple → σ → Prop} {s : σ}

theorem Sort.result_open (h : c.Delivers files rows left) (keys : List ColumnRef)
    (hs : left rest s) :
    (Sort.open keys c files s).result = .ok (Replay.start (Sort.sorted keys rest)) := by
  obtain ⟨s', ns, hc, _⟩ := h.collect (Sort.notices keys) hs
  rw [Sort.open, hc, Run.result_bind]
  rfl

theorem Distinct.result_open (h : c.Delivers files rows left) (key : ColumnRef)
    (hs : left rest s) :
    (Distinct.open key c files s).result = .ok (Replay.start (Distinct.firsts key rest)) := by
  obtain ⟨s', ns, hc, _⟩ := h.collect (Distinct.notices key) hs
  rw [Distinct.open, hc, Run.result_bind]
  rfl

theorem Aggregate.result_open (h : c.Delivers files rows left) (columns : List ColumnRef)
    (sums : List SumCall) (hs : left rest s) :
    ∃ s', (s'.rest = Aggregate.summaries columns sums rest ∧ ∃ l, left l s'.child) ∧
      (Aggregate.open columns sums c files s).result = (SumCall.check sums).map fun _ => s' := by
  obtain ⟨s', ns, hf, hs'⟩ := Aggregate.fill_gives h columns sums (s := ⟨s, []⟩) hs
  refine ⟨s', hs', ?_⟩
  rw [Aggregate.open, hf, Run.result_bind]
  cases hc : SumCall.check sums <;> rfl

end

/-! ## Rows of tables -/

/-- The rows of the table of a name, those that are malformed left out. -/
def Catalog.rows (k : Catalog) (files : Files) (name : String) : List Tuple :=
  (k.find? name).elim [] (·.rows files)

/-- Whether there is a table of a name, with a data file none of whose rows is malformed. -/
def Catalog.IsSound (k : Catalog) (files : Files) (name : String) : Prop :=
  ∃ t, k.find? name = some t ∧ t.IsSound files

theorem Table.isSound_iff {t : Table} {files : Files} :
    t.IsSound files ↔ (files t.path).toOption.any fun bytes =>
      (records bytes).all fun r => (t.tuple r).toOption.isSome := by
  have hok : ∀ r, (∃ u, t.tuple r = .ok u) ↔ (t.tuple r).toOption.isSome = true := by
    intro r
    cases t.tuple r with
    | ok u => exact ⟨fun _ => rfl, fun _ => ⟨u, rfl⟩⟩
    | error e => exact ⟨nofun, nofun⟩
  rw [Table.IsSound]
  cases files t.path with
  | ok bytes =>
    simp only [Except.ok.injEq, exists_eq_left', hok]
    exact List.all_eq_true.symm
  | error e => exact ⟨nofun, nofun⟩

instance (t : Table) (files : Files) : Decidable (t.IsSound files) :=
  decidable_of_iff _ Table.isSound_iff.symm

instance (k : Catalog) (files : Files) (name : String) : Decidable (k.IsSound files name) :=
  match h : k.find? name with
  | none => isFalse fun ⟨t, ht, _⟩ => by rw [h] at ht; cases ht
  | some t => decidable_of_iff (t.IsSound files)
      ⟨fun hs => ⟨t, h, hs⟩, fun ⟨t', ht, hs⟩ => by rw [h] at ht; cases ht; exact hs⟩

/-! ## A database of two tables -/

namespace Sample

/-- A database with the tables `R(a, b)` and `S(a, c)`. -/
def catalog : Catalog :=
  ⟨"db", [⟨"R", ["a", "b"], "db/data/R.csv"⟩, ⟨"S", ["a", "c"], "db/data/S.csv"⟩]⟩

/-- Its data files. -/
def files : Files := fun path =>
  if path = "db/data/R.csv" then .ok "1,2\n3,4\n".toUTF8
  else if path = "db/data/S.csv" then .ok "3,5\n1,6\n3,7\n".toUTF8
  else .error .missing

/-- Its data files have no malformed rows. -/
theorem isSound : ∀ name ∈ ["R", "S"], catalog.IsSound files name := by decide

end Sample

/-! ## Rows of plans -/

namespace Plan

/-- The tables that a plan scans. -/
def tables : Plan → List String
  | tuples _ => []
  | scan table => [table]
  | filter _ child | project _ child | aggregate _ _ child | sort _ child | distinct _ child =>
    child.tables
  | join _ left right => left.tables ++ right.tables

/-- The failure of the first sum in a plan that cannot be taken, children before their parents. -/
def checkSums : Plan → Except QueryError Unit
  | tuples _ | scan _ => .ok ()
  | filter _ child | project _ child | sort _ child | distinct _ child => child.checkSums
  | join _ left right => do
    left.checkSums
    right.checkSums
  | aggregate _ sums child => do
    child.checkSums
    SumCall.check sums

/-- The tuples of a plan. -/
def rows (k : Catalog) (files : Files) : Plan → List Tuple
  | tuples rows => rows
  | scan table => k.rows files table
  | filter condition child => (child.rows k files).filter condition.keeps
  | project projection child => (child.rows k files).map projection.tuple
  | join condition left right => Join.pairs condition (left.rows k files) (right.rows k files)
  | aggregate columns sums child => Aggregate.summaries columns sums (child.rows k files)
  | sort keys child => Sort.sorted keys (child.rows k files)
  | distinct key child => Distinct.firsts key (child.rows k files)

/-- Whether a state of the cursor of a plan has some tuples left. -/
def Left (k : Catalog) (files : Files) : (p : Plan) → List Tuple → p.State → Prop
  | tuples rows => fun rest s => s = (⟨rows, rest⟩ : Replay)
  | sort keys child => fun rest s => s = (⟨(sort keys child).rows k files, rest⟩ : Replay)
  | distinct key child => fun rest s => s = (⟨(distinct key child).rows k files, rest⟩ : Replay)
  | scan table => fun rest s => ∃ t, k.find? table = some t ∧ t.IsSound files ∧ Scan.Left t rest s
  | filter condition child => fun rest s =>
    ∃ l, child.Left k files l s ∧ l.filter condition.keeps = rest
  | project projection child => fun rest s =>
    ∃ l, child.Left k files l s ∧ l.map projection.tuple = rest
  | join condition left right =>
    Join.Left condition (right.rows k files) (left.Left k files) (right.Left k files)
  | aggregate _ _ child => fun rest s => s.rest = rest ∧ ∃ l, child.Left k files l s.child

variable {k : Catalog} {files : Files}

/-- The cursor of a plan delivers its tuples. -/
theorem delivers : (p : Plan) → p.cursor.Delivers files (p.rows k files) (p.Left k files)
  | tuples rows => Replay.delivers rows
  | sort keys child => Replay.delivers _
  | distinct key child => Replay.delivers _
  | scan table => {
      next := by
        rintro rest s ⟨t, ht, hf, hs⟩
        obtain ⟨s', ns, hn, hs'⟩ := (Scan.delivers hf).next hs
        exact ⟨s', ns, hn, t, ht, hf, hs'⟩
      reset := by
        rintro rest s ⟨t, ht, hf, hs⟩
        obtain ⟨s', ns, hn, hs'⟩ := (Scan.delivers hf).reset hs
        exact ⟨s', ns, hn, t, ht, hf, by simpa [rows, Catalog.rows, ht] using hs'⟩ }
  | filter condition child => Filter.delivers child.delivers condition
  | project projection child => Project.delivers child.delivers projection
  | join condition left right => Join.delivers left.delivers right.delivers condition
  | aggregate columns sums child => Aggregate.delivers child.delivers columns sums

/-! ## Opening a plan and pulling its tuples -/

/-- Opening a scan of a sound table leaves all of its rows. -/
theorem open_scan {table : String} (h : k.IsSound files table) :
    ∃ s, Scan.open k files table = .ok s ∧
      (scan table).Left k files ((scan table).rows k files) s := by
  obtain ⟨t, ht, hf⟩ := h
  obtain ⟨s, ho, hs⟩ := Scan.openTable_of_sound hf
  refine ⟨s, ?_, t, ht, hf, by simpa [rows, Catalog.rows, ht] using hs⟩
  rw [Scan.open, Catalog.table, ht]
  exact ho

/-- A plan over sound tables opens, with all of its tuples left, unless some sum in it cannot be
    taken. -/
theorem result_open (p : Plan) (h : ∀ name ∈ p.tables, k.IsSound files name) :
    ∃ s, p.Left k files (p.rows k files) s ∧
      (p.open k files).result = p.checkSums.map fun _ => s := by
  induction p with
  | tuples rows => exact ⟨Replay.start rows, rfl, rfl⟩
  | scan table =>
    obtain ⟨s, ho, hs⟩ := open_scan (h table (List.mem_singleton_self _))
    exact ⟨s, hs, ho⟩
  | filter condition child ih =>
    obtain ⟨s, hs, ho⟩ := ih h
    exact ⟨s, ⟨_, hs, rfl⟩, ho⟩
  | project projection child ih =>
    obtain ⟨s, hs, ho⟩ := ih h
    exact ⟨s, ⟨_, hs, rfl⟩, ho⟩
  | join condition left right ihl ihr =>
    obtain ⟨s, hs, ho⟩ := ihl fun name hn => h name (List.mem_append_left _ hn)
    obtain ⟨s', hs', ho'⟩ := ihr fun name hn => h name (List.mem_append_right _ hn)
    exact ⟨.start s s', .fetch hs hs', Run.result_bind_map ho (Run.result_bind_ok ho' rfl)⟩
  | aggregate columns sums child ih =>
    obtain ⟨s, hs, ho⟩ := ih h
    obtain ⟨s', hs', ha⟩ := Aggregate.result_open child.delivers columns sums hs
    exact ⟨s', hs', Run.result_bind_map ho ha⟩
  | sort keys child ih =>
    obtain ⟨s, hs, ho⟩ := ih h
    exact ⟨_, rfl, Run.result_bind_ok ho (Sort.result_open child.delivers keys hs)⟩
  | distinct key child ih =>
    obtain ⟨s, hs, ho⟩ := ih h
    exact ⟨_, rfl, Run.result_bind_ok ho (Distinct.result_open child.delivers key hs)⟩

/-- All tuples of a plan, from opening it to its end. -/
def tuples? (k : Catalog) (files : Files) (p : Plan) : Run (List Tuple) := do
  let o ← Opened.ofPlan k files p
  (o.drain files).run

end Plan

/-! ## Opened plans -/

section

/-- An opened plan delivers the tuples of the plan. -/
def Opened.Left (k : Catalog) (files : Files) (rows rest : List Tuple) (o : Opened) : Prop :=
  o.plan.rows k files = rows ∧ o.plan.Left k files rest o.state

variable {k : Catalog} {files : Files} {p : Plan}

theorem Opened.next_gives {rows rest : List Tuple} {o : Opened}
    (h : Opened.Left k files rows rest o) :
    (o.next files).Gives rest.head? (Opened.Left k files rows rest.tail) := by
  obtain ⟨hp, hs⟩ := h
  obtain ⟨s', ns, hn, hs'⟩ := o.plan.delivers.next hs
  exact ⟨⟨o.plan, s'⟩, ns, by rw [Opened.next, hn]; rfl, hp, hs'⟩

theorem Opened.reset_gives {rows rest : List Tuple} {o : Opened}
    (h : Opened.Left k files rows rest o) :
    (o.reset files).Gives () (Opened.Left k files rows rows) := by
  obtain ⟨rfl, hs⟩ := h
  obtain ⟨s', ns, hr, hs'⟩ := o.plan.delivers.reset hs
  exact ⟨⟨o.plan, s'⟩, ns, by rw [Opened.reset, hr]; rfl, rfl, hs'⟩

/-- A plan over sound tables opens, with all of its tuples left, unless some sum in it cannot be
    taken. -/
theorem Opened.result_ofPlan (h : ∀ name ∈ p.tables, k.IsSound files name) :
    ∃ o, Opened.Left k files (p.rows k files) (p.rows k files) o ∧
      (Opened.ofPlan k files p).result = p.checkSums.map fun _ => o := by
  obtain ⟨s, hs, ho⟩ := p.result_open h
  exact ⟨⟨p, s⟩, ⟨rfl, hs⟩, Run.result_bind_ok ho rfl⟩

/-- Pulling all tuples of a plan over sound tables gives its tuples, unless some sum in it cannot
    be taken. -/
theorem Plan.result_tuples? (h : ∀ name ∈ p.tables, k.IsSound files name) :
    (p.tuples? k files).result = p.checkSums.map fun _ => p.rows k files := by
  obtain ⟨s, hs, ho⟩ := p.result_open h
  have hd := (p.delivers.collect (fun _ => []) hs).result
  exact Run.result_bind_ok (Run.result_bind_ok ho rfl) hd

/-- If the sums in a plan over sound tables can be taken, pulling all of its tuples gives them. -/
theorem Plan.result_of_checkSums (h : ∀ name ∈ p.tables, k.IsSound files name)
    (hs : p.checkSums = .ok ()) : (p.tuples? k files).result = .ok (p.rows k files) := by
  rw [Plan.result_tuples? h, hs]
  rfl

/-! ## Any order of calls -/

/-- A call of a cursor. -/
inductive Call
  /-- Pull a tuple. -/
  | next
  /-- Go back to the first tuple. -/
  | reset
  deriving DecidableEq, Repr

/-- How many tuples are pulled by the calls behind the last one that goes back, if `n` have been
    pulled before. -/
def Call.pulls (n : Nat) : List Call → Nat
  | [] => n
  | next :: calls => pulls (n + 1) calls
  | reset :: calls => pulls 0 calls

/-- An opened plan after some calls, whatever they give. -/
def Opened.after (files : Files) (o : Opened) : List Call → Opened
  | [] => o
  | .next :: calls => (o.next files).state.after files calls
  | .reset :: calls => (o.reset files).state.after files calls

/-- After some calls, what is left of a plan are the tuples behind those pulled since it last went
    back. -/
theorem Opened.left_after {rows : List Tuple} (calls : List Call) {o : Opened} {n : Nat}
    (h : Opened.Left k files rows (rows.drop n) o) :
    Opened.Left k files rows (rows.drop (Call.pulls n calls)) (o.after files calls) := by
  induction calls generalizing o n with
  | nil => exact h
  | cons call calls ih =>
    cases call with
    | next =>
      -- At the end of the list there is nothing to drop, and the count goes on all the same.
      have hn := (Opened.next_gives h).state
      rw [List.tail_drop] at hn
      exact ih hn
    | reset => exact ih (n := 0) (Opened.reset_gives h).state

/-- A plan over sound tables whose sums can be taken is a cursor over one list that can be put
    back at any time: it opens, and after any calls, the next one to pull a tuple gives that at the
    number of tuples pulled since the last call to go back, or none behind the end of the list. No
    call fails. -/
theorem Plan.rewindable (h : ∀ name ∈ p.tables, k.IsSound files name)
    (hs : p.checkSums = .ok ()) :
    ∃ o, (Opened.ofPlan k files p).result = .ok o ∧ ∀ calls,
      ((o.after files calls).next files).result = .ok (p.rows k files)[Call.pulls 0 calls]? ∧
      ((o.after files calls).reset files).result = .ok () := by
  obtain ⟨o, hl, ho⟩ := Opened.result_ofPlan h
  refine ⟨o, by rw [ho, hs]; rfl, fun calls => ?_⟩
  have ha := Opened.left_after calls (n := 0) hl
  refine ⟨?_, (Opened.reset_gives ha).result⟩
  rw [(Opened.next_gives ha).result, List.head?_drop]

end

namespace Sample

/-- The groups of `S` by `a`, with the sums of `c`, beside each row of `R` with a smaller `a`. -/
def groupsAbove : Plan :=
  .join (some (.compare (.column ⟨some "R", "a"⟩) .less (.column ⟨some "S", "a"⟩))) (.scan "R")
    (.aggregate [⟨some "S", "a"⟩] [⟨.column ⟨some "S", "c"⟩⟩] (.scan "S"))

/-- A plan with groups below the right side of a join can be put back at any time. -/
theorem groupsAbove_rewindable :
    (∀ name ∈ groupsAbove.tables, catalog.IsSound files name) ∧
    groupsAbove.checkSums = .ok () ∧
    groupsAbove.rows catalog files = [⟨[⟨"R", "a", 1⟩, ⟨"R", "b", 2⟩, ⟨"S", "a", 3⟩, ⟨"S", "c", 5⟩,
      ⟨"SUM_RESULT", "SUM(S.c)", 12⟩]⟩] ∧
    ∃ o, (Opened.ofPlan catalog files groupsAbove).result = .ok o ∧ ∀ calls,
      ((o.after files calls).next files).result =
        .ok (groupsAbove.rows catalog files)[Call.pulls 0 calls]? ∧
      ((o.after files calls).reset files).result = .ok () :=
  ⟨isSound, rfl, by decide, Plan.rewindable isSound rfl⟩

end Sample

end CsvQuery
