import CsvQuery.Proofs.Joined

/-!
# Each predicate in its place

The parts of the predicates are placed one join at a time: those for the base
table first, then what each join takes of those that wait, and what still waits
is left for the end. Every part is placed once, and it is placed when it is due,
that is, when all of its tables have been joined for the first time.

What waits before a join are the parts that are not on the tables joined so far.
So a part that the join takes was not due before, and it is due now. It names
the new table, and it is for the rows of that table if it names no other one.

* `Placement.inTurn`: what the joins take in turn, and what is left.
* `Plan.value_joinAll`: the joins of a plan are made with these placements.
* `Placement.dueAfter?`: after how many joins a part is due.
* `Placement.inTurn_perm`: no part is lost or placed twice.
* `Placement.left_inTurn`: what is left are the parts that are never due.
* `Placement.inTurn_eq_due`: each part is placed when it is due.
-/

namespace CsvQuery

open CsvQuery.Expr (IsWithin)

variable {e : Expr} {base table : String} {joined : List String} {waiting : List Expr}
  {joins : List JoinClause} {j : JoinClause}

/-! ## Parts on some tables -/

namespace Expr

instance (tables : List String) (e : Expr) : Decidable (e.IsWithin tables) :=
  decidable_of_iff (e.isQualified = true ∧ ∀ name ∈ e.tables, name ∈ tables)
    Placement.isWithin_iff.symm

theorem IsWithin.mono {tables tables' : List String} (h : e.IsWithin tables)
    (hsub : tables ⊆ tables') : e.IsWithin tables' := by
  intro c hc
  obtain ⟨name, hname, htable⟩ := h c hc
  exact ⟨name, hsub hname, htable⟩

theorem isWithin_congr {tables tables' : List String}
    (h : ∀ name, name ∈ tables ↔ name ∈ tables') : e.IsWithin tables ↔ e.IsWithin tables' :=
  ⟨fun he => he.mono fun name => (h name).1, fun he => he.mono fun name => (h name).2⟩

end Expr

/-- The set of names that are all the same has one member. -/
theorem Names.ofList_of_forall_eq {s : String} {names : List String} (h : ∀ t ∈ names, t = s)
    (hne : names ≠ []) : Names.ofList names = [s] := by
  induction names with
  | nil => exact absurd rfl hne
  | cons t names ih =>
    obtain ⟨rfl, hnames⟩ := List.forall_mem_cons.1 h
    by_cases hnil : names = []
    · rw [hnil]
      rfl
    · change Names.insert t (Names.ofList names) = [t]
      rw [ih hnames hnil]
      simp [Names.insert]

/-- A test that implies another one may be made alone. -/
theorem filter_filter_of_imp {α : Type} {p q : α → Bool} (h : ∀ a, q a = true → p a = true)
    (as : List α) : (as.filter p).filter q = as.filter q := by
  rw [List.filter_filter]
  refine List.filter_congr fun a _ => ?_
  cases hq : q a with
  | false => rfl
  | true => rw [h a hq, Bool.and_self]

namespace Placement

/-- A part that names a table is for the rows of a new one if it names no other. -/
theorem isRight_iff (h : ¬e.IsWithin joined) : isRight table e = true ↔ e.IsWithin [table] := by
  refine ⟨isWithin_of_isRight, fun hwithin => ?_⟩
  obtain ⟨hqualified, hnames⟩ := isWithin_iff.1 hwithin
  rw [isRight, hqualified, Bool.true_and, beq_iff_eq]
  refine Names.ofList_of_forall_eq (fun name hname => ?_) fun hnil => h fun c hc => ?_
  · exact List.mem_singleton.1 (hnames name (Names.mem_ofList.2 hname))
  · obtain ⟨name, -, htable⟩ := hwithin c hc
    have hmem : name ∈ e.columns.filterMap (·.table) := List.mem_filterMap.2 ⟨c, hc, htable⟩
    rw [hnil] at hmem
    cases hmem

/-! ## The joins in turn -/

/-- What some joins take in turn of the parts that wait, and the parts that are left behind the last
    one. -/
def inTurn (joined : List String) (waiting : List Expr) :
    List JoinClause → List Placement × List Expr
  | [] => ([], waiting)
  | j :: rest =>
    let placed := of joined j.table waiting
    let others := inTurn (j.table :: joined) placed.later rest
    (placed :: others.1, others.2)

/-- Each waiting part goes to one of the three places. -/
theorem of_perm (joined : List String) (table : String) (waiting : List Expr) :
    ((of joined table waiting).right ++ (of joined table waiting).join ++
      (of joined table waiting).later).Perm waiting := by
  rw [right_of, join_of]
  exact ((List.filter_append_perm (isRight table) _).append_right _).trans
    (List.filter_append_perm (isReady joined table) waiting)

/-- Each waiting part is taken by one join, or it is left. -/
theorem inTurn_perm (joined : List String) (waiting : List Expr) (joins : List JoinClause) :
    ((inTurn joined waiting joins).1.flatMap (fun p => p.right ++ p.join) ++
      (inTurn joined waiting joins).2).Perm waiting := by
  induction joins generalizing joined waiting with
  | nil => exact .refl _
  | cons j rest ih =>
    rw [inTurn, List.flatMap_cons, List.append_assoc]
    exact ((ih _ _).append_left _).trans (of_perm joined j.table waiting)

theorem length_inTurn (joined : List String) (waiting : List Expr) (joins : List JoinClause) :
    (inTurn joined waiting joins).1.length = joins.length := by
  induction joins generalizing joined waiting with
  | nil => rfl
  | cons j rest ih => rw [inTurn, List.length_cons, ih, List.length_cons]

/-- A join takes its parts of those that the joins before it have left. -/
theorem getElem?_inTurn {i : Nat} (h : joins[i]? = some j) (joined : List String)
    (waiting : List Expr) :
    (inTurn joined waiting joins).1[i]? =
      some (of (((joins.take i).map (·.table)).reverse ++ joined) j.table
        (inTurn joined waiting (joins.take i)).2) := by
  induction joins generalizing joined waiting i with
  | nil => cases h
  | cons j' rest ih =>
    cases i with
    | zero =>
      obtain rfl := Option.some.inj h
      rfl
    | succ i =>
      rw [inTurn, List.getElem?_cons_succ, ih h, List.take_succ_cons, List.map_cons,
        List.reverse_cons, List.append_assoc]
      rfl

/-- What is left are the parts that are not on the joined tables. -/
theorem left_inTurn (h : ∀ e ∈ waiting, ¬e.IsWithin joined) (joins : List JoinClause) :
    (inTurn joined waiting joins).2 =
      waiting.filter fun e => ¬e.IsWithin (joined ++ joins.map (·.table)) := by
  induction joins generalizing joined waiting with
  | nil =>
    rw [List.map_nil, List.append_nil]
    exact (List.filter_eq_self.2 fun e he => decide_eq_true (h e he)).symm
  | cons j rest ih =>
    have hlater : ∀ e ∈ (of joined j.table waiting).later, ¬e.IsWithin (j.table :: joined) := by
      intro e he
      have hready := (List.mem_filter.1 he).2
      rw [Bool.not_eq_true', Bool.eq_false_iff] at hready
      exact mt isReady_iff.2 hready
    have hsame (e : Expr) : e.IsWithin (j.table :: joined ++ rest.map (·.table)) ↔
        e.IsWithin (joined ++ j.table :: rest.map (·.table)) :=
      Expr.isWithin_congr fun name => by simp [or_left_comm]
    simp only [inTurn, ih hlater, hsame, List.map_cons]
    -- A part on the tables joined so far is on them and the later ones, too.
    refine filter_filter_of_imp (fun e hnot => ?_) waiting
    rw [Bool.not_eq_true', Bool.eq_false_iff]
    exact fun hready => of_decide_eq_true hnot
      ((hsame e).1 ((isReady_iff.1 hready).mono (List.subset_append_left _ _)))

/-! ## When a part is due -/

/-- The base table and those of the first `n` joins. -/
def joinedAfter (base : String) (joins : List JoinClause) (n : Nat) : List String :=
  base :: (joins.take n).map (·.table)

theorem joinedAfter_zero (base : String) (joins : List JoinClause) :
    joinedAfter base joins 0 = [base] :=
  rfl

theorem joinedAfter_succ {i : Nat} (h : joins[i]? = some j) (base : String) :
    joinedAfter base joins (i + 1) = joinedAfter base joins i ++ [j.table] := by
  rw [joinedAfter, List.take_add_one, h, List.map_append]
  rfl

theorem joinedAfter_length (base : String) (joins : List JoinClause) :
    joinedAfter base joins joins.length = base :: joins.map (·.table) := by
  rw [joinedAfter, List.take_length]

/-- No table goes away. -/
theorem joinedAfter_mono {m n : Nat} (h : m ≤ n) :
    joinedAfter base joins m ⊆ joinedAfter base joins n :=
  List.cons_subset_cons base (List.map_subset _ (List.take_subset_take_left joins h))

/-- After how many joins the tables of a part have all been joined for the first time, if they ever
    are. The base table is there from the start. -/
def dueAfter? (base : String) (joins : List JoinClause) (e : Expr) : Option Nat :=
  (List.range (joins.length + 1)).find? fun n => e.IsWithin (joinedAfter base joins n)

theorem dueAfter?_eq_zero : dueAfter? base joins e = some 0 ↔ e.IsWithin [base] := by
  rw [dueAfter?, List.find?_range_eq_some, decide_eq_true_iff, joinedAfter_zero]
  simp

/-- A part is due after a join if its tables have all been joined after it, but not before it. -/
theorem dueAfter?_eq_succ {i : Nat} (h : joins[i]? = some j) :
    dueAfter? base joins e = some (i + 1) ↔
      ¬e.IsWithin (joinedAfter base joins i) ∧ e.IsWithin (joinedAfter base joins (i + 1)) := by
  have hlength : i < joins.length := (List.getElem?_eq_some_iff.1 h).1
  rw [dueAfter?, List.find?_range_eq_some, decide_eq_true_iff, List.mem_range,
    and_iff_right (Nat.succ_lt_succ hlength), and_comm]
  refine and_congr_left fun _ => ⟨fun hbefore => ?_, fun hnot n hn => ?_⟩
  · simpa using hbefore i (Nat.lt_succ_self i)
  · simpa using fun hwithin => hnot (hwithin.mono (joinedAfter_mono (Nat.le_of_lt_succ hn)))

theorem dueAfter?_eq_none :
    dueAfter? base joins e = none ↔ ¬e.IsWithin (base :: joins.map (·.table)) := by
  rw [dueAfter?, List.find?_range_eq_none, ← joinedAfter_length]
  refine ⟨fun hbefore => ?_, fun hnot n hn => ?_⟩
  · simpa using hbefore joins.length (Nat.lt_succ_self _)
  · simpa using fun hwithin => hnot (hwithin.mono (joinedAfter_mono (Nat.le_of_lt_succ hn)))

/-! ## What is placed where -/

/-- What is left behind joins to a base table are the parts that are not on the joined tables. -/
theorem left_inTurn_of_base (base : String) (joins : List JoinClause) (es : List Expr) :
    (inTurn [base] (es.filter fun e => !isAtBase base e) joins).2 =
      es.filter fun e => ¬e.IsWithin (base :: joins.map (·.table)) := by
  have hbase {e : Expr} : (!isAtBase base e) = true ↔ ¬e.IsWithin [base] := by
    rw [Bool.not_eq_true', Bool.eq_false_iff, Ne, isAtBase_iff]
  rw [left_inTurn fun e he => hbase.1 (List.mem_filter.1 he).2]
  refine filter_filter_of_imp (fun e hnot => hbase.2 fun hwithin => ?_) es
  exact of_decide_eq_true hnot (hwithin.mono (List.cons_subset_cons base (List.nil_subset _)))

/-- Of the parts that wait, a test takes those that wait and pass it. -/
theorem filter_waiting {A R : Expr → Prop} [DecidablePred A] [DecidablePred R] {p : Expr → Bool}
    (h : ∀ e, R e ↔ ¬A e ∧ p e = true) (es : List Expr) :
    (es.filter fun e => ¬A e).filter p = es.filter R := by
  rw [List.filter_filter]
  refine List.filter_congr fun e _ => ?_
  rw [Bool.eq_iff_iff, Bool.and_eq_true, decide_eq_true_iff, decide_eq_true_iff, h, and_comm]

/-- A join takes the parts that are due after it, and for the rows of its table those of them that
    name no other table. -/
theorem getElem?_inTurn_of_base {i : Nat} (h : joins[i]? = some j) (base : String)
    (es : List Expr) :
    (inTurn [base] (es.filter fun e => !isAtBase base e) joins).1[i]? = some {
      right := es.filter fun e => dueAfter? base joins e = some (i + 1) ∧ e.IsWithin [j.table]
      join := es.filter fun e => dueAfter? base joins e = some (i + 1) ∧ ¬e.IsWithin [j.table]
      later := es.filter fun e => ¬e.IsWithin (joinedAfter base joins (i + 1)) } := by
  have hready (e : Expr) :
      isReady (((joins.take i).map (·.table)).reverse ++ [base]) j.table e = true ↔
        e.IsWithin (joinedAfter base joins (i + 1)) := by
    refine isReady_iff.trans (Expr.isWithin_congr fun name => ?_)
    rw [joinedAfter_succ h, joinedAfter]
    simp [or_comm, or_left_comm]
  have hnew : [j.table] ⊆ joinedAfter base joins (i + 1) := by
    rw [joinedAfter_succ h]
    exact List.subset_append_right _ _
  have hwaiting : (inTurn [base] (es.filter fun e => !isAtBase base e) (joins.take i)).2 =
      es.filter fun e => ¬e.IsWithin (joinedAfter base joins i) :=
    left_inTurn_of_base base (joins.take i) es
  rw [getElem?_inTurn h, hwaiting, of]
  refine congrArg some ?_
  congr 1
  · refine filter_waiting (fun e => ?_) es
    rw [dueAfter?_eq_succ h, and_assoc]
    refine and_congr_right fun hnot => ?_
    rw [isRight_iff hnot]
    exact and_iff_right_of_imp fun hwithin => hwithin.mono hnew
  · refine filter_waiting (fun e => ?_) es
    rw [dueAfter?_eq_succ h, and_assoc]
    refine and_congr_right fun hnot => ?_
    rw [Bool.and_eq_true, hready, Bool.not_eq_true', Bool.eq_false_iff, Ne, isRight_iff hnot]
  · refine filter_waiting (fun e => ?_) es
    rw [Bool.not_eq_true', Bool.eq_false_iff, Ne, hready]
    exact (and_iff_right_of_imp fun hnot hwithin =>
      hnot (hwithin.mono (joinedAfter_mono (Nat.le_succ i)))).symm

end Placement

namespace Plan

/-- A plan joined to some tables in order, each with the parts that its join takes. -/
def joinedBy (root : Plan) : List (JoinClause × Placement) → Plan
  | [] => root
  | (j, placed) :: rest =>
    (join (Expr.conjoin? placed.join) root
      (filterBy (.pushedDown · j.table) placed.right (scan j.table)).value).joinedBy rest

/-- The joins of a plan take their parts in turn. -/
theorem value_joinAll (joined : List String) (waiting : List Expr) (root : Plan)
    (joins : List JoinClause) :
    (joinAll joined waiting root joins).value =
      (root.joinedBy (joins.zip (Placement.inTurn joined waiting joins).1),
        (Placement.inTurn joined waiting joins).2) := by
  induction joins generalizing joined waiting root with
  | nil => rfl
  | cons j joins ih => exact ih _ _ _

end Plan

/-- Joining tables to a base table one after the other places every part of the predicates once:
    at the base table, at one of the joins, or behind them. A part whose columns name no table but
    the base table goes there; any other one whose columns name tables of the statement goes to the
    first join after which all of these are joined, and there to the rows of the new table if it
    names no other table. Behind the joins are left the parts with a column that names no table, or
    one that is not joined. -/
theorem Placement.inTurn_eq_due (base : String) (joins : List JoinClause) (es : List Expr)
    (root : Plan) :
    ∃ (placed : List Placement) (left : List Expr),
      (Plan.joinAll [base] (es.filter fun e => !isAtBase base e) root joins).value =
        (root.joinedBy (joins.zip placed), left) ∧
      inTurn [base] (es.filter fun e => !isAtBase base e) joins = (placed, left) ∧
      (es.filter (isAtBase base) ++ placed.flatMap (fun p => p.right ++ p.join) ++ left).Perm es ∧
      (∀ e, isAtBase base e = true ↔ dueAfter? base joins e = some 0) ∧
      (∀ e, dueAfter? base joins e = some 0 ↔ ∀ c ∈ e.columns, c.table = some base) ∧
      placed.length = joins.length ∧
      (∀ i j, joins[i]? = some j → ∃ p, placed[i]? = some p ∧
        p.right = (es.filter fun e =>
          dueAfter? base joins e = some (i + 1) ∧ e.IsWithin [j.table]) ∧
        p.join = es.filter fun e =>
          dueAfter? base joins e = some (i + 1) ∧ ¬e.IsWithin [j.table]) ∧
      left = (es.filter fun e => dueAfter? base joins e = none) ∧
      ∀ e, dueAfter? base joins e = none ↔ ∃ c ∈ e.columns,
        c.table = none ∨ ∃ name, c.table = some name ∧ name ∉ base :: joins.map (·.table) := by
  refine ⟨_, _, Plan.value_joinAll _ _ root joins, rfl, ?_, fun e => ?_, fun e => ?_,
    length_inTurn _ _ _, fun i j hj => ?_, ?_, fun e => ?_⟩
  · rw [List.append_assoc]
    exact ((inTurn_perm _ _ _).append_left _).trans (List.filter_append_perm (isAtBase base) es)
  · rw [isAtBase_iff, dueAfter?_eq_zero]
  · rw [dueAfter?_eq_zero]
    simp [IsWithin]
  · exact ⟨_, getElem?_inTurn_of_base hj base es, rfl, rfl⟩
  · rw [left_inTurn_of_base]
    exact List.filter_congr fun e _ => decide_eq_decide.2 dueAfter?_eq_none.symm
  · rw [dueAfter?_eq_none, IsWithin]
    push Not
    refine exists_congr fun c => and_congr_right fun _ => ?_
    cases c.table with
    | none => simp
    | some name =>
      simp only [ne_eq, Option.some.injEq, reduceCtorEq, false_or, exists_eq_left', imp_not_comm,
        forall_eq']

end CsvQuery
