import CsvQuery.Proofs.Linked
import Mathlib.Algebra.Order.Field.Basic
import Mathlib.Algebra.Order.Field.Rat

/-!
# The greedy order of joins

Of the joins that wait, the planner makes the first one of least selectivity
among those that a predicate links to the tables joined before, and the first
one of all if none is linked. Here selectivities are fractions, and the planner
compares their denominators: the rank of a linked join is the denominator of its
least selectivity, and the rank of any other join is 0. So the join of greatest
rank that comes first is the one to make next.

The joins that wait are those of the list without the ones that have been made,
in the order of the list. Equal joins have equal ranks, so that of these it is
always the first one that is made.

* `JoinOrder.connection?`: the least selectivity with which a table is linked.
* `JoinOrder.next?`: the join to make next.
* `JoinOrder.connection?_eq`: selectivities in terms of ranks.
* `JoinOrder.next?_eq_pick`: what is picked is the join to make next.
* `eq_joinOrder_iff`: the order of joins is the greedy one.
-/

namespace CsvQuery.JoinOrder

/-! ## Selectivities -/

/-- The part of all pairs that a predicate is expected to leave: of the equality of two columns, one
    in as many as there are different values in the column that has more of them. -/
def selectivity (stats : Statistics) : Expr → ℚ
  | .compare (.column l) .equal (.column r) =>
    match stats.column? l, stats.column? r with
    | some a, some b =>
      if 0 < max a.distinct b.distinct then 1 / (max a.distinct b.distinct : Nat) else 1
    | _, _ => 1
  | _ => 1

/-- The least selectivity of the predicates that link a table to those joined before it, if any
    does. -/
def connection? (stats : Statistics) (es : List Expr) (joined : List String) (table : String) :
    Option ℚ :=
  ((es.filter (links joined table)).map (selectivity stats)).min?

/-- The join to make next: the first one of least selectivity of those that are linked to the tables
    joined before, or the first one of all if none is. -/
def next? (stats : Statistics) (es : List Expr) (joined : List String)
    (waiting : List JoinClause) : Option JoinClause :=
  match (waiting.filterMap fun j => connection? stats es joined j.table).min? with
  | some x => waiting.find? fun j => connection? stats es joined j.table = some x
  | none => waiting.head?

variable {stats : Statistics} {es : List Expr} {joined joined' : List String} {j : JoinClause}
  {joins : List JoinClause}

theorem selectivity_eq (stats : Statistics) (e : Expr) :
    selectivity stats e = 1 / (spread stats e : ℚ) := by
  fun_cases spread stats e with
  | case1 l r a b hl hr =>
    rw [selectivity, hl, hr]
    rcases Nat.eq_zero_or_pos (max a.distinct b.distinct) with hzero | hpos
    · simp [hzero]
    · simp [hpos, Nat.max_eq_right hpos]
  | case2 l r hmissing =>
    rw [selectivity]
    simp
  | case3 e hother =>
    rw [selectivity]
    · simp
    · exact hother

theorem selectivity_le {e e' : Expr} (h : spread stats e ≤ spread stats e') :
    selectivity stats e' ≤ selectivity stats e := by
  rw [selectivity_eq, selectivity_eq]
  exact one_div_le_one_div_of_le (Nat.cast_pos.2 (one_le_spread stats e)) (Nat.cast_le.2 h)

/-- A predicate of the rank of a join links its table. -/
theorem exists_spread_eq_rank (h : rank stats es joined j ≠ 0) :
    ∃ e ∈ es, links joined j.table e = true ∧ spread stats e = rank stats es joined j := by
  by_contra hnone
  push Not at hnone
  -- Otherwise one less than the rank would bound all spreads, too.
  have hle : rank stats es joined j ≤ rank stats es joined j - 1 := by
    have hall := (foldl_max_le.1 (Nat.le_refl (rank stats es joined j))).2
    rw [rank, foldl_max_le, List.forall_mem_map]
    refine ⟨Nat.zero_le _, fun e he => ?_⟩
    obtain ⟨hmem, hlinks⟩ := List.mem_filter.1 he
    have hlt := Nat.lt_of_le_of_ne (hall _ (List.mem_map_of_mem he)) (hnone e hmem hlinks)
    exact Nat.le_sub_one_of_lt hlt
  omega

/-- The rank of a linked join is the denominator of its least selectivity. -/
theorem connection?_eq (stats : Statistics) (es : List Expr) (joined : List String)
    (j : JoinClause) : connection? stats es joined j.table =
      if rank stats es joined j = 0 then none else some (1 / (rank stats es joined j : ℚ)) := by
  split
  · rename_i hzero
    have hnone : es.filter (links joined j.table) = [] :=
      List.filter_eq_nil_iff.2 fun e he hlinks =>
        Nat.pos_iff_ne_zero.1 (rank_pos.2 ⟨e, he, hlinks⟩) hzero
    rw [connection?, hnone]
    rfl
  · rename_i hrank
    obtain ⟨e, he, hlinks, hspread⟩ := exists_spread_eq_rank hrank
    have hall := (foldl_max_le.1 (Nat.le_refl (rank stats es joined j))).2
    rw [connection?, List.min?_eq_some_iff, ← hspread, ← selectivity_eq, List.forall_mem_map]
    refine ⟨List.mem_map_of_mem (List.mem_filter.2 ⟨he, hlinks⟩), fun e' he' => ?_⟩
    exact selectivity_le (hspread ▸ hall _ (List.mem_map_of_mem he'))

theorem rank_eq_of_connection? {i : JoinClause}
    (h : connection? stats es joined i.table = connection? stats es joined j.table) :
    rank stats es joined i = rank stats es joined j := by
  rw [connection?_eq, connection?_eq] at h
  by_cases hi : rank stats es joined i = 0
  · rw [if_pos hi] at h
    by_cases hj : rank stats es joined j = 0
    · rw [hi, hj]
    · rw [if_neg hj] at h
      cases h
  · rw [if_neg hi] at h
    by_cases hj : rank stats es joined j = 0
    · rw [if_pos hj] at h
      cases h
    · rw [if_neg hj, Option.some.injEq, one_div, one_div, inv_inj, Nat.cast_inj] at h
      exact h

/-! ## The first member of greatest rank -/

section

variable {α : Type} (rank : α → Nat)

/-- What is picked has a greater rank than the members before it. -/
theorem exists_pick (a : α) (rest : List α) :
    ∃ before after, a :: rest = before ++ (pick rank a rest).1 :: after ∧
      ∀ b ∈ before, rank b < rank (pick rank a rest).1 := by
  induction rest generalizing a with
  | nil => exact ⟨[], [], rfl, nofun⟩
  | cons b rest ih =>
    rw [pick]
    split
    · exact ⟨[], b :: rest, rfl, nofun⟩
    · rename_i hlt
      obtain ⟨before, after, hsplit, hbefore⟩ := ih b
      refine ⟨a :: before, after, congrArg (a :: ·) hsplit, ?_⟩
      exact List.forall_mem_cons.2 ⟨Nat.lt_of_not_le hlt, hbefore⟩

/-- What is picked is taken out where it comes first. -/
theorem pick_eq_erase [DecidableEq α] (a : α) (rest : List α) :
    (pick rank a rest).2 = (a :: rest).erase (pick rank a rest).1 := by
  induction rest generalizing a with
  | nil => simp [pick]
  | cons b rest ih =>
    rw [pick]
    split
    · exact (List.erase_cons_head a (b :: rest)).symm
    · rename_i hlt
      have hne : a ≠ (pick rank b rest).1 := fun heq => hlt (Nat.le_of_eq (congrArg rank heq.symm))
      rw [List.erase_cons_tail (by simpa using hne), ← ih]

end

/-! ## The join to make next -/

theorem connection?_congr (h : ∀ name, name ∈ joined ↔ name ∈ joined') :
    connection? stats es joined = connection? stats es joined' := by
  funext table
  have hlinks : links joined table = links joined' table := by
    funext e
    rw [Bool.eq_iff_iff, links_iff, links_iff]
    simp only [h]
  rw [connection?, hlinks, connection?]

theorem next?_congr (h : ∀ name, name ∈ joined ↔ name ∈ joined') (waiting : List JoinClause) :
    next? stats es joined waiting = next? stats es joined' waiting := by
  rw [next?, connection?_congr h, next?]

/-- What is picked is the join to make next. -/
theorem next?_eq_pick (stats : Statistics) (es : List Expr) (joined : List String)
    (j : JoinClause) (rest : List JoinClause) :
    next? stats es joined (j :: rest) = some (pick (rank stats es joined) j rest).1 := by
  obtain ⟨before, after, hsplit, hbefore⟩ := exists_pick (rank stats es joined) j rest
  have hle := rank_le_rank_pick (rank stats es joined) j rest
  generalize (pick (rank stats es joined) j rest).1 = best at *
  have hmem : best ∈ j :: rest := hsplit ▸ List.mem_append_right before List.mem_cons_self
  by_cases hzero : rank stats es joined best = 0
  · -- No join is linked, and so none stands before the one that is picked.
    have hnone : ∀ i ∈ j :: rest, connection? stats es joined i.table = none := fun i hi => by
      rw [connection?_eq, if_pos (Nat.le_zero.1 (hzero ▸ hle i hi))]
    have hfirst : before = [] := List.eq_nil_iff_forall_not_mem.2 fun b hb =>
      Nat.not_lt_zero _ (hzero ▸ hbefore b hb)
    rw [next?, List.filterMap_eq_nil_iff.2 hnone, hsplit, hfirst]
    rfl
  · have hbest : connection? stats es joined best.table =
        some (1 / (rank stats es joined best : ℚ)) := by
      rw [connection?_eq, if_neg hzero]
    have hmin : ((j :: rest).filterMap fun i => connection? stats es joined i.table).min? =
        some (1 / (rank stats es joined best : ℚ)) := by
      rw [List.min?_eq_some_iff]
      refine ⟨List.mem_filterMap.2 ⟨best, hmem, hbest⟩, fun x hx => ?_⟩
      obtain ⟨i, hi, hx⟩ := List.mem_filterMap.1 hx
      rw [connection?_eq] at hx
      split at hx
      · cases hx
      · rename_i hrank
        obtain rfl := Option.some.inj hx
        exact one_div_le_one_div_of_le (Nat.cast_pos.2 (Nat.pos_of_ne_zero hrank))
          (Nat.cast_le.2 (hle i hi))
    have hskip : ∀ b ∈ before, connection? stats es joined b.table ≠
        some (1 / (rank stats es joined best : ℚ)) := fun b hb heq =>
      Nat.ne_of_lt (hbefore b hb) (rank_eq_of_connection? (heq.trans hbest.symm))
    rw [next?, hmin]
    simp only
    rw [hsplit, List.find?_append, List.find?_eq_none.2 (by simpa using hskip), Option.none_or]
    exact List.find?_cons_of_pos (decide_eq_true hbest)

/-! ## The whole order -/

/-- What holds of each member of a list and those before it holds of its head, and of each member of
    its tail. -/
theorem forall_split_cons {α : Type} {P : List α → α → Prop} {a : α} {rest : List α} :
    (∀ placed b later, a :: rest = placed ++ b :: later → P placed b) ↔
      P [] a ∧ ∀ placed b later, rest = placed ++ b :: later → P (a :: placed) b := by
  refine ⟨fun h => ⟨h [] a rest rfl, ?_⟩, ?_⟩
  · rintro placed b later rfl
    exact h (a :: placed) b later rfl
  · rintro ⟨hhead, htail⟩ placed b later hsplit
    cases placed with
    | nil =>
      obtain ⟨rfl, -⟩ := List.cons.inj hsplit
      exact hhead
    | cons c placed =>
      obtain ⟨rfl, hrest⟩ := List.cons.inj hsplit
      exact htail placed b later hrest

/-- The joins stand in the order in which they are made, after some tables, if and only if each of
    them is the one to make next of those that wait. -/
theorem eq_order_iff {ordered : List JoinClause} :
    ordered = order stats es joined joins ↔ ordered.Perm joins ∧
      ∀ placed j later, ordered = placed ++ j :: later →
        next? stats es (joined ++ placed.map (·.table)) (joins.diff placed) = some j := by
  induction ordered generalizing joined joins with
  | nil =>
    cases joins with
    | nil => simp [order]
    | cons j rest => simp [order]
  | cons i ordered ih =>
    cases joins with
    | nil => simp [order]
    | cons j rest =>
      have hrest := pick_eq_erase (rank stats es joined) j rest
      have hmem : (pick (rank stats es joined) j rest).1 ∈ j :: rest :=
        (pick_perm _ j rest).subset List.mem_cons_self
      have hnext (placed : List JoinClause) :
          next? stats es (joined ++ (i :: placed).map (·.table)) ((j :: rest).diff (i :: placed)) =
            next? stats es (i.table :: joined ++ placed.map (·.table))
              (((j :: rest).erase i).diff placed) := by
        rw [List.diff_cons]
        exact next?_congr (fun name => by simp [or_left_comm]) _
      rw [order, List.cons.injEq, ih, forall_split_cons, hrest]
      simp only [hnext]
      rw [List.map_nil, List.append_nil, List.diff_nil, next?_eq_pick, Option.some.injEq]
      -- With the right head, the tail is to be an order of the joins that are left.
      constructor
      · rintro ⟨rfl, hperm, hlater⟩
        exact ⟨List.cons_perm_iff_perm_erase.2 ⟨hmem, hperm⟩, rfl, hlater⟩
      · rintro ⟨hperm, rfl, hlater⟩
        exact ⟨rfl, (List.cons_perm_iff_perm_erase.1 hperm).2, hlater⟩

end CsvQuery.JoinOrder

namespace CsvQuery

/-- The order in which joins are made is a rearrangement of the joins in which each is the one to
    make next: of the joins that have not been made, in the order in which they are written, the
    first one of least selectivity among those that are linked to the base table and the tables
    joined before, or the first one of all if none is linked. There is no other such order. -/
theorem eq_joinOrder_iff (stats : Statistics) (base : String) (joins ordered : List JoinClause)
    (es : List Expr) :
    ordered = joinOrder stats base joins es ↔ ordered.Perm joins ∧
      ∀ placed j later, ordered = placed ++ j :: later →
        JoinOrder.next? stats es (base :: placed.map (·.table)) (joins.diff placed) = some j :=
  JoinOrder.eq_order_iff

-- The table `T` stands first and is joined last: only `S` is linked to the base table.
example : (joinOrder .empty "R" Sample.chain.joins Sample.chain.conjuncts).map (·.table) =
    ["S", "T"] := by
  decide +kernel

end CsvQuery
