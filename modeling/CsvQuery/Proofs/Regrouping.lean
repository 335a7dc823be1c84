import CsvQuery.Proofs.ExprText

/-!
# Regrouping expressions

The text of an expression does not show which of two operators of one rank comes
first: `a - (b - c)` has the text of `(a - b) - c`. So a text shows what an
expression is from left to right, and no more.

To read an expression from left to right is to regroup right operands. If a
relation of expressions is kept by operations, and by the regroupings behind some
operators, then it relates what is read to the expression, provided that nothing
is regrouped behind other operators (`Expr.Regroups`, `Expr.fits`). Two relations
are of interest.

* The text: all regroupings keep it.
* The result: as integers wrap around, it is kept by regroupings behind a plus,
  and by those of products behind a times. It is neither kept behind a minus or a
  division sign nor by those of quotients (`Sample.grouping_lost`). An expression
  without any of these *keeps its grouping* (`Expr.keepsGrouping`).

Main statements:

* `Expr.Regroups.fromLeft`: what is read, and the expression.
* `Expr.render_eq_iff`: which expressions have one text.
* `Expr.eval?_of_render`: texts and results.
-/

namespace CsvQuery

namespace Expr

variable {e e' l r : Expr} {op : Arithmetic} {s : Reader}

/-! ## Groups of operands -/

/-- Whether an expression is a sum or a difference. -/
def isSum : Expr → Bool
  | arithmetic _ op _ => !op.bindsTighter
  | _ => false

theorem isLooseUnder_eq : e.isLooseUnder op = (op.bindsTighter && e.isSum) := by
  cases e <;> simp [isLooseUnder, isSum]

section
variable (allowed : Arithmetic → Arithmetic → Bool)

/-- Whether an operand behind an operator is regrouped only as allowed. Its operators of the same
    rank are then carried out behind that operator; those of the other rank are not. -/
def fitsBehind (waiting : Arithmetic) : Expr → Bool
  | arithmetic l op _ =>
    waiting.bindsTighter != op.bindsTighter || allowed waiting op && l.fitsBehind waiting
  | _ => true

/-- Whether right operands are regrouped only as allowed. -/
def fits : Expr → Bool
  | arithmetic l op r => l.fits && r.fits && r.fitsBehind allowed op
  | _ => true

/-- A relation of expressions that operations keep, and that allowed regroupings keep. -/
structure Regroups (R : Expr → Expr → Prop) : Prop where
  refl (e : Expr) : R e e
  trans {e e' e'' : Expr} (h : R e e') (h' : R e' e'') : R e e''
  arithmetic {l l' r r' : Expr} (hl : R l l') (op : Arithmetic) (hr : R r r') :
    R (.arithmetic l op r) (.arithmetic l' op r')
  regroup {waiting op : Arithmetic} (h : allowed waiting op = true)
    (hrank : waiting.bindsTighter = op.bindsTighter) (x y z : Expr) :
    R (.arithmetic (.arithmetic x waiting y) op z) (.arithmetic x waiting (.arithmetic y op z))

end

section
variable {allowed : Arithmetic → Arithmetic → Bool} {R : Expr → Expr → Prop}

/-- What is no sum is not regrouped behind the sign of a sum. -/
theorem fitsBehind_of_not_isSum (hop : op.bindsTighter = false) (he : e.isSum = false) :
    e.fitsBehind allowed op = true := by
  cases e with
  | arithmetic l inner r =>
    have hinner : inner.bindsTighter = true := by simpa [isSum] using he
    rw [fitsBehind, hop, hinner]
    rfl
  | _ => rfl

theorem fitsBehind_arithmetic {waiting : Arithmetic}
    (hrank : waiting.bindsTighter = op.bindsTighter)
    (h : (arithmetic l op r).fitsBehind allowed waiting = true) :
    allowed waiting op = true ∧ l.fitsBehind allowed waiting = true := by
  rwa [fitsBehind, hrank, bne_self_eq_false, Bool.false_or, Bool.and_eq_true] at h

theorem Regroups.joined (hR : Regroups allowed R) (p : Pending) (h : R e e') :
    R (joined p e) (joined p e') := by
  cases p with
  | none => exact h
  | some waiting => exact hR.arithmetic (hR.refl _) _ h

/-- An operation of one rank with what waits for it may be carried out behind it. -/
theorem Regroups.joined_arithmetic (hR : Regroups allowed R) {p : Pending}
    (h : ∀ waiting ∈ p, waiting.2.bindsTighter = op.bindsTighter ∧
      (Expr.arithmetic l op r).fitsBehind allowed waiting.2 = true) :
    R (.arithmetic (Expr.joined p l) op r) (Expr.joined p (.arithmetic l op r)) := by
  cases p with
  | none => exact hR.refl _
  | some waiting =>
    obtain ⟨hrank, hfits⟩ := h waiting rfl
    exact hR.regroup (fitsBehind_arithmetic hrank hfits).1 hrank ..

namespace Reader

/-- An expression may follow what has been read: behind what waits for it, it is regrouped only as
    allowed, and it is no sum if a factor is waited for. -/
structure Takes (allowed : Arithmetic → Arithmetic → Bool) (s : Reader) (e : Expr) : Prop where
  sum : ∀ waiting ∈ s.sum,
    waiting.2.bindsTighter = false ∧ e.fitsBehind allowed waiting.2 = true
  product : ∀ waiting ∈ s.product,
    waiting.2.bindsTighter = true ∧ e.fitsBehind allowed waiting.2 = true ∧ e.isSum = false

/-- A sum may only stand where no factor is waited for. -/
theorem Takes.product_eq_none (hs : s.Takes allowed e) (he : e.isSum = true) : s.product = none :=
  Option.eq_none_iff_forall_not_mem.2 fun waiting hwaiting => by
    have hnot := (hs.product waiting hwaiting).2.2
    rw [he] at hnot
    cases hnot

/-- One more factor has been read. -/
structure HasFactor (R : Expr → Expr → Prop) (s s' : Reader) (e : Expr) : Prop where
  outer : s'.outer = s.outer
  sum : s'.sum = s.sum
  last : R s'.last (joined s.product e)

/-- One more summand has been read. -/
structure HasSummand (R : Expr → Expr → Prop) (s s' : Reader) (e : Expr) : Prop where
  outer : s'.outer = s.outer
  result : R s'.result (joined s.sum e)

theorem HasFactor.hasSummand (hR : Regroups allowed R) {s' : Reader} (h : HasFactor R s s' e)
    (hproduct : s.product = none) : HasSummand R s s' e where
  outer := h.outer
  result := by
    have hlast := h.last
    rw [hproduct] at hlast
    rw [result, h.sum]
    exact hR.joined s.sum hlast

theorem hasFactor_of_parts (hR : Regroups allowed R) (h : e.parts = [.factor e]) :
    HasFactor R s (s.read e.parts) e := by
  rw [h]
  exact ⟨rfl, rfl, hR.refl _⟩

/-- An operand of a product is one more factor. -/
theorem hasFactor_between (hR : Regroups allowed R) (hop : op.bindsTighter = true)
    (hsum : ∀ s : Reader, s.product = none → s.Takes allowed e →
      HasSummand R s (s.read e.parts) e)
    (hfactor : e.isSum = false → HasFactor R s (s.read e.parts) e) :
    HasFactor R s (s.read (between (e.isLooseUnder op) e.parts)) e := by
  rw [isLooseUnder_eq, hop, Bool.true_and]
  cases he : e.isSum with
  | false => exact hfactor he
  | true =>
    -- Between the parentheses nothing else is waited for.
    obtain ⟨houter, hresult⟩ := hsum (s.step .opening) rfl ⟨nofun, nofun⟩
    have hread : s.read (between true e.parts) =
        ((s.step .opening).read e.parts).step .closing := by
      rw [between, if_pos rfl, read_append]
      rfl
    rw [hread, step_closing houter]
    exact ⟨rfl, rfl, hR.joined s.product hresult⟩

/-- The left operand may follow what its operation may follow. -/
theorem Takes.left (hs : s.Takes allowed (arithmetic l op r))
    (hl : op.bindsTighter = true → l.isSum = false) : s.Takes allowed l where
  sum := fun waiting hwaiting => by
    obtain ⟨hloose, hfits⟩ := hs.sum waiting hwaiting
    refine ⟨hloose, ?_⟩
    cases hop : op.bindsTighter with
    | true => exact fitsBehind_of_not_isSum hloose (hl hop)
    | false => exact (fitsBehind_arithmetic (hloose.trans hop.symm) hfits).2
  product := fun waiting hwaiting => by
    obtain ⟨htight, hfits, hsum⟩ := hs.product waiting hwaiting
    have hop : op.bindsTighter = true := by simpa [isSum] using hsum
    exact ⟨htight, (fitsBehind_arithmetic (htight.trans hop.symm) hfits).2, hl hop⟩

/-- A factor or a product may follow the sign of a product behind which it fits. -/
theorem Takes.right_product (hs : s.Takes allowed e') (hop : op.bindsTighter = true)
    (hr : r.fitsBehind allowed op = true) (hsum : r.isSum = false) {s' : Reader}
    (hs' : s'.sum = s.sum) : (s'.step (.sign op)).Takes allowed r := by
  rw [step_sign_product hop]
  constructor
  · intro waiting hwaiting
    obtain ⟨hloose, _⟩ := hs.sum waiting (hs' ▸ hwaiting)
    exact ⟨hloose, fitsBehind_of_not_isSum hloose hsum⟩
  · rintro _ ⟨⟩
    exact ⟨hop, hr, hsum⟩

/-- Anything may follow the sign of a sum behind which it fits. -/
theorem Takes.right_sum (hop : op.bindsTighter = false) (hr : r.fitsBehind allowed op = true) :
    (s.step (.sign op)).Takes allowed r := by
  rw [step_sign_sum hop]
  constructor
  · rintro _ ⟨⟩
    exact ⟨hop, hr⟩
  · exact nofun

/-- Two factors with the sign of a product between them are one. -/
theorem HasFactor.arithmetic (hR : Regroups allowed R) {s₁ s₂ : Reader}
    (hs : s.Takes allowed (.arithmetic l op r)) (hop : op.bindsTighter = true)
    (hl : HasFactor R s s₁ l) (hr : HasFactor R (s₁.step (.sign op)) s₂ r) :
    HasFactor R s s₂ (.arithmetic l op r) := by
  obtain ⟨houter, hsum, hlast⟩ := hr
  rw [step_sign_product hop] at houter hsum hlast
  refine ⟨houter.trans hl.outer, hsum.trans hl.sum, ?_⟩
  have hleft : R (.arithmetic s₁.last op r) (.arithmetic (joined s.product l) op r) :=
    hR.arithmetic hl.last op (hR.refl r)
  refine hR.trans hlast (hR.trans hleft (hR.joined_arithmetic fun waiting hwaiting => ?_))
  obtain ⟨htight, hfits, _⟩ := hs.product waiting hwaiting
  exact ⟨htight.trans hop.symm, hfits⟩

/-- Two summands with the sign of a sum between them are one. -/
theorem HasSummand.arithmetic (hR : Regroups allowed R) {s₁ s₂ : Reader}
    (hs : s.Takes allowed (.arithmetic l op r)) (hop : op.bindsTighter = false)
    (hl : HasSummand R s s₁ l) (hr : HasSummand R (s₁.step (.sign op)) s₂ r) :
    HasSummand R s s₂ (.arithmetic l op r) := by
  obtain ⟨houter, hresult⟩ := hr
  rw [step_sign_sum hop] at houter hresult
  refine ⟨houter.trans hl.outer, ?_⟩
  have hleft : R (.arithmetic s₁.result op r) (.arithmetic (joined s.sum l) op r) :=
    hR.arithmetic hl.result op (hR.refl r)
  refine hR.trans hresult (hR.trans hleft (hR.joined_arithmetic fun waiting hwaiting => ?_))
  obtain ⟨hloose, hfits⟩ := hs.sum waiting hwaiting
  exact ⟨hloose.trans hop.symm, hfits⟩

/-- An expression that is regrouped only as allowed is read as one more factor if it is no sum, and
    as one more summand where no factor is waited for. -/
theorem read_parts (hR : Regroups allowed R) (he : e.fits allowed = true) :
    ∀ s : Reader, s.Takes allowed e →
      (e.isSum = false → HasFactor R s (s.read e.parts) e) ∧
        (s.product = none → HasSummand R s (s.read e.parts) e) := by
  induction e with
  | arithmetic l op r ihl ihr =>
    rw [fits, Bool.and_eq_true, Bool.and_eq_true] at he
    obtain ⟨⟨hl, hr⟩, hbehind⟩ := he
    intro s hs
    rw [read_parts_arithmetic]
    cases hop : op.bindsTighter with
    | true =>
      have hleft := hasFactor_between hR hop (fun s hproduct hs => (ihl hl s hs).2 hproduct)
        fun hsum => (ihl hl s (hs.left fun _ => hsum)).1 hsum
      have hright := hasFactor_between hR hop (fun s hproduct hs => (ihr hr s hs).2 hproduct)
        fun hsum => (ihr hr _ (hs.right_product hop hbehind hsum hleft.sum)).1 hsum
      have hboth := hleft.arithmetic hR hs hop hright
      exact ⟨fun _ => hboth, hboth.hasSummand hR⟩
    | false =>
      have hsum : (arithmetic l op r).isSum = true := congrArg (!·) hop
      have hloose (e : Expr) : e.isLooseUnder op = false := by
        rw [isLooseUnder_eq, hop, Bool.false_and]
      have htight (h : op.bindsTighter = true) : l.isSum = false := by
        rw [hop] at h
        cases h
      rw [hloose, hloose, between, between]
      have hleft := (ihl hl s (hs.left htight)).2 (hs.product_eq_none hsum)
      have hright : HasSummand R ((s.read l.parts).step (.sign op)) _ r :=
        (ihr hr _ (Takes.right_sum hop hbehind)).2 (by rw [step_sign_sum hop])
      refine ⟨fun hnot => ?_, fun _ => hleft.arithmetic hR hs hop hright⟩
      rw [hsum] at hnot
      cases hnot
  | _ =>
    intro s _
    exact ⟨fun _ => hasFactor_of_parts hR rfl, (hasFactor_of_parts hR rfl).hasSummand hR⟩

end Reader

/-- What is read from left to right is the expression itself, up to allowed regroupings. -/
theorem Regroups.fromLeft (hR : Regroups allowed R) (he : e.fits allowed = true) :
    R e.fromLeft e :=
  ((Reader.read_parts hR he .start ⟨nofun, nofun⟩).2 rfl).result

end

/-! ## Texts and results of what is read -/

theorem fitsBehind_true (op : Arithmetic) (e : Expr) :
    e.fitsBehind (fun _ _ => true) op = true := by
  induction e with
  | arithmetic l inner r ihl ihr => simp [fitsBehind, ihl]
  | _ => rfl

theorem fits_true (e : Expr) : e.fits (fun _ _ => true) = true := by
  induction e with
  | arithmetic l op r ihl ihr => simp [fits, ihl, ihr, fitsBehind_true]
  | _ => rfl

/-- No regrouping changes the text, nor whether an expression is a sum. -/
theorem regroups_parts :
    Regroups (fun _ _ => true) fun e e' => e.parts = e'.parts ∧ e.isSum = e'.isSum where
  refl _ := ⟨rfl, rfl⟩
  trans h h' := ⟨h.1.trans h'.1, h.2.trans h'.2⟩
  arithmetic hl op hr := by
    simp only [parts, isLooseUnder_eq, hl.1, hl.2, hr.1, hr.2]
    exact ⟨trivial, rfl⟩
  regroup {waiting op} _ hrank x y z := by
    cases hop : op.bindsTighter <;>
      simp [parts, isLooseUnder_eq, isSum, between, hrank, hop]

theorem parts_fromLeft (e : Expr) : e.fromLeft.parts = e.parts :=
  (regroups_parts.fromLeft (fits_true e)).1

/-- An expression read from left to right has the text that it was read from. -/
theorem render_fromLeft (e : Expr) : e.fromLeft.render = e.render := by
  rw [← String.toList_inj, ← flatMap_text_parts, ← flatMap_text_parts, parts_fromLeft]

/-- Two expressions have one text if and only if they are the same from left to right. -/
theorem render_eq_iff (he : e.IsArithmetic) (he' : e'.IsArithmetic) :
    e.render = e'.render ↔ e.fromLeft = e'.fromLeft := by
  constructor
  · intro h
    rw [fromLeft, fromLeft, parts_of_render he he' h]
  · intro h
    rw [← render_fromLeft e, h, render_fromLeft]

end Expr

namespace Arithmetic

/-- Whether an operation may be carried out behind another one of its rank: what is added to an
    integer may be a sum or a difference, and what it is multiplied by may be a product. -/
def associates : (waiting op : Arithmetic) → Bool
  | add, _ | multiply, multiply => true
  | _, _ => false

/-- The result of an operator on what may be no integers. -/
def lift? (op : Arithmetic) (x y : Option Int32) : Option Int32 :=
  x.bind fun a => y.bind fun b => op.value? a b

theorem lift?_none (op : Arithmetic) (x : Option Int32) : op.lift? x none = none :=
  Option.bind_fun_none x

/-- Operations wrap around, so that it makes no difference which one is carried out first. -/
theorem lift?_lift? {waiting op : Arithmetic} (h : associates waiting op = true)
    (hrank : waiting.bindsTighter = op.bindsTighter) (x y z : Option Int32) :
    op.lift? (waiting.lift? x y) z = waiting.lift? x (op.lift? y z) := by
  rcases x with _ | a
  · rfl
  rcases y with _ | b
  · rfl
  rcases z with _ | c
  · rw [lift?_none, lift?_none, lift?_none]
  cases waiting with
  | add =>
    cases op with
    | add => exact congrArg some (Int32.add_assoc a b c)
    | subtract =>
      refine congrArg some ?_
      rw [Int32.sub_eq_add_neg, Int32.add_assoc, ← Int32.sub_eq_add_neg]
    | multiply => cases hrank
    | divide => cases hrank
  | multiply =>
    cases op with
    | multiply => exact congrArg some (Int32.mul_assoc a b c)
    | _ => cases h
  | subtract => cases h
  | divide => cases h

end Arithmetic

namespace Expr

variable {e e' l r : Expr} {op : Arithmetic} {t : Tuple}

/-- The integer that a scalar stands for. -/
def number? (t : Tuple) (e : Expr) : Option Int32 := int? (e.eval? t)

theorem number?_arithmetic :
    number? t (arithmetic l op r) = op.lift? (number? t l) (number? t r) := by
  rw [number?, eval?, number?, number?]
  rcases int? (eval? t l) with _ | a
  · rfl
  rcases int? (eval? t r) with _ | b
  · rfl
  cases hvalue : op.value? a b <;> simp [Arithmetic.lift?, int?, Value.int?, hvalue]

/-- Only a text has a value that is no integer. -/
theorem eval?_eq_number? (he : ∀ s, e ≠ .literal (.text s)) :
    e.eval? t = (number? t e).map .int := by
  cases e with
  | literal v => cases v with
    | int n => rfl
    | text s => exact absurd rfl (he s)
  | column c =>
    rw [number?, eval?]
    cases t.lookup c <;> rfl
  | compare l op r => rfl
  | and l r => rfl
  | arithmetic l op r =>
    rw [number?_arithmetic, eval?, number?, number?]
    rcases int? (eval? t l) with _ | a
    · rfl
    rcases int? (eval? t r) with _ | b <;> rfl

theorem IsArithmetic.eval?_eq (he : e.IsArithmetic) : e.eval? t = (number? t e).map .int := by
  refine eval?_eq_number? ?_
  rintro s rfl
  cases he with
  | factor h => cases h

/-- Regroupings of operators that associate keep the result. -/
theorem regroups_number? :
    Regroups Arithmetic.associates fun e e' => ∀ t, number? t e = number? t e' where
  refl _ _ := rfl
  trans h h' t := (h t).trans (h' t)
  arithmetic hl op hr t := by rw [number?_arithmetic, number?_arithmetic, hl, hr]
  regroup h hrank x y z t := by
    simp only [number?_arithmetic]
    exact Arithmetic.lift?_lift? h hrank ..

/-- An expression keeps its grouping if it is regrouped, where it is read from left to right, only
    behind operators that associate. -/
def keepsGrouping (e : Expr) : Bool := e.fits Arithmetic.associates

theorem number?_fromLeft (he : e.keepsGrouping = true) : number? t e.fromLeft = number? t e :=
  regroups_number?.fromLeft he t

/-- Two expressions have one text if and only if they are the same from left to right. If both of
    them keep their grouping, they have the same result on every tuple, then. -/
theorem eval?_of_render (he : e.IsArithmetic) (he' : e'.IsArithmetic) :
    (e.render = e'.render ↔ e.fromLeft = e'.fromLeft) ∧
      (e.render = e'.render → e.keepsGrouping = true → e'.keepsGrouping = true →
        ∀ t, e.eval? t = e'.eval? t) := by
  refine ⟨render_eq_iff he he', fun h hkeeps hkeeps' t => ?_⟩
  have hleft : e.fromLeft = e'.fromLeft := (render_eq_iff he he').1 h
  rw [he.eval?_eq, he'.eval?_eq, ← number?_fromLeft hkeeps, ← number?_fromLeft hkeeps', hleft]

end Expr

namespace Sample

/-- A column of the table `R`. -/
def columnOfR (name : String) : Expr := .column ⟨some "R", name⟩

theorem isArithmetic_columnOfR (name : String) (h : IsPlainName name) :
    (columnOfR name).IsArithmetic :=
  .factor (.column ⟨by rintro _ ⟨⟩; decide, h⟩)

/-- The expression `R.a + (R.b - R.c * (2 * R.a))`. -/
def grouped : Expr :=
  .arithmetic (columnOfR "a") .add (.arithmetic (columnOfR "b") .subtract
    (.arithmetic (columnOfR "c") .multiply
      (.arithmetic (.literal (.int 2)) .multiply (columnOfR "a"))))

/-- The expression `R.a + R.b - R.c * 2 * R.a`. -/
def ungrouped : Expr :=
  .arithmetic (.arithmetic (columnOfR "a") .add (columnOfR "b")) .subtract
    (.arithmetic (.arithmetic (columnOfR "c") .multiply (.literal (.int 2))) .multiply
      (columnOfR "a"))

/-- A difference behind a plus and a product behind a times have the text of what they are from
    left to right, and the same result. -/
theorem grouped_eval? :
    grouped.IsArithmetic ∧ ungrouped.IsArithmetic ∧
    grouped.render = "R.a + R.b - R.c * 2 * R.a" ∧ grouped.render = ungrouped.render ∧
    grouped.keepsGrouping = true ∧ ungrouped.keepsGrouping = true ∧
    grouped.fromLeft = ungrouped.fromLeft ∧ ∀ t, grouped.eval? t = ungrouped.eval? t := by
  have ha := isArithmetic_columnOfR "a" (by decide)
  have hb := isArithmetic_columnOfR "b" (by decide)
  have hc := isArithmetic_columnOfR "c" (by decide)
  have htwo : (Expr.literal (.int 2)).IsArithmetic := .factor (.literal 2)
  have hgrouped : grouped.IsArithmetic :=
    .arithmetic ha _ (.arithmetic hb _ (.arithmetic hc _ (.arithmetic htwo _ ha)))
  have hungrouped : ungrouped.IsArithmetic :=
    .arithmetic (.arithmetic ha _ hb) _ (.arithmetic (.arithmetic hc _ htwo) _ ha)
  have hrender : grouped.render = ungrouped.render := by decide +kernel
  obtain ⟨hleft, hresult⟩ := Expr.eval?_of_render hgrouped hungrouped
  exact ⟨hgrouped, hungrouped, by decide +kernel, hrender, rfl, rfl, hleft.1 hrender,
    hresult hrender rfl rfl⟩

/-- The expression `R.a - (R.b - R.c)`. -/
def subtracted : Expr :=
  .arithmetic (columnOfR "a") .subtract (.arithmetic (columnOfR "b") .subtract (columnOfR "c"))

/-- The expression `R.a - R.b - R.c`. -/
def subtractedInTurn : Expr :=
  .arithmetic (.arithmetic (columnOfR "a") .subtract (columnOfR "b")) .subtract (columnOfR "c")

/-- A difference behind a minus has the text of another expression, with another result. -/
theorem grouping_lost :
    subtracted.IsArithmetic ∧ subtractedInTurn.IsArithmetic ∧
    subtracted.render = "R.a - R.b - R.c" ∧ subtractedInTurn.render = "R.a - R.b - R.c" ∧
    subtracted.eval? (.ofRow "R" ["a", "b", "c"] [1, 2, 3]) = some (.int 2) ∧
    subtractedInTurn.eval? (.ofRow "R" ["a", "b", "c"] [1, 2, 3]) = some (.int (-4)) := by
  have ha := isArithmetic_columnOfR "a" (by decide)
  have hb := isArithmetic_columnOfR "b" (by decide)
  have hc := isArithmetic_columnOfR "c" (by decide)
  refine ⟨.arithmetic ha _ (.arithmetic hb _ hc), .arithmetic (.arithmetic ha _ hb) _ hc, ?_, ?_,
    ?_, ?_⟩ <;> decide +kernel

end Sample

end CsvQuery
