import CsvQuery.Proofs.SumNames

/-!
# Texts of expressions

The text of an arithmetic expression consists of factors, signs and parentheses.
As long as names are plain, no factor can be taken for anything else, and the
text determines these parts.

The parts are read from left to right, with what waits for an operand kept in
mind: a sum so far and a product so far, inside of each parenthesis that is open.
What is read is the expression *from left to right*. It may be another one than
the parts were written for, since parentheses are only written around a sum or a
difference under a product or a quotient.

* `Expr.parts`: the parts of the text of an expression.
* `Expr.parts_of_render`: the text determines the parts.
* `Expr.Reader`: what has been read of some parts.
* `Expr.fromLeft`: an expression from left to right.
-/

namespace CsvQuery

namespace Expr

/-! ## The parts of a text -/

/-- A part of the text of an arithmetic expression. -/
inductive Part
  | opening
  | closing
  | sign (op : Arithmetic)
  | factor (e : Expr)

/-- A part as it is written. -/
def Part.text : Part → List Char
  | opening => ['(']
  | closing => [')']
  | sign op => ' ' :: op.symbol.toList ++ [' ']
  | factor e => e.render.toList

/-- The parts of an operand, between parentheses if it needs them. -/
def between (loose : Bool) (parts : List Part) : List Part :=
  if loose then .opening :: parts ++ [.closing] else parts

/-- The parts of the text of an expression. What is no operation is a single part. -/
def parts : Expr → List Part
  | arithmetic l op r =>
    between (l.isLooseUnder op) l.parts ++ .sign op :: between (r.isLooseUnder op) r.parts
  | e => [.factor e]

variable {e e' l r : Expr} {op : Arithmetic} {ps qs rest : List Part}

theorem flatMap_text_between (loose : Bool) {text : String}
    (h : ps.flatMap Part.text = text.toList) :
    (between loose ps).flatMap Part.text = (operandText loose text).toList := by
  cases loose <;> simp [between, operandText, Part.text, h]

/-- The text of an expression is that of its parts. -/
theorem flatMap_text_parts (e : Expr) : e.parts.flatMap Part.text = e.render.toList := by
  induction e with
  | arithmetic l op r ihl ihr =>
    rw [parts, render, List.flatMap_append, List.flatMap_cons, flatMap_text_between _ ihl,
      flatMap_text_between _ ihr]
    simp [Part.text]
  | _ => simp [parts, Part.text]

/-- An expression of integers, columns with plain names, and operators. -/
inductive IsArithmetic : Expr → Prop
  | factor {e : Expr} (h : e.IsFactor) : IsArithmetic e
  | arithmetic {l r : Expr} (hl : IsArithmetic l) (op : Arithmetic) (hr : IsArithmetic r) :
      IsArithmetic (.arithmetic l op r)

/-- Operands and signs take turns. An operand may be due: a factor or an opening parenthesis.
    Otherwise a sign or a closing parenthesis follows, or nothing. -/
inductive Alternate : (due : Bool) → List Part → Prop
  | done : Alternate false []
  | opening {ps : List Part} (h : Alternate true ps) : Alternate true (.opening :: ps)
  | factor {e : Expr} {ps : List Part} (he : e.IsFactor) (h : Alternate false ps) :
      Alternate true (.factor e :: ps)
  | closing {ps : List Part} (h : Alternate false ps) : Alternate false (.closing :: ps)
  | sign {ps : List Part} (op : Arithmetic) (h : Alternate true ps) :
      Alternate false (.sign op :: ps)

theorem alternate_between (loose : Bool)
    (h : ∀ rest, Alternate false rest → Alternate true (ps ++ rest))
    (hrest : Alternate false rest) :
    Alternate true (between loose ps ++ rest) := by
  cases loose with
  | false => exact h rest hrest
  | true =>
    rw [between, if_pos rfl, List.append_assoc, List.cons_append]
    exact .opening (h _ (.closing hrest))

theorem IsArithmetic.alternate (he : e.IsArithmetic) :
    ∀ rest, Alternate false rest → Alternate true (e.parts ++ rest) := by
  induction he with
  | factor h =>
    intro rest hrest
    cases h with
    | literal n => exact .factor (.literal n) hrest
    | column hc => exact .factor (.column hc) hrest
  | arithmetic hl op hr ihl ihr =>
    intro rest hrest
    rw [parts, List.append_assoc, List.cons_append]
    exact alternate_between _ ihl (.sign op (alternate_between _ ihr hrest))

/-! ## From texts to parts -/

/-- Whether a character separates factors. -/
def separates (c : Char) : Bool := c == ' ' || c == '(' || c == ')'

theorem IsFactor.not_separates (h : e.IsFactor) : ∀ c ∈ e.render.toList, (!separates c) = true := by
  intro c hc
  have hchar := h.of_mem_render hc
  rw [Bool.not_eq_true', ← Bool.not_eq_true]
  intro hsep
  simp only [separates, Bool.or_eq_true, beq_iff_eq] at hsep
  rcases hsep with (rfl | rfl) | rfl <;> revert hchar <;> decide

/-- Behind a factor, the text goes on with a character that separates it from the next one. -/
theorem Alternate.takeWhile_text (h : Alternate false ps) :
    (ps.flatMap Part.text).takeWhile (!separates ·) = [] := by
  cases h <;> rfl

/-- A factor ends where a separating character comes. -/
theorem takeWhile_text_factor (he : e.IsFactor) (h : Alternate false ps) :
    ((Part.factor e :: ps).flatMap Part.text).takeWhile (!separates ·) = e.render.toList := by
  rw [List.flatMap_cons, Part.text, List.takeWhile_append_of_pos he.not_separates,
    h.takeWhile_text, List.append_nil]

theorem Alternate.text_ne_opening (h : Alternate false ps) {s : List Char} :
    ps.flatMap Part.text ≠ '(' :: s := by
  cases h <;> simp [Part.text]

/-- A factor does not start with a parenthesis. -/
theorem text_factor_ne_opening (he : e.IsFactor) (h : Alternate false ps) {s : List Char} :
    (Part.factor e :: ps).flatMap Part.text ≠ '(' :: s := by
  intro hs
  have htext := takeWhile_text_factor he h
  rw [hs] at htext
  rw [List.flatMap_cons, Part.text, ← htext] at hs
  exact h.text_ne_opening hs

theorem text_sign_inj {op op' : Arithmetic} {s s' : List Char}
    (h : (Part.sign op).text ++ s = (Part.sign op').text ++ s') : op = op' ∧ s = s' := by
  cases op <;> cases op' <;> simp_all [Part.text, Arithmetic.symbol]

/-- A text has its parts in only one way. -/
theorem Alternate.eq_of_text {due : Bool} (hps : Alternate due ps) (hqs : Alternate due qs)
    (h : ps.flatMap Part.text = qs.flatMap Part.text) : ps = qs := by
  induction hps generalizing qs with
  | done =>
    cases hqs with
    | done => rfl
    | closing _ => cases h
    | sign _ _ => cases h
  | opening _ ih =>
    cases hqs with
    | opening hqs => rw [ih hqs (List.cons.inj h).2]
    | factor he hqs => exact absurd h.symm (text_factor_ne_opening he hqs)
  | factor he hps ih =>
    cases hqs with
    | opening _ => exact absurd h (text_factor_ne_opening he hps)
    | factor he' hqs =>
      have htext := congrArg (List.takeWhile (!separates ·)) h
      rw [takeWhile_text_factor he hps, takeWhile_text_factor he' hqs] at htext
      obtain rfl := he.eq_of_render he' (String.toList_inj.1 htext)
      rw [ih hqs (List.append_cancel_left h)]
  | closing _ ih =>
    cases hqs with
    | done => cases h
    | closing hqs => rw [ih hqs (List.cons.inj h).2]
    | sign op _ => cases h
  | sign op _ ih =>
    cases hqs with
    | done => cases h
    | closing _ => cases h
    | sign op' hqs =>
      obtain ⟨rfl, htext⟩ := text_sign_inj h
      rw [ih hqs htext]

/-- The text of an expression determines its signs, its factors and its parentheses. -/
theorem parts_of_render (he : e.IsArithmetic) (he' : e'.IsArithmetic) (h : e.render = e'.render) :
    e.parts = e'.parts := by
  have hdone := he.alternate [] .done
  have hdone' := he'.alternate [] .done
  rw [List.append_nil] at hdone hdone'
  refine hdone.eq_of_text hdone' ?_
  rw [flatMap_text_parts, flatMap_text_parts, h]

/-! ## From parts to expressions -/

/-- What stands before an operand and waits for it: a left operand and an operator, if any. -/
abbrev Pending := Option (Expr × Arithmetic)

/-- An operand with what waits for it. -/
def joined (p : Pending) (e : Expr) : Expr :=
  p.elim e fun waiting => arithmetic waiting.1 waiting.2 e

/-- What has been read of a text. -/
structure Reader where
  /-- What waits for the end of a product. -/
  sum : Pending
  /-- What waits for the next factor. -/
  product : Pending
  /-- The product so far, once a factor has been read. -/
  last : Expr
  /-- What waits outside the parentheses that are open, the innermost first. -/
  outer : List (Pending × Pending)

namespace Reader

/-- Nothing has been read. -/
def start : Reader := ⟨none, none, literal (.int 0), []⟩

/-- One more part has been read. A sign completes what waits for an operand, unless it binds
    tighter. -/
def step (s : Reader) : Part → Reader
  | .opening => { s with sum := none, product := none, outer := (s.sum, s.product) :: s.outer }
  | .closing =>
    let waiting := s.outer.head?.getD (none, none)
    ⟨waiting.1, waiting.2, joined waiting.2 (joined s.sum s.last), s.outer.tail⟩
  | .sign op =>
    if op.bindsTighter then { s with product := some (s.last, op) }
    else { s with sum := some (joined s.sum s.last, op), product := none }
  | .factor e => { s with last := joined s.product e }

/-- More parts have been read. -/
def read (s : Reader) (ps : List Part) : Reader := ps.foldl step s

/-- What has been read is an expression. -/
def result (s : Reader) : Expr := joined s.sum s.last

variable {s : Reader}

/-- What has been read between parentheses is an operand. -/
theorem step_closing {sum product : Pending} {outer : List (Pending × Pending)}
    (h : s.outer = (sum, product) :: outer) :
    s.step .closing = ⟨sum, product, joined product s.result, outer⟩ := by
  rw [step, h]
  rfl

theorem step_sign_product (hop : op.bindsTighter = true) :
    s.step (.sign op) = { s with product := some (s.last, op) } :=
  if_pos hop

theorem step_sign_sum (hop : op.bindsTighter = false) :
    s.step (.sign op) = { s with sum := some (s.result, op), product := none } :=
  if_neg (by rw [hop]; exact Bool.false_ne_true)

theorem read_append : s.read (ps ++ qs) = (s.read ps).read qs := List.foldl_append

theorem read_parts_arithmetic : s.read (arithmetic l op r).parts =
    (((s.read (between (l.isLooseUnder op) l.parts)).step (.sign op)).read
      (between (r.isLooseUnder op) r.parts)) := by
  rw [parts, read_append]
  rfl

end Reader

/-- An expression read from left to right, with the parentheses of its text. -/
def fromLeft (e : Expr) : Expr := (Reader.start.read e.parts).result

end Expr

end CsvQuery
