import CsvQuery.Expr

/-!
# Expressions as messages show them

Operands stand between their operators, and parentheses only around a sum or a difference under a
product or a quotient. The name of a computed attribute is the text of its `SumCall`.
-/

namespace CsvQuery

/-- The sign of a comparison. -/
def Comparison.symbol : Comparison → String
  | equal => "="
  | greater => ">"
  | less => "<"
  | atMost => "<="
  | atLeast => ">="
  | unequal => "<>"

/-- The sign of an arithmetic operator. -/
def Arithmetic.symbol : Arithmetic → String
  | add => "+"
  | subtract => "-"
  | multiply => "*"
  | divide => "/"

/-- Whether an operator takes its operands before a sum or a difference does. -/
def Arithmetic.bindsTighter : Arithmetic → Bool
  | multiply | divide => true
  | add | subtract => false

namespace Expr

/-- Whether an operand under an arithmetic operator stands between parentheses. -/
def isLooseUnder (e : Expr) (op : Arithmetic) : Bool :=
  match e with
  | arithmetic _ inner _ => op.bindsTighter && !inner.bindsTighter
  | _ => false

/-- The text of an operand, between parentheses if it needs them. -/
def operandText (loose : Bool) (text : String) : String :=
  if loose then "(" ++ text ++ ")" else text

/-- The text of an expression. -/
def render : Expr → String
  | literal v => v.render
  | column c => c.render
  | compare l op r => l.render ++ " " ++ op.symbol ++ " " ++ r.render
  | and l r => l.render ++ " AND " ++ r.render
  | arithmetic l op r =>
    operandText (l.isLooseUnder op) l.render ++ " " ++ op.symbol ++ " "
      ++ operandText (r.isLooseUnder op) r.render

end Expr

/-- The text of a sum, which is also the column name of its results. -/
def SumCall.name (s : SumCall) : String := "SUM(" ++ s.argument.render ++ ")"

/-- The column that holds the results of a sum. -/
def SumCall.output (s : SumCall) : ColumnRef := ⟨some sumTable, s.name⟩

end CsvQuery
