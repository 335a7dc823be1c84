import CsvQuery.Json.Reader
import CsvQuery.QueryError
import CsvQuery.Statement

/-!
# Stored statements

Statements are stored as JSON. Alternatives are objects of one field or, without content, strings;
records are objects. Fields that may be empty need not be there when a statement is read.

* `Statement.toJson`, `Statement.render`: the stored form of a statement. Its fields stand in
  alphabetical order.
* `Statement.read`: the statement of a text.
-/

namespace CsvQuery

/-- How many brackets may be open at once in the text of a statement, not counting what is of no
    account for it. -/
def maxDepth : Nat := 127

/-! ## Writing -/

/-- The stored form of a value. -/
def Value.toJson : Value → Json
  | int n => .ofFields [("IntField", .ofInt n.toInt)]
  | text s => .ofFields [("StringField", .ofString s)]

/-- The stored form of what may be absent. -/
def Json.ofOption {α : Type} (f : α → Json) : Option α → Json
  | none => .null
  | some a => f a

/-- The stored form of a column reference. -/
def ColumnRef.toJson (c : ColumnRef) : Json :=
  .ofFields [("column", .ofString c.column), ("table", .ofOption .ofString c.table)]

/-- The stored name of a comparison. -/
def Comparison.key : Comparison → String
  | equal => "Equals"
  | greater => "GreaterThan"
  | less => "LessThan"
  | atMost => "LessThanOrEq"
  | atLeast => "GreaterThanOrEq"
  | unequal => "NotEq"

/-- The stored name of an arithmetic operator. -/
def Arithmetic.key : Arithmetic → String
  | add => "Add"
  | subtract => "Subtract"
  | multiply => "Multiply"
  | divide => "Divide"

/-- The stored form of an expression. -/
def Expr.toJson : Expr → Json
  | literal v => .ofFields [("Literal", v.toJson)]
  | column c => .ofFields [("Column", c.toJson)]
  | compare l op r =>
    .ofFields [("Compare",
      .ofFields [("left", l.toJson), ("op", .ofString op.key), ("right", r.toJson)])]
  | and l r => .ofFields [("And", .array [l.toJson, r.toJson])]
  | arithmetic l op r =>
    .ofFields [("Arithmetic",
      .ofFields [("left", l.toJson), ("op", .ofString op.key), ("right", r.toJson)])]

/-- The stored form of a sum. -/
def SumCall.toJson (s : SumCall) : Json :=
  .ofFields [("arg", s.argument.toJson), ("op", .ofString "Sum")]

/-- The stored form of an item to show. -/
def SelectItem.toJson : SelectItem → Json
  | column c => .ofFields [("Column", c.toJson)]
  | sum s => .ofFields [("Aggregate", s.toJson)]

/-- The stored form of what to show. -/
def Projection.toJson : Projection → Json
  | all => .ofString "Wildcard"
  | list items => .ofFields [("List", .array (items.map (·.toJson)))]

/-- The stored form of a join. -/
def JoinClause.toJson (j : JoinClause) : Json :=
  .ofFields [("constraint", .ofOption Expr.toJson j.constraint), ("table", .ofString j.table)]

/-- The stored form of a statement. -/
def Statement.toJson (s : Statement) : Json :=
  .ofFields [
    ("distinct", .bool s.distinct),
    ("from", .ofString s.base),
    ("group_by", .array (s.groupBy.map (·.toJson))),
    ("joins", .array (s.joins.map (·.toJson))),
    ("order_by", .array (s.orderBy.map (·.toJson))),
    ("projection", s.projection.toJson),
    ("selection", .ofOption Expr.toJson s.selection)]

/-- The compact text of the stored form of a statement. -/
def Statement.render (s : Statement) : String := s.toJson.render

/-! ## Reading -/

/-- The value of a stored form. -/
def Value.ofJson? (j : Json) : Option Value := do
  match ← j.variant? with
  | ("IntField", some n) => n.int32?.map .int
  | ("StringField", some s) => s.string?.map .text
  | _ => none

/-- The column reference of a stored form. -/
def ColumnRef.ofJson? (j : Json) : Option ColumnRef := do
  match ← j.fields? ["table", "column"] 2 with
  | [table, some column] => do
    return ⟨← (table.getD .null).optional? Json.string?, ← column.string?⟩
  | _ => none

/-- The comparison of a stored name. -/
def Comparison.ofKey? : String → Option Comparison
  | "Equals" => some equal
  | "GreaterThan" => some greater
  | "LessThan" => some less
  | "LessThanOrEq" => some atMost
  | "GreaterThanOrEq" => some atLeast
  | "NotEq" => some unequal
  | _ => none

/-- The arithmetic operator of a stored name. -/
def Arithmetic.ofKey? : String → Option Arithmetic
  | "Add" => some add
  | "Subtract" => some subtract
  | "Multiply" => some multiply
  | "Divide" => some divide
  | _ => none

/-- The operands of a stored operation and its operator. -/
def operation? (j : Json) : Option (Json × String × Json) := do
  match ← j.fields? ["left", "op", "right"] 3 with
  | [some l, some op, some r] => return (l, ← op.plainVariant?, r)
  | _ => none

/-- The expression of a stored form, in which at most `depth` brackets may be open at once. Each
    expression opens two of them around its parts. -/
def Expr.ofJson? : (depth : Nat) → Json → Option Expr
  | depth + 2, j => do
    match ← j.variant? with
    | ("Literal", some v) => (Value.ofJson? v).map literal
    | ("Column", some c) => (ColumnRef.ofJson? c).map column
    | ("Compare", some c) =>
      let (l, op, r) ← operation? c
      return compare (← ofJson? depth l) (← Comparison.ofKey? op) (← ofJson? depth r)
    | ("And", some (.array [l, r])) => return and (← ofJson? depth l) (← ofJson? depth r)
    | ("Arithmetic", some c) =>
      let (l, op, r) ← operation? c
      return arithmetic (← ofJson? depth l) (← Arithmetic.ofKey? op) (← ofJson? depth r)
    | _ => none
  | _, _ => none

/-- The sum of a stored form. -/
def SumCall.ofJson? (depth : Nat) (j : Json) : Option SumCall := do
  match ← j.fields? ["op", "arg"] 2 with
  | [some op, some argument] =>
    if (← op.plainVariant?) = "Sum" then return ⟨← Expr.ofJson? (depth - 1) argument⟩ else none
  | _ => none

/-- The item of a stored form. -/
def SelectItem.ofJson? (depth : Nat) (j : Json) : Option SelectItem := do
  match ← j.variant? with
  | ("Column", some c) => (ColumnRef.ofJson? c).map column
  | ("Aggregate", some s) => (SumCall.ofJson? (depth - 1) s).map sum
  | _ => none

/-- What to show, of a stored form. -/
def Projection.ofJson? (depth : Nat) (j : Json) : Option Projection := do
  match ← j.variant? with
  | ("Wildcard", none) | ("Wildcard", some .null) => return all
  | ("List", some items) =>
    return list (← (← items.items?).mapM (SelectItem.ofJson? (depth - 2)))
  | _ => none

/-- The join of a stored form. -/
def JoinClause.ofJson? (depth : Nat) (j : Json) : Option JoinClause := do
  match ← j.fields? ["table", "constraint"] 2 with
  | [some table, constraint] => do
    return ⟨← table.string?, ← (constraint.getD .null).optional? (Expr.ofJson? (depth - 1))⟩
  | _ => none

/-- The list of a stored field that may be missing. -/
def listField? {α : Type} (f : Json → Option α) : Option Json → Option (List α)
  | none => some []
  | some j => do (← j.items?).mapM f

/-- The statement of a stored form. -/
def Statement.ofJson? (depth : Nat) (j : Json) : Option Statement := do
  let names := ["from", "joins", "selection", "projection", "group_by", "order_by", "distinct"]
  match ← j.fields? names 4 with
  | [some base, joins, selection, some projection, groupBy, orderBy, distinct] => do
    return {
      base := ← base.string?
      joins := ← listField? (JoinClause.ofJson? (depth - 2)) joins
      selection := ← (selection.getD .null).optional? (Expr.ofJson? (depth - 1))
      projection := ← Projection.ofJson? (depth - 1) projection
      groupBy := ← listField? ColumnRef.ofJson? groupBy
      orderBy := ← listField? ColumnRef.ofJson? orderBy
      distinct := ← (distinct.getD (.bool false)).bool? }
  | _ => none

/-- The statement of a text. -/
def Statement.read (text : String) : Except QueryError Statement :=
  match (Json.parse? text).bind (Statement.ofJson? maxDepth) with
  | some s => .ok s
  | none => .error .statementGarbled

end CsvQuery
