import CsvQuery.Expr.Render

/-!
# Syntax of query texts

What a query text says, as far as it can be told apart later. Of the parts that no statement has a
place for, only the wording is kept.

* `Name`: a part of a name as it is written.
* `Term`: an expression.
* `Relation`, `Join`: a table, or what stands for one, and how another one is joined to it.
* `Select`, `Query`: a `SELECT`, and what may stand around it.
-/

namespace CsvQuery.Sql

/-- A part of a name, and the mark that it is quoted with. -/
structure Name where
  text : String
  quote : Option Char
  deriving DecidableEq, Repr

/-! ## Expressions -/

/-- An operator with one operand. -/
inductive Sign
  | plus
  | minus
  | not
  | factorial
  deriving DecidableEq, Repr

/-- An operator between two operands. -/
inductive Operator
  | compare (op : Comparison)
  | arithmetic (op : Arithmetic)
  | and
  /-- An operator that statements have no place for. -/
  | other (symbol : String)
  deriving DecidableEq, Repr

/-- A function call, apart from its argument. -/
structure CallHead where
  name : List Name
  distinct : Bool
  /-- Whether the call has a window. -/
  windowed : Bool
  /-- The wording of the whole call. -/
  text : String
  deriving DecidableEq, Repr

/-- An expression. -/
inductive Term
  | name (n : Name)
  /-- A name of more than one part. -/
  | path (parts : List Name)
  | number (text : String) (long : Bool)
  | string (text : String)
  /-- A literal that statements have no place for, in its own wording. -/
  | literal (text : String)
  /-- An expression in parentheses. -/
  | nested (e : Term)
  | signed (sign : Sign) (e : Term)
  | binary (left : Term) (op : Operator) (right : Term)
  /-- A call with a number of arguments other than one plain expression. -/
  | call (head : CallHead) (arguments : Nat)
  /-- A call with one plain expression as its argument. -/
  | callOn (head : CallHead) (argument : Term)
  /-- An expression that statements have no place for, in its own wording. -/
  | other (text : String)
  deriving DecidableEq, Repr

/-! ## Tables -/

/-- What stands for a table. -/
inductive RelationKind
  /-- The table of a name. One with arguments is a function. -/
  | table (name : List Name) (arguments : Option String)
  /-- Joined tables in parentheses. -/
  | joined (text : String)
  /-- A subquery or a function, in its own wording. -/
  | derived (text : String)
  deriving DecidableEq, Repr

/-- A table, or what stands for one, with the name that it is given. -/
structure Relation where
  kind : RelationKind
  /-- The name that it is given, in its wording. -/
  newName : Option String
  /-- The wording of what follows that name. -/
  trailer : String
  deriving DecidableEq, Repr

/-- How a table is joined to those before it. -/
inductive JoinKind
  | inner
  | cross
  /-- A join that keeps tuples without a partner, or that tests for partners, in its own wording. -/
  | outer (text : String)
  deriving DecidableEq, Repr

/-- The condition of a join. -/
inductive Constraint
  | none
  /-- A predicate on the joined tuples. -/
  | predicate (e : Term)
  /-- The equality of columns that both sides have. -/
  | shared (columns : List Name)
  /-- The equality of all columns that both sides have. -/
  | natural
  deriving DecidableEq, Repr

/-- A table joined to those before it. -/
structure Join where
  relation : Relation
  kind : JoinKind
  constraint : Constraint
  deriving DecidableEq, Repr

/-- A table with those joined to it. -/
structure JoinedRelation where
  relation : Relation
  joins : List Join
  deriving DecidableEq, Repr

/-! ## Queries -/

/-- Whether a `SELECT` drops repeated rows. -/
inductive Repeats
  | keep
  | drop
  /-- Drops the rows that repeat the values of some expressions. -/
  | dropOn (keys : List Term)
  deriving DecidableEq, Repr

/-- An item of a `SELECT`. -/
inductive Item
  /-- All columns, with the wording of what is said about single ones. -/
  | wildcard (modifiers : String)
  /-- All columns of a table, likewise. -/
  | tableWildcard (table : List Name) (modifiers : String)
  | plain (e : Term)
  | named (e : Term) (newName : Name)
  deriving DecidableEq, Repr

/-- A `SELECT` with all its clauses. -/
structure Select where
  repeats : Repeats
  top : Option String
  items : List Item
  into : Option String
  relations : List JoinedRelation
  lateralViews : List String
  selection : Option Term
  groupBy : List Term
  clusterBy : List Term
  distributeBy : List Term
  sortBy : List Term
  having : Option Term
  windows : List String
  qualify : Option Term
  deriving DecidableEq, Repr

/-- The body of a query. -/
inductive Body
  | select (s : Select)
  /-- A query in parentheses. -/
  | query (text : String)
  | setOperation (text : String)
  /-- Rows of values, or a statement that is no query. -/
  | other (text : String)
  deriving DecidableEq, Repr

/-- An expression to sort by. -/
structure OrderItem where
  term : Term
  ascending : Option Bool
  nullsFirst : Option Bool
  deriving DecidableEq, Repr

/-- A query with all its clauses. -/
structure Query where
  withClause : Option String
  body : Body
  orderBy : List OrderItem
  limit : Option Term
  offset : Option String
  fetch : Option String
  locks : List String
  deriving DecidableEq, Repr

/-- A statement of a text. -/
inductive TextStatement
  | query (q : Query)
  /-- What is to be done for a statement, or what a table holds. -/
  | explanation
  /-- Any other statement. -/
  | other
  deriving DecidableEq, Repr

end CsvQuery.Sql
