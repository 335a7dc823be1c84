import CsvQuery.Decimal

/-!
# Tuples

A tuple is a list of attributes, each an integer named by a table and a column. Names may repeat:
whatever is looked up, the first attribute that fits is found.

* `Tuple.lookup`, `Tuple.find?`: the value of a column, and the first attribute of a column name.
* `Tuple.merge`: two tuples side by side.
* `Tuple.sameBag`: whether two lists hold the same tuples, in any order.
-/

namespace CsvQuery

/-- A column, of a given table or of whichever table comes first. -/
structure ColumnRef where
  /-- The table, if the reference names one. -/
  table : Option String
  column : String
  deriving DecidableEq, Repr

/-- A column reference as it is written in a query. -/
def ColumnRef.render (c : ColumnRef) : String :=
  match c.table with
  | some t => t ++ "." ++ c.column
  | none => c.column

/-- The table name of attributes that are computed rather than read from a table. -/
def sumTable : String := "SUM_RESULT"

/-- One value of a tuple. -/
structure Attribute where
  table : String
  column : String
  value : Int32
  deriving DecidableEq, Repr

/-- Whether an attribute is one that the reference may mean. -/
def Attribute.fits (a : Attribute) (c : ColumnRef) : Bool :=
  a.column == c.column && c.table.all (a.table == ·)

/-- An attribute as results show it. A computed one is shown without its table name. -/
def Attribute.render (a : Attribute) : String :=
  let named := a.column ++ "=" ++ Decimal.text a.value
  if a.table = sumTable then named else a.table ++ "." ++ named

/-- A row of attributes. -/
structure Tuple where
  attributes : List Attribute
  deriving DecidableEq, Repr

namespace Tuple

/-- The tuple of one table from its columns and their values. What either list has more than the
    other is left out. -/
def ofRow (table : String) (columns : List String) (values : List Int32) : Tuple :=
  ⟨(columns.zip values).map fun (c, v) => ⟨table, c, v⟩⟩

/-- The value of the first attribute that fits a reference. -/
def lookup (t : Tuple) (c : ColumnRef) : Option Int32 :=
  (t.attributes.find? (·.fits c)).map (·.value)

/-- The first attribute with a column name, of whatever table. -/
def find? (t : Tuple) (column : String) : Option Attribute :=
  t.attributes.find? (·.column == column)

/-- The number of attributes. -/
def size (t : Tuple) : Nat := t.attributes.length

/-- Two tuples side by side. -/
def merge (t u : Tuple) : Tuple := ⟨t.attributes ++ u.attributes⟩

/-- A tuple with one more attribute at its end. -/
def push (t : Tuple) (a : Attribute) : Tuple := ⟨t.attributes ++ [a]⟩

/-- A tuple as a line of a result shows it. -/
def render (t : Tuple) : String := ", ".intercalate (t.attributes.map (·.render))

/-- Tuples without the one at a place of the list, to which the last one goes. -/
def swapRemove (ts : List Tuple) (i : Nat) : List Tuple :=
  match ts.getLast? with
  | some last => (ts.set i last).dropLast
  | none => []

/-- Whether the tuples of one list can be found in another one and removed from it, one after the
    other, so that nothing is left in the end. -/
def usesUp : List Tuple → List Tuple → Bool
  | [], others => others.isEmpty
  | t :: rest, others =>
    match others.idxOf? t with
    | some i => usesUp rest (swapRemove others i)
    | none => false

/-- Whether two lists hold the same tuples, each as often, in any order. -/
def sameBag (ts others : List Tuple) : Bool :=
  ts.length == others.length && usesUp ts others

end Tuple

end CsvQuery
