import CsvQuery.Cursor.Aggregate
import CsvQuery.Cursor.Scan

/-!
# Statistics of tables

* `ColumnStatistics.of?`: what is counted about the values of a column.
* `Statistics.build`: the statistics of some tables, from their rows.
* `Statistics.column?`: the statistics of a column.
-/

namespace CsvQuery

/-- What is counted about the values of a column. -/
structure ColumnStatistics where
  least : Int32
  greatest : Int32
  /-- How many different values there are. -/
  distinct : Nat
  /-- How many values there are. -/
  count : Nat
  deriving DecidableEq, Repr

/-- The statistics of some values. There are none of no value. -/
def ColumnStatistics.of? : List Int32 → Option ColumnStatistics
  | [] => none
  | v :: rest =>
    some ⟨rest.foldl min v, rest.foldl max v, (Aggregate.firstOccurrences (v :: rest)).length,
      rest.length + 1⟩

/-- The statistics of the columns of tables, each named by its table and its name. -/
structure Statistics where
  columns : List (ColumnRef × ColumnStatistics)
  deriving DecidableEq, Repr

namespace Statistics

/-- No statistics. -/
def empty : Statistics := ⟨[]⟩

/-- The statistics of a column, if there are any. -/
def column? (s : Statistics) (c : ColumnRef) : Option ColumnStatistics :=
  (s.columns.find? (·.1 == c)).map (·.2)

/-- The statistics of the columns of a table with some rows. -/
def ofRows (t : Table) (rows : List Tuple) : List (ColumnRef × ColumnStatistics) :=
  t.columns.filterMap fun column =>
    let c : ColumnRef := ⟨some t.name, column⟩
    (ColumnStatistics.of? (rows.filterMap (·.lookup c))).map (c, ·)

/-- Statistics with those of one more table, from its rows. A table without rows has none. -/
def addTable (s : Statistics) (catalog : Catalog) (files : Files) (name : String) :
    Run Statistics := do
  let scan ← ExceptT.mk (pure (Scan.open catalog files name))
  let rows ← (Scan.cursor.drain files scan).run
  if rows.isEmpty then return s
  Run.tell [.statisticsComputed name rows.length]
  return ⟨ofRows scan.table rows ++ s.columns⟩

/-- Statistics with those of some more tables. -/
def addTables (s : Statistics) (catalog : Catalog) (files : Files) :
    List String → Run Statistics
  | [] => return s
  | name :: rest => do (← s.addTable catalog files name).addTables catalog files rest

/-- The statistics of some tables. -/
def build (catalog : Catalog) (files : Files) (tables : List String) : Run Statistics :=
  empty.addTables catalog files tables

end Statistics

end CsvQuery
