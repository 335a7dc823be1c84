import CsvQuery.Catalog
import CsvQuery.Cursor
import CsvQuery.Records

/-!
# The rows of a table

A scan hands out the rows of the data file of a table, as it was when the scan opened it. A row
that is malformed is a failure, after which the scan goes on with the row behind it. What can be
opened but not read is a failure, after which the scan is at its end.

* `Table.tuple`: the tuple of a record, or what is wrong with it.
* `Scan.open`, `Scan.cursor`: the cursor over the rows of a table.
-/

namespace CsvQuery

/-- The values of some fields, each named by its column. -/
def Table.values (t : Table) : List (String × String) → Except QueryError (List Int32)
  | [] => .ok []
  | (column, field) :: rest =>
    match Decimal.word? field.toList with
    | some v => (t.values rest).map (v :: ·)
    | none => .error (.notInteger t.name column field)

/-- The tuple of a record of a table. -/
def Table.tuple (t : Table) : Record → Except QueryError Tuple
  | .garbled => .error .rowGarbled
  | .fields texts =>
    if texts.length = t.columns.length then
      (t.values (t.columns.zip texts)).map (Tuple.ofRow t.name t.columns)
    else .error (.fieldCount t.name t.columns.length texts)

/-- A table and what is left of its rows. -/
structure Scan where
  table : Table
  /-- The records not handed out yet, unless what was opened has no rows to read. -/
  rest : Except AccessFailure (List Record)

namespace Scan

/-- The rows found at a path. A folder can be opened but has no rows to read. -/
def rows : Except AccessFailure ByteArray →
    Except AccessFailure (Except AccessFailure (List Record))
  | .ok bytes => .ok (.ok (records bytes))
  | .error .isFolder => .ok (.error .isFolder)
  | .error cause => .error cause

/-- A scan of a table, from its first row. -/
def openTable (table : Table) (files : Files) : Except QueryError Scan :=
  match rows (files table.path) with
  | .ok rest => .ok ⟨table, rest⟩
  | .error cause => .error (.tableUnreadable table.path cause)

/-- A scan of the table of a name. -/
def «open» (catalog : Catalog) (files : Files) (name : String) : Except QueryError Scan := do
  openTable (← catalog.table name) files

/-- The tuple of the next row. -/
def next (_ : Files) (s : Scan) : Reply (Option Tuple) Scan :=
  match s.rest with
  | .error cause => ⟨.error (.rowsUnreadable cause), { s with rest := .ok [] }, []⟩
  | .ok [] => ⟨.ok none, s, []⟩
  | .ok (r :: rest) => ⟨(s.table.tuple r).map some, { s with rest := .ok rest }, []⟩

/-- Opens the table again, as it is now. If that fails, the scan is where it was. -/
def reset (files : Files) (s : Scan) : Reply Unit Scan :=
  match openTable s.table files with
  | .ok s' => ⟨.ok (), s', []⟩
  | .error e => ⟨.error e, s, []⟩

/-- The records not handed out yet. -/
def left (s : Scan) : List Record :=
  match s.rest with
  | .ok rest => rest
  | .error _ => []

theorem length_next {files : Files} {s : Scan} {t : Tuple}
    (h : (next files s).result = .ok (some t)) :
    (next files s).state.left.length < s.left.length := by
  unfold next at *
  split at h <;> simp_all [left]

/-- The cursor over the rows of a table. -/
def cursor : Cursor Scan where
  next := next
  reset := reset
  ends := Cursor.ends_of_length left length_next

end Scan

end CsvQuery
