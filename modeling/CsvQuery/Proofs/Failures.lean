import CsvQuery.Proofs.Coverage
import CsvQuery.Proofs.Decimal
import CsvQuery.Proofs.Utf8

/-!
# When a statement has an outcome

A statement has an outcome unless something is wrong with the data or with one
of its sums: each of its tables must be in the catalog and have a data file all
of whose rows are well formed, and sums can be taken only of integers, columns
and products of such. Nothing that a plan does on the way can fail in any other
way, and nothing is overlooked because a plan need not read it: the statistics
of all tables are taken first, from all of their rows.

* `Decides`: what it means that a computation fails only for want of a condition.
* `HoldsValue`, `Table.IsRow`, `Catalog.IsWellFormed`: fields with a value, well formed rows and
  tables.
* `Table.decides_tuple`, `Statistics.decides_addTables`: what can go wrong with a row and with
  tables.
* `Statement.result_answer_iff`: when a statement has an outcome.
-/

namespace CsvQuery

/-! ## Computations that fail for want of a condition -/

/-- Whether a failure of a kind can be due to the data files or to what a query computes of them. -/
def ErrorKind.isFatal : ErrorKind → Bool
  | access | schema | value | expression => true
  | lookup | validation => false

/-- A computation succeeds if and only if `good` holds, and fails with fatal failures only. -/
structure Decides {α : Type} (x : Except QueryError α) (good : Prop) : Prop where
  ok_iff : (∃ a, x = .ok a) ↔ good
  fatal : ∀ e, x = .error e → e.kind.isFatal = true

namespace Decides

variable {α β : Type} {x : Except QueryError α} {good good' : Prop}

theorem ok (a : α) : Decides (.ok a) True := ⟨⟨fun _ => trivial, fun _ => ⟨a, rfl⟩⟩, nofun⟩

theorem error {e : QueryError} (h : e.kind.isFatal = true) :
    Decides (.error e : Except QueryError α) False :=
  ⟨⟨nofun, nofun⟩, fun _ he => Except.error.inj he ▸ h⟩

theorem congr (h : Decides x good) (hgood : good ↔ good') : Decides x good' :=
  ⟨h.ok_iff.trans hgood, h.fatal⟩

/-- Two computations in a row succeed if the conditions of both hold. -/
theorem bind (h : Decides x good) {f : α → Except QueryError β}
    (hf : ∀ a, x = .ok a → Decides (f a) good') : Decides (x >>= f) (good ∧ good') := by
  cases x with
  | error e =>
    have hnot : ¬good := fun hgood => nomatch h.ok_iff.2 hgood
    exact (error (h.fatal e rfl)).congr ⟨nofun, fun hboth => hnot hboth.1⟩
  | ok a =>
    have hgood : good := h.ok_iff.1 ⟨a, rfl⟩
    exact (hf a rfl).congr (by simp [hgood])

theorem map (h : Decides x good) (f : α → β) : Decides (x.map f) good := by
  cases x with
  | error e =>
    exact (error (h.fatal e rfl)).congr ⟨False.elim, fun hgood => nomatch h.ok_iff.2 hgood⟩
  | ok a => exact (ok (f a)).congr (by simp [← h.ok_iff])

theorem mapM {f : α → Except QueryError β} {P : α → Prop} (h : ∀ a, Decides (f a) (P a))
    (xs : List α) : Decides (xs.mapM f) (∀ a ∈ xs, P a) := by
  induction xs with
  | nil => exact (ok []).congr (by simp)
  | cons a xs ih =>
    rw [List.mapM_cons]
    exact ((h a).bind fun b _ => ih.map (b :: ·)).congr List.forall_mem_cons.symm

end Decides

/-! ## Rows -/

/-- Some bytes are a field that holds a value: the UTF-8 form of a text that, without the blank
    characters around it, spells the value. -/
def HoldsValue (field : List UInt8) (v : Int32) : Prop :=
  ∃ text, field = Utf8.encode text ∧ Decimal.Spells (trim text) v.toInt

theorem holdsValue_iff {field : List UInt8} {v : Int32} : HoldsValue field v ↔
    ∃ text, fieldText? field = some text ∧ Decimal.word? text.toList = some v := by
  simp only [HoldsValue, fieldText?, Option.map_eq_some_iff, Utf8.decode?_eq_some,
    Decimal.word?_eq_some]
  constructor
  · rintro ⟨s, hs, hv⟩
    exact ⟨String.ofList (trim s), ⟨s, hs, rfl⟩, by rwa [String.toList_ofList]⟩
  · rintro ⟨_, ⟨s, hs, rfl⟩, hv⟩
    exact ⟨s, hs, by rwa [String.toList_ofList] at hv⟩

/-- Some bytes are a field with an integer: they hold some value. -/
def IsIntegerField (field : List UInt8) : Prop := ∃ v, HoldsValue field v

/-- The fields of a row of a table: one integer for each column. -/
structure Table.IsRow (t : Table) (fields : List (List UInt8)) : Prop where
  length : fields.length = t.columns.length
  integers : ∀ field ∈ fields, IsIntegerField field

theorem isIntegerField_iff {field : List UInt8} : IsIntegerField field ↔
    ∃ text, fieldText? field = some text ∧ ∃ v, Decimal.word? text.toList = some v := by
  calc IsIntegerField field
    _ ↔ ∃ v text, fieldText? field = some text ∧ Decimal.word? text.toList = some v :=
      exists_congr fun _ => holdsValue_iff
    _ ↔ ∃ text, fieldText? field = some text ∧ ∃ v, Decimal.word? text.toList = some v := by
      rw [exists_comm]
      simp only [exists_and_left]

section
variable {α β : Type} {f : α → Option β} {xs : List α}

theorem mapM_eq_some {ys : List β} : xs.mapM f = some ys ↔ xs.map f = ys.map some := by
  induction xs generalizing ys with
  | nil => cases ys <;> simp
  | cons x xs ih => cases ys <;> simp [Option.bind_eq_some_iff, ih]

theorem mapM_eq_none : xs.mapM f = none ↔ ∃ x ∈ xs, f x = none := by
  induction xs with
  | nil => simp
  | cons x xs ih =>
    rw [List.mapM_cons, List.exists_mem_cons_iff, ← ih]
    cases f x <;> cases xs.mapM f <;> simp

end

/-- A table of the catalog with a data file all of whose rows are well formed. -/
def Catalog.IsWellFormed (k : Catalog) (files : Files) (name : String) : Prop :=
  ∃ t bytes, k.find? name = some t ∧ files t.path = .ok bytes ∧
    ∀ fields ∈ split bytes.data.toList, t.IsRow fields

namespace Table

theorem decides_values (t : Table) (cells : List (String × String)) :
    Decides (t.values cells) (∀ cell ∈ cells, ∃ v, Decimal.word? cell.2.toList = some v) := by
  induction cells with
  | nil => exact (Decides.ok []).congr (by simp)
  | cons cell cells ih =>
    rw [List.forall_mem_cons, values]
    cases h : Decimal.word? cell.2.toList with
    | none => exact (Decides.error rfl).congr (by simp)
    | some v => exact (ih.map (v :: ·)).congr (by simp)

/-- The fields of a row are well formed if their texts are. -/
theorem isRow_iff {t : Table} {fields : List (List UInt8)} {texts : List String}
    (h : fields.mapM fieldText? = some texts) : t.IsRow fields ↔
      texts.length = t.columns.length ∧
        ∀ text ∈ texts, ∃ v, Decimal.word? text.toList = some v := by
  rw [mapM_eq_some] at h
  have hlength : fields.length = texts.length := by simpa using congrArg List.length h
  have hintegers : (∀ field ∈ fields, IsIntegerField field) ↔
      ∀ text ∈ texts, ∃ v, Decimal.word? text.toList = some v := by
    simp only [isIntegerField_iff]
    rw [← List.forall_mem_map (f := fieldText?)
      (P := fun o => ∃ text, o = some text ∧ ∃ v, Decimal.word? text.toList = some v), h]
    simp
  rw [← hlength, ← hintegers]
  exact ⟨fun hrow => ⟨hrow.length, hrow.integers⟩, fun hrow => ⟨hrow.1, hrow.2⟩⟩

/-- What is read of the fields of a row is there if they are well formed. -/
theorem decides_tuple (t : Table) (fields : List (List UInt8)) :
    Decides (t.tuple (.ofFields fields)) (t.IsRow fields) := by
  cases h : fields.mapM fieldText? with
  | none =>
    obtain ⟨field, hfield, htext⟩ := mapM_eq_none.1 h
    rw [Record.ofFields, h]
    refine (Decides.error rfl).congr ⟨False.elim, fun hrow => ?_⟩
    obtain ⟨text, hsome, _⟩ := isIntegerField_iff.1 (hrow.integers field hfield)
    exact nomatch htext.symm.trans hsome
  | some texts =>
    rw [Record.ofFields, h, tuple]
    split
    · rename_i hlength
      have hcells := List.forall_mem_map (f := Prod.snd) (l := t.columns.zip texts)
        (P := fun text : String => ∃ v, Decimal.word? text.toList = some v)
      rw [List.map_snd_zip hlength.le] at hcells
      refine ((t.decides_values _).map _).congr ?_
      rw [isRow_iff h, ← hcells]
      exact (and_iff_right hlength).symm
    · rename_i hlength
      exact (Decides.error rfl).congr
        ⟨False.elim, fun hrow => hlength ((isRow_iff h).1 hrow).1⟩

end Table

/-! ## Tables -/

theorem Catalog.isSound_iff {k : Catalog} {files : Files} {name : String} :
    k.IsSound files name ↔ k.IsWellFormed files name := by
  simp only [IsSound, Table.IsSound, IsWellFormed, records, List.forall_mem_map,
    (Table.decides_tuple _ _).ok_iff, exists_and_left]

section
variable {σ : Type} {c : Cursor σ} {files : Files} {s s' : σ} {note : Tuple → List Notice}
  {ns : List Notice}

/-- Pulling all tuples goes on behind a tuple. -/
theorem Cursor.result_collect_some {t : Tuple} (h : c.next files s = ⟨.ok (some t), s', ns⟩) :
    (c.collect note files s).result = (c.collect note files s').result.map (t :: ·) := by
  rw [Cursor.collect]
  split <;> simp_all

/-- Pulling all tuples ends at a failure. -/
theorem Cursor.result_collect_error {e : QueryError} (h : c.next files s = ⟨.error e, s', ns⟩) :
    (c.collect note files s).result = .error e := by
  rw [Cursor.collect]
  split <;> simp_all

end

namespace Scan

variable {k : Catalog} {files : Files} {name : String}

/-- Pulling all rows of a scan reads its records one by one. -/
theorem result_drain (t : Table) (files : Files) (rs : List Record) :
    (cursor.drain files ⟨t, .ok rs⟩).result = rs.mapM t.tuple := by
  induction rs with
  | nil =>
    rw [Cursor.drain, Cursor.collect]
    rfl
  | cons r rs ih =>
    have hnext : cursor.next files ⟨t, .ok (r :: rs)⟩ =
        ⟨(t.tuple r).map some, ⟨t, .ok rs⟩, []⟩ := rfl
    rw [List.mapM_cons, ← ih, Cursor.drain]
    cases h : t.tuple r with
    | error e =>
      rw [h] at hnext
      rw [Cursor.result_collect_error hnext]
      rfl
    | ok u =>
      rw [h] at hnext
      rw [Cursor.result_collect_some hnext]
      rfl

/-- A table is opened by its name if it is in the catalog and something is where its data file
    should be. -/
theorem open_eq_ok {scan : Scan} : Scan.open k files name = .ok scan ↔
    ∃ t, k.find? name = some t ∧ openTable t files = .ok scan := by
  rw [Scan.open, Catalog.table]
  cases k.find? name with
  | none =>
    constructor
    · intro h
      cases h
    · rintro ⟨t, ht, -⟩
      cases ht
  | some t =>
    constructor
    · intro h
      exact ⟨t, rfl, h⟩
    · rintro ⟨t', ht, h⟩
      cases ht
      exact h

theorem decides_open (k : Catalog) (files : Files) (name : String) :
    Decides (Scan.open k files name) (∃ scan, Scan.open k files name = .ok scan) := by
  refine ⟨Iff.rfl, fun e he => ?_⟩
  rw [Scan.open, Catalog.table] at he
  cases hk : k.find? name with
  | none =>
    rw [hk] at he
    exact Except.error.inj he ▸ rfl
  | some t =>
    rw [hk] at he
    change openTable t files = _ at he
    rw [openTable] at he
    split at he <;> cases he
    rfl

/-- The rows of a table that has been opened can be read if they are well formed. -/
theorem decides_drain {scan : Scan} (h : Scan.open k files name = .ok scan) :
    Decides (cursor.drain files scan).result (k.IsWellFormed files name) := by
  obtain ⟨t, ht, hopen⟩ := open_eq_ok.1 h
  rw [openTable] at hopen
  cases hfile : files t.path with
  | ok bytes =>
    rw [hfile, rows] at hopen
    cases hopen
    rw [result_drain, records, List.mapM_map]
    refine (Decides.mapM (fun fields => t.decides_tuple fields) _).congr ?_
    simp [Catalog.IsWellFormed, ht, hfile]
  | error cause =>
    have hnot : ¬k.IsWellFormed files name := by
      simp [Catalog.IsWellFormed, ht, hfile]
    have hfolder : ∃ cause, scan = ⟨t, .error cause⟩ := by
      rw [hfile] at hopen
      cases cause <;> cases hopen
      exact ⟨_, rfl⟩
    obtain ⟨cause, rfl⟩ := hfolder
    rw [Cursor.drain, Cursor.result_collect_error (e := .rowsUnreadable cause) rfl]
    exact (Decides.error rfl).congr ⟨False.elim, hnot⟩

/-- A table with a data file can be opened, with all of its records left. -/
theorem open_of_ok {t : Table} {bytes : ByteArray} (ht : k.find? name = some t)
    (hfile : files t.path = .ok bytes) :
    Scan.open k files name = .ok ⟨t, .ok (records bytes)⟩ := by
  refine open_eq_ok.2 ⟨t, ht, ?_⟩
  rw [openTable, hfile]
  rfl

/-- A table that is well formed can be opened. -/
theorem exists_open (h : k.IsWellFormed files name) :
    ∃ scan, Scan.open k files name = .ok scan := by
  obtain ⟨t, bytes, ht, hfile, _⟩ := h
  exact ⟨_, open_of_ok ht hfile⟩

end Scan

/-! ## Statistics -/

namespace Statistics

variable {k : Catalog} {files : Files}

/-- Taking the statistics of a table reads all of its rows. -/
theorem decides_addTable (s : Statistics) (k : Catalog) (files : Files) (name : String) :
    Decides (s.addTable k files name).result (k.IsWellFormed files name) := by
  rw [addTable, Run.result_bind]
  refine ((Scan.decides_open k files name).bind fun scan hscan => ?_).congr
    (and_iff_right_of_imp Scan.exists_open)
  rw [Run.result_bind]
  refine ((Scan.decides_drain hscan).bind fun rows _ => ?_).congr (and_true _).to_iff
  split
  · exact .ok s
  · exact .ok (Statistics.mk (ofRows scan.table rows ++ s.columns))

theorem decides_addTables (s : Statistics) (k : Catalog) (files : Files) (names : List String) :
    Decides (s.addTables k files names).result (∀ name ∈ names, k.IsWellFormed files name) := by
  induction names generalizing s with
  | nil => exact (Decides.ok s).congr (by simp)
  | cons name names ih =>
    rw [addTables, Run.result_bind, List.forall_mem_cons]
    exact (s.decides_addTable k files name).bind fun stats _ => ih stats

end Statistics

/-! ## Sums -/

/-- An expression that sums can be taken of: an integer, a column, or a product of such. -/
inductive Expr.IsSummable : Expr → Prop
  | literal (n : Int32) : IsSummable (.literal (.int n))
  | column (c : ColumnRef) : IsSummable (.column c)
  | product {l r : Expr} (hl : IsSummable l) (hr : IsSummable r) :
    IsSummable (.arithmetic l .multiply r)

theorem Expr.unsummable?_eq_none {e : Expr} : e.unsummable? = none ↔ e.IsSummable := by
  constructor
  · intro h
    induction e with
    | literal v => cases v with
      | int n => exact .literal n
      | text s => cases h
    | column c => exact .column c
    | arithmetic l op r ihl ihr =>
      cases op with
      | multiply =>
        rw [unsummable?, Option.or_eq_none_iff] at h
        exact .product (ihl h.1) (ihr h.2)
      | _ => cases h
    | compare => cases h
    | and => cases h
  · intro h
    induction h with
    | literal n => rfl
    | column c => rfl
    | product hl hr ihl ihr => rw [unsummable?, ihl, ihr, Option.none_or]

theorem SumCall.decides_check (sums : List SumCall) :
    Decides (SumCall.check sums) (∀ call ∈ sums, call.argument.IsSummable) := by
  induction sums with
  | nil => exact (Decides.ok ()).congr (by simp)
  | cons call sums ih =>
    rw [check, List.forall_mem_cons, ← Expr.unsummable?_eq_none]
    cases h : call.argument.unsummable? with
    | none => exact ih.congr (by simp)
    | some e => exact (Decides.error rfl).congr (by simp)

/-! ## Statements -/

namespace Statement

variable {k : Catalog} {files : Files}

/-- A statement is answered with fresh statistics of its tables. -/
theorem result_answer (k : Catalog) (files : Files) (s : Statement) :
    (s.answer k files).result = (Statistics.build k files s.tables).result >>= fun stats =>
      (s.answerWith k files stats).result := by
  rw [answer, Run.result_bind, Statement.open, Run.result_bind]
  cases (Statistics.build k files s.tables).result with
  | error e => rfl
  | ok stats =>
    exact (Run.result_bind (Opened.ofPlan k files (s.plan stats).value) _).symm

theorem decides_answer (k : Catalog) (files : Files) (s : Statement) :
    Decides (s.answer k files).result ((∀ name ∈ s.tables, k.IsWellFormed files name) ∧
      ∀ call ∈ s.sums, call.argument.IsSummable) := by
  rw [result_answer]
  refine (Statistics.decides_addTables .empty k files s.tables).bind fun stats hstats => ?_
  -- The statistics are there, so all tables are well formed, and only the sums can fail.
  have hform := (Statistics.decides_addTables .empty k files s.tables).ok_iff.1 ⟨stats, hstats⟩
  rw [result_answerWith,
    result_plan stats fun name hname => Catalog.isSound_iff.2 (hform name hname)]
  exact ((SumCall.decides_check s.sums).map _).map _

/-- A statement has an outcome if and only if each of its tables is in the catalog and has a data
    file all of whose rows are well formed, and the sums among its items are of integers, columns
    and products of such. Otherwise, what fails is the access to a file, the schema, the value of
    a field or an expression. -/
theorem result_answer_iff (k : Catalog) (files : Files) (s : Statement) :
    ((∃ outcome, (s.answer k files).result = .ok outcome) ↔
      (∀ name ∈ s.tables, k.IsWellFormed files name) ∧
        ∀ call, .sum call ∈ s.projection.items → call.argument.IsSummable) ∧
    ∀ e, (s.answer k files).result = .error e →
      e.kind ∈ [.access, .schema, .value, .expression] := by
  have h := s.decides_answer k files
  simp only [← mem_sums]
  refine ⟨h.ok_iff, fun e he => ?_⟩
  have hfatal := h.fatal e he
  revert hfatal
  cases e.kind <;> decide

end Statement

namespace Sample

/-- Data files where `R` has no rows, and a row of `S` has a field that is no integer. -/
def spoiledFiles : Files := fun path =>
  if path = "db/data/R.csv" then .ok "".toUTF8
  else if path = "db/data/S.csv" then .ok "3,5\n1,x\n".toUTF8
  else .error .missing

/-- A statement has an outcome over some files, and has none where a row is spoiled, although no
    plan would have to pull that row. -/
theorem spoiled_result_answer :
    (∃ outcome, (everywhere.answer catalog files).result = .ok outcome) ∧
    catalog.rows spoiledFiles everywhere.base = [] ∧
    ∃ e, (everywhere.answer catalog spoiledFiles).result = .error e ∧
      e.kind ∈ [.access, .schema, .value, .expression] := by
  have hsums : ∀ call, .sum call ∈ everywhere.projection.items → call.argument.IsSummable := by
    intro call hcall
    simp only [everywhere, Projection.items, List.mem_cons, reduceCtorEq, SelectItem.sum.injEq,
      List.not_mem_nil, or_false, false_or] at hcall
    rw [hcall]
    exact .product (.column _) (.column _)
  have hspoiled : ¬catalog.IsWellFormed spoiledFiles "S" := by
    rw [← Catalog.isSound_iff]
    decide
  refine ⟨?_, by decide +kernel, ?_⟩
  · refine (Statement.result_answer_iff catalog files everywhere).1.2 ⟨fun name hname => ?_, hsums⟩
    exact Catalog.isSound_iff.1 (isSound name hname)
  · obtain ⟨hiff, hkind⟩ := Statement.result_answer_iff catalog spoiledFiles everywhere
    cases h : (everywhere.answer catalog spoiledFiles).result with
    | ok outcome => exact absurd ((hiff.1 ⟨outcome, h⟩).1 "S" (by decide)) hspoiled
    | error e => exact ⟨e, rfl, hkind e h⟩

end Sample

end CsvQuery
