import CsvQuery.CommandLine
import CsvQuery.Proofs.Clauses
import CsvQuery.Proofs.Failures
import CsvQuery.Proofs.Stored
import CsvQuery.Proofs.Utf8

/-!
# Query files of either kind

The file of a query holds either an SQL text or the stored form of a statement.
Over one database, an SQL text and the stored form of its statement have the
same outcome, as far as a stored form can be read at all: its arrays and
objects must not be nested too deep. SQL texts have no such limit, since long
sums and conjunctions are written without any brackets, but become statements
that are nested once for each operator.

* `decodeText_toUTF8`: the bytes of a text are read as that text.
* `Settings.answer_stored`: the outcome of a stored form, next to that of the SQL text.
* `Sample.longSum_answer`: an SQL text with an outcome whose stored form has none.
-/

namespace CsvQuery

/-- Two computations that go on from the same one are equal if they are so for what it gives. -/
theorem Run.bind_congr {α β : Type} {x : Run α} {f g : α → Run β}
    (h : ∀ a, x.result = .ok a → f a = g a) : x >>= f = x >>= g := by
  change ExceptT.mk (Logged.bind x.run (ExceptT.bindCont f)) =
    ExceptT.mk (Logged.bind x.run (ExceptT.bindCont g))
  cases hx : x.run.value with
  | error e => simp only [Logged.bind, hx, ExceptT.bindCont]
  | ok a => simp only [Logged.bind, hx, ExceptT.bindCont, h a hx]

/-- The bytes of a text are read as that text. -/
theorem decodeText_toUTF8 (s : String) : decodeText s.toUTF8 = .ok s := by
  rw [decodeText, Utf8.toList_toUTF8, Utf8.decode?_encode]
  simp

theorem Files.text_of_toUTF8 {files : Files} {path s : String} (h : files path = .ok s.toUTF8) :
    files.text path = .ok s := by
  rw [Files.text, h]
  exact decodeText_toUTF8 s

namespace Settings

variable {files : Files} {s s' : Settings} {k : Catalog} {text : String} {st : Statement}

/-- Settings that name the same folder load the same, if their query files stand for the same
    statement. -/
theorem load_congr (hfolder : s'.folder = s.folder)
    (hcatalog : (Catalog.load s.folder (files (Catalog.schemaPath s.folder))).result = .ok k)
    {text' : String} (htext : files.text s.query = .ok text)
    (htext' : files.text s'.query = .ok text')
    (h : s'.statement k text' = s.statement k text) : s'.load files = s.load files := by
  rw [load, load, hfolder]
  refine Run.bind_congr fun k' hk' => ?_
  obtain rfl : k = k' := Except.ok.inj (hcatalog.symm.trans hk')
  simp only [htext, htext', h]

/-- The outcome of a query file is that of its statement. -/
theorem result_answer
    (hcatalog : (Catalog.load s.folder (files (Catalog.schemaPath s.folder))).result = .ok k)
    (htext : files.text s.query = .ok text) :
    (s.answer files).result = s.statement k text >>= fun st => (st.answer k files).result := by
  rw [answer, Run.result_bind, load, Run.result_bind, hcatalog, htext]
  change (do let st ← ExceptT.mk (pure (s.statement k text)); pure (k, st) : Run _).result >>= _ = _
  cases s.statement k text <;> rfl

/-- If one query file holds an SQL text and another one the stored form of its statement, both are
    answered alike over the same database, provided that fewer than 128 arrays and objects are
    nested in each other in the stored form. Otherwise the stored form is rejected. -/
theorem answer_stored (hquery : Path.suffix? s.query ≠ some "json")
    (hquery' : Path.suffix? s'.query = some "json") (hfolder : s'.folder = s.folder)
    (hcatalog : (Catalog.load s.folder (files (Catalog.schemaPath s.folder))).result = .ok k)
    (htext : files.text s.query = .ok text) (hst : Statement.ofText k text = .ok st)
    (hstored : files s'.query = .ok st.render.toUTF8) :
    if st.toJson.depth < 128 then s'.answer files = s.answer files
    else ∃ e, (s'.answer files).result = .error e ∧ e.kind = .validation := by
  have htext' := Files.text_of_toUTF8 hstored
  have hs : s.statement k text = .ok st := by rw [statement, if_neg hquery, hst]
  have hs' : s'.statement k st.render = Statement.read st.render := by
    rw [statement, if_pos hquery']
  obtain ⟨hread, -⟩ := st.render_readsBack
  split
  · rename_i hdepth
    rw [if_pos hdepth] at hread
    have hload : s'.load files = s.load files :=
      load_congr hfolder hcatalog htext htext' (by rw [hs', hread, hs])
    rw [answer, answer, hload]
  · rename_i hdepth
    rw [if_neg hdepth] at hread
    obtain ⟨e, hread, hkind⟩ := hread
    refine ⟨e, ?_, hkind⟩
    rw [← hfolder] at hcatalog
    rw [result_answer hcatalog htext', hs', hread]
    rfl

end Settings

namespace Sample

/-- A folder with the database, and beside it an SQL text and the stored form of a statement. -/
def queryFiles (text : String) (s : Statement) : Files := fun path =>
  if path = "db/schema.txt" then .ok "R a b\nS a c\n".toUTF8
  else if path = "q.sql" then .ok text.toUTF8
  else if path = "q.json" then .ok s.render.toUTF8
  else files path

/-- A run of the SQL text. -/
def fromText : Settings := ⟨"db", "q.sql", "out.txt"⟩

/-- A run of the stored form. -/
def fromStored : Settings := ⟨"db", "q.json", "out.txt"⟩

section
variable (text : String) (s : Statement)

theorem catalog_queryFiles :
    (Catalog.load "db" (queryFiles text s (Catalog.schemaPath "db"))).result = .ok catalog := by
  rw [queryFiles, if_pos (by decide +kernel)]
  decide +kernel

theorem text_fromText : (queryFiles text s).text fromText.query = .ok text :=
  Files.text_of_toUTF8 (by rw [queryFiles, if_neg (by decide), if_pos (by decide)])

theorem queryFiles_fromStored : queryFiles text s fromStored.query = .ok s.render.toUTF8 := by
  rw [queryFiles, if_neg (by decide), if_neg (by decide), if_pos (by decide)]

end

/-- A query with groups has the same outcome in either form. -/
theorem inOrder_answer_stored :
    let text := "SELECT c, SUM(b) FROM S, R WHERE c > 1 GROUP BY c ORDER BY c"
    Path.suffix? fromText.query ≠ some "json" ∧ Path.suffix? fromStored.query = some "json" ∧
    fromStored.folder = fromText.folder ∧
    Statement.ofText catalog text = .ok inOrder ∧ inOrder.toJson.depth < 128 ∧
    fromStored.answer (queryFiles text inOrder) = fromText.answer (queryFiles text inOrder) := by
  intro text
  have hquery : Path.suffix? fromText.query ≠ some "json" := by decide
  have hquery' : Path.suffix? fromStored.query = some "json" := by decide
  have htext : Statement.ofText catalog text = .ok inOrder := by decide +kernel
  have hdepth : inOrder.toJson.depth < 128 := by decide +kernel
  have h := Settings.answer_stored hquery hquery' rfl (catalog_queryFiles text inOrder)
    (text_fromText text inOrder) htext (queryFiles_fromStored text inOrder)
  rw [if_pos hdepth] at h
  exact ⟨hquery, hquery', rfl, htext, hdepth, h⟩

/-- The sum of a one and as many others as the number says. -/
def ones : Nat → Expr
  | 0 => .literal (.int 1)
  | n + 1 => .arithmetic (ones n) .add (ones 0)

/-- `SELECT * FROM R WHERE a = 1+1+⋯+1`. -/
def longSum (n : Nat) : Statement :=
  { allOfR with selection := some (.compare (.column ⟨some "R", "a"⟩) .equal (ones n)) }

/-- The text of that statement. -/
def longSumText (n : Nat) : String :=
  "SELECT * FROM R WHERE a = " ++ "+".intercalate (List.replicate (n + 1) "1")

theorem depth_ones (n : Nat) : (ones n).toJson.depth = 2 * n + 2 := by
  have hzero : (ones 0).toJson.depth = 2 := by rw [ones, Expr.depth_literal]
  induction n with
  | zero => exact hzero
  | succ n ih =>
    rw [ones, Expr.depth_arithmetic, ih, hzero]
    omega

theorem depth_longSum (n : Nat) : (longSum n).toJson.depth = 2 * n + 5 := by
  have hlist : (Json.array []).depth = 1 := Json.depth_array []
  have hall : Projection.all.toJson.depth = 0 := rfl
  have hselection : (Json.ofOption Expr.toJson (longSum n).selection).depth = 2 * n + 4 := by
    change (Expr.compare _ _ _).toJson.depth = _
    rw [Expr.depth_compare, Expr.depth_column, depth_ones]
    omega
  rw [Statement.depth_toJson, hselection]
  simp only [longSum, allOfR, List.map_nil, hlist, hall]
  omega

theorem ofText_longSum : Statement.ofText catalog (longSumText 62) = .ok (longSum 62) := by
  decide +kernel

/-- A sum of 63 ones is no obstacle for an SQL text, but its stored form cannot be read. -/
theorem longSum_answer :
    Statement.ofText catalog (longSumText 62) = .ok (longSum 62) ∧
    (∃ outcome,
      (fromText.answer (queryFiles (longSumText 62) (longSum 62))).result = .ok outcome) ∧
    (fromStored.answer (queryFiles (longSumText 62) (longSum 62))).result =
      .error .statementGarbled := by
  have hcatalog := catalog_queryFiles (longSumText 62) (longSum 62)
  have hstored := Files.text_of_toUTF8 (queryFiles_fromStored (longSumText 62) (longSum 62))
  refine ⟨ofText_longSum, ?_, ?_⟩
  · rw [Settings.result_answer (s := fromText) hcatalog (text_fromText _ _), Settings.statement,
      if_neg (by decide), ofText_longSum]
    refine ((longSum 62).decides_answer catalog _).ok_iff.2 ⟨fun name hname => ?_, nofun⟩
    obtain rfl : name = "R" := List.mem_singleton.1 hname
    exact Catalog.isSound_iff.1 (by decide +kernel)
  · have hdepth : ¬(longSum 62).toJson.depth ≤ maxDepth := by
      rw [depth_longSum]
      decide
    rw [Settings.result_answer (s := fromStored) hcatalog hstored, Settings.statement,
      if_pos (by decide), Statement.read_render, if_neg hdepth]
    rfl

end Sample

end CsvQuery
