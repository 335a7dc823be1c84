import CsvQuery.Proofs.JsonText
import CsvQuery.Statement.Codec
import Mathlib.Logic.Basic
import Mathlib.Logic.Function.Defs

/-!
# Stored statements are read back

The text of a statement is read as that statement, whatever its names and texts
are, unless its arrays and objects are nested too deep; then nothing is read of
it. Every expression opens two brackets, one for itself and one for its parts, and
so all that matters where an expression is read is how many brackets may still be
opened there (`Expr.ofJson?_reread`).

* `Expr.ofJson?_reread`, `Statement.ofJson?_reread`: what is read of a stored form.
* `Statement.isPlain_toJson`: stored forms are plain, and so their texts are read as they are meant.
* `Statement.render_readsBack`: what is read of the text of a statement.
-/

namespace CsvQuery

/-! ## Stored forms as they are read -/

namespace Json

@[simp] theorem string?_ofString (s : String) : (ofString s).reread.string? = some s := by
  rw [reread_ofString, string?, text?_textPieces]

@[simp] theorem variant?_ofString (s : String) : (ofString s).reread.variant? = some (s, none) := by
  rw [reread_ofString, variant?, text?_textPieces]
  rfl

@[simp] theorem variant?_ofFields (name : String) (j : Json) :
    (ofFields [(name, j)]).reread.variant? = some (name, some j.reread) := by
  rw [reread_ofFields, List.map_singleton, rereadField, variant?, text?_textPieces]
  rfl

@[simp] theorem plainVariant?_ofString (s : String) :
    (ofString s).reread.plainVariant? = some s := by
  rw [plainVariant?, variant?_ofString]

/-- Zero is written without a sign. -/
theorem write_ne_minusZero (n : Int) : Decimal.write n ≠ ['-', '0'] := by
  intro h
  have hread := Decimal.read?_eq_some.2 (Decimal.spells_write n)
  rw [h] at hread
  obtain rfl : 0 = n := Option.some.inj hread
  cases h

@[simp] theorem int32?_ofInt (v : Int32) : (ofInt v.toInt).reread.int32? = some v := by
  change int32? (number (Decimal.write v.toInt)) = _
  -- What is left is that the text is not the one that stands for no integer.
  rw [int32?, Decimal.word?_write]
  exact write_ne_minusZero v.toInt

theorem reread_array (items : List Json) : (array items).reread = array (items.map reread) := by
  rw [reread, rereadItems_eq_map]

@[simp] theorem items?_array (items : List Json) :
    (array items).reread.items? = some (items.map reread) := by
  rw [reread_array, items?]

/-- The fields of a record are found by their names. -/
@[simp] theorem fields?_ofFields (names : List String) (least : Nat)
    (fields : List (String × Json)) :
    (ofFields fields).reread.fields? names least =
      names.mapM (valueOf? (fields.map fun f => (f.1, f.2.reread))) := by
  have hnames : (fields.map rereadField).mapM (fun f => (text? f.1).map (·, f.2)) =
      some (fields.map fun f => (f.1, f.2.reread)) := by
    induction fields with
    | nil => rfl
    | cons f fields ih =>
      rw [List.map_cons, List.mapM_cons, ih]
      simp [rereadField]
  rw [reread_ofFields, fields?, hnames]
  rfl

end Json

theorem Value.ofJson?_reread (v : Value) : Value.ofJson? v.toJson.reread = some v := by
  cases v <;> simp [Value.ofJson?, Value.toJson]

theorem ColumnRef.ofJson?_reread (c : ColumnRef) : ColumnRef.ofJson? c.toJson.reread = some c := by
  have htable : (Json.ofOption Json.ofString c.table).reread.optional? Json.string? =
      some c.table := by
    cases c.table with
    | none => rfl
    | some s => exact congrArg (Option.map some) (Json.string?_ofString s)
  simp [ColumnRef.ofJson?, ColumnRef.toJson, Json.valueOf?, Json.valuesOf, htable]

theorem operation?_reread (l r : Json) (op : String) :
    operation? (Json.ofFields [("left", l), ("op", .ofString op), ("right", r)]).reread =
      some (l.reread, op, r.reread) := by
  simp [operation?, Json.valueOf?, Json.valuesOf]

@[simp] theorem Comparison.ofKey?_key (op : Comparison) : Comparison.ofKey? op.key = some op := by
  cases op <;> rfl

@[simp] theorem Arithmetic.ofKey?_key (op : Arithmetic) : Arithmetic.ofKey? op.key = some op := by
  cases op <;> rfl

namespace Json

/-! ## Depth -/

@[simp] theorem depth_ofString (s : String) : (ofString s).depth = 0 := rfl
@[simp] theorem depth_ofInt (n : Int) : (ofInt n).depth = 0 := rfl

@[simp] theorem depth_array (items : List Json) :
    (array items).depth = items.foldr (fun j d => max j.depth d) 0 + 1 := by
  have hitems : itemsDepth items = items.foldr (fun j d => max j.depth d) 0 := by
    induction items with
    | nil => rfl
    | cons j items ih => rw [itemsDepth, ih, List.foldr_cons]
  rw [depth, hitems]

@[simp] theorem depth_ofFields (fields : List (String × Json)) :
    (ofFields fields).depth = fields.foldr (fun f d => max f.2.depth d) 0 + 1 := by
  have hfields : fieldsDepth (fields.map fun f => (f.1.toList.map .char, f.2)) =
      fields.foldr (fun f d => max f.2.depth d) 0 := by
    induction fields with
    | nil => rfl
    | cons f fields ih => rw [List.map_cons, fieldsDepth, ih, List.foldr_cons]
  rw [ofFields_eq, depth, hfields]

end Json

/-- What is read under a condition goes on under that condition. -/
theorem bind_ite_none {α β : Type} {p : Prop} [Decidable p] (a : α) (f : α → Option β) :
    (if p then some a else none).bind f = if p then f a else none := by
  rw [apply_ite (Option.bind · f)]
  rfl

theorem Value.depth_toJson (v : Value) : v.toJson.depth = 1 := by
  cases v <;> simp [toJson]

theorem ColumnRef.depth_toJson (c : ColumnRef) : c.toJson.depth = 1 := by
  cases h : c.table <;> simp [toJson, h, Json.ofOption, Json.depth]

namespace Expr

theorem depth_literal (v : Value) : (literal v).toJson.depth = 2 := by
  simp [toJson, Value.depth_toJson]

theorem depth_column (c : ColumnRef) : (column c).toJson.depth = 2 := by
  simp [toJson, ColumnRef.depth_toJson]

theorem depth_compare (l : Expr) (op : Comparison) (r : Expr) :
    (compare l op r).toJson.depth = max l.toJson.depth r.toJson.depth + 2 := by
  simp [toJson]

theorem depth_arithmetic (l : Expr) (op : Arithmetic) (r : Expr) :
    (arithmetic l op r).toJson.depth = max l.toJson.depth r.toJson.depth + 2 := by
  simp [toJson]

theorem depth_and (l r : Expr) :
    (and l r).toJson.depth = max l.toJson.depth r.toJson.depth + 2 := by
  simp [toJson]

theorem two_le_depth (e : Expr) : 2 ≤ e.toJson.depth := by
  cases e with
  | literal v => exact Nat.le_of_eq (depth_literal v).symm
  | column c => exact Nat.le_of_eq (depth_column c).symm
  | compare l op r => exact depth_compare l op r ▸ Nat.le_add_left 2 _
  | and l r => exact depth_and l r ▸ Nat.le_add_left 2 _
  | arithmetic l op r => exact depth_arithmetic l op r ▸ Nat.le_add_left 2 _

/-- Whether an expression is read back need only be known for depths that leave room for the
    brackets that every expression has. -/
theorem ofJson?_of_add_two {e : Expr} (h : ∀ depth, ofJson? (depth + 2) e.toJson.reread =
    if e.toJson.depth ≤ depth + 2 then some e else none) (depth : Nat) :
    ofJson? depth e.toJson.reread = if e.toJson.depth ≤ depth then some e else none := by
  have hdepth := e.two_le_depth
  match depth with
  | 0 => rw [ofJson?, if_neg (by omega)]; exact nofun
  | 1 => rw [ofJson?, if_neg (by omega)]; exact nofun
  | depth + 2 => exact h depth

/-- Two operands are read back if neither is nested too deep. -/
theorem bind_ite_depth {β : Type} {l r : Expr} {depth : Nat} (f : Expr → Expr → β) :
    ((if l.toJson.depth ≤ depth then some l else none).bind fun l =>
      (if r.toJson.depth ≤ depth then some r else none).bind fun r => some (f l r)) =
    if max l.toJson.depth r.toJson.depth + 2 ≤ depth + 2 then some (f l r) else none := by
  simp only [bind_ite_none, Nat.add_le_add_iff_right, Nat.max_le, ite_and]

theorem ofJson?_add_two (e : Expr) (depth : Nat) : ofJson? (depth + 2) e.toJson.reread =
    if e.toJson.depth ≤ depth + 2 then some e else none := by
  induction e generalizing depth with
  | literal v =>
    rw [depth_literal, if_pos (Nat.le_add_left 2 _)]
    simp [ofJson?, toJson, Value.ofJson?_reread]
  | column c =>
    rw [depth_column, if_pos (Nat.le_add_left 2 _)]
    simp [ofJson?, toJson, ColumnRef.ofJson?_reread]
  | compare l op r ihl ihr =>
    rw [depth_compare, ← bind_ite_depth (compare · op ·)]
    simp [ofJson?, toJson, operation?_reread, ofJson?_of_add_two ihl, ofJson?_of_add_two ihr]
  | and l r ihl ihr =>
    rw [depth_and, ← bind_ite_depth and]
    simp [ofJson?, toJson, Json.reread_array, ofJson?_of_add_two ihl, ofJson?_of_add_two ihr]
  | arithmetic l op r ihl ihr =>
    rw [depth_arithmetic, ← bind_ite_depth (arithmetic · op ·)]
    simp [ofJson?, toJson, operation?_reread, ofJson?_of_add_two ihl, ofJson?_of_add_two ihr]

/-- An expression is read back unless its stored form is nested too deep. -/
theorem ofJson?_reread (e : Expr) (depth : Nat) :
    ofJson? depth e.toJson.reread = if e.toJson.depth ≤ depth then some e else none :=
  ofJson?_of_add_two e.ofJson?_add_two depth

end Expr

/-! ## Clauses -/

/-- A list is read back unless one of its members is nested too deep. -/
theorem mapM_reread {α : Type} {f : Json → Option α} {g : α → Json} {limit : Nat}
    (h : ∀ a, f (g a).reread = if (g a).depth ≤ limit then some a else none) (as : List α) :
    as.mapM (f ∘ Json.reread ∘ g) =
      if (Json.array (as.map g)).depth ≤ limit + 1 then some as else none := by
  rw [Json.depth_array]
  simp only [Nat.add_le_add_iff_right]
  induction as with
  | nil => simp
  | cons a as ih =>
    simp only [List.map_cons, List.mapM_cons, List.foldr_cons, Nat.max_le, Function.comp_apply, h,
      ih, Option.bind_eq_bind, bind_ite_none, ite_and]
    rfl

theorem depth_columns (cs : List ColumnRef) : (Json.array (cs.map (·.toJson))).depth ≤ 2 := by
  rw [Json.depth_array]
  induction cs with
  | nil => simp
  | cons c cs ih =>
    rw [List.map_cons, List.foldr_cons, ColumnRef.depth_toJson]
    omega

/-- Columns are never nested too deep. -/
theorem mapM_columns (cs : List ColumnRef) :
    cs.mapM (ColumnRef.ofJson? ∘ Json.reread ∘ (·.toJson)) = some cs := by
  have hcolumn (c : ColumnRef) : ColumnRef.ofJson? c.toJson.reread =
      if c.toJson.depth ≤ 1 then some c else none := by
    rw [c.ofJson?_reread, if_pos (Nat.le_of_eq c.depth_toJson)]
  rw [mapM_reread hcolumn, if_pos (depth_columns cs)]

/-- An expression that may be absent is read back unless it is nested too deep. -/
theorem optional?_reread (e : Option Expr) (limit : Nat) :
    (Json.ofOption Expr.toJson e).reread.optional? (Expr.ofJson? limit) =
      if (Json.ofOption Expr.toJson e).depth ≤ limit then some e else none := by
  cases e with
  | none => rfl
  | some e =>
    have hsome : e.toJson.reread.optional? (Expr.ofJson? limit) =
        (Expr.ofJson? limit e.toJson.reread).map some := by
      cases e <;> rfl
    rw [Json.ofOption, hsome, Expr.ofJson?_reread, apply_ite (Option.map some)]
    rfl

theorem SumCall.ofJson?_reread (s : SumCall) (limit : Nat) :
    SumCall.ofJson? (limit + 1) s.toJson.reread =
      if s.toJson.depth ≤ limit + 1 then some s else none := by
  simp [SumCall.ofJson?, SumCall.toJson, Json.valueOf?, Json.valuesOf, Expr.ofJson?_reread,
    bind_ite_none]

theorem SelectItem.ofJson?_reread (item : SelectItem) (limit : Nat) :
    SelectItem.ofJson? (limit + 2) item.toJson.reread =
      if item.toJson.depth ≤ limit + 2 then some item else none := by
  cases item with
  | column c =>
    simp [SelectItem.ofJson?, SelectItem.toJson, ColumnRef.ofJson?_reread, ColumnRef.depth_toJson]
  | sum call => simp [SelectItem.ofJson?, SelectItem.toJson, SumCall.ofJson?_reread]

theorem Projection.ofJson?_reread (p : Projection) (limit : Nat) :
    Projection.ofJson? (limit + 4) p.toJson.reread =
      if p.toJson.depth ≤ limit + 4 then some p else none := by
  cases p with
  | all => simp [Projection.ofJson?, Projection.toJson]
  | list items =>
    have hitems := mapM_reread (g := (·.toJson)) (fun item => item.ofJson?_reread limit) items
    have hdepth : (list items).toJson.depth = (Json.array (items.map (·.toJson))).depth + 1 := by
      simp [toJson]
    rw [hdepth]
    simp only [Projection.ofJson?, Projection.toJson, Json.variant?_ofFields, Json.items?_array,
      Option.bind_eq_bind, Option.bind_some, List.mapM_map, Nat.add_le_add_iff_right]
    rw [Function.comp_assoc, Nat.add_sub_cancel (limit + 2) 2, hitems, bind_ite_none]
    rfl

theorem JoinClause.ofJson?_reread (j : JoinClause) (limit : Nat) :
    JoinClause.ofJson? (limit + 1) j.toJson.reread =
      if j.toJson.depth ≤ limit + 1 then some j else none := by
  simp [JoinClause.ofJson?, JoinClause.toJson, Json.valueOf?, Json.valuesOf, optional?_reread,
    bind_ite_none]

namespace Statement

theorem depth_toJson (s : Statement) :
    s.toJson.depth = max (Json.array (s.groupBy.map (·.toJson))).depth
      (max (Json.array (s.joins.map (·.toJson))).depth
        (max (Json.array (s.orderBy.map (·.toJson))).depth
          (max s.projection.toJson.depth (Json.ofOption Expr.toJson s.selection).depth))) + 1 := by
  have hdistinct : (Json.bool s.distinct).depth = 0 := rfl
  rw [toJson, Json.depth_ofFields]
  simp only [List.foldr_cons, List.foldr_nil, Json.depth_ofString, hdistinct, Nat.zero_max,
    Nat.max_zero]

/-- A statement is read back unless its stored form is nested too deep. -/
theorem ofJson?_reread (s : Statement) :
    Statement.ofJson? maxDepth s.toJson.reread =
      if s.toJson.depth ≤ maxDepth then some s else none := by
  have hjoins := mapM_reread (g := (·.toJson)) (fun j => j.ofJson?_reread 124) s.joins
  have hselection := optional?_reread s.selection 126
  have hprojection := s.projection.ofJson?_reread 122
  have hdistinct : (Json.bool s.distinct).reread.bool? = some s.distinct := rfl
  have hdepth : s.toJson.depth ≤ maxDepth ↔
      (Json.array (s.joins.map (·.toJson))).depth ≤ 126 ∧
        (Json.ofOption Expr.toJson s.selection).depth ≤ 126 ∧ s.projection.toJson.depth ≤ 126 := by
    have hgroupBy := depth_columns s.groupBy
    have horderBy := depth_columns s.orderBy
    rw [depth_toJson, maxDepth]
    omega
  -- Names, columns and the flag are always read back.
  have hread : Statement.ofJson? maxDepth s.toJson.reread = do
      let joins ← s.joins.mapM (JoinClause.ofJson? 125 ∘ Json.reread ∘ (·.toJson))
      let selection ←
        (Json.ofOption Expr.toJson s.selection).reread.optional? (Expr.ofJson? 126)
      let projection ← Projection.ofJson? 126 s.projection.toJson.reread
      return { s with joins, selection, projection } := by
    simp [Statement.ofJson?, Statement.toJson, Json.valueOf?, Json.valuesOf, listField?, maxDepth,
      mapM_columns, hdistinct]
  rw [hread, hjoins, hselection, hprojection]
  simp only [Option.bind_eq_bind, bind_ite_none, hdepth, ite_and]
  rfl

end Statement

/-! ## Plain forms -/

theorem Value.isPlain_toJson (v : Value) : v.toJson.IsPlain := by
  cases v with
  | int n => exact .ofFields (by simpa using .ofInt n.toInt)
  | text s => exact .ofFields (by simpa using .ofString s)

theorem Json.IsPlain.ofOption {α : Type} {f : α → Json} (h : ∀ a, (f a).IsPlain) (a : Option α) :
    (Json.ofOption f a).IsPlain := by
  cases a with
  | none => exact .null
  | some a => exact h a

theorem ColumnRef.isPlain_toJson (c : ColumnRef) : c.toJson.IsPlain :=
  .ofFields (by simp [Json.IsPlain.ofString, Json.IsPlain.ofOption])

theorem Expr.isPlain_toJson (e : Expr) : e.toJson.IsPlain := by
  induction e with
  | literal v => exact .ofFields (by simpa using v.isPlain_toJson)
  | column c => exact .ofFields (by simpa using c.isPlain_toJson)
  | compare l op r ihl ihr | arithmetic l op r ihl ihr =>
    have hoperands : (Json.ofFields
        [("left", l.toJson), ("op", .ofString op.key), ("right", r.toJson)]).IsPlain :=
      .ofFields (by simp [ihl, ihr, Json.IsPlain.ofString])
    exact .ofFields (by simpa using hoperands)
  | and l r ihl ihr =>
    have hoperands : (Json.array [l.toJson, r.toJson]).IsPlain := .array (by simp [ihl, ihr])
    exact .ofFields (by simpa using hoperands)

theorem SelectItem.isPlain_toJson (item : SelectItem) : item.toJson.IsPlain := by
  cases item with
  | column c => exact .ofFields (by simpa using c.isPlain_toJson)
  | sum call =>
    have hcall : call.toJson.IsPlain :=
      .ofFields (by simp [call.argument.isPlain_toJson, Json.IsPlain.ofString])
    exact .ofFields (by simpa using hcall)

theorem Json.IsPlain.ofList {α : Type} {f : α → Json} (h : ∀ a, (f a).IsPlain) (as : List α) :
    (Json.array (as.map f)).IsPlain := by
  refine .array fun j hj => ?_
  obtain ⟨a, _, rfl⟩ := List.mem_map.1 hj
  exact h a

theorem Projection.isPlain_toJson (p : Projection) : p.toJson.IsPlain := by
  cases p with
  | all => exact .ofString _
  | list items =>
    exact .ofFields (by simpa using .ofList SelectItem.isPlain_toJson items)

theorem JoinClause.isPlain_toJson (j : JoinClause) : j.toJson.IsPlain :=
  .ofFields (by simp [Json.IsPlain.ofString, Json.IsPlain.ofOption, Expr.isPlain_toJson])

namespace Statement

theorem isPlain_toJson (s : Statement) : s.toJson.IsPlain :=
  .ofFields (by simp [Json.IsPlain.bool, Json.IsPlain.ofString, Json.IsPlain.ofList,
    Json.IsPlain.ofOption, ColumnRef.isPlain_toJson, JoinClause.isPlain_toJson,
    Projection.isPlain_toJson, Expr.isPlain_toJson])

/-- The text of a statement is read as that statement, unless it is nested too deep. -/
theorem read_render (s : Statement) :
    read s.render = if s.toJson.depth ≤ maxDepth then .ok s else .error .statementGarbled := by
  rw [read, render, Json.parse?_render s.isPlain_toJson, Option.bind_some, ofJson?_reread]
  by_cases h : s.toJson.depth ≤ maxDepth
  · rw [if_pos h, if_pos h]
  · rw [if_neg h, if_neg h]

/-- The text of a statement is read as that statement if fewer than 128 of its arrays and objects
    are nested in each other, and is rejected otherwise. No other statement is read. -/
theorem render_readsBack (s : Statement) :
    (if s.toJson.depth < 128 then read s.render = .ok s
      else ∃ e, read s.render = .error e ∧ e.kind = .validation) ∧
    ∀ t, read s.render = .ok t → t = s := by
  -- The reader counts what is open, and so the depth that it still takes is one less.
  have hlimit : s.toJson.depth < 128 ↔ s.toJson.depth ≤ maxDepth := Nat.lt_succ_iff
  simp only [read_render, hlimit]
  by_cases h : s.toJson.depth ≤ maxDepth
  · rw [if_pos h, if_pos h]
    exact ⟨rfl, fun t ht => (Except.ok.inj ht).symm⟩
  · rw [if_neg h, if_neg h]
    exact ⟨⟨_, rfl, rfl⟩, nofun⟩

end Statement

namespace Sample

/-- A conjunction with as many `AND`s in each other as the number says. -/
def tower : Nat → Expr
  | 0 => .literal (.text "\u0001\n\"\\")
  | n + 1 => .and (tower n) (tower 0)

theorem depth_tower (n : Nat) : (tower n).toJson.depth = 2 * n + 2 := by
  have hzero : (tower 0).toJson.depth = 2 := by
    rw [tower, Expr.depth_literal]
  induction n with
  | zero => exact hzero
  | succ n ih =>
    rw [tower, Expr.depth_and, ih, hzero]
    omega

/-- A statement with such a predicate. -/
def towering (n : Nat) : Statement where
  base := "R"
  joins := []
  selection := some (tower n)
  projection := .all
  groupBy := []
  orderBy := []
  distinct := false

theorem depth_towering (n : Nat) : (towering n).toJson.depth = 2 * n + 3 := by
  have hlist : (Json.array []).depth = 1 := Json.depth_array []
  have hall : Projection.all.toJson.depth = 0 := rfl
  have hselection : (Json.ofOption Expr.toJson (towering n).selection).depth = 2 * n + 2 :=
    depth_tower n
  rw [Statement.depth_toJson, hselection]
  simp only [towering, List.map_nil, hlist, hall]
  omega

/-- Predicates may be nested 62 times, and not once more. -/
theorem towering_readsBack :
    Statement.read (towering 62).render = .ok (towering 62) ∧
    ∃ e, Statement.read (towering 63).render = .error e ∧ e.kind = .validation := by
  obtain ⟨hok, -⟩ := (towering 62).render_readsBack
  obtain ⟨herror, -⟩ := (towering 63).render_readsBack
  rw [depth_towering] at hok herror
  exact ⟨hok, herror⟩

end Sample
end CsvQuery
