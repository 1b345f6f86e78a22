import ExamFilter.Proofs.Report.Assembly
import ExamFilter.Proofs.Report.Selections
import ExamFilter.Proofs.Text.Doubled
import ExamFilter.Web.App

/-!
# One dimension by itself

The selection of one dimension can be compiled by itself, or be the only one of a report whose
condition is rendered. The first gives values that are escaped as inside a literal of standard SQL,
the second is SQL text with the literals of a dialect. Both say the same.
-/
namespace ExamFilter.Report
open Sql ExamFilter.Filter

namespace Request

/-- The request that sets one selection and nothing else. -/
def alone (key : String) (v : Value) : Request :=
  ({} : Request).mapSelections fun k _ => if k = key then v else .null

theorem selectionFor_alone (chosen : String) (v : Value) {key : String}
    (h : key ∈ selectionFields) :
    (alone chosen v).selectionFor key = if key = chosen then v else .null :=
  selectionFor_mapSelections _ _ h

/-- One field is submitted, under its own name. -/
theorem read_alone {place : List Form.Step} {key : String} {given v : Value}
    (hkey : key ∈ selectionFields) (h : readSelection (place ++ [.field key]) given = .ok v) :
    read place [(key, given)] = .ok (alone key v) := by
  simp only [selectionFields, List.mem_cons, List.not_mem_nil, or_false] at hkey
  rcases hkey with rfl | rfl | rfl | rfl | rfl
  all_goals
    simp [read, readField, submitted, Table.get?, h, Form.Checked.both, Except.map, alone,
      mapSelections]

end Request

section Condition
variable {rules : Rules} {r : Request} {ignore : List String} {dims : List Dimension}

theorem foldl_addDimension_of_none (t : Table String Predicate)
    (h : ∀ d ∈ dims, dimensionPredicate? rules r ignore d = none) :
    dims.foldl (addDimension rules r ignore) t = t := by
  induction dims with
  | nil => rfl
  | cons d dims ih =>
    have hd : addDimension rules r ignore t d = t := by rw [addDimension, h d (by simp)]
    rw [List.foldl_cons, hd]
    exact ih fun d' hd' => h d' (by simp [hd'])

/-- If all other dimensions have no predicate, the table holds that of the one dimension. -/
theorem dimensionPredicates_of_others_none {before after : List Dimension} {d : Dimension}
    (hbefore : ∀ d' ∈ before, dimensionPredicate? rules r ignore d' = none)
    (hafter : ∀ d' ∈ after, dimensionPredicate? rules r ignore d' = none) :
    dimensionPredicates rules (before ++ d :: after) r ignore =
      (dimensionPredicate? rules r ignore d).toList.map fun p => (d.column, p) := by
  rw [dimensionPredicates_eq_foldl, List.foldl_append, foldl_addDimension_of_none _ hbefore,
    List.foldl_cons, foldl_addDimension_of_none _ hafter, addDimension]
  cases dimensionPredicate? rules r ignore d <;> rfl

/-- Of a request that sets one selection only the dimension of that field has a predicate. -/
theorem dimensionPredicates_alone {dim : Dimension} (v : Value)
    (hfields : ∀ d ∈ dims, d.key ∈ Request.selectionFields) (hkeys : (dims.map (·.key)).Nodup)
    (hdim : dim ∈ dims) :
    dimensionPredicates rules dims (.alone dim.key v) [] =
      (rules.compile dim.column v).toList.map fun p => (dim.column, p) := by
  have hother : ∀ d ∈ dims, d.key ≠ dim.key →
      dimensionPredicate? rules (.alone dim.key v) [] d = none := by
    intro d hd hne
    rw [dimensionPredicate?, Request.selectionFor_alone _ _ (hfields d hd), if_neg hne]
    rfl
  have hown : dimensionPredicate? rules (.alone dim.key v) [] dim =
      rules.compile dim.column v := by
    rw [dimensionPredicate?, Request.selectionFor_alone _ _ (hfields dim hdim), if_pos rfl]
    rfl
  obtain ⟨before, after, rfl⟩ := List.append_of_mem hdim
  rw [List.map_append, List.map_cons, List.nodup_append, List.nodup_cons] at hkeys
  obtain ⟨-, ⟨hafter, -⟩, hbefore⟩ := hkeys
  rw [dimensionPredicates_of_others_none, hown]
  · intro d hd
    exact hother d (by simp [hd]) fun h => hbefore _ (List.mem_map_of_mem hd) _ (by simp) h
  · intro d hd
    exact hother d (by simp [hd]) fun h => hafter (h ▸ List.mem_map_of_mem hd)

theorem build_alone {l : Layout} {dim : Dimension} (rules : Rules) (d : Dialect) (v : Value)
    (hfields : ∀ d ∈ l.dimensions, d.key ∈ Request.selectionFields)
    (hkeys : (l.dimensions.map (·.key)).Nodup) (hdim : dim ∈ l.dimensions) :
    ∃ w, Where.build rules d l (.alone dim.key v) [] = .ok w ∧
      w.condition = (rules.compile dim.column v).map predicateCondition := by
  refine ⟨_, build_of_selections rules d l [] rfl rfl rfl, ?_⟩
  rw [dimensionsCondition, dimensionPredicates_alone v hfields hkeys hdim]
  cases rules.compile dim.column v <;> rfl

end Condition

section Text

/-- An escaped value as a literal. Where a backslash escapes, it is doubled as well. -/
def literalOf (b : Builtin) (value : String) : String :=
  match b with
  | .mysql => "'" ++ Text.double '\\' value ++ "'"
  | .postgres => "'" ++ value ++ "'"

/-- The text that tests a column for one of several escaped values. -/
def membershipSql (b : Builtin) (column : String) (values : List String) : String :=
  "(" ++ b.dialect.quoteName column ++ " IN (" ++ Dialect.listed (values.map (literalOf b)) ++ "))"

theorem literalText_text (b : Builtin) (s : String) :
    b.dialect.literalText (.text s) = literalOf b (escapeLiteral s) := by
  cases b with
  | mysql =>
    have hescape : Dialect.mysql.escapeString s = Text.double '\\' (escapeLiteral s) :=
      Text.double_comm (by decide) s
    rw [literalOf, ← hescape]
    rfl
  | postgres => rfl

theorem text_oneOf (b : Builtin) {column : String} {m : Membership}
    (h : CompiledFor column (.oneOf m)) :
    b.dialect.text (predicateCondition (.oneOf m)) = membershipSql b column m.values := by
  cases h with
  | oneOf hcolumn hvalues =>
    have hliterals : b.dialect.texts (m.bindValues.map Expr.string) =
        m.values.map (literalOf b) := by
      rw [Dialect.texts_eq_map, hvalues, List.map_map, List.map_map]
      exact List.map_congr_left fun s _ => literalText_text b s
    rw [predicateCondition, Dialect.text, hliterals, hcolumn]
    rfl

theorem membershipSql_ne_empty (b : Builtin) (column : String) (values : List String) :
    membershipSql b column values ≠ "" := by
  intro h
  simpa [membershipSql] using congrArg String.toList h

/-- A name in quotes follows the parenthesis. -/
theorem membershipSql_ne_nothing (b : Builtin) (column : String) (values : List String) :
    membershipSql b column values ≠ "(1 = 0)" := by
  intro h
  have hsecond := congrArg (fun s : String => s.toList[1]?) h
  cases b with
  | mysql => simp [membershipSql, Builtin.dialect, Dialect.mysql, delimited] at hsecond
  | postgres => simp [membershipSql, Builtin.dialect, Dialect.postgres, delimited] at hsecond

end Text

/-- A condition that is built is rendered, whatever a parser finds wrong with it, and no text stands
for none. -/
theorem renderWhere_of_build {s : Service} {b : Builtin} {r : Request} {ignore : List String}
    {w : Where} (h : Where.build s.rules b.dialect s.layout r ignore = .ok w) :
    ∃ w', s.renderWhere b.dialect r ignore false = .ok w' ∧
      w'.sql = (w.condition.map b.dialect.text).getD "" := by
  rw [Service.renderWhere, h]
  cases hcondition : w.condition with
  | none =>
    simp only [Except.mapError, bind, Except.bind, hcondition]
    exact ⟨_, rfl, rfl⟩
  | some e =>
    have hliteral := (assembled_build h hcondition).literalSql
    simp only [Except.mapError, bind, Except.bind, hcondition, hliteral]
    exact ⟨_, rfl, rfl⟩

/-- The condition of a request that sets one selection only: no text, the one that no row satisfies,
or a test for the values that the selection is compiled into. -/
theorem renderWhere_alone (s : Service) (b : Builtin) {dim : Dimension} (v : Value)
    (hfields : ∀ d ∈ s.layout.dimensions, d.key ∈ Request.selectionFields)
    (hkeys : (s.layout.dimensions.map (·.key)).Nodup) (hdim : dim ∈ s.layout.dimensions) :
    ∃ w, s.renderWhere b.dialect (.alone dim.key v) [] false = .ok w ∧
      (s.rules.compile dim.column v = none ↔ w.sql = "") ∧
      (s.rules.compile dim.column v = some (.matchNone dim.column) ↔ w.sql = "(1 = 0)") ∧
      ∀ m, s.rules.compile dim.column v = some (.oneOf m) →
        w.sql = membershipSql b dim.column m.values := by
  obtain ⟨w, hw, hcondition⟩ := build_alone s.rules b.dialect v hfields hkeys hdim
  obtain ⟨w', hw', hsql⟩ := renderWhere_of_build hw
  refine ⟨w', hw', ?_⟩
  rw [hsql, hcondition]
  cases hp : s.rules.compile dim.column v with
  | none => simp
  | some p =>
    have hcompiled := compiledFor_of_compile hp
    cases hcompiled with
    | matchNone => simp [predicateCondition, Expr.matchNothing, Dialect.text]
    | oneOf hcolumn hvalues =>
      have hsql := text_oneOf b (.oneOf hcolumn hvalues)
      simp [hsql, membershipSql_ne_empty, membershipSql_ne_nothing]

end ExamFilter.Report

namespace ExamFilter.Web
open Report ExamFilter.Filter Sql

/-- The member of a response with the given name. -/
def Response.member? (r : Response) (name : String) : Option Value :=
  (r.content.bind fun v => (readObject [] v).toOption).bind (Table.get? · name)

/-- What a response tells about the predicate of a dimension. -/
structure Response.Tells (r : Response) (isAbsent matchesNone : Bool) (values : List String) :
    Prop where
  absent : r.member? "absent" = some (.bool isAbsent)
  matchNone : r.member? "match_none" = some (.bool matchesNone)
  values : r.member? "values" = some (texts values)

/-- A response says exactly one of three things: there is no predicate, nothing satisfies it, or it
lists values. -/
inductive Response.Answers (r : Response) : Option Predicate → Prop where
  | absent (h : r.Tells true false []) : r.Answers none
  | matchNone {dimension : String} (h : r.Tells false true []) :
      r.Answers (some (.matchNone dimension))
  | listed {m : Membership} (hne : m.values ≠ []) (h : r.Tells false false m.values) :
      r.Answers (some (.oneOf m))

theorem answers_compiled (dimension : String) (p : Option Predicate) :
    (compiled dimension p).Answers p := by
  cases p with
  | none => exact .absent ⟨rfl, rfl, rfl⟩
  | some p =>
    cases p with
    | oneOf m => exact .listed m.values_ne ⟨rfl, rfl, rfl⟩
    | matchNone other => exact .matchNone ⟨rfl, rfl, rfl⟩

/-- To compile the selection of one dimension and to render the condition of a report that sets
nothing else come to the same: no predicate and no text, a predicate and a text that nothing
satisfies, or a list of values and a test for them as literals. The response with the predicate says
exactly one of the three. -/
theorem compile_agrees_renderWhere (s : Service)
    (hcatalogue : s.layout.dimensions = Dimension.builtin) (b : Builtin) (dim : Dimension)
    (hdim : dim ∈ Dimension.builtin) (v : Value) :
    (∀ place given, Report.Request.readSelection (place ++ [.field dim.key]) given = .ok v →
      Report.Request.read place [(dim.key, given)] = .ok (.alone dim.key v)) ∧
    (∃ w, s.renderWhere b.dialect (.alone dim.key v) [] false = .ok w ∧
      (s.rules.compile dim.column v = none ↔ w.sql = "") ∧
      (s.rules.compile dim.column v = some (.matchNone dim.column) ↔ w.sql = "(1 = 0)") ∧
      ∀ m, s.rules.compile dim.column v = some (.oneOf m) →
        w.sql = membershipSql b dim.column m.values) ∧
    (compiled dim.column (s.rules.compile dim.column v)).Answers
      (s.rules.compile dim.column v) := by
  have hfields : ∀ d ∈ Dimension.builtin, d.key ∈ Report.Request.selectionFields := by decide
  have hkeys : (Dimension.builtin.map (·.key)).Nodup := by decide
  rw [← hcatalogue] at hdim hfields hkeys
  obtain ⟨w, hw, hsql⟩ := renderWhere_alone s b v hfields hkeys hdim
  exact ⟨fun place given => Report.Request.read_alone (hfields dim hdim), ⟨w, hw, hsql⟩,
    answers_compiled dim.column _⟩

/-- A quote and a backslash in the selection of the streams, and a parser that refuses
everything. -/
theorem compile_agrees_renderWhere_quotes :
    let v : Value := .list [.text "O'Hara", .text "\\"]
    let s : Service := { parse := fun _ _ => some "refused" }
    s.layout.dimensions = Dimension.builtin ∧ ⟨"stream", "Stream"⟩ ∈ Dimension.builtin ∧
      ∃ w, s.renderWhere Dialect.mysql (.alone "stream" v) [] false = .ok w ∧
        w.sql = "(`Stream` IN ('O''Hara', '\\\\'))" := by
  intro v s
  have hdim : ⟨"stream", "Stream"⟩ ∈ Dimension.builtin := by decide
  obtain ⟨-, ⟨w, hw, -, -, hlisted⟩, -⟩ :=
    compile_agrees_renderWhere s rfl .mysql ⟨"stream", "Stream"⟩ hdim v
  exact ⟨rfl, hdim, w, hw, (hlisted _ rfl).trans rfl⟩

end ExamFilter.Web
