import ExamFilter.Sql.Query
import Mathlib.Data.List.Basic

/-!
# Queries built step by step

A step concerns one clause of the query. So the query that is built can be told from the steps of
each kind on their own, and it does not show how steps of different kinds were interleaved.
-/
namespace ExamFilter.Sql

namespace Step

/-- The clause that a step concerns. -/
inductive Kind where
  | select
  | distinct
  | table
  | narrow
  | orderBy
  deriving DecidableEq

def kind : Step → Kind
  | .select _ => .select
  | .distinct => .distinct
  | .table _ => .table
  | .narrow _ => .narrow
  | .orderBy _ => .orderBy

@[simp] def columns? : Step → Option (List Expr)
  | .select columns => some columns
  | _ => none

@[simp] def table? : Step → Option String
  | .table name => some name
  | _ => none

/-- The condition of a step that has one. -/
@[simp] def condition? : Step → Option Expr
  | .narrow condition => condition
  | _ => none

@[simp] def order? : Step → Option Expr
  | .orderBy e => some e
  | _ => none

section Kinds
variable {s : Step}

theorem columns?_eq_none (h : s.kind ≠ .select) : s.columns? = none := by
  cases s with
  | select => exact absurd rfl h
  | _ => rfl

theorem table?_eq_none (h : s.kind ≠ .table) : s.table? = none := by
  cases s with
  | table => exact absurd rfl h
  | _ => rfl

theorem condition?_eq_none (h : s.kind ≠ .narrow) : s.condition? = none := by
  cases s with
  | narrow => exact absurd rfl h
  | _ => rfl

theorem order?_eq_none (h : s.kind ≠ .orderBy) : s.order? = none := by
  cases s with
  | orderBy => exact absurd rfl h
  | _ => rfl

end Kinds

theorem filterMap_append_singleton {β : Type} (f : Step → Option β) (steps : List Step) (s : Step) :
    (steps ++ [s]).filterMap f = steps.filterMap f ++ (f s).toList := by
  rw [List.filterMap_append]
  cases hs : f s <;> simp [hs]

/-- For every kind the lists hold the same steps in the same order. -/
def SameByKind (xs ys : List Step) : Prop :=
  ∀ k, xs.filter (·.kind = k) = ys.filter (·.kind = k)

section SameByKind
variable {β : Type} {f : Step → Option β} {k : Kind} {xs ys : List Step}

theorem filterMap_filter_kind (hf : ∀ s, s.kind ≠ k → f s = none) (steps : List Step) :
    (steps.filter (·.kind = k)).filterMap f = steps.filterMap f := by
  rw [List.filterMap_filter]
  refine List.filterMap_congr fun s _ => ?_
  by_cases hk : s.kind = k
  · simp [hk]
  · simp [hk, hf s hk]

theorem SameByKind.filterMap_eq (h : SameByKind xs ys) (k : Kind)
    (hf : ∀ s, s.kind ≠ k → f s = none) : xs.filterMap f = ys.filterMap f := by
  rw [← filterMap_filter_kind hf xs, h k, filterMap_filter_kind hf]

theorem any_filter_kind (k : Kind) (steps : List Step) :
    (steps.filter (·.kind = k)).any (·.kind = k) = steps.any (·.kind = k) := by
  simp only [List.any_filter, Bool.and_self]

theorem SameByKind.any_eq (h : SameByKind xs ys) (k : Kind) :
    xs.any (·.kind = k) = ys.any (·.kind = k) := by
  rw [← any_filter_kind, h k, any_filter_kind]

end SameByKind

end Step

theorem Expr.conjunction_append_singleton (es : List Expr) (e : Expr) :
    conjunction (es ++ [e]) = some (match conjunction es with
      | none => e
      | some c => .binary c "AND" e) := by
  cases es with
  | nil => rfl
  | cons first rest => simp [conjunction, join]

namespace Select

/-- The query that the steps amount to, clause by clause. -/
def ofSteps (steps : List Step) : Select where
  columns := (steps.filterMap Step.columns?).flatten
  distinct := steps.any (·.kind = .distinct)
  table := (steps.filterMap Step.table?).getLast?
  condition := Expr.conjunction (steps.filterMap Step.condition?)
  order := steps.filterMap Step.order?

/-- The query that the steps build, one after the other. -/
def after (steps : List Step) : Select := steps.foldl apply {}

theorem ofSteps_append_singleton (steps : List Step) (s : Step) :
    ofSteps (steps ++ [s]) = (ofSteps steps).apply s := by
  unfold ofSteps
  simp only [Step.filterMap_append_singleton, List.any_append, List.any_cons, List.any_nil,
    Bool.or_false]
  cases s with
  | select columns => simp [apply, select, Step.kind]
  | distinct => simp [apply, makeDistinct, Step.kind]
  | table name => simp [apply, fromTable, Step.kind]
  | narrow condition =>
    cases condition with
    | none => simp [apply, narrow, Step.kind]
    | some e =>
      -- A first condition stands alone, and a further one is joined to those before it.
      cases hbefore : Expr.conjunction (steps.filterMap Step.condition?) <;>
        simp [apply, narrow, hbefore, Expr.conjunction_append_singleton, Step.kind]
  | orderBy e => simp [apply, orderBy, Step.kind]

/-- Further steps only add to those that the query has been built from. -/
theorem foldl_apply_ofSteps (steps more : List Step) :
    more.foldl apply (ofSteps steps) = ofSteps (steps ++ more) := by
  induction more generalizing steps with
  | nil => rw [List.foldl_nil, List.append_nil]
  | cons s more ih =>
    rw [List.foldl_cons, ← ofSteps_append_singleton, ih, List.append_assoc, List.singleton_append]

theorem after_eq_ofSteps (steps : List Step) : after steps = ofSteps steps :=
  foldl_apply_ofSteps [] steps

theorem ofSteps_congr {xs ys : List Step} (h : Step.SameByKind xs ys) : ofSteps xs = ofSteps ys := by
  unfold ofSteps
  rw [h.filterMap_eq .select fun _ => Step.columns?_eq_none, h.any_eq .distinct,
    h.filterMap_eq .table fun _ => Step.table?_eq_none,
    h.filterMap_eq .narrow fun _ => Step.condition?_eq_none,
    h.filterMap_eq .orderBy fun _ => Step.order?_eq_none]

/-- The steps build a query with all the selected columns in their order, distinct as soon as one
step makes it so, from the last table that is named, with the conjunction of all conditions that are
given, and in all the given orders. Steps that are the same kind by kind build the same query, so
that it is rendered alike in every dialect, with its literals written or bound. -/
theorem built_by_kinds (steps : List Step) :
    after steps = ofSteps steps ∧
      ∀ others, Step.SameByKind steps others →
        after others = after steps ∧
          ∀ (d : Dialect) (mode : Literals) (bs : Bindings),
            d.renderSelect mode (after others) bs = d.renderSelect mode (after steps) bs := by
  refine ⟨after_eq_ofSteps steps, fun others h => ?_⟩
  have hsame : after others = after steps := by
    rw [after_eq_ofSteps, after_eq_ofSteps, ofSteps_congr h]
  exact ⟨hsame, fun d mode bs => by rw [hsame]⟩

/-- Two interleavings with a table that is replaced and a condition that is left out. -/
theorem built_by_kinds_interleaved :
    let campus := Expr.column "Campus"
    let given := Expr.isNotNull campus
    let chosen := Expr.oneOf campus [.string "North"]
    let steps : List Step := [.table "OLD", .select [campus], .narrow (some given), .narrow none,
      .orderBy campus, .distinct, .select [.column "Stream"], .narrow (some chosen), .table "NEW"]
    let others : List Step := [.distinct, .narrow (some given), .select [campus], .table "OLD",
      .table "NEW", .narrow none, .narrow (some chosen), .select [.column "Stream"], .orderBy campus]
    Step.SameByKind steps others ∧
      after others = ⟨[campus, .column "Stream"], true, some "NEW",
        some (.binary given "AND" chosen), [campus]⟩ ∧
      Dialect.postgres.boundQuery (after others) = Dialect.postgres.boundQuery (after steps) := by
  intro campus given chosen steps others
  have hsame : Step.SameByKind steps others := by
    intro k
    cases k <;> rfl
  obtain ⟨hbuilt, hothers⟩ := built_by_kinds steps
  obtain ⟨hquery, hrendered⟩ := hothers others hsame
  exact ⟨hsame, hquery.trans hbuilt, hrendered .postgres .bound []⟩

end Select

end ExamFilter.Sql
