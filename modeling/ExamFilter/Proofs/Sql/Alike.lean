import ExamFilter.Proofs.Sql.Binding
import Mathlib.Data.List.Forall2

/-!
# Trees that differ in their literals only

Two trees are alike if they are the same tree once their literals other than null are replaced by
numbered placeholders. Rendering with placeholders cannot tell them apart.
-/
namespace ExamFilter.Sql

/-- The same tree is left when the literals other than null are replaced by placeholders, from
whichever number on, and both hold equally many of them. -/
def Alike (e e' : Expr) : Prop :=
  (∀ k, e.numbered k = e'.numbered k) ∧ e.boundValues.length = e'.boundValues.length

namespace Alike

theorem refl (e : Expr) : Alike e e := ⟨fun _ => rfl, rfl⟩

theorem string (s s' : String) : Alike (.string s) (.string s') := by
  have hne : ∀ t : String, Value.text t ≠ .null := by simp
  constructor
  · intro k
    rw [Expr.string, Expr.string, Expr.numbered_literal (hne s), Expr.numbered_literal (hne s')]
  · rw [Expr.string, Expr.string, Expr.boundValues_literal (hne s),
      Expr.boundValues_literal (hne s')]
    rfl

theorem binary {left left' right right' : Expr} (hl : Alike left left') (hr : Alike right right')
    (op : String) : Alike (.binary left op right) (.binary left' op right') := by
  constructor
  · intro k
    rw [Expr.numbered, Expr.numbered, hl.1 k, hl.2, hr.1]
  · rw [Expr.boundValues, Expr.boundValues, List.length_append, List.length_append, hl.2, hr.2]

theorem cast {e e' : Expr} (h : Alike e e') (type : String) :
    Alike (.cast e type) (.cast e' type) := by
  constructor
  · intro k
    rw [Expr.numbered, Expr.numbered, h.1 k]
  · rw [Expr.boundValues, Expr.boundValues, h.2]

theorem between {e e' low low' high high' : Expr} (he : Alike e e') (hl : Alike low low')
    (hh : Alike high high') : Alike (.between e low high) (.between e' low' high') := by
  constructor
  · intro k
    rw [Expr.numbered, Expr.numbered, he.1 k, he.2, hl.1, hl.2, hh.1]
  · rw [Expr.boundValues, Expr.boundValues, List.length_append, List.length_append,
      List.length_append, List.length_append, he.2, hl.2, hh.2]

theorem all {es es' : List Expr} (h : List.Forall₂ Alike es es') :
    (∀ k, Expr.numberedAll k es = Expr.numberedAll k es') ∧
      (Expr.boundValuesAll es).length = (Expr.boundValuesAll es').length := by
  induction h with
  | nil => exact ⟨fun _ => rfl, rfl⟩
  | cons he _ ih =>
    constructor
    · intro k
      rw [Expr.numberedAll, Expr.numberedAll, he.1 k, he.2, ih.1]
    · rw [Expr.boundValuesAll, Expr.boundValuesAll, List.length_append, List.length_append, he.2,
        ih.2]

theorem call {args args' : List Expr} (h : List.Forall₂ Alike args args') (function : String) :
    Alike (.call function args) (.call function args') := by
  constructor
  · intro k
    rw [Expr.numbered, Expr.numbered, (all h).1]
  · rw [Expr.boundValues, Expr.boundValues, (all h).2]

theorem oneOf {e e' : Expr} {values values' : List Expr} (he : Alike e e')
    (h : List.Forall₂ Alike values values') : Alike (.oneOf e values) (.oneOf e' values') := by
  constructor
  · intro k
    rw [Expr.numbered, Expr.numbered, (all h).1, (all h).2, he.1]
  · rw [Expr.boundValues, Expr.boundValues, List.length_append, List.length_append, (all h).2, he.2]

theorem strings {texts texts' : List String} (h : texts.length = texts'.length) :
    List.Forall₂ Alike (texts.map Expr.string) (texts'.map Expr.string) := by
  rw [List.forall₂_map_left_iff, List.forall₂_map_right_iff]
  exact List.forall₂_iff_get.2 ⟨h, fun i hi hi' => string _ _⟩

theorem join {es es' : List Expr} (h : List.Forall₂ Alike es es') (op : String) :
    Option.Rel Alike (Expr.join op es) (Expr.join op es') := by
  cases h with
  | nil => exact .none
  | @cons e e' es es' he h =>
    refine .some ?_
    induction h generalizing e e' with
    | nil => exact he
    | cons hc _ ih => exact ih (he.binary hc op)

/-- Rendered with placeholders, trees that are alike give the same text and the same names. -/
theorem boundSql {e e' : Expr} (h : Alike e e') {d : Dialect} {sql : String} {bs : Bindings}
    (hsql : d.boundSql e = .ok (sql, bs)) :
    ∃ bs', d.boundSql e' = .ok (sql, bs') ∧ Table.keys bs = Table.keys bs' := by
  rw [d.boundSql_eq, h.1 0] at hsql
  have hparts : d.literalSql (e'.numbered 0) = .ok sql ∧ bs = bindingsOf e.boundValues := by
    cases hl : d.literalSql (e'.numbered 0) with
    | error f =>
      rw [hl] at hsql
      cases hsql
    | ok text =>
      rw [hl] at hsql
      cases hsql
      exact ⟨rfl, rfl⟩
  refine ⟨bindingsOf e'.boundValues, ?_, ?_⟩
  · rw [d.boundSql_eq, hparts.1]
    rfl
  · rw [hparts.2, keys_bindingsOf, keys_bindingsOf, h.2]

end Alike

end ExamFilter.Sql
