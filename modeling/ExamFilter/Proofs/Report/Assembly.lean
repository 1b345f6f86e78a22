import ExamFilter.Proofs.Sql.TextOrder
import ExamFilter.Report.Where

/-!
# The conditions of reports

What the condition of a report is put together from. Whatever holds of each of the parts and is
handed on by `AND` holds of every condition.
-/
namespace ExamFilter.Report
open Sql ExamFilter.Filter

/-- The conditions of reports in a dialect and for a layout. -/
inductive Assembled (d : Dialect) (l : Layout) : Expr → Prop where
  | membership (column : String) (texts : List String) :
      Assembled d l (.oneOf (.column column) (texts.map Expr.string))
  | nothing : Assembled d l .matchNothing
  | search (pattern : String) :
      Assembled d l
        (.binary (d.contains (.column l.nameColumn) (.string pattern)) "OR"
          (d.contains (.column l.idColumn) (.string pattern)))
  | between (first last : Calendar.Date) :
      Assembled d l
        (.between (d.readDate (.column l.dateColumn)) (Dialect.dateValue first.iso)
          (Dialect.dateValue last.iso))
  | since (first : Calendar.Date) :
      Assembled d l
        (.binary (d.readDate (.column l.dateColumn)) ">=" (Dialect.dateValue first.iso))
  | upTo (last : Calendar.Date) :
      Assembled d l
        (.binary (d.readDate (.column l.dateColumn)) "<=" (Dialect.dateValue last.iso))
  | both {a b : Expr} (ha : Assembled d l a) (hb : Assembled d l b) :
      Assembled d l (.binary a "AND" b)

variable {d : Dialect} {l : Layout}

/-- What holds of all conditions, and of two joined by `AND` if of both, holds of the
conjunction. -/
theorem conjunction_induction {P : Expr → Prop} (hand : ∀ a b, P a → P b → P (.binary a "AND" b))
    {es : List Expr} (h : ∀ e ∈ es, P e) {e : Expr} (he : Expr.conjunction es = some e) : P e := by
  cases es with
  | nil => cases he
  | cons c es =>
    cases he
    have hc := h c (by simp)
    replace h : ∀ e ∈ es, P e := fun e hm => h e (by simp [hm])
    induction es generalizing c with
    | nil => exact hc
    | cons c' es ih =>
      exact ih (.binary c "AND" c') (hand c c' hc (h c' (by simp)))
        fun e hm => h e (by simp [hm])

theorem exists_conjunction {es : List Expr} (h : es ≠ []) :
    ∃ e, Expr.conjunction es = some e := by
  obtain ⟨e, rest, rfl⟩ := List.exists_cons_of_ne_nil h
  exact ⟨_, rfl⟩

theorem assembled_predicateCondition (p : Predicate) : Assembled d l (predicateCondition p) := by
  cases p with
  | oneOf m => exact .membership m.dimension m.bindValues
  | matchNone dimension => exact .nothing

theorem assembled_searchCondition {rules : Rules} {s : Search} {e : Expr}
    (h : searchCondition rules d l s = some e) : Assembled d l e := by
  cases s with
  | none => cases h
  | text s =>
    rw [searchCondition, searchPattern?] at h
    split at h
    · cases h
    · cases h
      exact .search _
  | ids items =>
    obtain ⟨p, -, rfl⟩ := Option.map_eq_some_iff.1 h
    exact assembled_predicateCondition p

theorem assembled_dateCondition {limits : DateLimits} {e : Expr}
    (h : dateCondition d l limits = some e) : Assembled d l e := by
  unfold dateCondition at h
  cases hf : limits.first <;> cases hl : limits.last <;> rw [hf, hl] at h <;> cases h
  · exact .upTo _
  · exact .since _
  · exact .between _ _

theorem assembled_within {limits : DateLimits} {rules : Rules} {r : Request}
    {ignore : List String} {e : Expr}
    (h : (Where.within limits rules d l r ignore).condition = some e) : Assembled d l e := by
  refine conjunction_induction (fun a b ha hb => .both ha hb) (fun c hc => ?_) h
  simp only [List.mem_append, List.mem_map, Option.mem_toList] at hc
  rcases hc with (⟨p, -, rfl⟩ | hsearch) | hdate
  · exact assembled_predicateCondition p
  · exact assembled_searchCondition hsearch
  · exact assembled_dateCondition hdate

theorem build_eq_ok_iff {rules : Rules} {r : Request} {ignore : List String} {w : Where} :
    Where.build rules d l r ignore = .ok w ↔
      ∃ limits, DateLimits.read r = .ok limits ∧ Where.within limits rules d l r ignore = w := by
  unfold Where.build
  cases DateLimits.read r <;> simp [Except.map]

theorem assembled_build {rules : Rules} {r : Request} {ignore : List String} {w : Where}
    (h : Where.build rules d l r ignore = .ok w) {e : Expr} (he : w.condition = some e) :
    Assembled d l e := by
  obtain ⟨limits, -, rfl⟩ := build_eq_ok_iff.1 h
  exact assembled_within he

namespace Assembled
variable {b : Builtin} {e : Expr}

theorem plain (h : Assembled b.dialect l e) : Plain e := by
  have hstring : ∀ s, Plain (.string s) := fun s => .text s
  have hdate : Plain (b.dialect.readDate (.column l.dateColumn)) := by
    cases b with
    | mysql => exact .call (by decide) (by simp [hstring, Plain.column])
    | postgres => exact .call (by decide) (by simp [hstring, Plain.column])
  have hvalue : ∀ day : Calendar.Date, Plain (Dialect.dateValue day.iso) :=
    fun day => .cast (by decide) (hstring _)
  have hcontains : ∀ column pattern,
      Plain (b.dialect.contains (.column column) (.string pattern)) := by
    intro column pattern
    cases b with
    | mysql =>
      exact .binary (by decide) (.column _)
        (.call (by decide) (by simp [hstring, anyRun]))
    | postgres =>
      exact .binary (by decide) (.column _)
        (.binary (by decide) (.binary (by decide) (hstring _) (hstring _)) (hstring _))
  induction h with
  | membership column texts => exact .oneOf (.column _) (by simp [hstring])
  | nothing => exact .nothing
  | search pattern => exact .binary (by decide) (hcontains _ _) (hcontains _ _)
  | between first last => exact .between hdate (hvalue _) (hvalue _)
  | since first => exact .binary (by decide) hdate (hvalue _)
  | upTo last => exact .binary (by decide) hdate (hvalue _)
  | both ha hb iha ihb => exact .binary (by decide) iha ihb

theorem inTextOrder (h : Assembled b.dialect l e) : InTextOrder e := by
  have hdate : InTextOrder (b.dialect.readDate (.column l.dateColumn)) := by
    cases b with
    | mysql => exact .call (by simp [InTextOrder.string, InTextOrder.column]) _
    | postgres => exact .call (by simp [InTextOrder.string, InTextOrder.column]) _
  have hvalue : ∀ day : Calendar.Date, InTextOrder (Dialect.dateValue day.iso) :=
    fun day => (InTextOrder.string _).cast _
  have hcontains : ∀ column pattern,
      InTextOrder (b.dialect.contains (.column column) (.string pattern)) := by
    intro column pattern
    cases b with
    | mysql =>
      exact (InTextOrder.column _).binary (.call (by simp [InTextOrder.string, anyRun]) _) _
    | postgres =>
      exact (InTextOrder.column _).binary
        (((InTextOrder.string _).binary (.string _) _).binary (.string _) _) _
  induction h with
  | membership column texts =>
    exact (InTextOrder.column _).oneOf (by rw [Expr.boundValues]) (by simp [InTextOrder.string])
  | nothing => exact .matchNothing
  | search pattern => exact (hcontains _ _).binary (hcontains _ _) _
  | between first last => exact hdate.between (hvalue _) (hvalue _)
  | since first => exact hdate.binary (hvalue _) _
  | upTo last => exact hdate.binary (hvalue _) _
  | both ha hb iha ihb => exact iha.binary ihb _

/-- The literals of a report are texts, which are always printed. -/
theorem isPrintable_of_mem_boundValues (h : Assembled b.dialect l e) :
    ∀ v ∈ e.boundValues, v.isPrintable = true := by
  have hdate : ∀ v ∈ (b.dialect.readDate (.column l.dateColumn)).boundValues,
      v.isPrintable = true := by
    cases b <;>
      simp [Builtin.dialect, Dialect.mysql, Dialect.postgres, Expr.boundValues,
        Expr.boundValuesAll, Expr.boundValues_string, Value.isPrintable]
  have hvalue : ∀ day : Calendar.Date, ∀ v ∈ (Dialect.dateValue day.iso).boundValues,
      v.isPrintable = true := by
    simp [Dialect.dateValue, Expr.boundValues, Expr.boundValues_string, Value.isPrintable]
  have hcontains : ∀ column pattern,
      ∀ v ∈ (b.dialect.contains (.column column) (.string pattern)).boundValues,
        v.isPrintable = true := by
    intro column pattern
    cases b <;>
      simp [Builtin.dialect, Dialect.mysql, Dialect.postgres, joinedPattern, anyRun,
        Expr.boundValues, Expr.boundValuesAll, Expr.boundValues_string, Value.isPrintable]
  induction h with
  | membership column texts =>
    simp only [Expr.boundValues, Expr.boundValuesAll_eq_flatMap, List.append_nil, List.mem_flatMap,
      List.mem_map]
    rintro v ⟨_, ⟨s, -, rfl⟩, hv⟩
    rw [Expr.boundValues_string, List.mem_singleton] at hv
    rw [hv, Value.isPrintable]
  | nothing => simp [Expr.matchNothing, Expr.boundValues]
  | search pattern =>
    rw [Expr.boundValues, List.forall_mem_append]
    exact ⟨hcontains _ _, hcontains _ _⟩
  | between first last =>
    simp only [Expr.boundValues, List.forall_mem_append]
    exact ⟨hdate, hvalue _, hvalue _⟩
  | since first | upTo last =>
    rw [Expr.boundValues, List.forall_mem_append]
    exact ⟨hdate, hvalue _⟩
  | both ha hb iha ihb =>
    rw [Expr.boundValues, List.forall_mem_append]
    exact ⟨iha, ihb⟩

theorem literalSql (h : Assembled b.dialect l e) :
    b.dialect.literalSql e = .ok (b.dialect.text e) := by
  rw [Dialect.literalSql_eq, h.plain.fault?_eq_none_iff.2 h.isPrintable_of_mem_boundValues]
  rfl

theorem boundSql (h : Assembled b.dialect l e) :
    b.dialect.boundSql e =
      .ok (b.dialect.text (e.numbered 0), bindingsOf e.boundValues) := by
  have hfault : e.fault? = none := h.plain.fault?_eq_none_iff.2 h.isPrintable_of_mem_boundValues
  rw [Dialect.boundSql_eq, Dialect.literalSql_eq, ((Expr.fault?_eq_none_iff 0 e).1 hfault).1]
  rfl

end Assembled

end ExamFilter.Report
