import ExamFilter.Proofs.Report.Assembly
import ExamFilter.Proofs.Report.Dimensions
import ExamFilter.Proofs.Sql.Delivered

/-!
# Delivering the conditions of reports

Whether a driver that fills in the placeholders of a condition gets the condition with its literals
depends on the names of columns alone. No text of a request can get in the way.
-/
namespace ExamFilter.Report
open Sql ExamFilter.Filter

/-- All columns that a condition can name. -/
def Layout.columns (l : Layout) : List String :=
  l.dimensions.map (·.column) ++ [l.dateColumn, l.nameColumn, l.idColumn]

variable {b : Builtin} {l : Layout}

theorem columnsAll_strings (texts : List String) :
    Expr.columnsAll (texts.map Expr.string) = [] := by
  induction texts with
  | nil => rfl
  | cons t texts ih => rw [List.map_cons, Expr.columnsAll, ih]; rfl

theorem columns_predicateCondition {column : String} {p : Predicate} (hp : CompiledFor column p) :
    ∀ c ∈ (predicateCondition p).columns, c = column := by
  cases hp with
  | oneOf hdimension =>
    rw [predicateCondition, Expr.columns, Expr.columns, columnsAll_strings, hdimension]
    simp
  | matchNone => simp [predicateCondition, Expr.matchNothing, Expr.columns]

theorem columns_contains (column pattern : String) :
    (b.dialect.contains (.column column) (.string pattern)).columns = [column] := by
  cases b <;> rfl

theorem columns_readDate (column : String) :
    (b.dialect.readDate (.column column)).columns = [column] := by
  cases b <;> rfl

theorem columns_searchCondition {rules : Rules} {s : Search} {e : Expr}
    (h : searchCondition rules b.dialect l s = some e) :
    ∀ c ∈ e.columns, c = l.nameColumn ∨ c = l.idColumn := by
  cases s with
  | none => cases h
  | text s =>
    rw [searchCondition, searchPattern?] at h
    split at h
    · cases h
    · cases h
      change ∀ c ∈ (Expr.binary _ "OR" _).columns, _
      rw [Expr.columns, columns_contains, columns_contains]
      simp
  | ids items =>
    obtain ⟨p, hp, rfl⟩ := Option.map_eq_some_iff.1 h
    exact fun c hc => .inr (columns_predicateCondition (compiledFor_of_compile hp) c hc)

theorem columns_dateCondition {limits : DateLimits} {e : Expr}
    (h : dateCondition b.dialect l limits = some e) : ∀ c ∈ e.columns, c = l.dateColumn := by
  unfold dateCondition at h
  cases hf : limits.first <;> cases hl : limits.last <;> rw [hf, hl] at h <;> cases h <;>
    simp [Expr.columns, columns_readDate, Dialect.dateValue, Expr.string]

/-- A condition names no other columns than those of the layout. -/
theorem columns_build {rules : Rules} {r : Request} {ignore : List String} {w : Where}
    (h : Where.build rules b.dialect l r ignore = .ok w) {e : Expr} (he : w.condition = some e) :
    ∀ c ∈ e.columns, c ∈ l.columns := by
  obtain ⟨limits, -, rfl⟩ := build_eq_ok_iff.1 h
  refine conjunction_induction (P := fun e => ∀ c ∈ e.columns, c ∈ l.columns) ?_ (fun e' hm => ?_) he
  · intro a b ha hb
    rw [Expr.columns, List.forall_mem_append]
    exact ⟨ha, hb⟩
  · simp only [List.mem_append, List.mem_map, Option.mem_toList] at hm
    rcases hm with (⟨p, hp, rfl⟩ | hsearch) | hdate
    · obtain ⟨⟨column, p⟩, hentry, rfl⟩ := List.mem_map.1 hp
      have hlast := mem_dimensionPredicates_iff.1 hentry
      obtain ⟨d, hd, rfl, -⟩ := exists_of_lastPredicate? hlast
      intro c hc
      rw [columns_predicateCondition (compiledFor_of_lastPredicate? hlast) c hc]
      exact List.mem_append_left _ (List.mem_map_of_mem hd)
    · intro c hc
      rcases columns_searchCondition hsearch c hc with rfl | rfl <;> simp [Layout.columns]
    · intro c hc
      simp [columns_dateCondition hdate c hc, Layout.columns]

theorem Assembled.placeholders_eq_nil {e : Expr} (h : Assembled b.dialect l e) :
    placeholders (tokens e) = [] := by
  have hcontains : ∀ column pattern : String,
      placeholders (tokens (b.dialect.contains (.column column) (.string pattern))) = [] := by
    cases b <;> exact fun _ _ => rfl
  have hdate : placeholders (tokens (b.dialect.readDate (.column l.dateColumn))) = [] := by
    cases b <;> rfl
  have hvalue : ∀ day : Calendar.Date, placeholders (tokens (Dialect.dateValue day.iso)) = [] :=
    fun day => rfl
  induction h with
  | membership column texts =>
    have htexts : placeholders (separated (tokensEach (texts.map Expr.string))) = [] := by
      rw [placeholders_separated, tokensEach_eq_map, List.flatMap_eq_nil_iff]
      simp only [List.forall_mem_map]
      exact fun t _ => rfl
    simp [tokens, htexts]
  | nothing => rfl
  | search pattern => simp [tokens, hcontains]
  | between first last => simp [tokens, hdate, hvalue]
  | since first => simp [tokens, hdate, hvalue]
  | upTo last => simp [tokens, hdate, hvalue]
  | both ha hb iha ihb => simp [tokens, iha, ihb]

/-- What a driver makes of the condition of a report and the values bound to it is the condition
with its literals if, and only if, none of the columns in it has a percent sign in its name. These
columns are among those of the layout, whatever the request. -/
theorem delivered_build_iff (b : Builtin) (rules : Rules) (l : Layout) (r : Request)
    (ignore : List String) (w : Where) (e : Expr)
    (hw : Where.build rules b.dialect l r ignore = .ok w) (he : w.condition = some e) :
    ∃ literal bound bs, b.dialect.literalSql e = .ok literal ∧
      b.dialect.boundSql e = .ok (bound, bs) ∧ (∀ c ∈ e.columns, c ∈ l.columns) ∧
      (b.dialect.delivered bs bound = some literal ↔ ∀ c ∈ e.columns, '%' ∉ c.toList) := by
  have hassembled := assembled_build hw he
  exact ⟨_, _, _, hassembled.literalSql, hassembled.boundSql, columns_build hw he,
    hassembled.plain.delivered_eq_iff hassembled.placeholders_eq_nil b⟩

/-- Percent signs in what is selected, in what is searched for and in the format of dates. -/
theorem delivered_build_values :
    let r : Request := { campus := .list [.text "50%", .text "%(p0)s"], search := .text "100%%",
                         dateTo := some "31/12/2024" }
    ∃ w e literal bound bs, Where.build {} Builtin.mysql.dialect {} r [] = .ok w ∧
      w.condition = some e ∧ Dialect.mysql.literalSql e = .ok literal ∧
      Dialect.mysql.boundSql e = .ok (bound, bs) ∧
      Dialect.mysql.delivered bs bound = some literal := by
  intro r
  obtain ⟨literal, bound, bs, hliteral, hbound, hcolumns, hiff⟩ :=
    delivered_build_iff .mysql {} {} r [] _ _ rfl rfl
  have hnames : ∀ c ∈ Layout.columns {}, '%' ∉ c.toList := by decide
  exact ⟨_, _, literal, bound, bs, rfl, rfl, hliteral, hbound,
    hiff.2 fun c hc => hnames c (hcolumns c hc)⟩

/-- A percent sign in the name of a column is taken for the beginning of a placeholder. -/
theorem delivered_percent_name :
    let l : Layout := { dimensions := [⟨"campus", "Score %"⟩] }
    ∃ w e, Where.build {} Builtin.mysql.dialect l { campus := .text "North" } [] = .ok w ∧
      w.condition = some e ∧ Dialect.mysql.literalSql e = .ok "(`Score %` IN ('North'))" ∧
      Dialect.mysql.boundSql e = .ok ("(`Score %` IN (%(p0)s))", [("p0", .text "North")]) ∧
      Dialect.mysql.delivered [("p0", .text "North")] "(`Score %` IN (%(p0)s))" = none :=
  ⟨_, _, rfl, rfl, rfl, rfl, rfl⟩

end ExamFilter.Report
