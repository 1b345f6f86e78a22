import ExamFilter.Proofs.Report.Assembly

/-!
# Placeholders in the conditions of reports

Rendering with placeholders agrees with rendering without, except that a value may be bound without
being printed. In the conditions of reports nothing that is tested for membership holds a literal,
so that the placeholders stand in the text in the order of their numbers.
-/
namespace ExamFilter.Report
open Sql ExamFilter.Filter

theorem placeholders_assembled {b : Builtin} {l : Layout} {e : Expr}
    (h : Assembled b.dialect l e) :
    ∃ ts, lex b (b.dialect.text (e.numbered 0)) = some ts ∧
      placeholders ts = (Table.keys (bindingsOf e.boundValues)).map placeholder := by
  refine ⟨tokens (e.numbered 0), ((h.plain.numbered 0).reads b).lex, ?_⟩
  rw [h.inTextOrder 0, keys_bindingsOf, List.map_map, List.range_eq_range']
  rfl

/-- Rendering with placeholders agrees with rendering without, for conditions and for queries. They
succeed together if, and only if, there is no value that is bound and not printed. The condition of
a report is rendered both ways, and its placeholders stand in the text in the order in which their
values were bound. -/
theorem placeholders_agree_iff (d : Dialect) (e : Expr) (q : Select) :
    BoundAgrees (d.literalSql e) (d.literalSql (e.numbered 0)) e.boundValues (d.boundSql e) ∧
    BoundAgrees (d.literalQuery q) (d.literalQuery q.numbered) q.boundValues (d.boundQuery q) ∧
    ∀ (b : Builtin) (rules : Rules) (l : Layout) (r : Request) (ignore : List String) (w : Where),
      Where.build rules b.dialect l r ignore = .ok w → w.condition = some e →
      ∃ literal bound bs ts, b.dialect.literalSql e = .ok literal ∧
        b.dialect.boundSql e = .ok (bound, bs) ∧ lex b bound = some ts ∧
        placeholders ts = (Table.keys bs).map placeholder := by
  refine ⟨boundSql_agrees d e, boundQuery_agrees d q, ?_⟩
  intro b rules l r ignore w hw he
  have hassembled := assembled_build hw he
  obtain ⟨ts, hlex, hts⟩ := placeholders_assembled hassembled
  exact ⟨_, _, _, ts, hassembled.literalSql, hassembled.boundSql, hlex, hts⟩

/-- A request that sets a dimension, a search and a limit of the date. -/
theorem placeholders_agree_search :
    let r : Request :=
      { campus := .text "O'Hara", search := .text "50%", dateFrom := some "01/02/2024" }
    ∃ w e, Where.build {} Builtin.postgres.dialect {} r [] = .ok w ∧ w.condition = some e ∧
      ∃ literal bound bs ts, Dialect.postgres.literalSql e = .ok literal ∧
        Dialect.postgres.boundSql e = .ok (bound, bs) ∧ lex .postgres bound = some ts ∧
        placeholders ts = (Table.keys bs).map placeholder := by
  intro r
  obtain ⟨w, e, hw, he⟩ : ∃ w e,
      Where.build {} Builtin.postgres.dialect {} r [] = .ok w ∧ w.condition = some e :=
    ⟨_, _, rfl, rfl⟩
  obtain ⟨-, -, hbuilt⟩ := placeholders_agree_iff Dialect.postgres e {}
  exact ⟨w, e, hw, he, hbuilt .postgres {} {} r [] w hw he⟩

/-- A number of five thousand and one digits is bound, but not written into the text. -/
theorem long_literal_only_bound :
    let n : Value := .int (Nat.pow 10 5000)
    Dialect.mysql.boundSql (.literal n) = .ok ("%(p0)s", [("p0", n)]) ∧
      Dialect.mysql.literalSql (.literal n) = .error (.literal .tooManyDigits) ∧
      ¬((∃ r, Dialect.mysql.boundSql (.literal n) = .ok r) ↔
        ∃ sql, Dialect.mysql.literalSql (.literal n) = .ok sql) := by
  intro n
  have hlong : n.isPrintable = false := by decide +kernel
  have hbound : Dialect.mysql.boundSql (.literal n) = .ok ("%(p0)s", [("p0", n)]) := rfl
  have hliteral : Dialect.mysql.literalSql (.literal n) = .error (.literal .tooManyDigits) := by
    rw [Dialect.literalSql_eq, Expr.fault?, literalFault?, hlong]
    rfl
  refine ⟨hbound, hliteral, fun h => ?_⟩
  obtain ⟨sql, hsql⟩ := h.1 ⟨_, hbound⟩
  rw [hliteral] at hsql
  cases hsql

end ExamFilter.Report
