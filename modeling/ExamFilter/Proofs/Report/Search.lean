import ExamFilter.Proofs.Sql.Filled
import ExamFilter.Report.Where

/-!
# Searching for a text

A text that is searched for reaches the database through two layers of escapes: those of the pattern
and, unless it is bound, those of the string literal. What the database compares with a stored text
in the end is a pattern that finds exactly the texts in which the searched text occurs.
-/
namespace ExamFilter.Report
open Sql ExamFilter.Filter

/-- A text occurs in another one, given which characters count as the same. -/
def OccursIn (same : Char → Char → Bool) (wanted s : String) : Prop :=
  ∃ found, found <:+: s.toList ∧ List.Forall₂ (same · ·) wanted.toList found

theorem occursIn_eq_iff {wanted s : String} :
    OccursIn (· == ·) wanted s ↔ wanted.toList <:+: s.toList := by
  have hsame : ∀ found, List.Forall₂ (fun c d : Char => (c == d) = true) wanted.toList found ↔
      wanted.toList = found := by
    intro found
    simp [List.forall₂_eq_eq_eq]
  simp only [OccursIn, hsame, exists_eq_right']

theorem matchesPattern_anywhere_iff {same : Char → Char → Bool} {wanted s : String} :
    matchesPattern same ("%" ++ escapeLike wanted ++ "%") s = true ↔ OccursIn same wanted s := by
  rw [matchesPattern_escapeLike_iff]
  constructor
  · rintro ⟨before, found, after, hs, hfound⟩
    exact ⟨found, ⟨before, after, by rw [hs, List.append_assoc]⟩, hfound⟩
  · rintro ⟨found, ⟨before, after, hs⟩, hfound⟩
    exact ⟨before, found, after, by rw [← hs, List.append_assoc], hfound⟩

/-- The operand that stored texts are matched with in a search. -/
def searchOperand (b : Builtin) (s : String) : Expr :=
  b.anywhere (.string (escapeLike (Text.trim s)))

theorem searchCondition_eq (rules : Rules) (b : Builtin) (l : Layout) {s : String}
    (hs : Text.trim s ≠ "") :
    searchCondition rules b.dialect l (.text s) =
      some (.binary (.binary (.column l.nameColumn) b.like (searchOperand b s)) "OR"
        (.binary (.column l.idColumn) b.like (searchOperand b s))) := by
  rw [searchCondition, searchPattern?, if_neg hs, searchOperand, ← b.contains_eq, ← b.contains_eq]
  rfl

theorem readable_anywhere (b : Builtin) (pattern : String) :
    Readable (b.anywhere (.string pattern)) := by
  have hrun : Readable anyRun := .text "%"
  have hpattern : Readable (.string pattern) := .text pattern
  cases b with
  | mysql =>
    refine .call (by decide) (by decide) (by decide) ?_
    simp only [List.forall_mem_cons]
    exact ⟨hrun, hpattern, hrun, nofun⟩
  | postgres => exact .binary (by decide) (.binary (by decide) hrun hpattern) hrun

theorem placeholders_anywhere (b : Builtin) (pattern : String) :
    placeholders (tokens (b.anywhere (.string pattern))) = [] := by
  cases b <;> rfl

theorem isPrintable_of_mem_anywhere (b : Builtin) (pattern : String) :
    ∀ v ∈ (b.anywhere (.string pattern)).boundValues, v.isPrintable = true := by
  cases b <;>
    simp [Builtin.anywhere, joinedPattern, anyRun, Expr.boundValues, Expr.boundValuesAll,
      Expr.boundValues_string, Value.isPrintable]

/-- A search for a text compares the names and the numbers of students with one pattern. Written
into the SQL text or bound, it is the same pattern, and it is matched by the texts in which the
searched text occurs. -/
theorem search_finds_iff (E : Engine) (row : Row) (rules : Rules) (b : Builtin) (l : Layout)
    (s t : String) (hs : Text.trim s ≠ "") :
    ∃ operand sql bound bs pattern,
      searchCondition rules b.dialect l (.text s) =
        some (.binary (.binary (.column l.nameColumn) b.like operand) "OR"
          (.binary (.column l.idColumn) b.like operand)) ∧
      b.dialect.literalSql operand = .ok sql ∧ valueOf E row b sql = some (.text pattern) ∧
      b.dialect.boundSql operand = .ok (bound, bs) ∧
      boundValueOf E row b bound bs = some (.text pattern) ∧
      (matchesPattern E.sameChar pattern t = true ↔ OccursIn E.sameChar (Text.trim s) t) := by
  have hreadable : Readable (searchOperand b s) := readable_anywhere b _
  have hvalue : eval E row (searchOperand b s) =
      some (.text ("%" ++ escapeLike (Text.trim s) ++ "%")) := eval_anywhere b _
  have hsql : b.dialect.literalSql (searchOperand b s) = .ok (b.dialect.text (searchOperand b s)) :=
    hreadable.literalSql_eq_ok_iff.2 ⟨isPrintable_of_mem_anywhere b _, rfl⟩
  refine ⟨searchOperand b s, _, _, _, _, searchCondition_eq rules b l hs, hsql,
    (hreadable.valueOf_text E row b).trans hvalue,
    hreadable.boundSql b.dialect, ?_, matchesPattern_anywhere_iff⟩
  exact (hreadable.boundValueOf_text E row b (placeholders_anywhere b _)).trans hvalue

/-- A search for a backslash and a quote between wildcards, where only equal characters count as the
same. -/
theorem search_finds_escapes :
    Text.trim " %\\'_ " ≠ "" ∧ ∃ operand sql bound bs pattern,
      searchCondition {} Builtin.mysql.dialect {} (.text " %\\'_ ") =
        some (.binary (.binary (.column "NAME_OF_THE_STUDENT") Builtin.mysql.like operand) "OR"
          (.binary (.column "STUD_ID") Builtin.mysql.like operand)) ∧
      Builtin.mysql.dialect.literalSql operand = .ok sql ∧
      valueOf ⟨(· == ·), fun _ _ => none⟩ (fun _ => "") .mysql sql = some (.text pattern) ∧
      Builtin.mysql.dialect.boundSql operand = .ok (bound, bs) ∧
      boundValueOf ⟨(· == ·), fun _ _ => none⟩ (fun _ => "") .mysql bound bs =
        some (.text pattern) ∧
      matchesPattern (· == ·) pattern "a%\\'_b" = true := by
  have htrim : Text.trim " %\\'_ " = "%\\'_" := by
    refine String.toList_injective ?_
    rw [Text.toList_trim]
    decide
  have hs : Text.trim " %\\'_ " ≠ "" := by
    rw [htrim]
    decide
  have hoccurs : OccursIn (· == ·) (Text.trim " %\\'_ ") "a%\\'_b" := by
    rw [htrim, occursIn_eq_iff]
    exact ⟨['a'], ['b'], by decide⟩
  obtain ⟨operand, sql, bound, bs, pattern, hcondition, hsql, hvalue, hbound, hboundValue, hfinds⟩ :=
    search_finds_iff ⟨(· == ·), fun _ _ => none⟩ (fun _ => "") {} .mysql {} " %\\'_ " "a%\\'_b" hs
  exact ⟨hs, operand, sql, bound, bs, pattern, hcondition, hsql, hvalue, hbound, hboundValue,
    hfinds.2 hoccurs⟩

end ExamFilter.Report
