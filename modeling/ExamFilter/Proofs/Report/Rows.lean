import ExamFilter.Proofs.Report.Assembly
import ExamFilter.Proofs.Report.Dimensions
import ExamFilter.Proofs.Report.Limits
import ExamFilter.Proofs.Sql.Meaning

/-!
# The rows of a report

Which rows a request asks for, said without conditions, and the proof that the condition of the
report selects exactly these.
-/
namespace ExamFilter.Report
open Sql ExamFilter.Filter

/-- The texts that satisfy a predicate. -/
def accepts : Predicate → String → Prop
  | .oneOf m, s => s ∈ m.bindValues
  | .matchNone _, _ => False

/-- The text looked for is found in a stored text. -/
def FindsText (E : Engine) (s stored : String) : Prop :=
  matchesPattern E.sameChar ("%" ++ escapeLike (Text.trim s) ++ "%") stored = true

variable (E : Engine) (rules : Rules) (b : Builtin) (l : Layout)

/-- A text is found in the name or in the number of the student, and a list of numbers is treated
as a selection for the column of the numbers. -/
def MeetsSearch (row : Row) : Search → Prop
  | .none => True
  | .text s => Text.trim s ≠ "" →
      FindsText E s (row l.nameColumn) ∨ FindsText E s (row l.idColumn)
  | .ids items => ∀ p, rules.compile l.idColumn (.list items) = some p →
      accepts p (row l.idColumn)

/-- The date of a row, if its text can be read as one. -/
def storedDate (row : Row) : Option Calendar.Date := E.toDate b.dateFormat (row l.dateColumn)

/-- The row is one that the request asks for. -/
structure Meets (r : Request) (ignore : List String) (row : Row) : Prop where
  dimensions : ∀ column p, lastPredicate? rules r ignore l.dimensions column = some p →
    accepts p (row column)
  search : MeetsSearch E rules l row r.search
  since : ∀ day, IsLimit r.dateFrom day → ∃ s, storedDate E b l row = some s ∧ ¬s.before day
  upTo : ∀ day, IsLimit r.dateTo day → ∃ s, storedDate E b l row = some s ∧ ¬day.before s

variable {E rules b l} {row : Row}

theorem holds_predicateCondition {column : String} {p : Predicate} (hp : CompiledFor column p) :
    Holds E row (predicateCondition p) ↔ accepts p (row column) := by
  cases hp with
  | oneOf hdimension =>
    rw [predicateCondition, Holds, eval_membership, hdimension]
    simp [accepts]
  | matchNone =>
    rw [predicateCondition, Holds, eval_matchNothing]
    simp [accepts]

theorem selects_dimensionsCondition {dims : List Dimension} {r : Request} {ignore : List String} :
    Selects E row (dimensionsCondition rules dims r ignore) ↔
      ∀ column p, lastPredicate? rules r ignore dims column = some p → accepts p (row column) := by
  rw [dimensionsCondition, selects_conjunction, List.forall_mem_map]
  constructor
  · intro h column p hp
    have hmem := List.mem_map_of_mem (f := Prod.snd) (mem_dimensionPredicates_iff.2 hp)
    exact (holds_predicateCondition (compiledFor_of_lastPredicate? hp)).1 (h p hmem)
  · intro h p hmem
    obtain ⟨⟨column, p⟩, hentry, rfl⟩ := List.mem_map.1 hmem
    have hp := mem_dimensionPredicates_iff.1 hentry
    exact (holds_predicateCondition (compiledFor_of_lastPredicate? hp)).2 (h column p hp)

theorem holds_contains_iff {column s : String} :
    Holds E row (b.dialect.contains (.column column) (.string (escapeLike (Text.trim s)))) ↔
      FindsText E s (row column) := by
  rw [Holds, eval_contains, FindsText]
  simp

theorem selects_searchCondition (s : Search) :
    Selects E row (searchCondition rules b.dialect l s) ↔ MeetsSearch E rules l row s := by
  cases s with
  | none => exact Iff.rfl
  | text s =>
    rw [searchCondition, searchPattern?, MeetsSearch]
    by_cases hblank : Text.trim s = ""
    · rw [if_pos hblank]
      simp [Selects, hblank]
    · rw [if_neg hblank]
      change Holds E row (.binary _ "OR" _) ↔ _
      rw [holds_or (s := some _) (t := some _) (eval_contains b _ _) (eval_contains b _ _),
        holds_contains_iff, holds_contains_iff]
      simp [hblank]
  | ids items =>
    rw [searchCondition, MeetsSearch]
    cases hp : rules.compile l.idColumn (.list items) with
    | none => simp [Selects]
    | some p => simpa [Selects] using holds_predicateCondition (compiledFor_of_compile hp)

theorem truth_of_stored_iff {stored : Option Calendar.Date} {within : Calendar.Date → Prop}
    [DecidablePred within] :
    stored.map (fun s => !decide (within s)) = some true ↔ ∃ s, stored = some s ∧ ¬within s := by
  simp [Option.map_eq_some_iff]

theorem selects_dateCondition (limits : DateLimits) :
    Selects E row (dateCondition b.dialect l limits) ↔
      (∀ day, limits.first = some day → ∃ s, storedDate E b l row = some s ∧ ¬s.before day) ∧
      ∀ day, limits.last = some day → ∃ s, storedDate E b l row = some s ∧ ¬day.before s := by
  have hstored : eval E row (b.dialect.readDate (.column l.dateColumn)) =
      some (.ofDate (storedDate E b l row)) := eval_readDate b l.dateColumn
  unfold dateCondition
  cases hf : limits.first with
  | none =>
    cases hl : limits.last with
    | none => simp [betweenBounds, Selects]
    | some last =>
      change Holds E row (.binary _ "<=" _) ↔ _
      rw [Holds, eval_atMost hstored, Option.some_inj, Datum.ofTruth_eq_truth_iff,
        truth_of_stored_iff]
      simp
  | some first =>
    cases hl : limits.last with
    | none =>
      change Holds E row (.binary _ ">=" _) ↔ _
      rw [Holds, eval_atLeast hstored, Option.some_inj, Datum.ofTruth_eq_truth_iff,
        truth_of_stored_iff]
      simp
    | some last =>
      change Holds E row (.between _ _ _) ↔ _
      rw [Holds, eval_within hstored, Option.some_inj, Datum.ofTruth_eq_truth_iff,
        Truth.and_eq_true_iff, truth_of_stored_iff, truth_of_stored_iff]
      simp

/-- Every condition of a report is true, false or unknown on every row. -/
theorem eval_assembled {e : Expr} (h : Assembled b.dialect l e) :
    ∃ t, eval E row e = some (.ofTruth t) := by
  have hstored : eval E row (b.dialect.readDate (.column l.dateColumn)) = _ :=
    eval_readDate b l.dateColumn
  induction h with
  | membership column texts => exact ⟨some _, eval_membership column texts⟩
  | nothing => exact ⟨some false, eval_matchNothing⟩
  | search pattern =>
    exact ⟨_, eval_or (s := some _) (t := some _) (eval_contains b _ _) (eval_contains b _ _)⟩
  | between first last => exact ⟨_, eval_within hstored first last⟩
  | since first => exact ⟨_, eval_atLeast hstored first⟩
  | upTo last => exact ⟨_, eval_atMost hstored last⟩
  | both ha hb iha ihb =>
    obtain ⟨s, hs⟩ := iha
    obtain ⟨t, ht⟩ := ihb
    exact ⟨_, eval_and hs ht⟩

/-- The three parts of a condition, in any dialect. -/
theorem selects_within_iff {limits : DateLimits} {d : Dialect} {r : Request}
    {ignore : List String} :
    Selects E row (Where.within limits rules d l r ignore).condition ↔
      Selects E row (dimensionsCondition rules l.dimensions r ignore) ∧
      Selects E row (searchCondition rules d l r.search) ∧
      Selects E row (dateCondition d l limits) := by
  rw [Where.within, selects_conjunction, List.forall_mem_append, List.forall_mem_append,
    forall_toList_holds_iff, forall_toList_holds_iff, dimensionsCondition, selects_conjunction,
    and_assoc]

theorem selects_within {limits : DateLimits} {r : Request} {ignore : List String}
    (hfirst : ∀ day, limits.first = some day ↔ IsLimit r.dateFrom day)
    (hlast : ∀ day, limits.last = some day ↔ IsLimit r.dateTo day) :
    Selects E row (Where.within limits rules b.dialect l r ignore).condition ↔
      Meets E rules b l r ignore row := by
  rw [selects_within_iff, selects_dimensionsCondition, selects_searchCondition,
    selects_dateCondition]
  simp only [hfirst, hlast]
  constructor
  · rintro ⟨hdimensions, hsearch, hsince, hupTo⟩
    exact ⟨hdimensions, hsearch, hsince, hupTo⟩
  · rintro ⟨hdimensions, hsearch, hsince, hupTo⟩
    exact ⟨hdimensions, hsearch, hsince, hupTo⟩

variable (E rules b l)

/-- The condition of a report has a truth value on every row, and it selects the rows that the
request asks for. There is no condition only when the reading of a limit of the date breaks
down. -/
theorem selects_build_iff (r : Request) (ignore : List String) (row : Row) :
    (∃ w, Where.build rules b.dialect l r ignore = .ok w ∧
      (∀ e, w.condition = some e → ∃ t, eval E row e = some (.ofTruth t)) ∧
      (Selects E row w.condition ↔ Meets E rules b l r ignore row)) ∨
    ∃ f text, Where.build rules b.dialect l r ignore = .error f ∧
      (r.dateFrom = some text ∨ r.dateTo = some text) ∧
      Calendar.readDate (.text text) = .error f := by
  rcases read_cases r with ⟨limits, hread, hfirst, hlast⟩ | ⟨f, text, hread, hfield, hbroken⟩
  · have hbuild : Where.build rules b.dialect l r ignore =
        .ok (Where.within limits rules b.dialect l r ignore) :=
      build_eq_ok_iff.2 ⟨limits, hread, rfl⟩
    exact .inl ⟨_, hbuild, fun e he => eval_assembled (assembled_build hbuild he),
      selects_within hfirst hlast⟩
  · refine .inr ⟨f, text, ?_, hfield, hbroken⟩
    rw [Where.build, hread]
    rfl

end ExamFilter.Report
