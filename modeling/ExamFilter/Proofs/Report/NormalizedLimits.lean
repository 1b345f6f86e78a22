import ExamFilter.Proofs.Calendar.Normalized
import ExamFilter.Proofs.Report.Limits
import ExamFilter.Proofs.Report.Selections

/-!
# Limits of the date that are normalized

The texts of the two limits can be replaced by what normalizing makes of them: the days that they
name and the warnings stay the same. The predicates stay the same as well unless the layout takes
one of these texts as the selection of a dimension. This does not depend on how texts are read that
begin with no date by position, so conditions are assembled here for any way to do so.
-/
namespace ExamFilter.Report
open Sql ExamFilter.Filter Calendar

section General
variable (general : List Char → Except Breakdown (Option Date))

/-- One limit of the date, read in the given way. -/
def readLimitWith (name : String) : Option String →
    Except Breakdown (Option Date × List Warning)
  | none => .ok (none, [])
  | some text =>
    if text = "" then .ok (none, [])
    else (readDateWith general (.text text)).map (limitOf name text)

/-- The limits of the date, read in the given way. -/
def DateLimits.readWith (r : Request) : Except Breakdown DateLimits := do
  let (first, before) ← readLimitWith general "date_from" r.dateFrom
  let (last, after) ← readLimitWith general "date_to" r.dateTo
  return { first, last, warnings := before ++ after }

/-- The condition of a request whose limits of the date are read in the given way. -/
def Where.buildWith (rules : Rules) (d : Dialect) (l : Layout) (r : Request)
    (ignore : List String) : Except Breakdown Where :=
  (DateLimits.readWith general r).map fun limits => Where.within limits rules d l r ignore

end General

theorem readLimitWith_freeForm (name : String) (field : Option String) :
    readLimitWith freeForm name field = readLimit name field := by
  cases field with
  | none => rfl
  | some text =>
    by_cases hempty : text = ""
    · rw [readLimitWith, readLimit, if_pos hempty, if_pos hempty]
    · rw [readLimitWith, if_neg hempty, readLimit_some hempty]
      rfl

theorem DateLimits.readWith_freeForm (r : Request) :
    DateLimits.readWith freeForm r = DateLimits.read r := by
  simp only [DateLimits.readWith, DateLimits.read, readLimitWith_freeForm]

theorem Where.buildWith_freeForm : Where.buildWith freeForm = Where.build := by
  funext rules d l r ignore
  rw [Where.buildWith, Where.build, DateLimits.readWith_freeForm]

/-- The fields that hold the limits of the date. -/
def limitFields : List String := ["date_from", "date_to"]

/-- The request with other texts for the limits of the date. -/
def Request.withLimits (r : Request) (first last : String) : Request :=
  { r with dateFrom := some first, dateTo := some last }

@[simp] theorem Request.dateFrom_withLimits (r : Request) (first last : String) :
    (r.withLimits first last).dateFrom = some first := rfl

@[simp] theorem Request.dateTo_withLimits (r : Request) (first last : String) :
    (r.withLimits first last).dateTo = some last := rfl

theorem Request.selectionFor_withLimits (r : Request) (first last : String) {key : String}
    (h : key ∉ limitFields) : (r.withLimits first last).selectionFor key = r.selectionFor key := by
  by_cases hselection : key ∈ selectionFields
  · simp only [selectionFields, List.mem_cons, List.not_mem_nil, or_false] at hselection
    rcases hselection with rfl | rfl | rfl | rfl | rfl <;> rfl
  · by_cases hsearch : key = "student_search"
    · subst hsearch
      rfl
    · have hother : key ∉ otherFields := by
        simpa [otherFields, limitFields, hsearch] using h
      rw [selectionFor_of_unknown _ hselection hother, selectionFor_of_unknown _ hselection hother]

section Normalized
variable {general : List Char → Except Breakdown (Option Date)} {r : Request}
  {first last : String}

/-- A limit is the same after its text has been normalized, and so is its warning. -/
theorem readLimitWith_normalized {field : Option String} {text : String}
    (h : normalizeWith general (optionalText field) = .ok text) (name : String) :
    readLimitWith general name (some text) = readLimitWith general name field := by
  obtain ⟨date?, hread, rfl⟩ := exists_of_normalizeWith h
  cases field with
  | none =>
    cases hread
    rfl
  | some s =>
    -- an empty text counts as absent, so that it is the only one without a date or a warning
    by_cases hempty : s = ""
    · subst hempty
      cases hread
      rfl
    · change readDateWith general (.text s) = .ok date? at hread
      cases date? with
      | none =>
        have hgiven : (Value.text s).isGiven = true := by
          simpa [Value.isGiven] using hempty
        have hsame : normalized (optionalText (some s)) none = s := by
          rw [optionalText, normalized, if_pos hgiven]
          rfl
        rw [hsame]
      | some day =>
        rw [normalized, readLimitWith, if_neg day.dayFirst_ne_empty, readDateWith_date_dayFirst,
          readLimitWith, if_neg hempty, hread]
        simp only [Except.map, limitOf]

theorem DateLimits.readWith_withLimits
    (hfirst : normalizeWith general (optionalText r.dateFrom) = .ok first)
    (hlast : normalizeWith general (optionalText r.dateTo) = .ok last) :
    DateLimits.readWith general (r.withLimits first last) = DateLimits.readWith general r := by
  rw [DateLimits.readWith, DateLimits.readWith, Request.dateFrom_withLimits,
    Request.dateTo_withLimits, readLimitWith_normalized hfirst, readLimitWith_normalized hlast]

/-- The condition, the predicates and the warnings of a request are the same after its limits have
been normalized, if no dimension takes one of their texts as its selection. -/
theorem Where.buildWith_withLimits
    (hfirst : normalizeWith general (optionalText r.dateFrom) = .ok first)
    (hlast : normalizeWith general (optionalText r.dateTo) = .ok last)
    (rules : Rules) (d : Dialect) {l : Layout} {ignore : List String}
    (hkeys : ∀ dim ∈ l.dimensions, dim.key ∈ limitFields → dim.key ∈ ignore) :
    Where.buildWith general rules d l (r.withLimits first last) ignore =
      Where.buildWith general rules d l r ignore := by
  have hpredicates : dimensionPredicates rules l.dimensions (r.withLimits first last) ignore =
      dimensionPredicates rules l.dimensions r ignore := by
    refine dimensionPredicates_congr fun dim hdim => ?_
    by_cases hignored : dim.key ∈ ignore
    · rw [dimensionPredicate?_of_mem hignored, dimensionPredicate?_of_mem hignored]
    · have hkey : dim.key ∉ limitFields := fun hlimit => hignored (hkeys dim hdim hlimit)
      rw [dimensionPredicate?_of_notMem hignored, dimensionPredicate?_of_notMem hignored,
        r.selectionFor_withLimits first last hkey]
  -- besides the limits, the condition depends on the selections and the search alone
  have hwithin (limits : DateLimits) :
      Where.within limits rules d l (r.withLimits first last) ignore =
        Where.within limits rules d l r ignore := by
    rw [Where.within, Where.within, hpredicates]
    rfl
  rw [Where.buildWith, Where.buildWith, DateLimits.readWith_withLimits hfirst hlast]
  simp only [hwithin]

end Normalized

end ExamFilter.Report
