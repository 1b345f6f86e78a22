import ExamFilter.Proofs.Report.Dimensions

/-!
# Requests with changed selections

A request whose selections are changed field by field, and what this means for the predicates of the
dimensions.
-/
namespace ExamFilter.Report
open Sql ExamFilter.Filter

namespace Request

/-- The fields that hold selections. -/
def selectionFields : List String := ["campus", "stream", "test_type", "test", "top_all"]

/-- The fields that hold the search and the limits of the date. -/
def otherFields : List String := ["student_search", "date_from", "date_to"]

/-- Every selection is replaced by what is made of the name of its field and of itself. -/
def mapSelections (r : Request) (f : String → Value → Value) : Request where
  campus := f "campus" r.campus
  stream := f "stream" r.stream
  testType := f "test_type" r.testType
  test := f "test" r.test
  topAll := f "top_all" r.topAll
  search := r.search
  dateFrom := r.dateFrom
  dateTo := r.dateTo

/-- The request without its search and its limits of the date. -/
def selectionsAlone (r : Request) : Request :=
  { r with search := .none, dateFrom := none, dateTo := none }

/-- Only the selections of the given fields are kept, and all else is cleared. -/
def only (r : Request) (keys : List String) : Request :=
  r.selectionsAlone.mapSelections fun key v => if key ∈ keys then v else .null

/-- One field is set to a text and further ones are cleared, as are the search and the limits of the
date. -/
def choosing (r : Request) (key s : String) (cleared : List String) : Request :=
  r.selectionsAlone.mapSelections fun k v =>
    if k = key then .text s else if k ∈ cleared then .null else v

variable (r : Request) {key : String}

theorem selectionFor_mapSelections (f : String → Value → Value) (h : key ∈ selectionFields) :
    (r.mapSelections f).selectionFor key = f key (r.selectionFor key) := by
  simp only [selectionFields, List.mem_cons, List.not_mem_nil, or_false] at h
  rcases h with rfl | rfl | rfl | rfl | rfl <;> rfl

theorem selectionFor_selectionsAlone (h : key ∈ selectionFields) :
    r.selectionsAlone.selectionFor key = r.selectionFor key := by
  simp only [selectionFields, List.mem_cons, List.not_mem_nil, or_false] at h
  rcases h with rfl | rfl | rfl | rfl | rfl <;> rfl

theorem selectionFor_of_unknown (h : key ∉ selectionFields) (h' : key ∉ otherFields) :
    r.selectionFor key = .null := by
  simp only [selectionFields, otherFields, List.mem_cons, List.not_mem_nil, or_false,
    not_or] at h h'
  simp [selectionFor, fields, Table.get?, h, h', eq_comm]

theorem selectionFor_only (keys : List String) (h : key ∉ otherFields) :
    (r.only keys).selectionFor key = if key ∈ keys then r.selectionFor key else .null := by
  by_cases hkey : key ∈ selectionFields
  · rw [only, selectionFor_mapSelections _ _ hkey, selectionFor_selectionsAlone _ hkey]
  · rw [selectionFor_of_unknown _ hkey h, selectionFor_of_unknown _ hkey h, ite_self]

theorem selectionFor_choosing (chosen s : String) (cleared : List String)
    (h : key ∈ selectionFields) :
    (r.choosing chosen s cleared).selectionFor key =
      if key = chosen then .text s else if key ∈ cleared then .null else r.selectionFor key := by
  rw [choosing, selectionFor_mapSelections _ _ h, selectionFor_selectionsAlone _ h]

end Request

theorem compile_null (rules : Rules) (column : String) : rules.compile column .null = none := rfl

section Conditions
variable (rules : Rules) (d : Dialect) (l : Layout) {r : Request} (ignore : List String)

/-- The condition of selections alone is that of the predicates of the dimensions. -/
theorem build_of_selections (hsearch : r.search = .none) (hfrom : r.dateFrom = none)
    (hto : r.dateTo = none) :
    Where.build rules d l r ignore = .ok
      { condition := dimensionsCondition rules l.dimensions r ignore
        predicates := dimensionPredicates rules l.dimensions r ignore } := by
  have hlimits : DateLimits.read r = .ok {} := by
    rw [DateLimits.read, hfrom, hto]
    rfl
  have hcondition : searchCondition rules d l r.search = none := by
    rw [hsearch]
    rfl
  rw [Where.build, hlimits, Except.map, Where.within, hcondition]
  simp [dimensionsCondition, dateCondition, betweenBounds]

end Conditions

end ExamFilter.Report
