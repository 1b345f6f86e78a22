import ExamFilter.Proofs.Report.Selections

/-!
# Ignored dimensions

A dimension that is ignored imposes as little as one whose selection has been cleared. So the keys
that are ignored can be taken out of the request instead, and of the list of these keys nothing
counts but which dimensions it names.
-/
namespace ExamFilter.Report
open Sql ExamFilter.Filter

/-- The request without the selections of the given fields. -/
def Request.clearing (r : Request) (keys : List String) : Request :=
  r.mapSelections fun key v => if key ∈ keys then .null else v

/-- The keys that name a dimension. -/
def namedKeys (dims : List Dimension) (keys : List String) : List String :=
  keys.filter fun key => key ∈ dims.map (·.key)

theorem mem_namedKeys_iff {dims : List Dimension} {keys : List String} {dim : Dimension}
    (hdim : dim ∈ dims) : dim.key ∈ namedKeys dims keys ↔ dim.key ∈ keys := by
  have hnamed : dim.key ∈ dims.map (·.key) := List.mem_map_of_mem hdim
  rw [namedKeys, List.mem_filter, decide_eq_true_eq, and_iff_left hnamed]

theorem Request.selectionFor_clearing (r : Request) (keys : List String) {key : String}
    (h : key ∉ otherFields) :
    (r.clearing keys).selectionFor key = if key ∈ keys then .null else r.selectionFor key := by
  by_cases hkey : key ∈ selectionFields
  · rw [clearing, selectionFor_mapSelections _ _ hkey]
  · rw [selectionFor_of_unknown _ hkey h, selectionFor_of_unknown _ hkey h, ite_self]

section Build
variable {rules : Rules} {l : Layout} {r r' : Request} {ignore ignore' : List String}

/-- Besides the search and the limits of the date, the condition of a request depends on nothing but
the predicates of the single dimensions. -/
theorem Where.build_congr (d : Dialect) (hsearch : r.search = r'.search)
    (hfrom : r.dateFrom = r'.dateFrom) (hto : r.dateTo = r'.dateTo)
    (h : ∀ dim ∈ l.dimensions,
      dimensionPredicate? rules r ignore dim = dimensionPredicate? rules r' ignore' dim) :
    Where.build rules d l r ignore = Where.build rules d l r' ignore' := by
  have hlimits : DateLimits.read r = DateLimits.read r' := by
    rw [DateLimits.read, DateLimits.read, hfrom, hto]
  have hwithin (limits : DateLimits) :
      Where.within limits rules d l r ignore = Where.within limits rules d l r' ignore' := by
    rw [Where.within, Where.within, dimensionPredicates_congr h, hsearch]
  rw [Where.build, Where.build, hlimits]
  simp only [hwithin]

theorem dimensionPredicate?_congr_of_mem_iff {dim : Dimension}
    (h : dim.key ∈ ignore ↔ dim.key ∈ ignore') :
    dimensionPredicate? rules r ignore dim = dimensionPredicate? rules r ignore' dim := by
  by_cases hignored : dim.key ∈ ignore
  · rw [dimensionPredicate?_of_mem hignored, dimensionPredicate?_of_mem (h.1 hignored)]
  · rw [dimensionPredicate?_of_notMem hignored, dimensionPredicate?_of_notMem (mt h.2 hignored)]

/-- A dimension has no predicate when it is ignored, and none when its selection is null. -/
theorem dimensionPredicate?_clearing {dim : Dimension} (hfield : dim.key ∉ Request.otherFields) :
    dimensionPredicate? rules (r.clearing ignore) [] dim =
      dimensionPredicate? rules r ignore dim := by
  rw [dimensionPredicate?_of_notMem (List.not_mem_nil (a := dim.key)),
    Request.selectionFor_clearing _ _ hfield]
  by_cases hignored : dim.key ∈ ignore
  · rw [dimensionPredicate?_of_mem hignored, if_pos hignored, compile_null]
  · rw [dimensionPredicate?_of_notMem hignored, if_neg hignored]

end Build

/-- To ignore dimensions is to clear their selections: the condition, the predicates in their order
and the warnings are the same. Two lists of ignored keys that name the same dimensions make no
difference. -/
theorem ignoring_is_clearing (rules : Rules) (d : Dialect) (l : Layout) (r : Request)
    (ignore : List String) (hfields : ∀ dim ∈ l.dimensions, dim.key ∉ Request.otherFields) :
    Where.build rules d l r ignore =
      Where.build rules d l (r.clearing (namedKeys l.dimensions ignore)) [] ∧
    ∀ ignore' : List String,
      (∀ dim ∈ l.dimensions, dim.key ∈ ignore' ↔ dim.key ∈ ignore) →
        Where.build rules d l r ignore' = Where.build rules d l r ignore := by
  refine ⟨Where.build_congr d rfl rfl rfl fun dim hdim => ?_, fun ignore' hsame => ?_⟩
  · rw [dimensionPredicate?_clearing (hfields dim hdim)]
    exact dimensionPredicate?_congr_of_mem_iff (mem_namedKeys_iff hdim).symm
  · exact Where.build_congr d rfl rfl rfl fun dim hdim =>
      dimensionPredicate?_congr_of_mem_iff (hsame dim hdim)

/-- Two dimensions share a column and two share a key; a key is ignored twice, and one of the
ignored keys names no dimension. -/
theorem ignoring_is_clearing_shared :
    let l : Layout := { dimensions :=
      [⟨"campus", "Place"⟩, ⟨"stream", "Place"⟩, ⟨"campus", "City"⟩, ⟨"test", "Test"⟩] }
    let r : Request :=
      { campus := .text "North", stream := .text "South", test := .list [.text "Algebra"],
        search := .text "O'Hara", dateFrom := some "nonsense" }
    (∀ dim ∈ l.dimensions, dim.key ∉ Request.otherFields) ∧
      Table.keys (dimensionPredicates {} l.dimensions r ["stream", "test", "stream", "campuses"]) =
        ["Place", "City"] ∧
      Where.build {} Dialect.postgres l r ["stream", "test", "stream", "campuses"] =
        Where.build {} Dialect.postgres l { r with stream := .null, test := .null } [] ∧
      Where.build {} Dialect.postgres l r ["test", "stream"] =
        Where.build {} Dialect.postgres l r ["stream", "test", "stream", "campuses"] := by
  intro l r
  have hfields : ∀ dim ∈ l.dimensions, dim.key ∉ Request.otherFields := by decide
  obtain ⟨hclearing, hsame⟩ := ignoring_is_clearing {} Dialect.postgres l r
    ["stream", "test", "stream", "campuses"] hfields
  exact ⟨hfields, rfl, hclearing, hsame _ (by decide)⟩

end ExamFilter.Report
