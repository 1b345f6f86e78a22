import ExamFilter.Proofs.Filter.Compiled
import ExamFilter.Report.Where
import Mathlib.Data.List.Induction

/-!
# The predicates of the dimensions

The table of predicates is filled one dimension after the other. In the end it holds for each
column the predicate of the last dimension on that column that has one.
-/
namespace ExamFilter.Report
open ExamFilter.Filter

variable (rules : Rules) (r : Request) (ignore : List String)

/-- The predicate of a dimension that is not ignored, if its selection imposes one. -/
def dimensionPredicate? (d : Dimension) : Option Predicate :=
  if ignore.contains d.key then none else rules.compile d.column (r.selectionFor d.key)

/-- The table after one more dimension. -/
def addDimension (t : Table String Predicate) (d : Dimension) : Table String Predicate :=
  match dimensionPredicate? rules r ignore d with
  | some p => Table.put t d.column p
  | none => t

theorem dimensionPredicates_eq_foldl (dims : List Dimension) :
    dimensionPredicates rules dims r ignore = dims.foldl (addDimension rules r ignore) [] := by
  unfold dimensionPredicates
  congr 1
  funext t d
  unfold addDimension dimensionPredicate?
  split <;> rfl

/-- The last predicate that a dimension on the column imposes. -/
def lastPredicate? (dims : List Dimension) (column : String) : Option Predicate :=
  ((dims.filter (·.column = column)).filterMap (dimensionPredicate? rules r ignore)).getLast?

variable {rules r ignore}

theorem dimensionPredicate?_of_mem {d : Dimension} (h : d.key ∈ ignore) :
    dimensionPredicate? rules r ignore d = none :=
  if_pos (List.contains_iff_mem.2 h)

theorem dimensionPredicate?_of_notMem {d : Dimension} (h : d.key ∉ ignore) :
    dimensionPredicate? rules r ignore d = rules.compile d.column (r.selectionFor d.key) :=
  if_neg (by simpa using h)

theorem dimensionPredicates_append_singleton (dims : List Dimension) (d : Dimension) :
    dimensionPredicates rules (dims ++ [d]) r ignore =
      addDimension rules r ignore (dimensionPredicates rules dims r ignore) d := by
  rw [dimensionPredicates_eq_foldl, dimensionPredicates_eq_foldl, List.foldl_append]
  rfl

theorem lastPredicate?_append (dims dims' : List Dimension) (column : String) :
    lastPredicate? rules r ignore (dims ++ dims') column =
      (lastPredicate? rules r ignore dims' column).or (lastPredicate? rules r ignore dims column) := by
  unfold lastPredicate?
  rw [List.filter_append, List.filterMap_append, List.getLast?_append]

/-- A later dimension on the column takes precedence if it has a predicate. -/
theorem lastPredicate?_append_singleton (dims : List Dimension) (d : Dimension) (column : String) :
    lastPredicate? rules r ignore (dims ++ [d]) column =
      if d.column = column then
        (dimensionPredicate? rules r ignore d).or (lastPredicate? rules r ignore dims column)
      else lastPredicate? rules r ignore dims column := by
  rw [lastPredicate?_append]
  by_cases hd : d.column = column
  · cases hp : dimensionPredicate? rules r ignore d <;> simp [lastPredicate?, hd, hp]
  · simp [lastPredicate?, hd]

theorem get?_dimensionPredicates (dims : List Dimension) (column : String) :
    Table.get? (dimensionPredicates rules dims r ignore) column =
      lastPredicate? rules r ignore dims column := by
  induction dims using List.reverseRecOn with
  | nil => rfl
  | append_singleton dims d ih =>
    rw [dimensionPredicates_append_singleton, lastPredicate?_append_singleton, ← ih, addDimension]
    cases dimensionPredicate? rules r ignore d with
    | none => simp
    | some p => rw [Table.get?_put, Option.some_or]

theorem nodup_keys_dimensionPredicates (dims : List Dimension) :
    (Table.keys (dimensionPredicates rules dims r ignore)).Nodup := by
  induction dims using List.reverseRecOn with
  | nil => exact List.nodup_nil
  | append_singleton dims d ih =>
    rw [dimensionPredicates_append_singleton, addDimension]
    cases dimensionPredicate? rules r ignore d with
    | none => exact ih
    | some p => exact Table.nodup_keys_put ih d.column p

theorem mem_dimensionPredicates_iff {dims : List Dimension} {column : String} {p : Predicate} :
    (column, p) ∈ dimensionPredicates rules dims r ignore ↔
      lastPredicate? rules r ignore dims column = some p := by
  rw [← get?_dimensionPredicates]
  exact Table.mem_iff_get?_eq_some (nodup_keys_dimensionPredicates dims)

theorem compiledFor_of_dimensionPredicate? {d : Dimension} {p : Predicate}
    (h : dimensionPredicate? rules r ignore d = some p) : CompiledFor d.column p := by
  unfold dimensionPredicate? at h
  split at h
  · cases h
  · exact compiledFor_of_compile h

theorem exists_of_lastPredicate? {dims : List Dimension} {column : String} {p : Predicate}
    (h : lastPredicate? rules r ignore dims column = some p) :
    ∃ d ∈ dims, d.column = column ∧ dimensionPredicate? rules r ignore d = some p := by
  have hmem := List.mem_of_getLast? h
  obtain ⟨d, hd, hp⟩ := List.mem_filterMap.1 hmem
  obtain ⟨hdims, hcolumn⟩ := List.mem_filter.1 hd
  exact ⟨d, hdims, of_decide_eq_true hcolumn, hp⟩

theorem compiledFor_of_lastPredicate? {dims : List Dimension} {column : String} {p : Predicate}
    (h : lastPredicate? rules r ignore dims column = some p) : CompiledFor column p := by
  obtain ⟨d, -, rfl, hp⟩ := exists_of_lastPredicate? h
  exact compiledFor_of_dimensionPredicate? hp

section Agreement
variable {rules' : Rules} {r' : Request} {ignore' : List String} {dims : List Dimension}

/-- The predicates of single dimensions decide the whole table. -/
theorem dimensionPredicates_congr
    (h : ∀ d ∈ dims, dimensionPredicate? rules r ignore d = dimensionPredicate? rules' r' ignore' d) :
    dimensionPredicates rules dims r ignore = dimensionPredicates rules' dims r' ignore' := by
  induction dims using List.reverseRecOn with
  | nil => rfl
  | append_singleton dims d ih =>
    have hdims := ih fun d' hm => h d' (List.mem_append_left _ hm)
    rw [dimensionPredicates_append_singleton, dimensionPredicates_append_singleton, hdims,
      addDimension, addDimension, h d (by simp)]

/-- The condition that the predicates of all dimensions hold. -/
def dimensionsCondition (rules : Rules) (dims : List Dimension) (r : Request)
    (ignore : List String) : Option Sql.Expr :=
  Sql.Expr.conjunction
    ((Table.values (dimensionPredicates rules dims r ignore)).map predicateCondition)

theorem dimensionsCondition_congr
    (h : ∀ d ∈ dims, dimensionPredicate? rules r ignore d = dimensionPredicate? rules' r' ignore' d) :
    dimensionsCondition rules dims r ignore = dimensionsCondition rules' dims r' ignore' := by
  rw [dimensionsCondition, dimensionPredicates_congr h, dimensionsCondition]

theorem lastPredicate?_congr
    (h : ∀ d ∈ dims, dimensionPredicate? rules r ignore d = dimensionPredicate? rules' r' ignore' d)
    (column : String) :
    lastPredicate? rules r ignore dims column = lastPredicate? rules' r' ignore' dims column := by
  rw [← get?_dimensionPredicates, ← get?_dimensionPredicates, dimensionPredicates_congr h]

end Agreement

theorem lastPredicate?_eq_none {dims : List Dimension}
    (h : ∀ d ∈ dims, dimensionPredicate? rules r ignore d = none) (column : String) :
    lastPredicate? rules r ignore dims column = none := by
  cases hlast : lastPredicate? rules r ignore dims column with
  | none => rfl
  | some p =>
    obtain ⟨d, hd, -, hp⟩ := exists_of_lastPredicate? hlast
    rw [h d hd] at hp
    cases hp

end ExamFilter.Report
