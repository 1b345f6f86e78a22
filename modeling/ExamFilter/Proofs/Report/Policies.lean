import ExamFilter.Proofs.Filter.Policies
import ExamFilter.Proofs.Report.Rows

/-!
# Reports under the two policies

The policy that matches nothing never adds rows to a report. A predicate that nothing satisfies can
take the place of another one on its column, and be replaced in turn; the rows that are left are
rows of the other policy all the same.
-/
namespace ExamFilter.Report
open Sql ExamFilter.Filter

/-- The two predicates of a column are the same, or nothing satisfies the first. -/
def Tightens (column : String) (strict lenient : Option Predicate) : Prop :=
  strict = lenient ∨ strict = some (.matchNone column)

/-- A later dimension on the column either takes the place of the earlier ones in both tables, or
in the first with a predicate that nothing satisfies, or in none. -/
theorem Tightens.or {g : GroupTable} {column : String} {v : Value}
    {strict lenient strict' lenient' : Option Predicate}
    (h : Policies g column v strict' lenient') (hbefore : Tightens column strict lenient) :
    Tightens column (strict'.or strict) (lenient'.or lenient) := by
  cases h with
  | unconstrained => simpa using hbefore
  | listed h m => exact .inl rfl
  | emptied => exact .inr rfl

section Builds
variable {g : GroupTable} {d : Dialect} {l : Layout} {r : Request} {ignore : List String}

/-- An ignored dimension is like one without a selection. -/
theorem policies_dimensionPredicate? (g : GroupTable) (r : Request) (ignore : List String)
    (dim : Dimension) :
    ∃ v, Policies g dim.column v (dimensionPredicate? ⟨g, .matchNone⟩ r ignore dim)
      (dimensionPredicate? ⟨g, .unfiltered⟩ r ignore dim) := by
  unfold dimensionPredicate?
  split
  · exact ⟨.null, .unconstrained rfl⟩
  · exact ⟨_, policies_compile g dim.column _⟩

theorem tightens_lastPredicate? (dims : List Dimension) (column : String) :
    Tightens column (lastPredicate? ⟨g, .matchNone⟩ r ignore dims column)
      (lastPredicate? ⟨g, .unfiltered⟩ r ignore dims column) := by
  induction dims using List.reverseRecOn with
  | nil => exact .inl rfl
  | append_singleton dims dim ih =>
    rw [lastPredicate?_append_singleton, lastPredicate?_append_singleton]
    split
    · next hcolumn =>
      subst hcolumn
      obtain ⟨v, hpolicies⟩ := policies_dimensionPredicate? g r ignore dim
      exact .or hpolicies ih
    · exact ih

variable {E : Engine} {row : Row}

theorem selects_dimensions_unfiltered {dims : List Dimension}
    (h : Selects E row (dimensionsCondition ⟨g, .matchNone⟩ dims r ignore)) :
    Selects E row (dimensionsCondition ⟨g, .unfiltered⟩ dims r ignore) := by
  rw [selects_dimensionsCondition] at h ⊢
  intro column p hp
  rcases tightens_lastPredicate? (g := g) (r := r) dims column with heq | hnone
  · exact h column p (heq.trans hp)
  -- whatever the other policy asks of the column, this one lets no row pass
  · exact (h column _ hnone).elim

theorem selects_of_policies {column : String} {v : Value} {strict lenient : Option Predicate}
    (h : Policies g column v strict lenient)
    (hselects : Selects E row (strict.map predicateCondition)) :
    Selects E row (lenient.map predicateCondition) := by
  cases h with
  | unconstrained => trivial
  | listed => exact hselects
  | emptied => trivial

theorem selects_searchCondition_unfiltered {s : Search}
    (h : Selects E row (searchCondition ⟨g, .matchNone⟩ d l s)) :
    Selects E row (searchCondition ⟨g, .unfiltered⟩ d l s) := by
  cases s with
  | none => trivial
  | text s => exact h
  | ids items => exact selects_of_policies (policies_compile g l.idColumn (.list items)) h

end Builds

/-- Every selection that counts, and a list of students, has a usable value if it has values. -/
structure UsableRequest (g : GroupTable) (l : Layout) (r : Request) (ignore : List String) :
    Prop where
  dimensions : ∀ dim ∈ l.dimensions, dim.key ∉ ignore →
    HasUsable g dim.column (r.selectionFor dim.key)
  search : ∀ items, r.search = .ids items → HasUsable g l.idColumn (.list items)

section Usable
variable {g : GroupTable} {l : Layout} {r : Request} {ignore : List String}

theorem dimensionPredicates_of_usable (h : UsableRequest g l r ignore) :
    dimensionPredicates ⟨g, .matchNone⟩ l.dimensions r ignore =
      dimensionPredicates ⟨g, .unfiltered⟩ l.dimensions r ignore := by
  refine dimensionPredicates_congr fun dim hdim => ?_
  unfold dimensionPredicate?
  split
  · rfl
  · next hkey =>
    have hcounts : dim.key ∉ ignore := by simpa using hkey
    exact (policies_compile g dim.column _).eq_of_hasUsable (h.dimensions dim hdim hcounts)

theorem searchCondition_of_usable (d : Dialect) (h : UsableRequest g l r ignore) :
    searchCondition ⟨g, .matchNone⟩ d l r.search = searchCondition ⟨g, .unfiltered⟩ d l r.search := by
  cases hsearch : r.search with
  | none => rfl
  | text s => rfl
  | ids items =>
    rw [searchCondition, searchCondition,
      (policies_compile g l.idColumn _).eq_of_hasUsable (h.search items hsearch)]

end Usable

/-- Whatever is selected under the policy that matches nothing is selected under the other one, and
the two make no difference unless some selection has values but no usable one. They list the same
texts for every selection; only the first gives a predicate that nothing satisfies, and it gives
none only to a selection that stands for no choice. -/
theorem policy_only_tightens (g : GroupTable) (d : Dialect) (l : Layout) (r : Request)
    (ignore : List String) :
    (∀ E row w, Where.build ⟨g, .matchNone⟩ d l r ignore = .ok w → Selects E row w.condition →
      ∃ w', Where.build ⟨g, .unfiltered⟩ d l r ignore = .ok w' ∧ Selects E row w'.condition) ∧
    (UsableRequest g l r ignore →
      Where.build ⟨g, .matchNone⟩ d l r ignore = Where.build ⟨g, .unfiltered⟩ d l r ignore) ∧
    ∀ column v,
      (∀ m, Rules.compile ⟨g, .matchNone⟩ column v = some (.oneOf m) ↔
        Rules.compile ⟨g, .unfiltered⟩ column v = some (.oneOf m)) ∧
      (∀ other, Rules.compile ⟨g, .unfiltered⟩ column v ≠ some (.matchNone other)) ∧
      (Rules.compile ⟨g, .matchNone⟩ column v = none ↔
        Selection.ofValue v = .noFilter ∨ ∃ marker, Selection.ofValue v = .wildcard marker) := by
  refine ⟨fun E row w hw hselects => ?_, fun husable => ?_, fun column v => ?_⟩
  · obtain ⟨limits, hread, rfl⟩ := build_eq_ok_iff.1 hw
    refine ⟨_, build_eq_ok_iff.2 ⟨limits, hread, rfl⟩, ?_⟩
    rw [selects_within_iff] at hselects ⊢
    obtain ⟨hdimensions, hsearch, hdate⟩ := hselects
    exact ⟨selects_dimensions_unfiltered hdimensions,
      selects_searchCondition_unfiltered hsearch, hdate⟩
  · unfold Where.build Where.within
    rw [dimensionPredicates_of_usable husable, searchCondition_of_usable d husable]
  · have hpolicies := policies_compile g column v
    exact ⟨hpolicies.oneOf_iff, hpolicies.lenient_ne, hpolicies.strict_eq_none_iff⟩

/-- The campus replaces the predicate of the blank stream on the same column, and a stream that
stands for no choice has none. -/
theorem policy_only_tightens_replaced :
    let E : Engine := ⟨fun a b => a == b, fun _ _ => none⟩
    let d : Dialect := Builtin.mysql.dialect
    let l : Layout := { dimensions := [⟨"stream", "Place"⟩, ⟨"campus", "Place"⟩] }
    let blank : Request := { stream := .list [.text " "], campus := .text "North" }
    let all : Request := { stream := .text "All", campus := .text "North" }
    (∃ w, Where.build ⟨.builtin, .matchNone⟩ d l blank [] = .ok w ∧
      Selects E (fun _ => "North") w.condition ∧
      ∃ w', Where.build ⟨.builtin, .unfiltered⟩ d l blank [] = .ok w' ∧
        Selects E (fun _ => "North") w'.condition) ∧
    Where.build ⟨.builtin, .matchNone⟩ d l all [] =
      Where.build ⟨.builtin, .unfiltered⟩ d l all [] := by
  intro E d l blank all
  have hselects : Selects E (fun _ => "North")
      (some (.oneOf (.column "Place") [.string "North"])) := rfl
  have hcampus : HasUsable .builtin "Place" (.text "North") := by
    rintro vs ⟨⟩
    exact ⟨.text "North", .head _, rfl⟩
  have husable : UsableRequest .builtin l all [] := by
    refine ⟨fun dim hdim _ => ?_, fun items hitems => by cases hitems⟩
    simp only [l, List.mem_cons, List.not_mem_nil, or_false] at hdim
    rcases hdim with rfl | rfl
    · rintro vs ⟨⟩
    · exact hcampus
  exact ⟨⟨_, rfl, hselects,
      (policy_only_tightens .builtin d l blank []).1 E _ _ rfl hselects⟩,
    (policy_only_tightens .builtin d l all []).2.1 husable⟩

end ExamFilter.Report
