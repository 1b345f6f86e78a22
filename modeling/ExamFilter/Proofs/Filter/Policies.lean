import ExamFilter.Proofs.Filter.Expansion

/-!
# The two policies

What the policies make of one and the same selection. They part only over a selection that has
values but no usable one.
-/
namespace ExamFilter.Filter

variable {g : GroupTable} {column : String} {v : Value} {strict lenient : Option Predicate}

/-- What a selection is compiled into when an empty one matches nothing, and when it leaves the
column unfiltered. -/
inductive Policies (g : GroupTable) (column : String) (v : Value) :
    (strict lenient : Option Predicate) → Prop where
  | unconstrained (h : selectedValues? (Selection.ofValue v) = none) : Policies g column v none none
  | listed {vs : List Value} (h : selectedValues? (Selection.ofValue v) = some vs)
      (m : Membership) : Policies g column v (some (.oneOf m)) (some (.oneOf m))
  | emptied {vs : List Value} (h : selectedValues? (Selection.ofValue v) = some vs)
      (hempty : sanitize (expand (g.groupsFor column) vs) = []) :
      Policies g column v (some (.matchNone column)) none

theorem compile_of_selectedValues?_eq_none {rules : Rules}
    (h : selectedValues? (Selection.ofValue v) = none) : rules.compile column v = none := by
  unfold Rules.compile
  cases hs : Selection.ofValue v <;> rw [hs] at h <;> cases h <;> rfl

theorem policies_compile (g : GroupTable) (column : String) (v : Value) :
    Policies g column v (Rules.compile ⟨g, .matchNone⟩ column v)
      (Rules.compile ⟨g, .unfiltered⟩ column v) := by
  cases hselected : selectedValues? (Selection.ofValue v) with
  | none =>
    rw [compile_of_selectedValues?_eq_none hselected, compile_of_selectedValues?_eq_none hselected]
    exact .unconstrained hselected
  | some vs =>
    rw [compile_of_selectedValues? hselected, compile_of_selectedValues? hselected]
    unfold Rules.compileValues
    dsimp only
    by_cases hempty : sanitize (expand (g.groupsFor column) vs) = []
    · rw [dif_neg (not_not.2 hempty), dif_neg (not_not.2 hempty)]
      exact .emptied hselected hempty
    · rw [dif_pos hempty, dif_pos hempty]
      exact .listed hselected _

theorem selectedValues?_eq_none_iff {s : Selection Value} :
    selectedValues? s = none ↔ s = .noFilter ∨ ∃ marker, s = .wildcard marker := by
  cases s <;> simp [selectedValues?]

namespace Policies

theorem oneOf_iff (h : Policies g column v strict lenient) (m : Membership) :
    strict = some (.oneOf m) ↔ lenient = some (.oneOf m) := by
  cases h <;> simp

theorem lenient_ne (h : Policies g column v strict lenient) (other : String) :
    lenient ≠ some (.matchNone other) := by
  cases h <;> simp

theorem strict_eq_none_iff (h : Policies g column v strict lenient) :
    strict = none ↔
      Selection.ofValue v = .noFilter ∨ ∃ marker, Selection.ofValue v = .wildcard marker := by
  rw [← selectedValues?_eq_none_iff]
  cases h with
  | unconstrained h => simp [h]
  | listed h m => simp [h]
  | emptied h hempty => simp [h]

end Policies

/-- If the selection has values, one of them or of the members that are added to them is usable. -/
def HasUsable (g : GroupTable) (column : String) (v : Value) : Prop :=
  ∀ vs, selectedValues? (Selection.ofValue v) = some vs →
    ∃ w ∈ expand (g.groupsFor column) vs, isUsable (clean w) = true

theorem Policies.eq_of_hasUsable (h : Policies g column v strict lenient)
    (husable : HasUsable g column v) : strict = lenient := by
  cases h with
  | unconstrained => rfl
  | listed => rfl
  | emptied h hempty =>
    obtain ⟨w, hw, hclean⟩ := husable _ h
    have hmem : clean w ∈ usableTexts (expand (g.groupsFor column) _) :=
      mem_usableTexts.2 ⟨⟨w, hw, rfl⟩, hclean⟩
    rw [← sanitize_eq_usableTexts, hempty] at hmem
    cases hmem

end ExamFilter.Filter
