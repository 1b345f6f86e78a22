import ExamFilter.Filter.Predicate

/-!
# Compiled predicates

What a predicate looks like that a selection for a dimension is compiled into.
-/
namespace ExamFilter.Filter

/-- The predicates that selections for a dimension are compiled into. -/
inductive CompiledFor (dimension : String) : Predicate → Prop where
  | oneOf {m : Membership} (hdimension : m.dimension = dimension)
      (hvalues : m.values = m.bindValues.map escapeLiteral) : CompiledFor dimension (.oneOf m)
  | matchNone : CompiledFor dimension (.matchNone dimension)

theorem compiledFor_of_compileValues {rules : Rules} {dimension : String} {values : List Value}
    {p : Predicate} (h : rules.compileValues dimension values = some p) :
    CompiledFor dimension p := by
  unfold Rules.compileValues at h
  dsimp only at h
  split at h
  · cases h
    exact .oneOf rfl rfl
  · cases honEmpty : rules.onEmpty with
    | matchNone =>
      rw [honEmpty] at h
      cases h
      exact .matchNone
    | unfiltered =>
      rw [honEmpty] at h
      cases h

theorem compiledFor_of_compile {rules : Rules} {dimension : String} {v : Value} {p : Predicate}
    (h : rules.compile dimension v = some p) : CompiledFor dimension p := by
  unfold Rules.compile at h
  cases hs : Selection.ofValue v with
  | noFilter =>
    rw [hs] at h
    cases h
  | wildcard marker =>
    rw [hs] at h
    cases h
  | single w =>
    rw [hs] at h
    exact compiledFor_of_compileValues h
  | many ws =>
    rw [hs] at h
    exact compiledFor_of_compileValues h

end ExamFilter.Filter
