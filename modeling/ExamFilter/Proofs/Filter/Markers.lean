import ExamFilter.Proofs.Filter.Classified
import ExamFilter.Proofs.Filter.Expansion

/-!
# Markers beside other entries

A list of markers alone selects everything. Whether an entry counts beside the markers is decided
twice: by its text when the list is classified, and by the value when a predicate is made of it. The
two part over values that count as not given although their texts are not blank, such as zero.
-/
namespace ExamFilter.Filter
open Selection

/-- The value counts as not given, but by its text it is neither blank nor a marker. -/
def Disputed (v : Value) : Prop :=
  v.isGiven = false ∧ isNull v = false ∧ Text.trim v.asText ≠ "" ∧ Text.trim v.asText ≠ allMarker

section Entries
variable {vs : List Value} {v : Value} {s : String}

/-- A list with a marker holds nothing but markers if all else in it is null or blank. -/
theorem onlyMarkers_iff (hmarker : ∃ v ∈ vs, Text.trim v.asText = allMarker) :
    onlyMarkers vs = true ↔
      ∀ v ∈ vs, isNull v = true ∨ Text.trim v.asText = "" ∨ Text.trim v.asText = allMarker := by
  obtain ⟨w, hw, htext⟩ := hmarker
  rw [onlyMarkers_iff_areMarkers, AreMarkers, and_iff_right ⟨w, hw, counts_of_marker htext⟩]
  refine forall₂_congr fun v _ => ?_
  rw [Counts, ← isNull_eq_false_iff, and_imp, ← Bool.not_eq_true, ← or_iff_not_imp_left,
    ne_eq, ← or_iff_not_imp_left]

theorem isUsable_clean_iff :
    isUsable (clean v) = true ↔
      v.isGiven = true ∧ Text.trim v.asText ≠ "" ∧ Text.trim v.asText ≠ allMarker := by
  rw [isUsable, Bool.and_eq_true, decide_eq_true_iff, decide_eq_true_iff, clean]
  by_cases hgiven : v.isGiven = true
  · simp [hgiven]
  · simp [hgiven]

theorem usableTexts_eq_nil_iff : usableTexts vs = [] ↔ ∀ v ∈ vs, isUsable (clean v) = false := by
  rw [List.eq_nil_iff_forall_not_mem]
  constructor
  · intro h v hv
    by_contra husable
    exact h _ (mem_usableTexts.2 ⟨⟨v, hv, rfl⟩, by simpa using husable⟩)
  · intro h s hs
    obtain ⟨⟨v, hv, rfl⟩, husable⟩ := mem_usableTexts.1 hs
    rw [h v hv] at husable
    cases husable

/-- An entry that is not usable is null, blank or a marker by its text, unless it is disputed. -/
theorem disputed_iff_of_not_usable (h : isUsable (clean v) = false) :
    Disputed v ↔
      ¬(isNull v = true ∨ Text.trim v.asText = "" ∨ Text.trim v.asText = allMarker) := by
  rw [Disputed, not_or, not_or, Bool.not_eq_true]
  refine ⟨fun hv => hv.2, fun hv => ⟨?_, hv⟩⟩
  by_contra hgiven
  have husable := isUsable_clean_iff.2 ⟨by simpa using hgiven, hv.2⟩
  rw [h] at husable
  cases husable

/-- If no entry is usable, the list holds nothing but markers unless an entry is disputed. -/
theorem onlyMarkers_iff_of_unusable (hmarker : ∃ v ∈ vs, Text.trim v.asText = allMarker)
    (hempty : usableTexts vs = []) : onlyMarkers vs = true ↔ ∀ v ∈ vs, ¬Disputed v := by
  rw [onlyMarkers_iff hmarker]
  refine forall₂_congr fun v hv => ?_
  rw [disputed_iff_of_not_usable (usableTexts_eq_nil_iff.1 hempty v hv), not_not]

/-- A usable entry is none of those that markers stand beside. -/
theorem onlyMarkers_eq_false_of_usable (h : usableTexts vs ≠ []) : onlyMarkers vs = false := by
  obtain ⟨s, hs⟩ := List.exists_mem_of_ne_nil _ h
  obtain ⟨⟨v, hv, rfl⟩, husable⟩ := mem_usableTexts.1 hs
  obtain ⟨hgiven, hblank, hmarker⟩ := isUsable_clean_iff.1 husable
  refine onlyMarkers_eq_false_of_mem hv ⟨?_, hblank⟩ hmarker
  rintro rfl
  cases hgiven

end Entries

section Compiled
variable {r : Rules} {dimension : String} {vs : List Value}

theorem texts_of_no_groups (hgroups : r.groups.groupsFor dimension = []) :
    r.texts dimension vs = usableTexts vs := by
  have hmembers : vs.flatMap (membersOf []) = [] := List.flatMap_eq_nil_iff.2 fun v _ => rfl
  rw [Rules.texts, hgroups, withMembers, hmembers, List.append_nil]

theorem compile_list_of_markers (h : onlyMarkers vs = true) :
    r.compile dimension (.list vs) = none := by
  rw [Rules.compile, ofValue, ofMany, if_pos h]
  rfl

theorem compile_list_of_not_markers (h : onlyMarkers vs = false) :
    r.compile dimension (.list vs) = r.compileValues dimension vs := by
  have hne : ¬onlyMarkers vs = true := by simp [h]
  rw [Rules.compile, ofValue, ofMany, if_neg hne]
  rfl

theorem compileValues_of_texts_ne_nil (h : r.texts dimension vs ≠ []) :
    ∃ m, r.compileValues dimension vs = some (.oneOf m) ∧ m.dimension = dimension ∧
      m.bindValues = r.texts dimension vs ∧
      m.values = (r.texts dimension vs).map escapeLiteral :=
  ⟨⟨dimension, (r.texts dimension vs).map escapeLiteral, r.texts dimension vs, by simpa using h⟩,
    compileValues_eq_oneOf_iff.2 ⟨h, rfl, rfl, rfl⟩, rfl, rfl, rfl⟩

theorem compileValues_of_texts_eq_nil (h : r.texts dimension vs = []) :
    r.compileValues dimension vs =
      if r.onEmpty = .matchNone then some (.matchNone dimension) else none := by
  rw [← sanitize_expand] at h
  unfold Rules.compileValues
  dsimp only
  rw [dif_neg (not_not.2 h)]
  cases r.onEmpty <;> rfl

theorem compileValues_eq_none_iff :
    r.compileValues dimension vs = none ↔ r.onEmpty = .unfiltered ∧ r.texts dimension vs = [] := by
  by_cases htexts : r.texts dimension vs = []
  · rw [compileValues_of_texts_eq_nil htexts]
    cases r.onEmpty <;> simp [htexts]
  · obtain ⟨m, hm, -⟩ := compileValues_of_texts_ne_nil htexts
    simp [hm, htexts]

end Compiled

/-- In a dimension without groups, a list with a marker is compiled into a predicate of its usable
texts if there are any. Otherwise it selects everything, but for one case: where an empty selection
matches nothing, so does the list if one of its entries is disputed. -/
theorem marker_selects_all_iff (r : Rules) (dimension : String)
    (hgroups : r.groups.groupsFor dimension = []) (vs : List Value)
    (hmarker : ∃ v ∈ vs, Text.trim v.asText = allMarker) :
    (usableTexts vs ≠ [] → ∃ m, r.compile dimension (.list vs) = some (.oneOf m) ∧
      m.dimension = dimension ∧ m.bindValues = usableTexts vs ∧
      m.values = (usableTexts vs).map escapeLiteral) ∧
    (usableTexts vs = [] →
      (r.compile dimension (.list vs) = none ↔
        r.onEmpty = .unfiltered ∨ ∀ v ∈ vs, ¬Disputed v) ∧
      (r.compile dimension (.list vs) = some (.matchNone dimension) ↔
        r.onEmpty = .matchNone ∧ ∃ v ∈ vs, Disputed v)) := by
  have htexts : r.texts dimension vs = usableTexts vs := texts_of_no_groups hgroups
  refine ⟨fun hne => ?_, fun hempty => ?_⟩
  · rw [compile_list_of_not_markers (onlyMarkers_eq_false_of_usable hne), ← htexts]
    exact compileValues_of_texts_ne_nil (htexts ▸ hne)
  · by_cases hall : onlyMarkers vs = true
    · have hundisputed := (onlyMarkers_iff_of_unusable hmarker hempty).1 hall
      rw [compile_list_of_markers hall]
      refine ⟨iff_of_true rfl (.inr hundisputed), iff_of_false nofun ?_⟩
      rintro ⟨-, v, hv, hdisputed⟩
      exact hundisputed v hv hdisputed
    · have hsome : ¬∀ v ∈ vs, ¬Disputed v := fun hnone =>
        hall ((onlyMarkers_iff_of_unusable hmarker hempty).2 hnone)
      have hdisputed : ∃ v ∈ vs, Disputed v := by simpa using hsome
      rw [compile_list_of_not_markers (by simpa using hall),
        compileValues_of_texts_eq_nil (htexts.trans hempty)]
      cases r.onEmpty with
      | matchNone => simp [hsome, hdisputed]
      | unfiltered => simp

/-- A padded marker, a null and a blank text under the policy that matches nothing. -/
theorem marker_selects_all_padded :
    let vs : List Value := [.text " __ALL__ ", .null, .text " "]
    GroupTable.groupsFor [] "CAMPUS_NAME" = [] ∧
      (∃ v ∈ vs, Text.trim v.asText = allMarker) ∧ usableTexts vs = [] ∧
      Rules.compile ⟨[], .matchNone⟩ "CAMPUS_NAME" (.list vs) = none := by
  intro vs
  have htrim : Text.trim " __ALL__ " = allMarker := Text.trim_eq_iff.2 (by decide)
  have hmarker : ∃ v ∈ vs, Text.trim v.asText = allMarker := ⟨_, .head _, htrim⟩
  have hempty : usableTexts vs = [] := rfl
  obtain ⟨-, hiff⟩ := marker_selects_all_iff ⟨[], .matchNone⟩ "CAMPUS_NAME" rfl vs hmarker
  refine ⟨rfl, hmarker, hempty, (hiff hempty).1.2 (.inr fun v hv => ?_)⟩
  simp only [vs, List.mem_cons, List.not_mem_nil, or_false] at hv
  rcases hv with rfl | rfl | rfl <;> simp [Disputed, Value.isGiven, isNull]

/-- Beside a zero, which counts as not given but has a text, the marker matches nothing. -/
theorem marker_beside_zero :
    let vs : List Value := [.text "__ALL__", .int 0]
    GroupTable.groupsFor [] "CAMPUS_NAME" = [] ∧
      (∃ v ∈ vs, Text.trim v.asText = allMarker) ∧ usableTexts vs = [] ∧
      Rules.compile ⟨[], .matchNone⟩ "CAMPUS_NAME" (.list vs) =
        some (.matchNone "CAMPUS_NAME") := by
  have htrim : Text.trim "__ALL__" = allMarker := Text.trim_eq_iff.2 (by decide)
  exact ⟨rfl, ⟨_, .head _, htrim⟩, rfl, rfl⟩

end ExamFilter.Filter
