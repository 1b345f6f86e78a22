import ExamFilter.Proofs.Filter.Markers
import ExamFilter.Proofs.Value.Printed

/-!
# A scalar and the list of it

A scalar is compared with the marker as it is, the entries of a list by their trimmed texts. So a
scalar and the list of it are compiled alike, but for the padded marker: alone it is a value, in a
list it selects everything.
-/
namespace ExamFilter.Filter
open Selection

/-- The value is the marker with white space around it. -/
def IsPaddedMarker (v : Value) : Prop :=
  ∃ s, v = .text s ∧ Text.trim s = allMarker ∧ s ≠ allMarker

section Marker
variable {v : Value} {s : String}

/-- The marker begins with an underscore. -/
theorem trim_ne_marker_of_opensVisibly (h : Text.OpensVisibly s.toList) :
    Text.trim s ≠ allMarker := by
  intro htrim
  obtain ⟨c, rest, hs, hblank, hne⟩ := h
  obtain ⟨rest', hrest⟩ := Text.exists_trimChars_eq_cons hblank rest
  have hchars : c :: rest' = allMarker.toList := by rw [← Text.trim_eq_iff.1 htrim, hs, hrest]
  exact hne (List.cons.inj hchars).1

theorem eq_text_of_marker (hscalar : v.isScalar = true) (hmarker : Text.trim v.asText = allMarker) :
    ∃ s, v = .text s := by
  by_contra hother
  exact trim_ne_marker_of_opensVisibly
    (Value.opensVisibly_asText hscalar fun s hs => hother ⟨s, hs⟩) hmarker

theorem onlyMarkers_singleton_iff :
    onlyMarkers [v] = true ↔ Text.trim v.asText = allMarker := by
  rw [onlyMarkers_iff_areMarkers]
  constructor
  · rintro ⟨⟨w, hw, hcounts⟩, hall⟩
    obtain rfl : w = v := by simpa using hw
    exact hall w hw hcounts
  · intro hmarker
    refine ⟨⟨v, by simp, counts_of_marker hmarker⟩, fun w hw _ => ?_⟩
    obtain rfl : w = v := by simpa using hw
    exact hmarker

theorem isPlain_of_isScalar (hscalar : v.isScalar = true) (hlabel : v ≠ .text allLabel)
    (hmarker : v ≠ .text allMarker) : IsPlain v := by
  refine ⟨?_, ?_, hlabel, hmarker⟩
  · cases v with
    | list | tuple | set | frozenSet | byteArray | range | selection => cases hscalar
    | _ => rfl
  · rintro s rfl
    cases hscalar

end Marker

section Compiled
variable {r : Rules} {dimension : String} {v : Value} {s : String}

theorem compile_marker : r.compile dimension (.text allMarker) = none := rfl

/-- Any other scalar that counts as given is a value, padded markers included. -/
theorem compile_scalar (hscalar : v.isScalar = true) (hgiven : v.isGiven = true)
    (hlabel : v ≠ .text allLabel) (hmarker : v ≠ .text allMarker) :
    r.compile dimension v = r.compileValues dimension [v] := by
  refine compile_of_selectedValues? ?_
  rw [ofValue_of_isPlain (isPlain_of_isScalar hscalar hlabel hmarker), if_pos hgiven]
  rfl

/-- A padded marker is not listed itself, but the members of a group with its name are. -/
theorem texts_padded_marker_eq_nil_iff (hs : Text.trim s = allMarker) :
    r.texts dimension [.text s] = [] ↔
      ∀ members, Table.get? (r.groups.groupsFor dimension) allMarker = some members →
        ∀ m ∈ members, isUsable (Text.trim m) = false := by
  rw [List.eq_nil_iff_forall_not_mem]
  have hclean : clean (.text s) = allMarker := (clean_text s).trans hs
  constructor
  · intro hnone members hmembers m hm
    by_contra husable
    refine hnone (Text.trim m) (mem_texts_iff.2 ⟨by simpa using husable, .inr ?_⟩)
    exact ⟨.text s, by simp, members, by rwa [hclean], m, hm, rfl⟩
  · intro hunusable t ht
    obtain ⟨husable, ⟨v, hv, rfl⟩ | ⟨v, hv, members, hmembers, m, hm, rfl⟩⟩ := mem_texts_iff.1 ht
    all_goals obtain rfl : v = .text s := by simpa using hv
    · rw [hclean] at husable
      cases husable
    · rw [hclean] at hmembers
      rw [hunusable members hmembers m hm] at husable
      cases husable

end Compiled

/-- A scalar and the list of it are compiled alike unless the scalar is a padded marker. A padded
marker makes no difference either where an empty selection leaves the dimension unfiltered and no
group has the name of the marker and a usable member. -/
theorem scalar_as_list_iff (r : Rules) (dimension : String) (v : Value)
    (hscalar : v.isScalar = true) (hgiven : v.isGiven = true) (hlabel : v ≠ .text allLabel) :
    r.compile dimension v = r.compile dimension (.list [v]) ↔
      (IsPaddedMarker v →
        r.onEmpty = .unfiltered ∧
          ∀ members, Table.get? (r.groups.groupsFor dimension) allMarker = some members →
            ∀ m ∈ members, isUsable (Text.trim m) = false) := by
  by_cases hmarker : Text.trim v.asText = allMarker
  · obtain ⟨s, rfl⟩ := eq_text_of_marker hscalar hmarker
    have htrim : Text.trim s = allMarker := hmarker
    rw [compile_list_of_markers (onlyMarkers_singleton_iff.2 hmarker)]
    by_cases hexact : s = allMarker
    · subst hexact
      refine iff_of_true compile_marker ?_
      rintro ⟨t, ht, -, hne⟩
      cases ht
      exact absurd rfl hne
    · have hpadded : IsPaddedMarker (.text s) := ⟨s, rfl, htrim, hexact⟩
      rw [compile_scalar hscalar hgiven hlabel (by simpa using hexact), compileValues_eq_none_iff,
        texts_padded_marker_eq_nil_iff htrim, forall_prop_of_true hpadded]
  · have hlist : onlyMarkers [v] = false := by simpa using mt onlyMarkers_singleton_iff.1 hmarker
    have hexact : v ≠ .text allMarker := by
      rintro rfl
      exact hmarker rfl
    rw [compile_list_of_not_markers hlist, compile_scalar hscalar hgiven hlabel hexact]
    refine iff_of_true rfl ?_
    rintro ⟨s, rfl, htrim, -⟩
    exact absurd htrim hmarker

/-- A padded group name under the policy that matches nothing. -/
theorem scalar_as_list_padded :
    let v : Value := .text " SR ELITE "
    v.isScalar = true ∧ v.isGiven = true ∧ v ≠ .text allLabel ∧
      Rules.compile { onEmpty := .matchNone } "Stream" v =
        Rules.compile { onEmpty := .matchNone } "Stream" (.list [v]) := by
  intro v
  have hlabel : v ≠ .text allLabel := by simp [v, allLabel]
  refine ⟨rfl, rfl, hlabel,
    (scalar_as_list_iff { onEmpty := .matchNone } "Stream" v rfl rfl hlabel).2 ?_⟩
  rintro ⟨s, hs, htrim, -⟩
  obtain rfl : " SR ELITE " = s := by simpa [v] using hs
  exact absurd (Text.trim_eq_iff.1 htrim) (by decide)

/-- Alone the padded marker matches nothing, as the only entry of a list it selects everything. -/
theorem padded_marker_alone :
    let v : Value := .text " __ALL__ "
    v.isScalar = true ∧ v.isGiven = true ∧ v ≠ .text allLabel ∧
      Rules.compile ⟨[], .matchNone⟩ "CAMPUS_NAME" v = some (.matchNone "CAMPUS_NAME") ∧
      Rules.compile ⟨[], .matchNone⟩ "CAMPUS_NAME" (.list [v]) = none :=
  ⟨rfl, rfl, by simp [allLabel], rfl, rfl⟩

end ExamFilter.Filter
