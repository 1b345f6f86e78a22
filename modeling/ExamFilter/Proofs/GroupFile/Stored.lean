import ExamFilter.Proofs.Filter.Classified
import ExamFilter.Proofs.Filter.Expansion
import ExamFilter.Proofs.GroupFile.Findings
import ExamFilter.Proofs.Table

/-!
# Expansion to stored values

An audit compares the members of groups with the stored values as they are, but a predicate lists
their trimmed texts. So a table in which nothing is found expands to stored values only as far as
trimming a member leads to one.
-/
namespace ExamFilter.Filter

/-- A list selects its values as soon as the text of one of them is neither blank nor the marker. -/
theorem selectedValues?_list {selected : List Value} {s : String} (hs : .text s ∈ selected)
    (husable : isUsable (Text.trim s) = true) :
    selectedValues? (Selection.ofValue (.list selected)) = some selected := by
  simp only [isUsable, Bool.and_eq_true, decide_eq_true_eq] at husable
  have hmarkers : ¬Selection.AreMarkers selected := fun h =>
    husable.2 (h.2 (.text s) hs (Selection.counts_text husable.1))
  rw [Selection.ofValue_of_entries? rfl, Selection.ofMany_of_not_areMarkers hmarkers]
  rfl

theorem bindValues_of_compile_list {r : Rules} {dimension : String} {selected : List Value}
    {m : Membership} (h : r.compile dimension (.list selected) = some (.oneOf m)) :
    m.bindValues = r.texts dimension selected := by
  have hselected : selectedValues? (Selection.ofValue (.list selected)) = some selected := by
    unfold Rules.compile at h
    rw [Selection.ofValue, Selection.ofMany] at h ⊢
    split at h
    · cases h
    · rw [if_neg ‹_›]
      rfl
  rw [compile_of_selectedValues? hselected] at h
  exact (compileValues_eq_oneOf_iff.1 h).2.2.1

theorem exists_compile_of_mem_texts {r : Rules} {dimension : String} {selected : List Value}
    {s : String} (hselected : selectedValues? (Selection.ofValue (.list selected)) = some selected)
    (hs : s ∈ r.texts dimension selected) :
    ∃ m, r.compile dimension (.list selected) = some (.oneOf m) ∧ s ∈ m.bindValues := by
  have hne : r.texts dimension selected ≠ [] := List.ne_nil_of_mem hs
  let m : Membership := ⟨dimension, (r.texts dimension selected).map escapeLiteral,
    r.texts dimension selected, by simpa using hne⟩
  refine ⟨m, ?_, hs⟩
  rw [compile_of_selectedValues? hselected]
  exact compileValues_eq_oneOf_iff.2 ⟨hne, rfl, rfl, rfl⟩

end ExamFilter.Filter

namespace ExamFilter.GroupFile
open ExamFilter.Filter

/-- Trimming a member leads to the name of its group, to nothing that a predicate lists, or to one
of the given texts. Groups whose names are not trimmed are never found. -/
def TrimsInto (groups : Groups) (texts : List String) : Prop :=
  ∀ name members, Table.get? groups name = some members → Text.trim name = name →
    ∀ m ∈ members, isUsable (Text.trim m) = true → Text.trim m = name ∨ Text.trim m ∈ texts

/-- Whatever list is selected, the predicate lists the texts of selected entries and given texts. -/
def ListsOnly (rules : Rules) (dimension : String) (texts : List String) : Prop :=
  ∀ selected m, rules.compile dimension (.list selected) = some (.oneOf m) →
    ∀ s ∈ m.bindValues, (∃ v ∈ selected, Text.trim v.asText = s) ∨ s ∈ texts

section Listed
variable {rules : Rules} {dimension : String} {groups : Groups} {texts : List String}

theorem listsOnly_of_trimsInto (hgroups : rules.groups.groupsFor dimension = groups)
    (h : TrimsInto groups texts) : ListsOnly rules dimension texts := by
  intro selected m hm s hs
  rw [bindValues_of_compile_list hm, mem_texts_iff, hgroups] at hs
  obtain ⟨husable, ⟨v, hv, hclean⟩ | ⟨v, hv, members, hmembers, member, hmember, rfl⟩⟩ := hs
  · have hne : s ≠ "" := by
      rintro rfl
      cases husable
    exact .inl ⟨v, hv, trim_asText_of_clean hclean hne⟩
  · have htrim : Text.trim (clean v) = clean v := by
      unfold clean
      split
      · exact Text.trim_trim _
      · rfl
    rcases h _ _ hmembers htrim member hmember husable with hname | hstored
    · have hne : Text.trim member ≠ "" := by
        intro hempty
        rw [hempty] at husable
        cases husable
      exact .inl ⟨v, hv, trim_asText_of_clean hname.symm hne⟩
    · exact .inr hstored

/-- Besides the name of the group something else is selected, since the marker by itself selects
everything. -/
theorem trimsInto_of_listsOnly (hgroups : rules.groups.groupsFor dimension = groups)
    (h : ListsOnly rules dimension texts) : TrimsInto groups texts := by
  intro name members hmembers hname member hmember husable
  obtain ⟨other, hother, htrim, hne⟩ : ∃ other, isUsable (Text.trim other) = true ∧
      Text.trim other = other ∧ other ≠ Text.trim member := by
    by_cases hx : "x" = Text.trim member
    · refine ⟨"y", by decide, by decide, ?_⟩
      rw [← hx]
      decide
    · exact ⟨"x", by decide, by decide, hx⟩
  have hselected : selectedValues? (Selection.ofValue (.list [.text name, .text other])) =
      some [.text name, .text other] := selectedValues?_list (by simp) hother
  have hlisted : Text.trim member ∈ rules.texts dimension [.text name, .text other] := by
    rw [mem_texts_iff, hgroups]
    refine ⟨husable, .inr ⟨.text name, by simp, members, ?_, member, hmember, rfl⟩⟩
    rw [clean_text, hname]
    exact hmembers
  obtain ⟨m, hm, hbind⟩ := exists_compile_of_mem_texts hselected hlisted
  rcases h _ m hm _ hbind with ⟨v, hv, hs⟩ | hstored
  · simp only [List.mem_cons, List.not_mem_nil, or_false] at hv
    rcases hv with rfl | rfl
    · exact .inl (hs.symm.trans hname)
    · exact absurd (htrim.symm.trans hs) hne
  · exact .inr hstored

end Listed

/-- Of a table in which nothing is found, a predicate lists the texts of selected entries and
trimmed texts of stored values. It never lists anything else than selected entries and stored values
themselves if, and only if, trimming the members of the groups leads to these. -/
theorem expands_to_stored_iff (table : GroupTable) (domain : Domain) (sources : SourceMap)
    (policy : EmptyPolicy) (herrors : (Audit.ofTable table domain sources).errors = [])
    (hwarnings : (Audit.ofTable table domain sources).warnings = []) (dimension : String)
    (groups : Groups) (hgroups : Table.get? table dimension = some groups) :
    ∃ values, Table.get? domain dimension = some values ∧
      ListsOnly ⟨table, policy⟩ dimension ((known values).map Text.trim) ∧
      (ListsOnly ⟨table, policy⟩ dimension (known values) ↔ TrimsInto groups (known values)) := by
  have hmem := Table.mem_of_get?_eq_some hgroups
  obtain ⟨values, hvalues⟩ := warnings_eq_nil_iff.1 hwarnings _ hmem
  have hstored := errors_eq_nil_iff.1 herrors _ hmem values hvalues
  have hrules : (⟨table, policy⟩ : Rules).groups.groupsFor dimension = groups := by
    rw [GroupTable.groupsFor, hgroups, Option.getD_some]
  refine ⟨values, hvalues, ?_, trimsInto_of_listsOnly hrules, listsOnly_of_trimsInto hrules⟩
  refine listsOnly_of_trimsInto hrules fun name members hmembers _ m hm _ => .inr ?_
  exact List.mem_map_of_mem ((hstored _ (Table.mem_of_get?_eq_some hmembers)).2 m hm)

/-- A padded member is stored with its padding and without it. -/
theorem expands_to_stored_padded :
    let table : GroupTable := [("Stream", [("SR", ["SR ", "ELITE"])])]
    let domain : Domain := [("Stream", [.text "ELITE", .text "SR ", .text "SR"])]
    (Audit.ofTable table domain []).errors = [] ∧ (Audit.ofTable table domain []).warnings = [] ∧
      ListsOnly ⟨table, .unfiltered⟩ "Stream" ["ELITE", "SR ", "SR"] := by
  intro table domain
  obtain ⟨values, hvalues, -, hiff⟩ :=
    expands_to_stored_iff table domain [] .unfiltered rfl rfl "Stream" _ rfl
  obtain rfl : [.text "ELITE", .text "SR ", .text "SR"] = values := Option.some.inj hvalues
  refine ⟨rfl, rfl, hiff.2 fun name members hmembers _ m hm _ => .inr ?_⟩
  obtain ⟨rfl, rfl⟩ : name = "SR" ∧ members = ["SR ", "ELITE"] := by
    simpa using Table.mem_of_get?_eq_some hmembers
  simp only [List.mem_cons, List.not_mem_nil, or_false] at hm
  rcases hm with rfl | rfl <;> decide

/-- A padded member that is stored is listed without its padding, and so is not stored. -/
theorem expands_beyond_stored :
    let table : GroupTable := [("Stream", [("SR", [" ELITE "])])]
    let domain : Domain := [("Stream", [.text " ELITE "])]
    (Audit.ofTable table domain []).errors = [] ∧ (Audit.ofTable table domain []).warnings = [] ∧
      ∃ m, Rules.compile ⟨table, .unfiltered⟩ "Stream" (.list [.text "SR"]) = some (.oneOf m) ∧
        m.bindValues = ["SR", "ELITE"] ∧ "ELITE" ∉ known [.text " ELITE "] :=
  ⟨rfl, rfl, _, rfl, rfl, by decide⟩

end ExamFilter.GroupFile
