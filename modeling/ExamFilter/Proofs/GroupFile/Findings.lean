import ExamFilter.GroupFile.Audit
import Mathlib.Data.List.Basic

/-!
# What an audit finds

The errors of a table are those of its groups: a group without members, and every member that is
not stored.
-/
namespace ExamFilter.GroupFile
open ExamFilter.Filter

variable {domain : Domain} {sources : SourceMap} {table : GroupTable} {f : Finding}

def unknownFinding (sources : SourceMap) (dimension group : String) (values : List Value)
    (member : String × Nat) : Finding :=
  let issue := Issue.unknownMember dimension group member.2 member.1
  ⟨issue, issue.span? sources, suggestions member.1 (sorted (known values))⟩

theorem memberFindings_eq (dimension group : String) (values : List Value) (members : List String)
    (i : Nat) :
    memberFindings sources dimension group values i members =
      ((members.zipIdx i).filter fun m => m.1 ∉ known values).map
        (unknownFinding sources dimension group values) := by
  induction members generalizing i with
  | nil => rfl
  | cons m rest ih =>
    by_cases hm : m ∈ known values
    · simp [memberFindings, hm, ih]
    · simp [memberFindings, hm, ih, unknownFinding]

theorem memberFindings_eq_nil_iff {dimension group : String} {values : List Value}
    {members : List String} {i : Nat} :
    memberFindings sources dimension group values i members = [] ↔
      ∀ m ∈ members, m ∈ known values := by
  rw [memberFindings_eq, List.map_eq_nil_iff, List.filter_eq_nil_iff]
  constructor
  · intro h m hm
    obtain ⟨j, hj, rfl⟩ := List.getElem_of_mem hm
    have hzip : (members[j], i + j) ∈ members.zipIdx i := by
      rw [List.mk_add_mem_zipIdx_iff_getElem?]
      exact List.getElem?_eq_getElem hj
    simpa using h _ hzip
  · rintro h ⟨m, j⟩ hzip
    have hm : m ∈ members := List.fst_mem_of_mem_zipIdx hzip
    simpa using h m hm

/-- The members of a group are there and stored. -/
def IsStored (values : List Value) (members : List String) : Prop :=
  members ≠ [] ∧ ∀ m ∈ members, m ∈ known values

theorem groupFindings_eq_nil_iff {dimension : String} {values : List Value}
    {group : String × List String} :
    groupFindings sources dimension values group = [] ↔ IsStored values group.2 := by
  unfold groupFindings IsStored
  by_cases hempty : group.2 = []
  · simp [hempty]
  · have hsome : group.2.isEmpty = false := by simpa using hempty
    simp [hsome, hempty, memberFindings_eq_nil_iff]

theorem errors_eq_nil_iff :
    (Audit.ofTable table domain sources).errors = [] ↔
      ∀ d ∈ table, ∀ values, Table.get? domain d.1 = some values →
        ∀ group ∈ d.2, IsStored values group.2 := by
  rw [Audit.ofTable, List.flatMap_eq_nil_iff]
  refine forall₂_congr fun d hd => ?_
  unfold dimensionErrors
  cases hvalues : Table.get? domain d.1 with
  | none => simp
  | some values => simp [List.flatMap_eq_nil_iff, groupFindings_eq_nil_iff]

theorem warnings_eq_nil_iff :
    (Audit.ofTable table domain sources).warnings = [] ↔
      ∀ d ∈ table, ∃ values, Table.get? domain d.1 = some values := by
  rw [Audit.ofTable, List.flatMap_eq_nil_iff]
  refine forall₂_congr fun d hd => ?_
  unfold dimensionWarnings
  cases hvalues : Table.get? domain d.1 <;> simp

/-- A finding about an unknown member tells its group and its position, and lies where the audit
looks for it. -/
theorem exists_of_unknownMember {dimension group member : String} {i : Nat}
    (hf : f ∈ (Audit.ofTable table domain sources).errors)
    (hissue : f.issue = .unknownMember dimension group i member) :
    ∃ groups members, (dimension, groups) ∈ table ∧ (group, members) ∈ groups ∧
      members[i]? = some member ∧ f.span? = f.issue.span? sources := by
  rw [Audit.ofTable, List.mem_flatMap] at hf
  obtain ⟨⟨d, groups⟩, hd, hf⟩ := hf
  unfold dimensionErrors at hf
  cases hvalues : Table.get? domain d with
  | none => simp [hvalues] at hf
  | some values =>
    simp only [hvalues, List.mem_flatMap] at hf
    obtain ⟨⟨g, members⟩, hg, hf⟩ := hf
    unfold groupFindings at hf
    split at hf
    · simp only [List.mem_singleton] at hf
      subst hf
      cases hissue
    · rw [memberFindings_eq, List.mem_map] at hf
      obtain ⟨⟨m, j⟩, hm, rfl⟩ := hf
      have hzip := (List.mem_filter.1 hm).1
      cases hissue
      exact ⟨groups, members, hd, hg, List.mem_zipIdx_iff_getElem?.1 hzip, rfl⟩

end ExamFilter.GroupFile
