import ExamFilter.Proofs.Enumeration
import ExamFilter.Proofs.GroupFile.Findings

/-!
# Completeness of an audit

An audit reports all that is wrong with a table and nothing else, everything once and in the order
of the table. What is wrong is told by its address, which counts the dimensions of the table, the
groups of a dimension and the members of a group.
-/
namespace ExamFilter.GroupFile
open ExamFilter.Filter

variable {table : GroupTable} {domain : Domain} {sources : SourceMap}

/-- The code and the path of a finding. -/
def Finding.report (f : Finding) : String × String := (f.issue.code, f.issue.path)

def dimensionReport (d : String) : String × String := ("UNKNOWN_DIMENSION", s!"groups.{d}")

def groupReport (d g : String) : String × String := ("EMPTY_GROUP", s!"groups.{d}.{g}")

def memberReport (d g : String) (i : Nat) : String × String :=
  ("UNKNOWN_RAW_VALUE", s!"groups.{d}.{g}[{i}]")

/-- An error at an address: a group that is empty, or a member that is not the text of a stored
value. Only dimensions with stored values have errors. -/
inductive IsError (table : GroupTable) (domain : Domain) : List Nat → String × String → Prop
  | emptyGroup {a b : Nat} {d g : String} {groups : Groups} {values : List Value}
      (hd : table[a]? = some (d, groups)) (hvalues : Table.get? domain d = some values)
      (hg : groups[b]? = some (g, [])) :
      IsError table domain [a, b] (groupReport d g)
  | unknownMember {a b i : Nat} {d g m : String} {groups : Groups} {members : List String}
      {values : List Value} (hd : table[a]? = some (d, groups))
      (hvalues : Table.get? domain d = some values) (hg : groups[b]? = some (g, members))
      (hm : members[i]? = some m) (hunknown : ∀ v ∈ values, v.asText ≠ m) :
      IsError table domain [a, b, i] (memberReport d g i)

/-- A warning at an address: no stored values are given for a dimension. -/
inductive IsWarning (table : GroupTable) (domain : Domain) : List Nat → String × String → Prop
  | unknownDimension {a : Nat} {d : String} {groups : Groups} (hd : table[a]? = some (d, groups))
      (hvalues : Table.get? domain d = none) :
      IsWarning table domain [a] (dimensionReport d)

/-- What is wrong with a member of a group. -/
def IsMemberError (d g : String) (values : List Value) (m : String) (i : Nat) (s : List Nat)
    (r : String × String) : Prop :=
  (∀ v ∈ values, v.asText ≠ m) ∧ s = [] ∧ r = memberReport d g i

/-- What is wrong with a group. -/
def IsGroupError (d : String) (values : List Value) (group : String × List String) (s : List Nat)
    (r : String × String) : Prop :=
  group.2 = [] ∧ s = [] ∧ r = groupReport d group.1 ∨
    AtItem group.2 (IsMemberError d group.1 values) s r

/-- What is wrong with a dimension. -/
def IsDimensionError (domain : Domain) (dimension : String × Groups) (s : List Nat)
    (r : String × String) : Prop :=
  ∃ values, Table.get? domain dimension.1 = some values ∧
    AtItem dimension.2 (fun group _ => IsGroupError dimension.1 values group) s r

def IsDimensionWarning (domain : Domain) (dimension : String × Groups) (s : List Nat)
    (r : String × String) : Prop :=
  Table.get? domain dimension.1 = none ∧ s = [] ∧ r = dimensionReport dimension.1

theorem isError_iff {s : List Nat} {r : String × String} :
    AtItem table (fun d _ => IsDimensionError domain d) s r ↔ IsError table domain s r := by
  constructor
  · rintro ⟨a, ⟨d, groups⟩, _, rfl, hd, values, hvalues, b, ⟨g, members⟩, _, rfl, hg, hwrong⟩
    rcases hwrong with ⟨hempty, rfl, rfl⟩ | ⟨i, m, _, rfl, hm, hunknown, rfl, rfl⟩
    · obtain rfl : members = [] := hempty
      exact .emptyGroup hd hvalues hg
    · exact .unknownMember hd hvalues hg hm hunknown
  · intro h
    cases h with
    | emptyGroup hd hvalues hg =>
      exact ⟨_, _, _, rfl, hd, _, hvalues, _, _, _, rfl, hg, .inl ⟨rfl, rfl, rfl⟩⟩
    | unknownMember hd hvalues hg hm hunknown =>
      exact ⟨_, _, _, rfl, hd, _, hvalues, _, _, _, rfl, hg,
        .inr ⟨_, _, _, rfl, hm, hunknown, rfl, rfl⟩⟩

theorem isWarning_iff {s : List Nat} {r : String × String} :
    AtItem table (fun d _ => IsDimensionWarning domain d) s r ↔ IsWarning table domain s r := by
  constructor
  · rintro ⟨a, ⟨d, groups⟩, _, rfl, hd, hvalues, rfl, rfl⟩
    exact .unknownDimension hd hvalues
  · intro h
    cases h with
    | unknownDimension hd hvalues => exact ⟨_, _, _, rfl, hd, hvalues, rfl, rfl⟩

theorem notMem_known_iff {values : List Value} {m : String} :
    m ∉ known values ↔ ∀ v ∈ values, v.asText ≠ m := by
  simp [known]

theorem reports_memberFindings (sources : SourceMap) (d g : String) (values : List Value)
    (members : List String) :
    (memberFindings sources d g values 0 members).map Finding.report =
      members.zipIdx.flatMap fun m =>
        if m.1 ∈ known values then [] else [memberReport d g m.2] := by
  rw [memberFindings_eq, List.map_map]
  induction members.zipIdx with
  | nil => rfl
  | cons m rest ih =>
    rw [List.flatMap_cons, ← ih]
    by_cases hm : m.1 ∈ known values
    · rw [if_pos hm, List.filter_cons_of_neg (by simpa using hm)]
      rfl
    · rw [if_neg hm, List.filter_cons_of_pos (by simpa using hm)]
      rfl

theorem enumerates_members (sources : SourceMap) (d g : String) (values : List Value)
    (members : List String) :
    Enumerates (AtItem members (IsMemberError d g values))
      ((memberFindings sources d g values 0 members).map Finding.report) := by
  rw [reports_memberFindings]
  refine enumerates_zipIdx fun i m _ => ?_
  by_cases hm : m ∈ known values
  · rw [if_pos hm]
    exact enumerates_nil fun s r hr => notMem_known_iff.2 hr.1 hm
  · rw [if_neg hm]
    exact enumerates_singleton fun s r => and_iff_right (notMem_known_iff.1 hm)

theorem enumerates_group (sources : SourceMap) (d : String) (values : List Value)
    (group : String × List String) :
    Enumerates (IsGroupError d values group)
      ((groupFindings sources d values group).map Finding.report) := by
  obtain ⟨g, members⟩ := group
  cases members with
  | nil =>
    have hiff : ∀ s r, IsGroupError d values (g, []) s r ↔ s = [] ∧ r = groupReport d g :=
      fun s r => by simp [IsGroupError, AtItem]
    exact enumerates_singleton hiff
  | cons m rest =>
    refine (enumerates_members sources d g values (m :: rest)).congr fun s r => ?_
    simp [IsGroupError]

theorem enumerates_dimension (domain : Domain) (sources : SourceMap)
    (dimension : String × Groups) :
    Enumerates (IsDimensionError domain dimension)
      ((dimensionErrors domain sources dimension).map Finding.report) := by
  unfold dimensionErrors IsDimensionError
  cases hvalues : Table.get? domain dimension.1 with
  | none => exact enumerates_nil fun s r ⟨values, hnone, _⟩ => by cases hnone
  | some values =>
    have hgroups := enumerates_flatMap dimension.2 fun group _ =>
      enumerates_group sources dimension.1 values group
    rw [← List.map_flatMap] at hgroups
    exact hgroups.congr fun s r => by simp

theorem enumerates_errors (table : GroupTable) (domain : Domain) (sources : SourceMap) :
    Enumerates (IsError table domain)
      ((Audit.ofTable table domain sources).errors.map Finding.report) := by
  have hdimensions := enumerates_flatMap table fun dimension _ =>
    enumerates_dimension domain sources dimension
  rw [← List.map_flatMap] at hdimensions
  exact hdimensions.congr fun s r => isError_iff

theorem enumerates_dimensionWarnings (domain : Domain) (sources : SourceMap)
    (dimension : String × Groups) :
    Enumerates (IsDimensionWarning domain dimension)
      ((dimensionWarnings domain sources dimension).map Finding.report) := by
  unfold dimensionWarnings
  cases hvalues : Table.get? domain dimension.1 with
  | some values =>
    refine enumerates_nil fun s r hr => ?_
    have hnone := hr.1
    rw [hvalues] at hnone
    cases hnone
  | none => exact enumerates_singleton fun s r => and_iff_right hvalues

theorem enumerates_warnings (table : GroupTable) (domain : Domain) (sources : SourceMap) :
    Enumerates (IsWarning table domain)
      ((Audit.ofTable table domain sources).warnings.map Finding.report) := by
  have hdimensions := enumerates_flatMap table fun dimension _ =>
    enumerates_dimensionWarnings domain sources dimension
  rw [← List.map_flatMap] at hdimensions
  exact hdimensions.congr fun s r => isWarning_iff

section Places

/-- The same finding with the place that the sources give. -/
def Finding.located (sources : SourceMap) (f : Finding) : Finding :=
  { f with span? := f.issue.span? sources }

theorem memberFindings_located (sources : SourceMap) (d g : String) (values : List Value) (i : Nat)
    (members : List String) :
    memberFindings sources d g values i members =
      (memberFindings [] d g values i members).map (Finding.located sources) := by
  rw [memberFindings_eq, memberFindings_eq, List.map_map]
  rfl

theorem groupFindings_located (sources : SourceMap) (d : String) (values : List Value)
    (group : String × List String) :
    groupFindings sources d values group =
      (groupFindings [] d values group).map (Finding.located sources) := by
  unfold groupFindings
  split
  · rfl
  · exact memberFindings_located sources d group.1 values 0 group.2

theorem errors_located (table : GroupTable) (domain : Domain) (sources : SourceMap) :
    (Audit.ofTable table domain sources).errors =
      (Audit.ofTable table domain []).errors.map (Finding.located sources) := by
  rw [Audit.ofTable, Audit.ofTable, List.map_flatMap]
  refine List.flatMap_congr fun d _ => ?_
  unfold dimensionErrors
  cases Table.get? domain d.1 with
  | none => rfl
  | some values =>
    rw [List.map_flatMap]
    exact List.flatMap_congr fun group _ => groupFindings_located sources d.1 values group

theorem warnings_located (table : GroupTable) (domain : Domain) (sources : SourceMap) :
    (Audit.ofTable table domain sources).warnings =
      (Audit.ofTable table domain []).warnings.map (Finding.located sources) := by
  rw [Audit.ofTable, Audit.ofTable, List.map_flatMap]
  refine List.flatMap_congr fun d _ => ?_
  unfold dimensionWarnings
  cases Table.get? domain d.1 <;> rfl

end Places

/-- An audit is passed if, and only if, every group of a dimension with stored values has members,
all of which are stored. What it reports are the errors and the warnings of the table, each of them
once and in order. Where the parts of the table are written changes the places of the findings
only. -/
theorem audit_reports_exactly (table : GroupTable) (domain : Domain) (sources : SourceMap) :
    ((Audit.ofTable table domain sources).isValid = true ↔
      ∀ d ∈ table, ∀ values, Table.get? domain d.1 = some values →
        ∀ group ∈ d.2, IsStored values group.2) ∧
    (∀ reports, Enumerates (IsError table domain) reports ↔
      reports = (Audit.ofTable table domain sources).errors.map Finding.report) ∧
    (∀ reports, Enumerates (IsWarning table domain) reports ↔
      reports = (Audit.ofTable table domain sources).warnings.map Finding.report) ∧
    (Audit.ofTable table domain sources).errors =
      (Audit.ofTable table domain []).errors.map (Finding.located sources) ∧
    (Audit.ofTable table domain sources).warnings =
      (Audit.ofTable table domain []).warnings.map (Finding.located sources) := by
  refine ⟨?_, fun reports => (enumerates_errors table domain sources).iff_eq,
    fun reports => (enumerates_warnings table domain sources).iff_eq,
    errors_located table domain sources, warnings_located table domain sources⟩
  rw [Audit.isValid, List.isEmpty_iff]
  exact errors_eq_nil_iff

/-- A member that is repeated is reported each time, and nothing in a dimension without stored
values is an error. -/
example :
    (Audit.ofTable [("S", [("G", ["a", "b", "a"]), ("H", [])]), ("T", [("I", ["a"])])]
      [("S", [.text "b"])] []).errors.map Finding.report =
      [("UNKNOWN_RAW_VALUE", "groups.S.G[0]"), ("UNKNOWN_RAW_VALUE", "groups.S.G[2]"),
        ("EMPTY_GROUP", "groups.S.H")] := by
  decide

end ExamFilter.GroupFile
