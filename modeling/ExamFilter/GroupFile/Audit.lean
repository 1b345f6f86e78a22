import ExamFilter.Filter.Predicate
import ExamFilter.GroupFile.Places
import ExamFilter.Text.Basic
import ExamFilter.Text.Lower

/-!
# Audit of a group table

Every group has to expand to values that are really stored. The stored values are given by
dimensions; a dimension for which none are given is passed over with a warning. With an unknown name
the names that come closest to it are suggested, regardless of case. A name that contains the other
one is as close as can be meant.
-/
namespace ExamFilter.GroupFile
open ExamFilter.Filter

/-- The stored values of the dimensions. -/
abbrev Domain := Table String (List Value)

inductive Issue where
  | unknownDimension (dimension : String)
  | emptyGroup (dimension group : String)
  | unknownMember (dimension group : String) (i : Nat) (member : String)
  deriving DecidableEq, Repr

namespace Issue

def code : Issue → String
  | unknownDimension _ => "UNKNOWN_DIMENSION"
  | emptyGroup _ _ => "EMPTY_GROUP"
  | unknownMember _ _ _ _ => "UNKNOWN_RAW_VALUE"

def message : Issue → String
  | unknownDimension d => s!"No value domain supplied for dimension '{d}'"
  | emptyGroup d g => s!"Group '{g}' of '{d}' expands to no values"
  | unknownMember d g _ m =>
    s!"Group '{g}' of '{d}' expands to '{m}', which is not a known {d} value"

def path : Issue → String
  | unknownDimension d => s!"groups.{d}"
  | emptyGroup d g => s!"groups.{d}.{g}"
  | unknownMember d g i _ => s!"groups.{d}.{g}[{i}]"

/-- A member that has no place of its own has that of its group. -/
def span? (sources : SourceMap) (issue : Issue) : Option Span :=
  match issue with
  | unknownMember d g _ _ =>
    (Table.get? sources issue.path).orElse fun _ => Table.get? sources s!"groups.{d}.{g}"
  | _ => Table.get? sources issue.path

end Issue

structure Finding where
  issue : Issue
  span? : Option Span
  suggestions : List String
  deriving DecidableEq, Repr

/-- How far two names in lower case are apart. Otherwise than by containment they are the closer
the more characters of the first occur in the second. -/
def distance (name candidate : String) : Int :=
  let a := (Text.lower name).toList
  let b := (Text.lower candidate).toList
  if Text.occursIn a b || Text.occursIn b a then 0
  else name.length + candidate.length - 2 * (a.filter b.contains).length

def maxSuggestions : Nat := 3

/-- The closest candidates; of two that are equally close the first comes first. -/
def suggestions (name : String) (candidates : List String) : List String :=
  (candidates.mergeSort fun a b => distance name a ≤ distance name b).take maxSuggestions

/-- The texts of the stored values. -/
def known (values : List Value) : List String := values.map Value.asText

/-- What is suggested for a value is looked for among the stored ones in their order. -/
def sorted (texts : List String) : List String :=
  (firsts texts).mergeSort fun a b => !(b < a)

def memberFindings (sources : SourceMap) (dimension group : String) (values : List Value) :
    Nat → List String → List Finding
  | _, [] => []
  | i, m :: rest =>
    let later := memberFindings sources dimension group values (i + 1) rest
    if m ∈ known values then later
    else
      let issue := Issue.unknownMember dimension group i m
      ⟨issue, issue.span? sources, suggestions m (sorted (known values))⟩ :: later

def groupFindings (sources : SourceMap) (dimension : String) (values : List Value)
    (group : String × List String) : List Finding :=
  if group.2.isEmpty then
    let issue := Issue.emptyGroup dimension group.1
    [⟨issue, issue.span? sources, []⟩]
  else memberFindings sources dimension group.1 values 0 group.2

/-- The errors of a dimension for which stored values are given. -/
def dimensionErrors (domain : Domain) (sources : SourceMap) (d : String × Groups) :
    List Finding :=
  match Table.get? domain d.1 with
  | some values => d.2.flatMap (groupFindings sources d.1 values)
  | none => []

def dimensionWarnings (domain : Domain) (sources : SourceMap) (d : String × Groups) :
    List Finding :=
  match Table.get? domain d.1 with
  | some _ => []
  | none =>
    let issue := Issue.unknownDimension d.1
    [⟨issue, issue.span? sources, suggestions d.1 (Table.keys domain)⟩]

structure Audit where
  errors : List Finding
  warnings : List Finding

/-- All findings in the order of the table. -/
def Audit.ofTable (table : GroupTable) (domain : Domain) (sources : SourceMap) : Audit where
  errors := table.flatMap (dimensionErrors domain sources)
  warnings := table.flatMap (dimensionWarnings domain sources)

def Audit.isValid (a : Audit) : Bool := a.errors.isEmpty

end ExamFilter.GroupFile
