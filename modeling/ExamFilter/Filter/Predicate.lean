import ExamFilter.Filter.Groups
import ExamFilter.Selection.Classify
import ExamFilter.Text.Basic

/-!
# Predicates of dimensions

A selection for a dimension is compiled into the predicate that the stored values of that
dimension have to satisfy, or into none when the dimension is unconstrained.
-/
namespace ExamFilter.Filter

/-- What a selection without any usable value compiles to. -/
inductive EmptyPolicy where
  | unfiltered
  | matchNone
  deriving DecidableEq, Repr, Inhabited

def EmptyPolicy.name : EmptyPolicy → String
  | .unfiltered => "unfiltered"
  | .matchNone => "match_none"

def EmptyPolicy.ofName? (s : String) : Option EmptyPolicy :=
  if s = "unfiltered" then some .unfiltered
  else if s = "match_none" then some .matchNone
  else none

/-- The texts one of which the dimension must have. `values` are escaped for a place inside single
quotes, `bindValues` are the same texts as they are. -/
structure Membership where
  dimension : String
  values : List String
  bindValues : List String
  values_ne : values ≠ []
  deriving DecidableEq

inductive Predicate where
  | oneOf (m : Membership)
  | matchNone (dimension : String)
  deriving DecidableEq

inductive PredicateError where
  | noValues (dimension : String)
  | unknownKind (kind : String)
  | unknownPolicy (name : String)
  deriving DecidableEq, Repr

def PredicateError.message : PredicateError → String
  | .noValues dimension => s!"InPredicate for '{dimension}' must have at least one value"
  | .unknownKind kind => s!"Unknown predicate type: {kind}"
  | .unknownPolicy name => s!"'{name}' is not a valid EmptySelectionPolicy"

def EmptyPolicy.read (name : String) : Except PredicateError EmptyPolicy :=
  match EmptyPolicy.ofName? name with
  | some p => .ok p
  | none => .error (.unknownPolicy name)

def Membership.ofValues (dimension : String) (values bindValues : List String) :
    Except PredicateError Membership :=
  if h : values ≠ [] then .ok ⟨dimension, values, bindValues, h⟩
  else .error (.noValues dimension)

/-- Single quotes are doubled, as inside a literal of standard SQL. -/
def escapeLiteral (s : String) : String := Text.double '\'' s

/-- The trimmed text of a value, empty when the value counts as not given. -/
def clean (v : Value) : String := if v.isGiven then Text.trim v.asText else ""

def isText (s : String) : Value → Bool
  | .text t => t = s
  | _ => false

/-- A member that is selected already is not added again. -/
def addMember (selected : List Value) (member : String) : List Value :=
  if selected.any (isText member) then selected else selected ++ [.text member]

def addGroup (groups : Groups) (selected : List Value) (v : Value) : List Value :=
  ((Table.get? groups (clean v)).getD []).foldl addMember selected

/-- The selected values, followed by the members of every group that one of them names. -/
def expand (groups : Groups) (selected : List Value) : List Value :=
  selected.foldl (addGroup groups) selected

/-- Every text once, at the place of its first occurrence. -/
def firsts : List String → List String
  | [] => []
  | s :: rest => s :: (firsts rest).filter (· ≠ s)

/-- The trimmed texts without blanks, markers and repetitions. -/
def sanitize (values : List Value) : List String :=
  firsts ((values.map clean).filter fun s => s ≠ "" && s ≠ Selection.allMarker)

/-- The group table and the policy under which selections are compiled. -/
structure Rules where
  groups : GroupTable := GroupTable.builtin
  onEmpty : EmptyPolicy := .unfiltered

namespace Rules

/-- The predicate of a list of selected values. -/
def compileValues (r : Rules) (dimension : String) (values : List Value) : Option Predicate :=
  let texts := sanitize (expand (r.groups.groupsFor dimension) values)
  if h : texts ≠ [] then
    some (.oneOf ⟨dimension, texts.map escapeLiteral, texts, by simpa using h⟩)
  else match r.onEmpty with
    | .matchNone => some (.matchNone dimension)
    | .unfiltered => none

def compileSelection (r : Rules) (dimension : String) : Selection Value → Option Predicate
  | .noFilter | .wildcard _ => none
  | .single v => r.compileValues dimension [v]
  | .many vs => r.compileValues dimension vs

/-- The predicate that a request value stands for; `none` leaves the dimension unconstrained. -/
def compile (r : Rules) (dimension : String) (v : Value) : Option Predicate :=
  r.compileSelection dimension (Selection.ofValue v)

end Rules

end ExamFilter.Filter
