import ExamFilter.Filter.Groups
import ExamFilter.GroupFile.Places

/-!
# The shape of a group file

Below the key `groups` every dimension maps the names of its groups to lists of values. A single
text stands for the list of it, and a null in a list for nothing. Names and members are the texts of
keys and values, whatever these are.
-/
namespace ExamFilter.GroupFile
open Yaml ExamFilter.Filter

/-- What has the wrong shape. -/
inductive ShapeFault where
  | root
  | groups
  | dimension (name : String)
  | group (dimension name : String)
  deriving DecidableEq, Repr

def ShapeFault.path? : ShapeFault → Option String
  | .root => none
  | .groups => some "groups"
  | .dimension d => some s!"groups.{d}"
  | .group d g => some s!"groups.{d}.{g}"

def ShapeFault.message : ShapeFault → String
  | .root => "Group table must be a YAML mapping"
  | .groups => "'groups' must be a mapping of dimension names"
  | .dimension d => s!"Dimension '{d}' must map group names to value lists"
  | .group d g => s!"Group '{g}' of '{d}' must be a list of values"

/-- A fault and where it lies. -/
structure ShapeError where
  fault : ShapeFault
  span? : Option Span
  deriving DecidableEq, Repr

def ShapeError.message (e : ShapeError) : String :=
  match e.span? with
  | some span => s!"{e.fault.message} ({span.file}:{span.line})"
  | none => e.fault.message

def ShapeFault.locate (sources : SourceMap) (fault : ShapeFault) : ShapeError :=
  ⟨fault, fault.path?.bind (Table.get? sources)⟩

/-- Why a document is no group table. -/
inductive TableFault where
  | shape (fault : ShapeFault)
  /-- A name or a member is not printed. -/
  | print (e : Value.PrintError)
  deriving DecidableEq, Repr

/-- The value of a node that holds no other nodes. -/
def leaf? : Tree → Option Value
  | .leaf v => some v
  | _ => none

def isNull : Value → Bool
  | .null => true
  | _ => false

/-- The values of a group that stand for members. -/
def memberValues? : Tree → Option (List Value)
  | .leaf (.text s) => some [.text s]
  | .list items =>
    (items.mapM fun item => leaf? item.2).map fun values => values.filter fun v => !isNull v
  | _ => none

/-- The entries of a mapping. -/
def entries? : Tree → Option (List (Value × Option Mark × Tree))
  | .map entries => some entries
  | _ => none

def isKey (name : String) : Value → Bool
  | .text s => s = name
  | _ => false

def readGroup (dimension : String) (e : Value × Option Mark × Tree) :
    Except TableFault (String × List String) := do
  let name ← (printKey e.1).mapError .print
  match memberValues? e.2.2 with
  | some values => return (name, ← values.mapM fun v => v.print.mapError .print)
  | none => throw (.shape (.group dimension name))

/-- Of two groups with the same name the last one counts. -/
def readGroups (dimension : String) (entries : List (Value × Option Mark × Tree)) :
    Except TableFault Groups :=
  (entries.mapM (readGroup dimension)).map Table.ofPairs

def readDimension (e : Value × Option Mark × Tree) : Except TableFault (String × Groups) := do
  let name ← (printKey e.1).mapError .print
  match entries? e.2.2 with
  | some groups => return (name, ← readGroups name groups)
  | none => throw (.shape (.dimension name))

/-- The group table that a document holds. -/
def readTable (t : Tree) : Except TableFault GroupTable :=
  match entries? t with
  | none => .error (.shape .root)
  | some entries =>
    match entries.find? fun e => isKey "groups" e.1 with
    | none => .ok []
    | some (_, _, groups) =>
      match entries? groups with
      | some dimensions => (dimensions.mapM readDimension).map Table.ofPairs
      | none => .error (.shape .groups)

end ExamFilter.GroupFile
