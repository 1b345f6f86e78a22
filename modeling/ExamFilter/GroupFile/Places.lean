import ExamFilter.Table
import ExamFilter.Value.Text
import ExamFilter.Yaml.Tree

/-!
# Places in a group file

Keys and items are found under paths such as `groups.Stream.JR ELITE[0]`.
-/
namespace ExamFilter.GroupFile
open Yaml

/-- A place in a file, counted from one. -/
structure Span where
  file : String
  line : Nat
  column : Nat
  deriving DecidableEq, Repr

def Span.ofMark (file : String) (m : Mark) : Span := ⟨file, m.line + 1, m.column + 1⟩

/-- The places of nodes by their paths. -/
abbrev SourceMap := Table String Span

/-- The text of a key, however long it is. Mappings as keys are printed as lists of pairs. -/
def keyText : Value → String
  | .dict entries =>
    let pairs := entries.map fun (k, v) => Value.bracketed "(" ")" [k.quoted, v.quoted]
    "ordereddict(" ++ (if pairs.isEmpty then "" else Value.bracketed "[" "]" pairs) ++ ")"
  | key => key.asText

/-- The text of a key. -/
def printKey (key : Value) : Except Value.PrintError String :=
  Value.printedIf key.isPrintable (keyText key)

/-- A key at the root has no path before it. -/
def keyPath (path name : String) : String := if path = "" then name else s!"{path}.{name}"

def itemPath (path : String) (i : Nat) : String := s!"{path}[{i}]"

mutual

/-- The places below a node with the given path, every node coming before those below it. -/
def places (path : String) : Tree → Except Value.PrintError (List (String × Mark))
  | .leaf _ | .endless _ => .ok []
  | .list items => itemPlaces path 0 items
  | .map entries => entryPlaces path entries

def itemPlaces (path : String) (i : Nat) :
    List (Option Mark × Tree) → Except Value.PrintError (List (String × Mark))
  | [] => .ok []
  | (m?, t) :: rest => do
    let own := (m?.map fun m => (itemPath path i, m)).toList
    let below ← places (itemPath path i) t
    return own ++ below ++ (← itemPlaces path (i + 1) rest)

def entryPlaces (path : String) :
    List (Value × Option Mark × Tree) → Except Value.PrintError (List (String × Mark))
  | [] => .ok []
  | (key, m?, t) :: rest => do
    let name ← printKey key
    let own := (m?.map fun m => (keyPath path name, m)).toList
    let below ← places (keyPath path name) t
    return own ++ below ++ (← entryPlaces path rest)

end

/-- Of two nodes with the same path the last one counts. -/
def SourceMap.ofTree (file : String) (t : Tree) : Except Value.PrintError SourceMap :=
  (places "" t).map fun ps => Table.ofPairs (ps.map fun p => (p.1, Span.ofMark file p.2))

end ExamFilter.GroupFile
