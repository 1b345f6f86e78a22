import ExamFilter.Form.Problem
import ExamFilter.Value

/-!
# Reading submitted values

Texts and lists are read from values of several kinds. Bytes are the text that they encode, and any
collection whose items stand by themselves is the list of them.
-/
namespace ExamFilter.Form

def decode (octets : List UInt8) : Except Fault String :=
  match String.fromUTF8? ⟨octets.toArray⟩ with
  | some s => .ok s
  | none => .error .encoding

def textOf : Value → Except Fault String
  | .text s => .ok s
  | .bytes octets | .byteArray octets => decode octets
  | _ => .error .text

def itemsOf : Value → Except Fault (List Value)
  | .list items | .tuple items | .set items | .frozenSet items => .ok items
  | .range start stop step => .ok ((rangeItems start stop step).map .int)
  | _ => .error .list

def readText (place : List Step) (v : Value) : Checked String := .located place (textOf v)

/-- A value that may be left out. -/
def readOptional (read : List Step → Value → Checked α) (place : List Step) :
    Value → Checked (Option α)
  | .null => .ok none
  | v => (read place v).map some

def readTexts (place : List Step) (v : Value) : Checked (List String) :=
  (Checked.located place (itemsOf v)).bind
    (Checked.all (fun i item => readText (place ++ [.index i]) item) 0)

@[simp] theorem readText_text (place : List Step) (s : String) :
    readText place (.text s) = .ok s := rfl

end ExamFilter.Form
