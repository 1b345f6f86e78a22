import ExamFilter.GroupFile.Limits
import ExamFilter.GroupFile.Shape
import ExamFilter.Text.Basic
import ExamFilter.Text.Quoted
import ExamFilter.Yaml.Document

/-!
# Loading group tables

From the text of a group file to the group table and the places of its parts.
-/
namespace ExamFilter.GroupFile
open ExamFilter.Filter

inductive LoadError where
  | safety (e : SafetyError)
  /-- The file is no document. -/
  | invalid (file : String)
  /-- A text in the document has no value, or a value is no key. -/
  | value (e : Yaml.ValueFault)
  | shape (e : ShapeError)
  /-- A key or a member has no text. -/
  | print (e : Value.PrintError)
  /-- There is no file of that name. -/
  | missing (file : String)
  /-- There is a directory of that name. -/
  | directory (name : String)
  /-- The bytes of the file are no text. -/
  | notText

def LoadError.message : LoadError → String
  | .safety e => e.message
  | .invalid file => s!"Invalid YAML in {file}"
  | .value e => e.message
  | .shape e => e.message
  | .print e => e.message
  | .missing file => s!"[Errno 2] No such file or directory: {Text.quoted file}"
  | .directory name => s!"[Errno 21] Is a directory: {Text.quoted name}"
  | .notText => "invalid UTF-8"

def LoadError.ofFault (sources : SourceMap) : TableFault → LoadError
  | .shape fault => .shape (fault.locate sources)
  | .print e => .print e

/-- A group table and where its parts are written. -/
structure Loaded where
  table : GroupTable := []
  sources : SourceMap := []

def ofDocument (file : String) : Yaml.Tree → Except LoadError Loaded
  | .leaf .null => .ok {}
  | t => do
    if !t.isFinite then throw (.safety (.tooManyNodes maxNodes))
    (checkNodes maxNodes t.toValue).mapError .safety
    let sources ← (SourceMap.ofTree file t).mapError .print
    let table ← (readTable t).mapError (.ofFault sources)
    return { table, sources }

/-- Loading with any reader of documents, where `file` is the name that messages give to the
text. -/
def loadWith (read : List Char → Except Yaml.Fault Yaml.Tree) (file : String) (cs : List Char) :
    Except LoadError Loaded := do
  (checkText cs).mapError .safety
  let t ← (read cs).mapError fun
    | .value e => .value e
    | _ => .invalid file
  ofDocument file t

/-- The table in a text. -/
def load (file : String) (cs : List Char) : Except LoadError Loaded :=
  loadWith Yaml.readDocument file cs

/-- What a name in the file system stands for. -/
inductive Entry where
  | file (octets : List UInt8)
  | directory

/-- Files and directories by their names. -/
abbrev Files := String → Option Entry

def loadFile (files : Files) (file : String) : Except LoadError Loaded :=
  match files file with
  | none => .error (.missing file)
  | some .directory => .error (.directory file)
  | some (.file octets) =>
    match String.fromUTF8? ⟨octets.toArray⟩ with
    | none => .error .notText
    | some s => load file (Text.normalizeBreaks s.toList)

end ExamFilter.GroupFile
