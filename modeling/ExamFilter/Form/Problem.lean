/-!
# Problems with submitted fields

What is wrong with a submitted value, and where in the submission it stands.
-/
namespace ExamFilter.Form

inductive Fault where
  | text | integer | number | list | truth | path
  | encoding | integerText | numberText | truthText
  | fractional | finite | size
  | option (choices : String)
  | missing | object | json
  deriving DecidableEq, Repr

def Fault.code : Fault → String
  | .text => "string_type"
  | .integer => "int_type"
  | .number => "float_type"
  | .list => "list_type"
  | .truth => "bool_type"
  | .path => "path_type"
  | .encoding => "string_unicode"
  | .integerText => "int_parsing"
  | .numberText => "float_parsing"
  | .truthText => "bool_parsing"
  | .fractional => "int_from_float"
  | .finite => "finite_number"
  | .size => "int_parsing_size"
  | .option _ => "enum"
  | .missing => "missing"
  | .object => "model_attributes_type"
  | .json => "json_invalid"

def Fault.message : Fault → String
  | .text => "Input should be a valid string"
  | .integer => "Input should be a valid integer"
  | .number => "Input should be a valid number"
  | .list => "Input should be a valid list"
  | .truth => "Input should be a valid boolean"
  | .path => "Input is not a valid path for <class 'pathlib.Path'>"
  | .encoding => "Input should be a valid string, unable to parse raw data as a unicode string"
  | .integerText => "Input should be a valid integer, unable to parse string as an integer"
  | .numberText => "Input should be a valid number, unable to parse string as a number"
  | .truthText => "Input should be a valid boolean, unable to interpret input"
  | .fractional => "Input should be a valid integer, got a number with a fractional part"
  | .finite => "Input should be a finite number"
  | .size => "Unable to parse input string as an integer, exceeded maximum size"
  | .option choices => s!"Input should be {choices}"
  | .missing => "Field required"
  | .object => "Input should be a valid dictionary or object to extract fields from"
  | .json => "JSON decode error"

/-- One step from a value into a part of it, or to one of the forms that it could have. -/
inductive Step where
  | field (name : String)
  | index (i : Nat)
  | form (name : String)
  deriving DecidableEq, Repr

structure Problem where
  fault : Fault
  place : List Step
  deriving DecidableEq, Repr

/-- The outcome of checking a value: all problems found, or the value that was read. -/
abbrev Checked (α : Type) := Except (List Problem) α

namespace Checked

def fail (fault : Fault) (place : List Step) : Checked α := .error [⟨fault, place⟩]

/-- The outcome of reading the value at the given place. -/
def located (place : List Step) : Except Fault α → Checked α
  | .ok x => .ok x
  | .error fault => fail fault place

/-- Both parts are checked, and the problems of the first come first. -/
def both (a : Checked α) (b : Checked β) : Checked (α × β) :=
  match a, b with
  | .ok x, .ok y => .ok (x, y)
  | .error p, .ok _ => .error p
  | .ok _, .error q => .error q
  | .error p, .error q => .error (p ++ q)

/-- All items are checked. -/
def all (check : Nat → α → Checked β) : Nat → List α → Checked (List β)
  | _, [] => .ok []
  | i, x :: xs => ((check i x).both (all check (i + 1) xs)).map fun p => p.1 :: p.2

end Checked

end ExamFilter.Form
