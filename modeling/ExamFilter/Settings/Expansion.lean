import ExamFilter.Table

/-!
# References in values

A value refers to a variable by `${NAME}`, or by `${NAME:-TEXT}` with a text that stands for a
variable which is not there. A variable that is there without a value is empty.
-/
namespace ExamFilter.Settings

/-- Variables, some of which are there without a value. -/
abbrev Variables := Table String (Option String)

/-- A part of a value. -/
inductive Part where
  | character (c : Char)
  | reference (name : List Char) (default : List Char)
  deriving DecidableEq, Repr

/-- The text up to the closing brace, and what follows the brace. -/
def closed? (cs : List Char) : Option (List Char × List Char) :=
  match cs.dropWhile (· ≠ '\x7d') with
  | _ :: rest => some (cs.takeWhile (· ≠ '\x7d'), rest)
  | [] => none

/-- Reads a reference after its opening brace. -/
def reference? (cs : List Char) : Option (Part × List Char) :=
  let isNameChar (c : Char) : Bool := c ≠ '\x7d' && c ≠ ':'
  let name := cs.takeWhile isNameChar
  match cs.dropWhile isNameChar with
  | '\x7d' :: rest => some (.reference name [], rest)
  | ':' :: '-' :: rest => (closed? rest).map fun (text, rest) => (.reference name text, rest)
  | _ => none

/-- Reads the first part. A sign that does not begin a reference stands for itself. -/
def readPart? : List Char → Option (Part × List Char)
  | [] => none
  | '$' :: '\x7b' :: cs => some ((reference? cs).getD (.character '$', '\x7b' :: cs))
  | c :: cs => some (.character c, cs)

/-- The parts of a text that has at most so many. -/
def parts : Nat → List Char → List Part
  | 0, _ => []
  | n + 1, cs => match readPart? cs with
    | some (part, rest) => part :: parts n rest
    | none => []

def Part.expand (given : Variables) : Part → List Char
  | .character c => [c]
  | .reference name default => match Table.get? given (String.ofList name) with
    | some value => (value.getD "").toList
    | none => default

/-- The value in which every reference has been replaced. -/
def expand (given : Variables) (value : List Char) : List Char :=
  (parts value.length value).flatMap (·.expand given)

end ExamFilter.Settings
