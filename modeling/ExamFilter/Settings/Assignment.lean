import ExamFilter.Text.Blank

/-!
# Assignments in a file

A file of settings assigns values to names. `export` may stand before a name, and names and values
may stand in quotes, in which case a value may go on over several lines. A sign `#` begins a
comment, but in a value without quotes only after white space. A name alone is left without a value.
-/
namespace ExamFilter.Settings

structure Assignment where
  name : String
  value : Option (List Char)

/-- White space within a line. -/
def isGap (c : Char) : Bool := Text.isBlank c && c ≠ '\n'

def dropGap (cs : List Char) : List Char := cs.dropWhile isGap

def isInLine (c : Char) : Bool := c ≠ '\n'

/-- What has been read, or nothing if there is no assignment, and the text from which to go on. -/
abbrev Outcome (α : Type) := Option α × List Char

/-- The text after the word `export` and white space, if it begins with them. -/
def withoutExport (cs : List Char) : List Char :=
  let word := "export".toList
  let rest := cs.drop word.length
  if word.isPrefixOf cs && (rest.head?.map isGap).getD false then dropGap rest else cs

/-- The number of characters before the quote that closes a text. A quote after a backslash closes
it only if no other one does, and the last of those; `last?` is the place of the latest so far. -/
def closingFrom (quote : Char) (n : Nat) (last? : Option Nat) : List Char → Option Nat
  | [] => last?
  | '\\' :: c :: cs =>
    if c = quote then closingFrom quote (n + 2) (some (n + 1)) cs
    else closingFrom quote (n + 1) last? (c :: cs)
  | c :: cs => if c = quote then some n else closingFrom quote (n + 1) last? cs

/-- The text before the closing quote, and what follows the quote. -/
def splitQuoted? (quote : Char) (cs : List Char) : Option (List Char × List Char) :=
  (closingFrom quote 0 none cs).map fun n => (cs.take n, cs.drop (n + 1))

/-- The characters that a backslash and a letter stand for between double quotes. -/
def controlChar? (c : Char) : Option Char :=
  match c with
  | 'a' => some '\x07'
  | 'b' => some '\x08'
  | 'f' => some '\x0c'
  | 'n' => some '\n'
  | 'r' => some '\r'
  | 't' => some '\t'
  | 'v' => some '\x0b'
  | _ => none

/-- What a backslash and the character stand for, if they are an escape. -/
def escaped? (quote c : Char) : Option Char :=
  if c = '\\' || c = '\'' then some c
  else if quote = '\'' then none
  else if c = '"' then some c
  else controlChar? c

/-- The text in which escapes have been replaced. -/
def unescape (quote : Char) : List Char → List Char
  | '\\' :: c :: cs => match escaped? quote c with
    | some x => x :: unescape quote cs
    | none => '\\' :: unescape quote (c :: cs)
  | c :: cs => c :: unescape quote cs
  | [] => []

/-- The text without a comment, which begins with a sign after white space. -/
def withoutComment : List Char → List Char
  | [] => []
  | c :: cs =>
    if Text.isBlank c && (Text.dropBlank cs).head? = some '#' then []
    else c :: withoutComment cs

/-- The name is empty before a comment. A quote that is not closed gives no name. -/
def readName (cs : List Char) : Outcome (List Char) :=
  match cs with
  | '#' :: _ => (some [], cs)
  | '\'' :: rest =>
    let isInside (c : Char) : Bool := c ≠ '\''
    match rest.takeWhile isInside, rest.dropWhile isInside with
    | c :: name, _ :: rest => (some (c :: name), rest)
    | _, _ => (none, cs)
  | _ =>
    let isNameChar (c : Char) : Bool := c ≠ '=' && c ≠ '#' && !Text.isBlank c
    match cs.takeWhile isNameChar with
    | [] => (none, cs)
    | name => (some name, cs.dropWhile isNameChar)

def readQuoted (quote : Char) (cs : List Char) : Outcome (List Char) :=
  match splitQuoted? quote cs with
  | some (text, rest) => (some (unescape quote text), rest)
  | none => (none, cs)

def readValue (cs : List Char) : Outcome (List Char) :=
  match cs with
  | '\'' :: rest => readQuoted '\'' rest
  | '"' :: rest => readQuoted '"' rest
  | _ => (some (Text.trimChars (withoutComment (cs.takeWhile isInLine))), cs.dropWhile isInLine)

/-- Reads the value after an equals sign, or no value if there is no such sign. -/
def readOptionalValue (cs : List Char) : Outcome (Option (List Char)) :=
  match cs with
  | '=' :: rest => match readValue (dropGap rest) with
    | (some v, rest) => (some (some v), rest)
    | (none, rest) => (none, rest)
  | _ => (some none, cs)

/-- The text after the end of a line, before which a comment may stand. -/
def endOfLine? (cs : List Char) : Option (List Char) :=
  match dropGap cs with
  | [] => some []
  | '\n' :: rest => some rest
  | '#' :: rest => some (rest.dropWhile isInLine).tail
  | _ => none

/-- The text after the line that it begins in. -/
def nextLine (cs : List Char) : List Char := (cs.dropWhile isInLine).tail

/-- Reads one assignment. The rest of a line in which there is none is passed over. -/
def readAssignment (cs : List Char) : Outcome Assignment :=
  match readName (withoutExport (Text.dropBlank cs)) with
  | (none, rest) => (none, nextLine rest)
  | (some name, rest) => match readOptionalValue (dropGap rest) with
    | (none, rest) => (none, nextLine rest)
    | (some value, rest) => match endOfLine? rest with
      | none => (none, nextLine rest)
      | some next => (if name = [] then none else some ⟨String.ofList name, value⟩, next)

/-- The assignments of a text that has at most so many lines. -/
def assignmentsFrom : Nat → List Char → List Assignment
  | 0, _ => []
  | _, [] => []
  | n + 1, cs => (readAssignment cs).1.toList ++ assignmentsFrom n (readAssignment cs).2

def assignments (cs : List Char) : List Assignment := assignmentsFrom cs.length cs

end ExamFilter.Settings
