import ExamFilter.Text.Blank
import ExamFilter.Text.Letter

/-!
# Tokens of a written date

A date in words and numbers is taken apart into words, numbers, single blanks and other single
characters. A point is glued to the letters or digits before it, as in `10.30` and `a.m`, and a
comma to a number of two digits or more; what has been glued wrongly is taken apart again.
-/
namespace ExamFilter.Calendar

/-- The run of characters that a token is made of. A run is dotted once a point or comma has been
glued to it. -/
inductive Run where
  | word | dottedWord | number | dottedNumber
  deriving DecidableEq, Repr

/-- A token that is still being read. -/
structure Partial where
  run : Run
  /-- The characters read so far, the last first. -/
  chars : List Char
  /-- Some character has been looked at after a letter. -/
  letters : Bool

def isGlue (c : Char) : Bool := c = '.' || c = ','

/-- The pieces between points and commas, and these themselves; `piece` is the beginning of the
piece at hand, the last character first. -/
def unglue (piece : List Char) : List Char → List (List Char)
  | [] => if piece.isEmpty then [] else [piece.reverse]
  | c :: cs =>
    if isGlue c then
      (if piece.isEmpty then [[c]] else [piece.reverse, [c]]) ++ unglue [] cs
    else unglue (c :: piece) cs

/-- A comma in a number without a point is a decimal comma. -/
def pointed (cs : List Char) : List Char :=
  if cs.contains '.' then cs else cs.map fun c => if c = ',' then '.' else c

def Partial.finish (p : Partial) : List (List Char) :=
  let cs := p.chars.reverse
  let gluedWrongly :=
    p.letters || 1 < cs.count '.' || (p.chars.head?.map isGlue).getD false
  match p.run with
  | .word | .number => [cs]
  | .dottedWord => if gluedWrongly then unglue [] cs else [cs]
  | .dottedNumber => if gluedWrongly then unglue [] cs else [pointed cs]

/-- The token with one more character, unless the character does not belong to it. -/
def Partial.extend? (p : Partial) (c : Char) : Option Partial :=
  let afterPoint := p.chars.head? = some '.'
  match p.run with
  | .word =>
    if Text.isLetter c then some ⟨.word, c :: p.chars, true⟩
    else if c = '.' then some ⟨.dottedWord, c :: p.chars, true⟩
    else none
  | .number =>
    if Text.isDigit c then some ⟨.number, c :: p.chars, p.letters⟩
    else if c = '.' || c = ',' && 2 ≤ p.chars.length then
      some ⟨.dottedNumber, c :: p.chars, p.letters⟩
    else none
  | .dottedWord =>
    if c = '.' || Text.isLetter c then some ⟨.dottedWord, c :: p.chars, true⟩
    else if Text.isDigit c && afterPoint then some ⟨.dottedNumber, c :: p.chars, true⟩
    else none
  | .dottedNumber =>
    if c = '.' || Text.isDigit c then some ⟨.dottedNumber, c :: p.chars, p.letters⟩
    else if Text.isLetter c && afterPoint then some ⟨.dottedWord, c :: p.chars, p.letters⟩
    else none

/-- A letter that ended a dotted word has been looked past. -/
def Partial.finishBefore (p : Partial) : List (List Char) :=
  if p.run = .dottedWord then { p with letters := true }.finish else p.finish

/-- The token that a character begins, or the token that it is by itself. -/
def begin (c : Char) : Partial ⊕ List Char :=
  if Text.isLetter c then .inl ⟨.word, [c], false⟩
  else if Text.isDigit c then .inl ⟨.number, [c], false⟩
  else .inr [if Text.isBlank c then ' ' else c]

def tokensFrom (p : Option Partial) : List Char → List (List Char)
  | [] => (p.map Partial.finish).getD []
  | c :: cs =>
    match p.bind (·.extend? c) with
    | some q => tokensFrom (some q) cs
    | none =>
      (p.map Partial.finishBefore).getD [] ++
        match begin c with
        | .inl q => tokensFrom (some q) cs
        | .inr token => token :: tokensFrom none cs

/-- Null characters are passed over. -/
def tokens (cs : List Char) : List (List Char) := tokensFrom none (cs.filter (·.toNat ≠ 0))

end ExamFilter.Calendar
