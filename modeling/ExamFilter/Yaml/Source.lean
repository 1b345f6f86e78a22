/-!
# Characters in their places

A document is read as the list of its characters, each of which knows its line and its column. A
null character stands at the end; none other gets that far.
-/
namespace ExamFilter.Yaml

/-- A line and a column, both counted from zero. -/
structure Mark where
  line : Nat
  column : Nat
  deriving DecidableEq, Repr, Inhabited

structure Glyph where
  char : Char
  mark : Mark
  /-- The number of characters before this one. -/
  offset : Nat

/-- The characters from some place on. -/
abbrev Source := List Glyph

/-- Whether a document may hold the character. Of the control characters these are the tabulator
and the line breaks; a null character is none of them. -/
def isAllowed (c : Char) : Bool :=
  let n := c.toNat
  n = 0x9 || n = 0xA || n = 0xD || 0x20 ≤ n && n ≤ 0x7E || n = 0x85
    || 0xA0 ≤ n && n ≤ 0xFFFD || 0x10000 ≤ n

def isBreak (c : Char) : Bool :=
  c = '\n' || c = '\r' || c = '\u0085' || c = '\u2028' || c = '\u2029'

/-- The character at which a comment or a line of text ends. -/
def isLineEnd (c : Char) : Bool := c = '\n' || c = '\r' || c = '\u0085' || c = '\x00'

def isSpace (c : Char) : Bool := c = ' ' || c = '\t'

/-- The character after which an indicator stands by itself. -/
def endsWord (c : Char) : Bool := isSpace c || isLineEnd c

/-- What a line break amounts to inside a text. -/
def breakText (c : Char) : Char := if c = '\u2028' || c = '\u2029' then c else '\n'

/-- A byte order mark takes no column. -/
def Mark.after (m : Mark) (c : Char) : Mark :=
  if c = '\n' || c = '\r' then ⟨m.line + 1, 0⟩
  else if c = '\uFEFF' then m
  else ⟨m.line, m.column + 1⟩

namespace Source

/-- The characters in their places after those in `before`, of which the last comes first. A
carriage return takes in the line feed after it. -/
def placeFrom (before : Source) (m : Mark) (offset : Nat) : List Char → Source
  | [] => (⟨'\x00', m, offset⟩ :: before).reverse
  | '\r' :: '\n' :: cs =>
    placeFrom (⟨'\r', m, offset⟩ :: before) (m.after '\r') (offset + 2) cs
  | c :: cs => placeFrom (⟨c, m, offset⟩ :: before) (m.after c) (offset + 1) cs

def ofChars (cs : List Char) : Source := placeFrom [] ⟨0, 0⟩ 0 cs

/-- The first character. -/
def char (s : Source) : Char := (s.head?.map (·.char)).getD '\x00'

def charAt (s : Source) (i : Nat) : Char := (s[i]?.map (·.char)).getD '\x00'

def mark (s : Source) : Mark := (s.head?.map (·.mark)).getD ⟨0, 0⟩

def column (s : Source) : Nat := s.mark.column

def offset (s : Source) : Nat := (s.head?.map (·.offset)).getD 0

def skip (p : Char → Bool) (s : Source) : Source := s.dropWhile fun g => p g.char

def taken (p : Char → Bool) (s : Source) : List Char :=
  (s.takeWhile fun g => p g.char).map (·.char)

/-- What follows a line break at the start. -/
def skipBreak (s : Source) : Source := if isBreak s.char then s.tail else s

theorem length_skip_le (p : Char → Bool) (s : Source) : (s.skip p).length ≤ s.length :=
  (List.dropWhile_suffix _).length_le

theorem length_lt_of_skip_eq_cons {p : Char → Bool} {s : Source} {g : Glyph} {rest : Source}
    (h : s.skip p = g :: rest) : rest.length < s.length := by
  have hs := s.length_skip_le p
  rw [h] at hs
  exact hs

/-- Three times the character by itself. -/
def isTriple (c : Char) (s : Source) : Bool :=
  s.char = c && s.charAt 1 = c && s.charAt 2 = c && endsWord (s.charAt 3)

/-- Three dashes or points separate documents, if a line starts with them. -/
def separates (s : Source) : Bool := s.isTriple '-' || s.isTriple '.'

def isMarker (c : Char) (s : Source) : Bool := s.column = 0 && s.isTriple c

def isSeparator (s : Source) : Bool := s.column = 0 && s.separates

end Source

end ExamFilter.Yaml
