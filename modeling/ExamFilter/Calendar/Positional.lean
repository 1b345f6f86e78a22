import ExamFilter.Calendar.Date
import ExamFilter.Text.Letter

/-!
# Dates by position

A text that begins with a day, a month and a year of four digits, or with a year of four digits, a
month and a day, names that date, whatever follows. The numbers are separated by hyphens or
slashes and may be written in the digits of any script.
-/
namespace ExamFilter.Calendar

/-- The number written by up to `most` leading digits, how many they are, and the text after. -/
def leadingNumber : Nat → List Char → Nat × Nat × List Char
  | 0, cs => (0, 0, cs)
  | _ + 1, [] => (0, 0, [])
  | most + 1, c :: cs =>
    match Text.digitValue? c with
    | none => (0, 0, c :: cs)
    | some v =>
      let (n, count, rest) := leadingNumber most cs
      (v * Nat.pow 10 count + n, count + 1, rest)

/-- A number of at least `least` and at most `most` digits. -/
def readNumber? (least most : Nat) (cs : List Char) : Option (Nat × List Char) :=
  let (n, count, rest) := leadingNumber most cs
  if least ≤ count then some (n, rest) else none

def isSeparator (c : Char) : Bool := c = '-' || c = '/'

def readSeparator? : List Char → Option (List Char)
  | c :: cs => if isSeparator c then some cs else none
  | [] => none

/-- Three numbers of the given widths, separated; the last one ends where its digits do. -/
def readThree? (a b c : Nat × Nat) (cs : List Char) : Option (Nat × Nat × Nat) := do
  let (x, cs) ← readNumber? a.1 a.2 cs
  let cs ← readSeparator? cs
  let (y, cs) ← readNumber? b.1 b.2 cs
  let cs ← readSeparator? cs
  let (z, _) ← readNumber? c.1 c.2 cs
  some (x, y, z)

/-- Year, month and day of a text that begins with a date in one of the two forms. -/
def positional? (cs : List Char) : Option (Nat × Nat × Nat) :=
  match readThree? (1, 2) (1, 2) (4, 4) cs with
  | some (day, month, year) => some (year, month, day)
  | none => readThree? (4, 4) (1, 2) (1, 2) cs

end ExamFilter.Calendar
