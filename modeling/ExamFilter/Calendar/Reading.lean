import ExamFilter.Calendar.FreeForm
import ExamFilter.Calendar.Positional
import ExamFilter.Value.Text

/-!
# Reading dates of uncertain format

Stored dates are written with the day first. A text that begins with a date by position is read
that way or not at all; every other text is read word by word.
-/
namespace ExamFilter.Calendar

/-- The date that a text names, given how to read a text that begins with no date by position. -/
def readTextWith (general : List Char → Except Breakdown (Option Date)) (cs : List Char) :
    Except Breakdown (Option Date) :=
  match positional? cs with
  | some (year, month, day) => .ok (Date.ofNumbers? year month day)
  | none => general cs

/-- The date that a value names. -/
def readDateWith (general : List Char → Except Breakdown (Option Date)) (v : Value) :
    Except Breakdown (Option Date) :=
  if v.isGiven then readTextWith general (Text.trimChars v.asText.toList) else .ok none

/-- The value as day, month and year if it names a date, and as it is otherwise. -/
def normalized (v : Value) : Option Date → String
  | some d => d.dayFirst
  | none => if v.isGiven then v.asText else ""

def normalizeWith (general : List Char → Except Breakdown (Option Date)) (v : Value) :
    Except Breakdown String :=
  (readDateWith general v).map (normalized v)

def readDate (v : Value) : Except Breakdown (Option Date) := readDateWith freeForm v

def normalize (v : Value) : Except Breakdown String := normalizeWith freeForm v

end ExamFilter.Calendar
