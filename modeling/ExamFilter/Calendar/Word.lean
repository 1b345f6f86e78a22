import ExamFilter.Text.Lower

/-!
# Words of a written date

The words that mean something in a date, in any case of their letters.
-/
namespace ExamFilter.Calendar

def lowered (token : List Char) : String := String.ofList (Text.lowerChars token)

/-- The position of the first row that lists the word. -/
def rowOf (rows : List (List String)) (token : List Char) : Option Nat :=
  rows.findIdx? (·.contains (lowered token))

def weekdayNames : List (List String) :=
  [["mon", "monday"], ["tue", "tuesday"], ["wed", "wednesday"], ["thu", "thursday"],
   ["fri", "friday"], ["sat", "saturday"], ["sun", "sunday"]]

def monthNames : List (List String) :=
  [["jan", "january"], ["feb", "february"], ["mar", "march"], ["apr", "april"], ["may"],
   ["jun", "june"], ["jul", "july"], ["aug", "august"], ["sep", "sept", "september"],
   ["oct", "october"], ["nov", "november"], ["dec", "december"]]

def unitNames : List (List String) :=
  [["h", "hour", "hours"], ["m", "minute", "minutes"], ["s", "second", "seconds"]]

def halfNames : List (List String) := [["am", "a"], ["pm", "p"]]

/-- Words and marks that are passed over. -/
def fillers : List String :=
  [" ", ".", ",", ";", "-", "/", "'", "at", "on", "and", "ad", "m", "t", "of",
   "st", "nd", "rd", "th"]

/-- Monday is 0. -/
def weekday? (token : List Char) : Option Nat := rowOf weekdayNames token

/-- January is 1. -/
def month? (token : List Char) : Option Nat := (rowOf monthNames token).map (· + 1)

/-- Hours are 0, minutes 1 and seconds 2. -/
def unit? (token : List Char) : Option Nat := rowOf unitNames token

/-- The half of the day; the morning is 0. -/
def half? (token : List Char) : Option Nat := rowOf halfNames token

def isFiller (token : List Char) : Bool := fillers.contains (lowered token)

def isOf (token : List Char) : Bool := lowered token = "of"

def isUniversalTime (token : List Char) : Bool :=
  ["utc", "gmt", "z"].contains (lowered token)

/-- At most five capital letters, or a name of the universal time. -/
def isZoneName (token : List Char) : Bool :=
  token.length ≤ 5 && (token.all Char.isUpper || token = ['z'])

/-- A word that names an infinity or what is no number is taken for a number of no use. -/
def isNumberWord (token : List Char) : Bool :=
  ["nan", "inf", "infinity"].contains (lowered token)

end ExamFilter.Calendar
