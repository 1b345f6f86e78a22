import ExamFilter.Decimal.Whole
import ExamFilter.Text.Quoted
import ExamFilter.Value

/-!
# The text of a value

A text stands for itself; every other value is printed, and collections print their items with
texts quoted. A value is not printed if there is a whole number in it with too many digits.
-/
namespace ExamFilter.Value

/-- A collection without items has a name of its own, unless brackets suffice. -/
def bracketed (opening closing : String) (items : List String) : String :=
  opening ++ ", ".intercalate items ++ closing

/-- One item keeps a comma, which tells it from a mere bracketed value. -/
def tupleText : List String → String
  | [item] => "(" ++ item ++ ",)"
  | items => bracketed "(" ")" items

def setText (items : List String) : String :=
  if items.isEmpty then "set()" else bracketed "\x7b" "\x7d" items

def frozenSetText (items : List String) : String :=
  if items.isEmpty then "frozenset()" else bracketed "frozenset(\x7b" "\x7d)" items

def rangeText (start stop step : Int) : String :=
  let ends := [toString start, toString stop]
  bracketed "range(" ")" (if step = 1 then ends else ends ++ [toString step])

def boolText (b : Bool) : String := if b then "True" else "False"

def dateQuoted (d : Calendar.Date) : String :=
  bracketed "datetime.date(" ")" ([d.year, d.month, d.day].map toString)

/-- Seconds are left out when they and the microseconds are zero, as are the microseconds alone. -/
def momentQuoted (m : Calendar.Moment) : String :=
  let small :=
    if m.microsecond ≠ 0 then [m.second, m.microsecond]
    else if m.second ≠ 0 then [m.second]
    else []
  bracketed "datetime.datetime(" ")"
    (([m.date.year, m.date.month, m.date.day, m.hour, m.minute] ++ small).map toString)

mutual

/-- The form in which a value appears inside a collection. -/
def quoted : Value → String
  | null => "None"
  | bool b => boolText b
  | int n => toString n
  | float x => Decimal.floatText x
  | text s => Text.quoted s
  | list items => bracketed "[" "]" (quotedAll items)
  | tuple items => tupleText (quotedAll items)
  | set items => setText (quotedAll items)
  | frozenSet items => frozenSetText (quotedAll items)
  | bytes octets => Text.quotedBytes octets
  | byteArray octets => "bytearray(" ++ Text.quotedBytes octets ++ ")"
  | range start stop step => rangeText start stop step
  | dict entries => bracketed "\x7b" "\x7d" (quotedEntries entries)
  | date d => dateQuoted d
  | moment m => momentQuoted m
  | other s => s
  | selection .noFilter => "NoFilter()"
  | selection (.wildcard marker) => "Wildcard(marker=" ++ Text.quoted marker ++ ")"
  | selection (.single v) => "Single(value=" ++ quoted v ++ ")"
  | selection (.many vs) => "Many(values=" ++ tupleText (quotedAll vs) ++ ")"

def quotedAll : List Value → List String
  | [] => []
  | v :: vs => quoted v :: quotedAll vs

def quotedEntries : List (Value × Value) → List String
  | [] => []
  | (k, v) :: rest => (quoted k ++ ": " ++ quoted v) :: quotedEntries rest

end

/-- The text of a value that stands alone, however long it is. -/
def asText : Value → String
  | text s => s
  | date d => d.iso
  | moment m => m.text
  | v => v.quoted

/-- Why a value is not printed. -/
inductive PrintError where
  | tooManyDigits
  deriving DecidableEq, Repr

def PrintError.message : PrintError → String
  | .tooManyDigits =>
    s!"Exceeds the limit ({Decimal.maxDigits} digits) for integer string conversion; "
      ++ "use sys.set_int_max_str_digits() to increase the limit"

/-- A whole number without too many digits. -/
def isShort (n : Int) : Bool := n.natAbs < Nat.pow 10 Decimal.maxDigits

mutual

/-- All whole numbers in the value are short enough to be printed. -/
def isPrintable : Value → Bool
  | int n => isShort n
  | list items | tuple items | set items | frozenSet items => areAllPrintable items
  | range start stop step => isShort start && isShort stop && isShort step
  | dict entries => entriesArePrintable entries
  | selection (.single v) => isPrintable v
  | selection (.many vs) => areAllPrintable vs
  | selection .noFilter | selection (.wildcard _) => true
  | null | bool _ | float _ | text _ | bytes _ | byteArray _ | date _ | moment _ | other _ => true

def areAllPrintable : List Value → Bool
  | [] => true
  | v :: vs => isPrintable v && areAllPrintable vs

def entriesArePrintable : List (Value × Value) → Bool
  | [] => true
  | (k, v) :: rest => isPrintable k && isPrintable v && entriesArePrintable rest

end

/-- What is printed if a value can be printed. -/
@[macro_inline]
def printedIf (isPrintable : Bool) (a : α) : Except PrintError α :=
  if isPrintable then .ok a else .error .tooManyDigits

/-- The text of a value that stands alone. -/
def print (v : Value) : Except PrintError String := printedIf v.isPrintable v.asText

end ExamFilter.Value
