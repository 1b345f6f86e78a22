import ExamFilter.Calendar.Date

/-!
# Dates and times from numbers

Whole numbers of any size are taken as the components of a date or of a time on it. All of them
have to be of moderate size before any is looked at as a component.
-/
namespace ExamFilter.Calendar

/-- A number is too far from zero to be a component. -/
inductive MagnitudeError where
  | tooLarge | tooSmall | beyondWords
  deriving DecidableEq, Repr

def MagnitudeError.message : MagnitudeError → String
  | .tooLarge => "signed integer is greater than maximum"
  | .tooSmall => "signed integer is less than minimum"
  | .beyondWords => "Python int too large to convert to C long"

/-- The component of a time that is out of its range, the hour being looked at first. -/
inductive TimeError where
  | hour | minute | second | microsecond
  deriving DecidableEq, Repr

def TimeError.message : TimeError → String
  | .hour => "hour must be in 0..23"
  | .minute => "minute must be in 0..59"
  | .second => "second must be in 0..59"
  | .microsecond => "microsecond must be in 0..999999"

inductive ComponentError where
  | magnitude (e : MagnitudeError)
  | date (e : DateError)
  | time (e : TimeError)
  deriving DecidableEq, Repr

def ComponentError.message : ComponentError → String
  | .magnitude e => e.message
  | .date e => e.message
  | .time e => e.message

/-- Components have 32 bits, and numbers of more than 64 bits are told from other ones. -/
def checkMagnitude (n : Int) : Except MagnitudeError Unit :=
  if n < -Int.pow 2 63 || Int.pow 2 63 ≤ n then .error .beyondWords
  else if Int.pow 2 31 ≤ n then .error .tooLarge
  else if n < -Int.pow 2 31 then .error .tooSmall
  else .ok ()

def checkMagnitudes (numbers : List Int) : Except ComponentError Unit :=
  (numbers.forM checkMagnitude).mapError .magnitude

def Date.ofComponents (year month day : Int) : Except ComponentError Date := do
  checkMagnitudes [year, month, day]
  (Date.ofNumbers year month day).mapError .date

def checkTime (hour minute second microsecond : Int) : Except TimeError Unit :=
  if hour < 0 || 23 < hour then .error .hour
  else if minute < 0 || 59 < minute then .error .minute
  else if second < 0 || 59 < second then .error .second
  else if microsecond < 0 || 999999 < microsecond then .error .microsecond
  else .ok ()

def Moment.ofComponents (year month day hour minute second microsecond : Int) :
    Except ComponentError Moment := do
  checkMagnitudes [year, month, day, hour, minute, second, microsecond]
  let date ← (Date.ofNumbers year month day).mapError .date
  (checkTime hour minute second microsecond).mapError .time
  return ⟨date, hour.toNat, minute.toNat, second.toNat, microsecond.toNat⟩

end ExamFilter.Calendar
