import ExamFilter.Text.Numeral

/-!
# Calendar dates

Dates of the Gregorian calendar, extended back to the year 1 and ending with the year 9999. A
value of type `Date` always is a day that exists.
-/
namespace ExamFilter.Calendar

def isLeap (year : Nat) : Bool := year % 4 = 0 && (year % 100 ≠ 0 || year % 400 = 0)

def daysIn (year month : Nat) : Nat :=
  match month with
  | 2 => if isLeap year then 29 else 28
  | 4 | 6 | 9 | 11 => 30
  | _ => 31

/-- The day exists. -/
def Exists (year month day : Nat) : Prop :=
  (1 ≤ year ∧ year ≤ 9999) ∧ (1 ≤ month ∧ month ≤ 12) ∧ 1 ≤ day ∧ day ≤ daysIn year month

instance (year month day : Nat) : Decidable (Exists year month day) :=
  inferInstanceAs (Decidable (_ ∧ _))

structure Date where
  year : Nat
  month : Nat
  day : Nat
  day_exists : Exists year month day
  deriving DecidableEq

instance : Inhabited Date := ⟨⟨1, 1, 1, by decide⟩⟩

/-- The component that makes three numbers no date, the year being looked at first. -/
inductive DateError where
  | year (given : Int)
  | month
  | day
  deriving DecidableEq, Repr

def DateError.message : DateError → String
  | .year given => s!"year {given} is out of range"
  | .month => "month must be in 1..12"
  | .day => "day is out of range for month"

def Date.ofNumbers? (year month day : Nat) : Option Date :=
  if h : Exists year month day then some ⟨year, month, day, h⟩ else none

def Date.ofNumbers (year month day : Int) : Except DateError Date :=
  match Date.ofNumbers? year.toNat month.toNat day.toNat with
  | some d => .ok d
  | none =>
    if year < 1 || 9999 < year then .error (.year year)
    else if month < 1 || 12 < month then .error .month
    else .error .day

theorem Date.ofNumbers?_self (d : Date) : Date.ofNumbers? d.year d.month d.day = some d := by
  simp [Date.ofNumbers?, d.day_exists]

/-- The order of the days. -/
def Date.before (a b : Date) : Prop :=
  a.year < b.year ∨ a.year = b.year ∧ (a.month < b.month ∨ a.month = b.month ∧ a.day < b.day)

/-- The number of days from the first day of the year 1 up to and including this one. -/
def Date.ordinal (d : Date) : Nat :=
  let y := d.year - 1
  365 * y + y / 4 - y / 100 + y / 400
    + ((List.range (d.month - 1)).map fun m => daysIn d.year (m + 1)).foldl (· + ·) 0 + d.day

/-- Monday is day 0 of the week; the first day of the year 1 was a Monday. -/
def Date.weekday (d : Date) : Nat := (d.ordinal + 6) % 7

def Date.next? (d : Date) : Option Date :=
  (Date.ofNumbers? d.year d.month (d.day + 1)).or <|
    (Date.ofNumbers? d.year (d.month + 1) 1).or (Date.ofNumbers? (d.year + 1) 1 1)

def Date.addDays? (d : Date) : Nat → Option Date
  | 0 => some d
  | n + 1 => d.next?.bind (·.addDays? n)

def Date.previous? (d : Date) : Option Date :=
  (Date.ofNumbers? d.year d.month (d.day - 1)).or <|
    (Date.ofNumbers? d.year (d.month - 1) (daysIn d.year (d.month - 1))).or
      (Date.ofNumbers? (d.year - 1) 12 31)

def Date.subtractDays? (d : Date) : Nat → Option Date
  | 0 => some d
  | n + 1 => d.previous?.bind (·.subtractDays? n)

def Date.shift? (d : Date) (days : Int) : Option Date :=
  if days < 0 then d.subtractDays? days.natAbs else d.addDays? days.toNat

/-- The first day from this one on that falls on the given day of the week. -/
def Date.forwardTo? (d : Date) (weekday : Nat) : Option Date :=
  d.addDays? ((weekday + 7 - d.weekday) % 7)

/-- Year, month and day, joined by hyphens. -/
def Date.iso (d : Date) : String :=
  Text.padded 4 d.year ++ "-" ++ Text.padded 2 d.month ++ "-" ++ Text.padded 2 d.day

/-- Day, month and year, joined by slashes. -/
def Date.dayFirst (d : Date) : String :=
  Text.padded 2 d.day ++ "/" ++ Text.padded 2 d.month ++ "/" ++ Text.padded 4 d.year

/-- A day and a time of that day. -/
structure Moment where
  date : Date
  hour : Nat
  minute : Nat
  second : Nat
  microsecond : Nat
  deriving DecidableEq, Inhabited

/-- Date and time with a separator between them. -/
def Moment.textWith (separator : String) (m : Moment) : String :=
  m.date.iso ++ separator ++ Text.padded 2 m.hour ++ ":" ++ Text.padded 2 m.minute ++ ":"
    ++ Text.padded 2 m.second
    ++ (if m.microsecond = 0 then "" else "." ++ Text.padded 6 m.microsecond)

def Moment.text (m : Moment) : String := m.textWith " "

def secondsOfDay : Nat := 24 * 60 * 60

/-- The moment so many seconds later, or earlier if their number is below zero. -/
def Moment.shift? (m : Moment) (seconds : Int) : Option Moment :=
  let total : Int := m.hour * 3600 + m.minute * 60 + m.second + seconds
  let rest := (total % secondsOfDay).toNat
  (m.date.shift? (total / secondsOfDay)).map fun d =>
    ⟨d, rest / 3600, rest / 60 % 60, rest % 60, m.microsecond⟩

end ExamFilter.Calendar
