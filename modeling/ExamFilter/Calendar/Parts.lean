import ExamFilter.Calendar.Date
import ExamFilter.Text.Letter

/-!
# The parts of a written date

The numbers of a date in the order in which they were written. A month that was named and a year
that was recognised are known by their places; which of the other numbers is the day, the month or
the year follows from their sizes, the day coming before the month.
-/
namespace ExamFilter.Calendar

structure Parts where
  numbers : List Nat := []
  yearAt : Option Nat := none
  monthAt : Option Nat := none
  /-- Some year was written with its century. -/
  century : Bool := false
  deriving Inhabited

/-- The number written by decimal digits of any script, and nothing else. -/
def numeral? : List Char → Option Nat
  | [] => none
  | c :: cs => (c :: cs).foldl
      (fun acc d => acc.bind fun n => (Text.digitValue? d).map (10 * n + ·)) (some 0)

namespace Parts

def add (p : Parts) (n : Nat) : Parts := { p with numbers := p.numbers ++ [n] }

/-- A second year is refused. -/
def addYear? (p : Parts) (n : Nat) : Option Parts :=
  if p.yearAt.isSome then none
  else some { p.add n with yearAt := some p.numbers.length, century := true }

/-- A second named month is refused. -/
def addMonth? (p : Parts) (n : Nat) : Option Parts :=
  if p.monthAt.isSome then none
  else some { p.add n with monthAt := some p.numbers.length }

/-- More than two digits make a year. -/
def addDigits? (p : Parts) (token : List Char) : Option Parts := do
  let n ← numeral? token
  if 2 < token.length then p.addYear? n else some (p.add n)

/-- The whole number `n`, or a little more: above one hundred it is a year. -/
def addNumber? (p : Parts) (n : Nat) (more : Bool) : Option Parts :=
  if 100 < n || n = 100 && more then p.addYear? n else some (p.add n)

/-- The number, or the little more, can be a day of the named month. -/
def couldBeDay (p : Parts) (n : Nat) (more : Bool) : Bool :=
  let most := match p.monthAt.bind (p.numbers[·]?), p.yearAt.bind (p.numbers[·]?) with
    | none, _ => 31
    | some month, none => daysIn 2000 month
    | some month, some year => daysIn year month
  1 ≤ n && (n < most || n = most && !more)

/-- A year, month and day, each of which may be missing. -/
structure Assigned where
  year : Option Nat := none
  month : Option Nat := none
  day : Option Nat := none
  deriving DecidableEq, Repr

def byYearMonthDay (y m d : Nat) : Assigned := ⟨some y, some m, some d⟩

/-- A number above 31 is no day. -/
def yearOrDay (month : Option Nat) (n : Nat) : Assigned :=
  if 31 < n then ⟨some n, month, none⟩ else ⟨none, month, some n⟩

/-- Two numbers, neither of them a named month. -/
def assignTwo (a b : Nat) : Assigned :=
  if 31 < a then ⟨some a, some b, none⟩
  else if 31 < b then ⟨some b, some a, none⟩
  else if b ≤ 12 then ⟨none, some b, some a⟩
  else ⟨none, some a, some b⟩

/-- Three numbers, neither of them a named month; a year in front has the day after it if the last
number can be a month. -/
def assignThree (yearFirst : Bool) (a b c : Nat) : Assigned :=
  if 31 < a || yearFirst then
    if c ≤ 12 then byYearMonthDay a c b else byYearMonthDay a b c
  else if 12 < a || b ≤ 12 then byYearMonthDay c b a
  else byYearMonthDay c a b

/-- Three numbers of which the one at the given place is a named month. -/
def assignAround (monthAt a b c : Nat) : Assigned :=
  match monthAt with
  | 0 => if 31 < b then byYearMonthDay b a c else byYearMonthDay c a b
  | 1 => if 31 < a then byYearMonthDay a b c else byYearMonthDay c b a
  | _ => if 31 < b then byYearMonthDay b c a else byYearMonthDay a c b

/-- The assignment of the numbers; more than three cannot be assigned. -/
def assign? (p : Parts) : Option Assigned :=
  match p.numbers, p.yearAt, p.monthAt with
  | [], _, _ => some {}
  | [n], some _, _ => some { year := some n }
  | [n], none, some _ => some { month := some n }
  | [n], none, none => some (yearOrDay none n)
  | [a, b], some y, some _ =>
    some (if y = 0 then ⟨some a, some b, none⟩ else ⟨some b, some a, none⟩)
  | [a, b], none, some m => some (if m = 0 then yearOrDay (some a) b else yearOrDay (some b) a)
  | [a, b], _, none => some (assignTwo a b)
  | [a, b, c], some y, some m =>
    match y, m with
    | 0, 1 => some (byYearMonthDay a b c)
    | 0, _ => some (byYearMonthDay a c b)
    | 1, 0 => some (byYearMonthDay b a c)
    | 1, _ => some (byYearMonthDay b c a)
    | _, 0 => some (byYearMonthDay c a b)
    | _, _ => some (byYearMonthDay c b a)
  | [a, b, c], none, some m => some (assignAround m a b c)
  | [a, b, c], y, none => some (assignThree (y = some 0) a b c)
  | _, _, _ => none

end Parts

end ExamFilter.Calendar
