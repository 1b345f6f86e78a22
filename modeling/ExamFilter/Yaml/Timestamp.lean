import ExamFilter.Calendar.Date
import ExamFilter.Decimal.Reading
import ExamFilter.Value
import ExamFilter.Yaml.Token

/-!
# Dates and times in documents

A date, with a time of day or without it. The time may have a fraction of a second and may be that
of a place whose clocks are ahead or behind.
-/
namespace ExamFilter.Yaml
open Calendar

/-- The time of day after a date. -/
structure Clock where
  /-- A letter stands before the time, and not white space. -/
  afterLetter : Bool
  hour : Nat
  minute : Nat
  second : Nat
  /-- The digits of the fraction of a second. -/
  fraction : List Char
  /-- Whether the clocks are behind, and by how many minutes they are ahead or behind. -/
  zone? : Option (Bool × Nat)

structure Timestamp where
  year : Nat
  month : Nat
  day : Nat
  clock? : Option Clock

namespace Timestamp

/-- A number that has so many digits, and what follows it. -/
def fixed? (width : Nat) (cs : List Char) : Option (Nat × List Char) :=
  let digits := (cs.take width).takeWhile Char.isDigit
  if digits.length = width then some (Decimal.valueOf digits, cs.drop width) else none

/-- A number of one or two digits. -/
def short? (cs : List Char) : Option (Nat × List Char) := (fixed? 2 cs).or (fixed? 1 cs)

def after? (c : Char) : List Char → Option (List Char)
  | d :: cs => if c = d then some cs else none
  | [] => none

def isGap (c : Char) : Bool := c = ' ' || c = '\t'

/-- What follows the letter or the white space before a time. -/
def clockStart? : List Char → Option (Bool × List Char)
  | c :: cs =>
    if c = 'T' || c = 't' then some (true, cs)
    else if isGap c then some (false, cs.dropWhile isGap)
    else none
  | [] => none

/-- The zone at the end, which may be left out. The letter Z says no more than leaving it out. -/
def readZone? (cs : List Char) : Option (Option (Bool × Nat)) :=
  match cs.dropWhile isGap with
  | [] => if cs.isEmpty then some none else none
  | ['Z'] => some none
  | sign :: rest => do
    if sign ≠ '+' && sign ≠ '-' then failure
    let (hours, rest) ← short? rest
    if rest.isEmpty then return some (sign = '-', 60 * hours)
    let (minutes, rest) ← fixed? 2 (← after? ':' rest)
    if rest.isEmpty then return some (sign = '-', 60 * hours + minutes) else failure

def readClock? (cs : List Char) : Option Clock := do
  let (afterLetter, cs) ← clockStart? cs
  let (hour, cs) ← short? cs
  let (minute, cs) ← fixed? 2 (← after? ':' cs)
  let (second, cs) ← fixed? 2 (← after? ':' cs)
  let (fraction, cs) := match cs with
    | '.' :: rest => (rest.takeWhile Char.isDigit, rest.dropWhile Char.isDigit)
    | _ => ([], cs)
  return ⟨afterLetter, hour, minute, second, fraction, ← readZone? cs⟩

def read? (cs : List Char) : Option Timestamp := do
  let (year, cs) ← fixed? 4 cs
  let (month, cs) ← short? (← after? '-' cs)
  let (day, cs) ← short? (← after? '-' cs)
  if cs.isEmpty then return ⟨year, month, day, none⟩
  return ⟨year, month, day, some (← readClock? cs)⟩

end Timestamp

/-- The fraction in millionths, rounded to the nearest one by its seventh digit. -/
def Clock.microseconds (c : Clock) : Nat :=
  let digits := c.fraction.take 6
  Decimal.valueOf digits * Nat.pow 10 (6 - digits.length)
    + (if c.fraction[6]?.any fun d => '5' ≤ d then 1 else 0)

/-- The seconds between the time and that of the zone. A fraction that is rounded up to a second
belongs to them and has their sign. -/
def Clock.shift (c : Clock) : Int :=
  let carry := if c.microseconds = 1000000 then 1 else 0
  match c.zone? with
  | none => carry
  | some (isBehind, minutes) =>
    let seconds : Int := 60 * minutes + carry
    if isBehind then seconds else -seconds

/-- A date or a moment; one that is written with a letter or a zone keeps no more than its text. -/
def Timestamp.value (t : Timestamp) : Except ValueFault Value := do
  match t.clock? with
  | none => return .date (← (Date.ofComponents t.year t.month t.day).mapError .component)
  | some c =>
    let m ← (Moment.ofComponents t.year t.month t.day c.hour c.minute c.second
      (c.microseconds % 1000000 : Nat)).mapError .component
    match m.shift? c.shift with
    | none => throw .moment
    | some m =>
      if c.afterLetter then return .other (m.textWith "T")
      else if c.zone?.isSome then return .other m.text
      else return .moment m

end ExamFilter.Yaml
