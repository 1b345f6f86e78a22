import ExamFilter.Calendar.Parts
import ExamFilter.Calendar.Word

/-!
# Time zones

A time of day may be followed by the name of a time zone, by its offset from the universal time, or
by both. They do not change the date, but an offset that no clock could keep is refused.
-/
namespace ExamFilter.Calendar

/-- A time zone that has been named. -/
inductive Zone where
  | universal
  | other
  deriving DecidableEq, Repr

def Zone.ofName (token : List Char) : Zone := if isUniversalTime token then .universal else .other

/-- The universal time has an offset of its own. -/
def Zone.offset? : Zone → Option Int
  | .universal => some 0
  | .other => none

def isSign (token : List Char) : Bool := token = ['+'] || token = ['-']

def flipSign : List Char → List Char
  | ['+'] => ['-']
  | ['-'] => ['+']
  | token => token

/-- The seconds of so many hours and minutes, before the universal time or after it. -/
def offsetOf (sign : List Char) (hours minutes : Nat) : Int :=
  let seconds : Int := hours * 3600 + minutes * 60
  if sign = ['+'] then seconds else -seconds

/-- An offset is a span of less than a thousand million days. -/
def isOffset (seconds : Int) : Bool := -999999999 * 86400 ≤ seconds && seconds < 1000000000 * 86400

/-- The offset after a sign, and the number of tokens it takes: hours and minutes in four digits,
or with a colon between them, or hours alone. -/
def readOffset? (sign : List Char) (rest : List (List Char)) : Option (Int × Nat) := do
  let digits ← rest.head?
  if digits.length = 4 then
    some (offsetOf sign (← numeral? (digits.take 2)) (← numeral? (digits.drop 2)), 1)
  else match rest.drop 1 with
    | [':'] :: rest' =>
      some (offsetOf sign (← numeral? digits) (← rest'.head?.bind numeral?), 3)
    | _ => if digits.length ≤ 2 then some (offsetOf sign (← numeral? digits) 0, 1) else none

/-- The name of a zone in parentheses, after a filler. -/
def namedZone? : List (List Char) → Option Zone
  | filler :: ['('] :: name :: [')'] :: _ =>
    if isFiller filler && 3 ≤ name.length && isZoneName name then some (Zone.ofName name) else none
  | _ => none

end ExamFilter.Calendar
