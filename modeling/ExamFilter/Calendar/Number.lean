import ExamFilter.Calendar.Parts
import ExamFilter.Decimal.Limited

/-!
# Numbers of a written date

A number has digits before a point and perhaps digits after it. What the digits after the point
amount to in sixtieths is computed with limited precision, and a number that has more digits
before the point than that cannot be divided at all.
-/
namespace ExamFilter.Calendar

/-- Why reading breaks off, other than because there is no date. -/
inductive Breakdown where
  | quotient
  deriving DecidableEq, Repr

def Breakdown.message : Breakdown → String
  | .quotient => "[<class 'decimal.DivisionImpossible'>]"

/-- Why a text gives no date. -/
inductive Refusal where
  | noDate
  | breakdown (b : Breakdown)
  deriving DecidableEq, Repr

abbrev Reader := Except Refusal

/-- Without a value there is no date. -/
def required (a? : Option α) : Reader α :=
  match a? with
  | some a => .ok a
  | none => .error .noDate

/-- The digits before and after the point of a number. -/
structure Number where
  whole : List Char
  fraction : List Char
  hasPoint : Bool

namespace Number

/-- A token of decimal digits, with at most one point among them. -/
def ofToken? (token : List Char) : Option Number :=
  let whole := token.takeWhile Text.isDecimalDigit
  match token.dropWhile Text.isDecimalDigit with
  | [] => if whole.isEmpty then none else some ⟨whole, [], false⟩
  | '.' :: fraction =>
    if !whole.isEmpty && !fraction.isEmpty && fraction.all Text.isDecimalDigit then
      some ⟨whole, fraction, true⟩
    else none
  | _ => none

def value (n : Number) : Nat := (numeral? n.whole).getD 0

/-- There is something after the point besides zeros. -/
def more (n : Number) : Bool := 0 < (numeral? n.fraction).getD 0

/-- What stands after the point. -/
def remainder (n : Number) : Decimal.Limited :=
  Decimal.Limited.rounded ⟨(numeral? n.fraction).getD 0, n.fraction.length⟩

/-- The sixtieths that the fraction amounts to, none if it is zero. -/
def sixtieths (n : Number) : Reader (Option Nat) :=
  if Nat.pow 10 Decimal.precision ≤ n.value then .error (.breakdown .quotient)
  else .ok (if n.more then some (n.remainder.times 60).whole else none)

end Number

/-- Whole seconds. Of a fraction the first six characters have to be decimal digits. -/
def seconds? (token : List Char) : Option Nat :=
  match token.dropWhile (· ≠ '.') with
  | [] => numeral? token
  | _ :: fraction =>
    if (fraction.take 6).all Text.isDecimalDigit then numeral? (token.takeWhile (· ≠ '.'))
    else none

end ExamFilter.Calendar
