import ExamFilter.Decimal.Whole
import ExamFilter.Form.Reading

/-!
# Reading whole numbers

Whole numbers are read from numbers without a fraction and from texts that hold their digits.
-/
namespace ExamFilter.Form

/-- The whole number that a value is equal to. -/
def wholeNumber? (v : Value) : Option Int :=
  v.number?.bind fun (n, e) =>
    if 0 ≤ e then some (n * Int.pow 2 e.toNat)
    else if n % Int.pow 2 (-e).toNat = 0 then some (n / Int.pow 2 (-e).toNat)
    else none

def fitsWord (n : Int) : Bool := -Int.pow 2 63 < n && n < Int.pow 2 63

/-- A whole number given as a float has to fit in 64 bits. -/
def wholeOfFloat (x : Float) : Except Fault Int :=
  if (Value.float x).number?.isNone then .error .finite
  else match wholeNumber? (.float x) with
    | some n => if fitsWord n then .ok n else .error .size
    | none => .error .fractional

def wholeOfText (s : String) : Except Fault Int :=
  (Decimal.readWhole s.toList).mapError fun
    | .malformed => .integerText
    | .tooLong => .size

/-- A number, or a text or bytes with the digits of one. -/
def integerOf (v : Value) : Except Fault Int :=
  match v with
  | .int n => .ok n
  | .bool b => .ok (if b then 1 else 0)
  | .float x => wholeOfFloat x
  | _ => match textOf v with
    | .ok s => wholeOfText s
    | .error .encoding => .error .integerText
    | .error _ => .error .integer

def readInt (place : List Step) (v : Value) : Checked Int := .located place (integerOf v)

end ExamFilter.Form
