import ExamFilter.Decimal.Reading
import ExamFilter.Text.Blank

/-!
# Whole numbers as texts

A whole number may stand between white space, have a sign, leading zeros after no minus, single
underscores between its digits, and a fraction of zeros.
-/
namespace ExamFilter.Decimal

inductive WholeError where
  | malformed | tooLong
  deriving DecidableEq, Repr

/-- A number has at most so many digits. -/
def maxDigits : Nat := 4300

/-- The white space around a number, which the separators of units and records are no part of. -/
def isPadding (c : Char) : Bool := Text.isBlank c && !(0x1C ≤ c.toNat && c.toNat < 0x20)

def withoutPadding (cs : List Char) : List Char :=
  ((cs.dropWhile isPadding).reverse.dropWhile isPadding).reverse

/-- A plus may stand before everything but a minus. -/
def withoutPlus? : List Char → Option (List Char)
  | '+' :: '-' :: _ => none
  | '+' :: cs => some cs
  | cs => some cs

/-- Leading zeros are dropped with the underscores among them, but not the last digit of all. -/
def withoutZeros (cs : List Char) : List Char :=
  match cs with
  | '0' :: _ =>
    let isZero (c : Char) : Bool := c = '0' || c = '_'
    match cs.dropWhile isZero with
    | c :: rest =>
      if c = '.' then ((cs.takeWhile isZero).getLast?.getD '0') :: c :: rest else c :: rest
    | [] => [cs.getLast?.getD '0']
  | _ => cs

def withoutFraction (cs : List Char) : List Char :=
  match cs.dropWhile (· ≠ '.') with
  | _ :: zeros => if zeros.all (· = '0') then cs.takeWhile (· ≠ '.') else cs
  | [] => cs

/-- No underscore begins or ends the text or follows another one. -/
def areSingle : List Char → Bool
  | [] => true
  | '_' :: cs => cs.head?.any (· ≠ '_') && areSingle cs
  | _ :: cs => areSingle cs

def withoutUnderscores (cs : List Char) : List Char :=
  if cs.head? ≠ some '_' && areSingle cs then cs.filter (· ≠ '_') else cs

/-- Only the number zero begins with a zero. -/
def isUnsigned (cs : List Char) : Bool :=
  cs.all Char.isDigit && (cs.head?.any (· ≠ '0') || cs = ['0'])

def readWhole (cs : List Char) : Except WholeError Int :=
  match withoutPlus? (withoutPadding cs) with
  | none => .error .malformed
  | some body =>
    if !(body.head?.any fun c => c = '-' || c.isDigit) then .error .malformed
    else
      let (isNegative, digits) :=
        takeSign (withoutUnderscores (withoutFraction (withoutZeros body)))
      if !isUnsigned digits then .error .malformed
      else if maxDigits < digits.length then .error .tooLong
      else .ok (if isNegative then -(valueOf digits : Int) else valueOf digits)

end ExamFilter.Decimal
