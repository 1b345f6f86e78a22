/-!
# Reading decimal numbers

The double nearest to a decimal given by its digits and a power of ten. Exponents far outside the
range of doubles are settled without computing the power.
-/
namespace ExamFilter.Decimal

def infinity : Float := 1.0 / 0.0

def notANumber : Float := 0.0 / 0.0

/-- The double nearest to `digits · 10 ^ exponent`. -/
def nearest (digits : Nat) (exponent : Int) : Float :=
  if digits = 0 then 0.0
  else
    let magnitude := (Nat.toDigits 10 digits).length + exponent
    if magnitude > 400 then infinity
    else if magnitude < -400 then 0.0
    else Float.ofScientific digits (exponent < 0) exponent.natAbs

def valueOf (digits : List Char) : Nat :=
  digits.foldl (fun n c => 10 * n + (c.toNat - '0'.toNat)) 0

/-- The sign of a number, and the text after it. -/
def takeSign : List Char → Bool × List Char
  | '-' :: cs => (true, cs)
  | '+' :: cs => (false, cs)
  | cs => (false, cs)

def withSign (negative : Bool) (x : Float) : Float := if negative then -x else x

/-- Exponents of more digits are all the same, for no double comes near them. -/
def maxExponentDigits : Nat := 20

def exponentOf (digits : List Char) : Nat :=
  let ds := digits.dropWhile (· = '0')
  if ds.length ≤ maxExponentDigits then valueOf ds else Nat.pow 10 maxExponentDigits

def readExponent? : List Char → Option Int
  | [] => some 0
  | e :: cs =>
    let (negative, ds) := takeSign cs
    if (e = 'e' || e = 'E') && !ds.isEmpty && ds.all Char.isDigit then
      some (if negative then -(exponentOf ds : Int) else exponentOf ds)
    else none

/-- Neither a double nor a number halfway between two of them has so many digits. -/
def maxSignificantDigits : Nat := 800

/-- The double nearest to the digits followed by `exponent` zeros. Of the digits after the
significant ones only one that is not zero counts. -/
def nearestOf (digits : List Char) (exponent : Int) : Float :=
  let ds := digits.dropWhile (· = '0')
  let rest := ds.drop maxSignificantDigits
  if rest.isEmpty then nearest (valueOf ds) exponent
  else
    let last := if rest.all (· = '0') then 0 else 1
    nearest (10 * valueOf (ds.take maxSignificantDigits) + last) (exponent + rest.length - 1)

/-- Digits with at most one point among, before or after them, and then an exponent or none. -/
def readUnsigned? (cs : List Char) : Option Float := do
  let whole := cs.takeWhile Char.isDigit
  let rest := cs.dropWhile Char.isDigit
  let (fraction, rest) := match rest with
    | '.' :: r => (r.takeWhile Char.isDigit, r.dropWhile Char.isDigit)
    | r => ([], r)
  if whole.isEmpty && fraction.isEmpty then none
  else
    let e ← readExponent? rest
    some (nearestOf (whole ++ fraction) (e - fraction.length))

/-- A signed decimal, or one of the words for an infinity and for what is not a number. -/
def readFloat? (cs : List Char) : Option Float :=
  let (negative, rest) := takeSign cs
  match String.ofList (rest.map Char.toLower) with
  | "inf" | "infinity" => some (withSign negative infinity)
  | "nan" => some notANumber
  | _ => (readUnsigned? rest).map (withSign negative)

end ExamFilter.Decimal
