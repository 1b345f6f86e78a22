/-!
# The shortest decimal of a binary floating-point number

A finite double is a mantissa times a power of two. Among the decimals that lie closer to it than
to any other double, the shortest one is printed, and of several of that length the nearest. For
each number of digits only the two neighbours of the double on that decimal grid have to be
tried, since a point of the grid between the ends of the rounding interval leaves one of the two
neighbours between them.
-/
namespace ExamFilter.Decimal

/-- The value `mantissa · 2 ^ exponent`. -/
structure Binary where
  mantissa : Nat
  exponent : Int
  deriving DecidableEq, Repr

/-- The magnitude of a finite double, and `none` for an infinity or a NaN. -/
def Binary.ofFloat? (x : Float) : Option Binary :=
  let bits := x.toBits.toNat
  let biased : Nat := bits / Nat.pow 2 52 % 2048
  let fraction : Nat := bits % Nat.pow 2 52
  if biased = 2047 then none
  else if biased = 0 then some ⟨fraction, -1074⟩
  else some ⟨fraction + Nat.pow 2 52, (biased : Int) - 1075⟩

def isNegative (x : Float) : Bool := x.toBits.toNat / Nat.pow 2 63 = 1

/-- A quarter of the distance to the next double, with the value and the two ends of its rounding
interval in these quarters, over the common divisor `den`. -/
structure Interval where
  low : Nat
  value : Nat
  high : Nat
  den : Nat
  /-- The ends themselves round to the value. -/
  closed : Bool
  deriving DecidableEq, Repr

/-- The gap below a power of two is half as wide as the gap above it, but not at the least
exponent. -/
def Binary.interval (b : Binary) : Interval :=
  let up := Nat.pow 2 b.exponent.toNat
  let below := if b.mantissa = Nat.pow 2 52 && b.exponent > -1074 then 1 else 2
  { low := (4 * b.mantissa - below) * up
    value := 4 * b.mantissa * up
    high := (4 * b.mantissa + 2) * up
    den := 4 * Nat.pow 2 (-b.exponent).toNat
    closed := b.mantissa % 2 = 0 }

def Interval.contains (i : Interval) (num den : Nat) : Bool :=
  if i.closed then i.low * den ≤ num * i.den && num * i.den ≤ i.high * den
  else i.low * den < num * i.den && num * i.den < i.high * den

/-- The number of digits before the point of `num / den`, counted down past the point when the
number is below one tenth; `fuel` bounds the count. -/
def magnitude (fuel num den : Nat) : Int :=
  if den ≤ num then (Nat.toDigits 10 (num / den)).length
  else match fuel with
    | 0 => 0
    | fuel + 1 => if den ≤ 10 * num then 0 else magnitude fuel (10 * num) den - 1

/-- `digits · 10 ^ exponent`. -/
structure Scaled where
  digits : Nat
  exponent : Int
  deriving DecidableEq, Repr

def Scaled.num (d : Scaled) : Nat := d.digits * Nat.pow 10 d.exponent.toNat

def Scaled.den (d : Scaled) : Nat := Nat.pow 10 (-d.exponent).toNat

/-- The distance of a decimal from the value, times the product of the two divisors. -/
def Interval.distance (i : Interval) (d : Scaled) : Nat :=
  let a := d.num * i.den
  let b := i.value * d.den
  (a - b) + (b - a)

/-- The neighbour on the grid of step `10 ^ k` that rounds to the value; the nearer of two, and of
two equally near the even one. -/
def Interval.onGrid? (i : Interval) (k : Int) : Option Scaled :=
  let below : Scaled :=
    ⟨i.value * Nat.pow 10 (-k).toNat / (i.den * Nat.pow 10 k.toNat), k⟩
  let above : Scaled := ⟨below.digits + 1, k⟩
  match i.contains below.num below.den, i.contains above.num above.den with
  | true, true =>
    if i.distance below < i.distance above then some below
    else if i.distance above < i.distance below then some above
    else some (if below.digits % 2 = 0 then below else above)
  | true, false => some below
  | false, true => some above
  | false, false => none

/-- The first grid that holds a decimal of the interval, from `k` down; seventeen digits always
suffice. -/
def Interval.shortestFrom (i : Interval) (k : Int) : Nat → Scaled
  | 0 => ⟨i.value * Nat.pow 10 (-k).toNat / (i.den * Nat.pow 10 k.toNat), k⟩
  | fuel + 1 =>
    match i.onGrid? k with
    | some d => d
    | none => i.shortestFrom (k - 1) fuel

/-- The shortest decimal that reads back as the positive number `b`. -/
def Binary.shortest (b : Binary) : Scaled :=
  let i := b.interval
  i.shortestFrom (magnitude 400 i.value i.den - 1) 17

/-- The same decimal without the zeros at the end of its digits. -/
def trimZeros : Nat → Scaled → Scaled
  | 0, d => d
  | fuel + 1, d =>
    if d.digits ≠ 0 && d.digits % 10 = 0 then trimZeros fuel ⟨d.digits / 10, d.exponent + 1⟩
    else d

/-- Digits with the point after the first `point` of them, filled up with zeros on either side. -/
def positional (digits : List Char) (point : Int) : List Char :=
  if point ≤ 0 then '0' :: '.' :: (List.replicate (-point).toNat '0' ++ digits)
  else
    let whole := digits.take point.toNat
    let rest := digits.drop point.toNat
    whole ++ List.replicate (point.toNat - digits.length) '0'
      ++ '.' :: (if rest.isEmpty then ['0'] else rest)

/-- One digit before the point, and an exponent of at least two digits with its sign. -/
def exponential (digits : List Char) (point : Int) : List Char :=
  let e := point - 1
  let eDigits := (toString e.natAbs).toList
  digits.take 1 ++ (if digits.length ≤ 1 then [] else '.' :: digits.drop 1)
    ++ 'e' :: (if e < 0 then '-' else '+')
    :: (List.replicate (2 - eDigits.length) '0' ++ eDigits)

/-- Positional between `0.0001` and ten to the sixteenth, exponential outside. -/
def Scaled.text (d : Scaled) : String :=
  let d := trimZeros 400 d
  let digits := (toString d.digits).toList
  let point := digits.length + d.exponent
  String.ofList <|
    if -4 < point && point ≤ 16 then positional digits point else exponential digits point

def magnitudeText (b : Binary) : String :=
  if b.mantissa = 0 then "0.0" else b.shortest.text

def floatText (x : Float) : String :=
  match Binary.ofFloat? x with
  | some b => (if isNegative x then "-" else "") ++ magnitudeText b
  | none => if x.isNaN then "nan" else if isNegative x then "-inf" else "inf"

end ExamFilter.Decimal
