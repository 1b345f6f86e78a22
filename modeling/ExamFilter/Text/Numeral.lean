/-!
# Numbers as texts

Numbers of a fixed width, numbers with commas between the thousands, and hexadecimal numbers.
-/
namespace ExamFilter.Text

/-- The decimal digits of `n`, filled up with zeros on the left to `width`. -/
def padded (width n : Nat) : String :=
  let digits := (toString n).toList
  String.ofList (List.replicate (width - digits.length) '0' ++ digits)

/-- A comma before every third digit, counted from the last; `ds` holds the digits from the last
to the first. -/
def groupReversed : List Char → List Char
  | a :: b :: c :: d :: rest => a :: b :: c :: ',' :: groupReversed (d :: rest)
  | ds => ds

def thousands (n : Int) : String :=
  let digits := (toString n.natAbs).toList
  (if n < 0 then "-" else "") ++ String.ofList (groupReversed digits.reverse).reverse

/-- `width` hexadecimal digits in lower case, the most significant first. -/
def hexDigits : Nat → Nat → List Char
  | 0, _ => []
  | width + 1, n => hexDigits width (n / 16) ++ [Nat.digitChar (n % 16)]

/-- The value of a hexadecimal digit in either case. -/
def hexValue? (c : Char) : Option Nat :=
  if c.isDigit then some (c.toNat - '0'.toNat)
  else if 'a' ≤ c ∧ c ≤ 'f' then some (c.toNat - 'a'.toNat + 10)
  else if 'A' ≤ c ∧ c ≤ 'F' then some (c.toNat - 'A'.toNat + 10)
  else none

/-- The number that hexadecimal digits stand for. -/
def readHex? (digits : List Char) : Option Nat :=
  digits.foldlM (fun n c => (hexValue? c).map (16 * n + ·)) 0

/-- The character of a code point. Halves of surrogate pairs are no characters. -/
def ofCode? (n : Nat) : Option Char := if n.isValidChar then some (Char.ofNat n) else none

end ExamFilter.Text
