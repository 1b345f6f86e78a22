import ExamFilter.Text.Numeral

/-!
# Encodings of JSON texts

The bytes of a JSON text are code points in units of one, two or four bytes. Which of them it is
can be told from the zeros among the first bytes, since a JSON text begins with two characters
that one byte would hold.
-/
namespace ExamFilter.Json

/-- The size of the units in bytes, and whether the high byte of a unit comes first. -/
inductive Encoding where
  | utf8
  | utf16 (highFirst : Bool)
  | utf32 (highFirst : Bool)
  deriving DecidableEq, Repr

def Encoding.of : List UInt8 → Encoding
  | [a, b] => if a = 0 then .utf16 true else if b = 0 then .utf16 false else .utf8
  | a :: b :: c :: d :: _ =>
    if a = 0 then if b = 0 then .utf32 true else .utf16 true
    else if b = 0 then if c = 0 && d = 0 then .utf32 false else .utf16 false
    else .utf8
  | _ => .utf8

def bigEndian (octets : List UInt8) : Nat := octets.foldl (fun n b => 256 * n + b.toNat) 0

def unit (highFirst : Bool) (octets : List UInt8) : Nat :=
  bigEndian (if highFirst then octets else octets.reverse)

def units16? (highFirst : Bool) : List UInt8 → Option (List Nat)
  | [] => some []
  | a :: b :: rest => (units16? highFirst rest).map (unit highFirst [a, b] :: ·)
  | _ => none

def units32? (highFirst : Bool) : List UInt8 → Option (List Nat)
  | [] => some []
  | a :: b :: c :: d :: rest => (units32? highFirst rest).map (unit highFirst [a, b, c, d] :: ·)
  | _ => none

/-- The character of two halves. -/
def ofPair? (high low : Nat) : Option Char :=
  if 0xD800 ≤ high ∧ high < 0xDC00 ∧ 0xDC00 ≤ low ∧ low < 0xE000 then
    Text.ofCode? (0x10000 + (high - 0xD800) * 0x400 + (low - 0xDC00))
  else none

/-- The characters of units of two bytes, some of which are written as two halves. -/
def ofUnits16? : List Nat → Option (List Char)
  | [] => some []
  | [a] => (Text.ofCode? a).map ([·])
  | a :: b :: rest => match ofPair? a b with
    | some c => (ofUnits16? rest).map (c :: ·)
    | none => do return (← Text.ofCode? a) :: (← ofUnits16? (b :: rest))

/-- The characters that bytes stand for. -/
def decode? (octets : List UInt8) : Option (List Char) :=
  match Encoding.of octets with
  | .utf8 => (String.fromUTF8? ⟨octets.toArray⟩).map String.toList
  | .utf16 highFirst => (units16? highFirst octets).bind ofUnits16?
  | .utf32 highFirst => (units32? highFirst octets).bind (·.mapM Text.ofCode?)

end ExamFilter.Json
