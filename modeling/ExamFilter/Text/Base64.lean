/-!
# Base 64

Four signs of six bits stand for three bytes. Characters that are no signs are passed over, and
equals signs fill up the last four.
-/
namespace ExamFilter.Text

def base64Value? (c : Char) : Option Nat :=
  if 'A' ≤ c ∧ c ≤ 'Z' then some (c.toNat - 'A'.toNat)
  else if 'a' ≤ c ∧ c ≤ 'z' then some (c.toNat - 'a'.toNat + 26)
  else if c.isDigit then some (c.toNat - '0'.toNat + 52)
  else if c = '+' then some 62
  else if c = '/' then some 63
  else none

/-- Reads on within a group of four signs, of which `position` signs have been read. They leave the
bits `carried` for the next byte; `octets` are the bytes before it, the last one first. -/
def base64From (octets : List UInt8) (position carried fillers : Nat) :
    List Char → Option (List UInt8)
  | [] => if position = 0 then some octets.reverse else none
  | c :: cs =>
    if c = '=' then
      if position < 2 then base64From octets position carried fillers cs
      else if 4 ≤ position + fillers + 1 then some octets.reverse
      else base64From octets position carried (fillers + 1) cs
    else match base64Value? c with
      | none => base64From octets position carried fillers cs
      | some v =>
        let bits := 64 * carried + v
        let unit := Nat.pow 4 (3 - position)
        let octets := if position = 0 then octets else UInt8.ofNat (bits / unit) :: octets
        base64From octets ((position + 1) % 4) (bits % unit) 0 cs

/-- The bytes that a text stands for; `none` if its last four signs are not complete. -/
def readBase64? (cs : List Char) : Option (List UInt8) := base64From [] 0 0 0 cs

end ExamFilter.Text
