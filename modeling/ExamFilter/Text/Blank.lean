/-!
# Classes of characters and white space

A class of characters is given by the ascending list of the code points at which membership
changes: the first bound opens a run of members, the second closes it, and so on.

White space is the class of the characters that are cut off at the two ends of a text. The
zero-width space and the byte order mark are no white space.
-/
namespace ExamFilter.Text

/-- Membership changes at every bound passed, starting from outside the class. -/
def inBounds : List Nat → Nat → Bool
  | [], _ => false
  | b :: rest, n => if n < b then false else !inBounds rest n

@[simp] theorem inBounds_nil (n : Nat) : inBounds [] n = false := rfl

def blankBounds : List Nat :=
  [0x9, 0xE, 0x1C, 0x21, 0x85, 0x86, 0xA0, 0xA1, 0x1680, 0x1681, 0x2000, 0x200B,
   0x2028, 0x202A, 0x202F, 0x2030, 0x205F, 0x2060, 0x3000, 0x3001]

def isBlank (c : Char) : Bool := inBounds blankBounds c.toNat

def dropBlank (cs : List Char) : List Char := cs.dropWhile isBlank

/-- The text from its first to its last character that is not white space. -/
def trimChars (cs : List Char) : List Char := (dropBlank (dropBlank cs).reverse).reverse

def trim (s : String) : String := String.ofList (trimChars s.toList)

@[simp] theorem toList_trim (s : String) : (trim s).toList = trimChars s.toList := by
  simp [trim]

@[simp] theorem trimChars_nil : trimChars [] = [] := rfl

theorem head?_dropBlank {cs : List Char} {c : Char} (h : (dropBlank cs).head? = some c) :
    isBlank c = false := by
  induction cs with
  | nil => simp [dropBlank] at h
  | cons d ds ih =>
    by_cases hd : isBlank d
    · exact ih (by simpa [dropBlank, hd] using h)
    · simp only [dropBlank, List.dropWhile_cons, hd] at h
      cases h
      simpa using hd

end ExamFilter.Text
