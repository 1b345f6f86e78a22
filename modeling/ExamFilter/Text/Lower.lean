import ExamFilter.Text.CaseTable

/-!
# Lower case

The full lower-case form of a text. Every letter is mapped by itself but two: the dotted capital
I becomes two characters, and a capital sigma at the end of a word takes its final form.
-/
namespace ExamFilter.Text

/-- The lower-case form of a character that does not depend on its neighbours. -/
def lowerChar (c : Char) : List Char :=
  if c.toNat = 0x130 then ['i', Char.ofNat 0x307]
  else match caseRuns.find? (·.contains c.toNat) with
    | some r => [Char.ofNat (c.toNat + r.offset).toNat]
    | none => [c]

/-- The nearest neighbour that is not looked through is a cased letter. -/
def nextToCased (neighbours : List Char) : Bool :=
  match neighbours.dropWhile isCaseIgnorable with
  | c :: _ => isCased c
  | [] => false

/-- A sigma is final when a cased letter stands before it and none after it. -/
def lowerSigma (before after : List Char) : Char :=
  if nextToCased before && !nextToCased after then Char.ofNat 0x3C2 else Char.ofNat 0x3C3

/-- `before` holds the characters already passed, the nearest first. -/
def lowerFrom (before : List Char) : List Char → List Char
  | [] => []
  | c :: after =>
    (if c.toNat = 0x3A3 then [lowerSigma before after] else lowerChar c)
      ++ lowerFrom (c :: before) after

def lowerChars (cs : List Char) : List Char := lowerFrom [] cs

def lower (s : String) : String := String.ofList (lowerChars s.toList)

@[simp] theorem toList_lower (s : String) : (lower s).toList = lowerChars s.toList := by
  simp [lower]

end ExamFilter.Text
