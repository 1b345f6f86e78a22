/-!
# Characters within texts

Delimiters written twice, texts inside texts, and line breaks. Writing a delimiter twice is how it
is told apart from the end of the quoted text it stands in.
-/
namespace ExamFilter.Text

def doubleChars (q : Char) : List Char → List Char
  | [] => []
  | c :: cs => if c = q then c :: c :: doubleChars q cs else c :: doubleChars q cs

/-- The text with every occurrence of `q` written twice. -/
def double (q : Char) (s : String) : String := String.ofList (doubleChars q s.toList)

@[simp] theorem toList_double (q : Char) (s : String) :
    (double q s).toList = doubleChars q s.toList := by
  simp [double]

theorem doubleChars_append (q : Char) (xs ys : List Char) :
    doubleChars q (xs ++ ys) = doubleChars q xs ++ doubleChars q ys := by
  induction xs with
  | nil => rfl
  | cons c cs ih => by_cases h : c = q <;> simp [doubleChars, h, ih]

/-- The first text stands somewhere in the second. -/
def occursIn (p : List Char) : List Char → Bool
  | [] => p.isEmpty
  | c :: cs => p.isPrefixOf (c :: cs) || occursIn p cs

theorem occursIn_iff {p s : List Char} : occursIn p s = true ↔ p <:+: s := by
  induction s with
  | nil => simp [occursIn]
  | cons c cs ih => simp [occursIn, ih, List.infix_cons_iff]

/-! A line may end with a line feed, with a carriage return, or with both in this order. -/

/-- The text in which every line ends with a line feed, after `done`, whose last character comes
first. -/
def normalizeBreaksFrom (done : List Char) : List Char → List Char
  | [] => done.reverse
  | '\r' :: '\n' :: cs => normalizeBreaksFrom ('\n' :: done) cs
  | c :: cs => normalizeBreaksFrom ((if c = '\r' then '\n' else c) :: done) cs

def normalizeBreaks (cs : List Char) : List Char := normalizeBreaksFrom [] cs

@[simp] theorem normalizeBreaks_nil : normalizeBreaks [] = [] := rfl

end ExamFilter.Text
