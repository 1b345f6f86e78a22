import ExamFilter.Yaml.Source

/-!
# Plain text

Text without quotes. It ends where an indicator begins; its lines are joined by a blank, and
blank lines between them are kept as line breaks.
-/
namespace ExamFilter.Yaml

def isFlowIndicator (c : Char) : Bool :=
  c = ',' || c = '[' || c = ']' || c = '{' || c = '}'

/-- The characters that begin no plain text. -/
def isIndicator (c : Char) : Bool :=
  isFlowIndicator c || "-?:#&*!|>'\"%@".toList.contains c || c = Char.ofNat 0x60

/-- A dash, and a colon or question mark too, begins plain text if it does not stand by itself. -/
def beginsPlain (inFlow : Bool) (s : Source) : Bool :=
  let c := s.char
  !(isIndicator c || isSpace c || isBreak c || c = '\x00')
    || c = '-' && !endsWord (s.charAt 1)
    || inFlow && c = ':' && !isSpace (s.charAt 1)
    || !inFlow && (c = '?' || c = ':') && !endsWord (s.charAt 1)

/-- The end of one word; `word` holds what has been read of it, the last character first. A colon
belongs to the word unless it stands at its end. -/
def plainWord (inFlow : Bool) (word : List Char) : Source → List Char × Source
  | [] => (word, [])
  | g :: rest =>
    if endsWord g.char || g.char = ':' && endsWord (Source.char rest)
        || inFlow && isFlowIndicator g.char then
      (word, g :: rest)
    else plainWord inFlow (g.char :: word) rest

/-- The line breaks before the next line that is not blank or separates documents, the last break
first, and that line. `atStart` tells whether a line starts here. -/
def blankLines (atStart : Bool) (breaks : List Char) : Source → List Char × Source
  | [] => (breaks, [])
  | g :: rest =>
    if atStart && Source.separates (g :: rest) then (breaks, g :: rest)
    else if g.char = ' ' then blankLines false breaks rest
    else if isBreak g.char then blankLines true (breakText g.char :: breaks) rest
    else (breaks, g :: rest)

/-- The next line that is not blank separates documents. -/
def meetsSeparator (atStart : Bool) : Source → Bool
  | [] => false
  | g :: rest =>
    atStart && Source.separates (g :: rest)
      || g.char = ' ' && meetsSeparator false rest
      || isBreak g.char && meetsSeparator true rest

/-- What a line break and the breaks of blank lines after it stand for: a single one for a blank,
further ones for themselves. -/
def foldedBreak (first : Char) (further : List Char) : List Char :=
  if breakText first ≠ '\n' then breakText first :: further
  else if further.isEmpty then [' ']
  else further

/-- What lies between two words. -/
structure PlainGap where
  /-- The text that the gap stands for; empty if no word follows. -/
  text : List Char
  rest : Source
  lineBroken : Bool

def plainGap (s : Source) : PlainGap :=
  match s.skip (· = ' ') with
  | [] => ⟨[], [], false⟩
  | g :: rest =>
    if isBreak g.char then
      let (breaks, next) := blankLines true [] rest
      ⟨if meetsSeparator true rest then [] else foldedBreak g.char breaks.reverse, next, true⟩
    else ⟨s.taken (· = ' '), g :: rest, false⟩

theorem length_plainWord (inFlow : Bool) (word : List Char) (s : Source) :
    (plainWord inFlow word s).1.length + (plainWord inFlow word s).2.length
      = word.length + s.length := by
  fun_induction plainWord inFlow word s <;> grind

theorem length_blankLines_le (atStart : Bool) (breaks : List Char) (s : Source) :
    (blankLines atStart breaks s).2.length ≤ s.length := by
  fun_induction blankLines atStart breaks s <;> grind

theorem length_plainGap_le (s : Source) : (plainGap s).rest.length ≤ s.length := by
  have hs := s.length_skip_le (· = ' ')
  unfold plainGap
  split
  · simp
  · next g rest h =>
    rw [h] at hs
    have hb := length_blankLines_le true [] rest
    split <;> grind

/-- Plain text, its last character first, with the rest and whether a line was broken before it. -/
structure Plain where
  text : List Char
  rest : Source
  lineBroken : Bool

/-- Reads on after `text`, of which the last character comes first, and `gap`. In a block every
line begins at the column `least` or after it. -/
def plainFrom (inFlow : Bool) (least : Nat) (text gap : List Char) (lineBroken : Bool)
    (s : Source) : Plain :=
  let word := plainWord inFlow [] s
  if _ : s.char = '#' ∨ word.1 = [] then ⟨text, s, lineBroken⟩
  else
    let text := word.1 ++ gap.reverse ++ text
    let next := plainGap word.2
    if next.text.isEmpty || Source.char next.rest = '#'
        || !inFlow && Source.column next.rest < least then
      ⟨text, next.rest, next.lineBroken⟩
    else plainFrom inFlow least text next.text next.lineBroken next.rest
termination_by s.length
decreasing_by
  rename_i h _
  have hw := length_plainWord inFlow [] s
  have hg := length_plainGap_le (plainWord inFlow [] s).2
  have hn : 0 < (plainWord inFlow [] s).1.length :=
    List.length_pos_iff.2 fun e => h (.inr e)
  simp only [List.length_nil] at hw
  show (plainGap (plainWord inFlow [] s).2).rest.length < s.length
  omega

/-- The plain text at the start. -/
def readPlain (inFlow : Bool) (least : Nat) (s : Source) : Plain :=
  plainFrom inFlow least [] [] false s

end ExamFilter.Yaml
