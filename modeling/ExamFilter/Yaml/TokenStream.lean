import ExamFilter.Yaml.BlockText
import ExamFilter.Yaml.PlainText
import ExamFilter.Yaml.QuotedText
import ExamFilter.Yaml.TagText

/-!
# From characters to tokens

A block starts where a dash, a question mark or a key stands further right than the block around
it, and ends before the first token that stands further left. A key is known as such only at the
colon after it; until then its place among the tokens is kept as a candidate.
-/
namespace ExamFilter.Yaml

/-- The place of a token that a key may begin with. -/
structure Candidate where
  /-- The number of tokens before it. -/
  position : Nat
  /-- Nothing but a key can stand here. -/
  isRequired : Bool
  mark : Mark
  offset : Nat

/-- A document of which the first tokens have been read. -/
structure Lexer where
  rest : Source
  tokens : Array Placed := #[]
  /-- The columns of the open blocks, the innermost first. -/
  blocks : List Nat := []
  /-- The open brackets, the innermost first. -/
  brackets : List Bracket := []
  /-- The candidate within every open bracket, the innermost first, and last the one outside. -/
  candidates : List (Option Candidate) := [none]
  /-- A key may begin here. -/
  keyAllowed : Bool := true
  /-- The last token is the colon of a value, with no comment after it. -/
  afterColon : Bool := false
  isDone : Bool := false

/-- White space, line breaks and comments between two tokens have been passed. -/
structure Gap where
  rest : Source
  lineBroken : Bool
  commented : Bool

/-- After an empty line the blanks and tabulators before the next token are passed as well. -/
def skipGap (inFlow lineBroken commented : Bool) (s : Source) : Gap :=
  match _ : s.skip fun c => c = ' ' || inFlow && c = '\t' with
  | [] => ⟨[], lineBroken, commented⟩
  | g :: rest =>
    if g.char = '#' then
      skipGap inFlow true true ((Source.skip (fun c => !isLineEnd c) rest).skip isBreak)
    else if isBreak g.char then
      if Source.char rest = '\n' then
        skipGap inFlow true true (Source.skip (fun c => isBreak c || isSpace c) rest)
      else skipGap inFlow true commented rest
    else ⟨g :: rest, lineBroken, commented⟩
termination_by s.length
decreasing_by
  all_goals
    have hs := Source.length_lt_of_skip_eq_cons ‹Source.skip _ s = g :: rest›
  · exact Nat.lt_of_le_of_lt
      (Nat.le_trans (Source.length_skip_le _ _) (Source.length_skip_le _ _)) hs
  · exact Nat.lt_of_le_of_lt (Source.length_skip_le _ _) hs
  · exact hs

namespace Lexer

def inFlow (l : Lexer) : Bool := !l.brackets.isEmpty

/-- The column of the innermost block; outside all blocks it is the one before the first. -/
def indent (l : Lexer) : Int := (l.blocks.head?.map Int.ofNat).getD (-1)

def push (l : Lexer) (token : Token) (rest : Source) : Lexer :=
  { l with
    tokens := l.tokens.push ⟨token, l.rest.mark, rest.mark⟩
    rest
    afterColon := token = .value }

/-- A token of one character. -/
def pushSign (l : Lexer) (token : Token) : Lexer := l.push token l.rest.tail

/-- A token without any characters. -/
def pushEmpty (l : Lexer) (token : Token) : Lexer := l.push token l.rest

/-- Blocks that begin to the right of the column end here. Brackets suspend all blocks. -/
def unwind (l : Lexer) (column : Int) : Lexer :=
  if l.inFlow then l
  else
    let isLeft (c : Nat) : Bool := column < c
    { (l.blocks.takeWhile isLeft).foldl (fun l _ => l.pushEmpty .blockEnd) l with
      blocks := l.blocks.dropWhile isLeft }

/-- The candidate that is given up must not have been required. -/
def dropCandidate (l : Lexer) : Except Fault Lexer :=
  match l.candidates with
  | some c :: others =>
    if c.isRequired then .error .indicator else .ok { l with candidates := none :: others }
  | _ => .ok l

/-- A key lies on one line and is no longer than 1024 characters. -/
def Candidate.isStale (s : Source) (c : Candidate) : Bool :=
  c.mark.line ≠ s.mark.line || 1024 < s.offset - c.offset

def dropStale (l : Lexer) : Except Fault Lexer :=
  let stale (c : Option Candidate) : Bool := (c.map (Candidate.isStale l.rest)).getD false
  if l.candidates.any fun c => stale c && (c.map (·.isRequired)).getD false then
    .error .indicator
  else .ok { l with candidates := l.candidates.map fun c => if stale c then none else c }

/-- Notes that a key may begin here. -/
def saveCandidate (l : Lexer) : Except Fault Lexer :=
  if !l.keyAllowed then .ok l
  else do
    let l ← l.dropCandidate
    let c : Candidate :=
      { position := l.tokens.size
        isRequired := !l.inFlow && l.indent = l.rest.column
        mark := l.rest.mark
        offset := l.rest.offset }
    return { l with candidates := some c :: l.candidates.tail }

/-- A block starts here if the column lies to the right of the block around it. -/
def openBlock (l : Lexer) (token : Token) : Except Fault Lexer :=
  if l.inFlow then .ok l
  else if !l.keyAllowed then .error .indicator
  else if l.indent < l.rest.column then
    .ok { l.pushEmpty token with blocks := l.rest.column :: l.blocks }
  else .ok l

def insert (l : Lexer) (token : Token) (c : Candidate) : Lexer :=
  { l with tokens := l.tokens.insertIdxIfInBounds c.position ⟨token, c.mark, c.mark⟩ }

/-- The candidate is a key, with which a block may start. -/
def insertKey (l : Lexer) (c : Candidate) : Lexer :=
  let l := l.insert .key c
  if !l.inFlow && l.indent < c.mark.column then
    { l.insert .mappingStart c with blocks := c.mark.column :: l.blocks }
  else l

/-- The colon before a value. Without a candidate for the key, the key is empty or has been marked
by a question mark. -/
def value (l : Lexer) : Except Fault Lexer :=
  match l.candidates with
  | some c :: others =>
    let l := { l with candidates := none :: others }.insertKey c
    .ok ({ l with keyAllowed := false }.pushSign .value)
  | _ => do
    let l ← l.openBlock .mappingStart
    return { l with keyAllowed := !l.inFlow }.pushSign .value

def question (l : Lexer) : Except Fault Lexer := do
  let l ← l.openBlock .mappingStart
  let l ← { l with keyAllowed := !l.inFlow }.dropCandidate
  return l.pushSign .key

def dash (l : Lexer) : Except Fault Lexer := do
  let l ← { ← l.openBlock .sequenceStart with keyAllowed := true }.dropCandidate
  return l.pushSign .item

def comma (l : Lexer) : Except Fault Lexer := do
  let l ← { l with keyAllowed := true }.dropCandidate
  return l.pushSign .comma

/-- Every open block and bracket is a collection. -/
def openBracket (l : Lexer) (b : Bracket) : Except Fault Lexer := do
  if maxDepth ≤ l.brackets.length + l.blocks.length then throw .depth
  let l ← l.saveCandidate
  return { l.pushSign (.opening b) with
    brackets := b :: l.brackets
    candidates := none :: l.candidates
    keyAllowed := true }

def closeBracket (l : Lexer) (b : Bracket) : Except Fault Lexer := do
  let l ← l.dropCandidate
  match l.brackets with
  | [] => throw .indicator
  | _ :: brackets =>
    return { l.pushSign (.closing b) with
      brackets
      candidates := l.candidates.tail
      keyAllowed := false }

/-- A separator of documents ends all blocks. -/
def separator (l : Lexer) (token : Token) : Except Fault Lexer := do
  let l ← (l.unwind (-1)).dropCandidate
  return { l.push token (l.rest.drop 3) with keyAllowed := false }

def finish (l : Lexer) : Except Fault Lexer := do
  let l ← (l.unwind (-1)).dropCandidate
  return { l.pushEmpty .streamEnd with isDone := true }

/-- A character of the name of an anchor. -/
def isNameChar (c : Char) : Bool :=
  !isFlowIndicator c && 0x21 ≤ c.toNat && c.toNat ≠ 0x85 && c ≠ '\uFEFF'

def endsName (c : Char) : Bool :=
  endsWord c || isBreak c || isFlowIndicator c || "?:%@".toList.contains c || c = Char.ofNat 0x60

/-- An anchor or alias sign and the name after it. -/
def named (l : Lexer) (token : String → Token) : Except Fault Lexer := do
  let l ← l.saveCandidate
  let name := Source.taken isNameChar l.rest.tail
  let rest := Source.skip isNameChar l.rest.tail
  if name.isEmpty || !endsName rest.char then throw .name
  return { l.push (token (String.ofList name)) rest with keyAllowed := false }

def tag (l : Lexer) : Except Fault Lexer := do
  let l ← l.saveCandidate
  let (handle?, suffix, rest) ← readTag l.rest
  return { l.push (.tag handle? suffix) rest with keyAllowed := false }

/-- A directive ends all blocks. -/
def directive (l : Lexer) : Except Fault Lexer := do
  let l ← (l.unwind (-1)).dropCandidate
  let (directive, rest) ← readDirective l.rest
  return { l.push (.directive directive) rest with keyAllowed := false }

def block (l : Lexer) : Except Fault Lexer := do
  let l ← { l with keyAllowed := true }.dropCandidate
  let (text, rest) ← readBlock (l.indent + 1).toNat l.rest
  return l.push (.scalar false (String.ofList text)) rest

def quoted (l : Lexer) : Except Fault Lexer := do
  let l ← l.saveCandidate
  let (text, rest) ← readQuoted l.rest
  return { l.push (.scalar false (String.ofList text)) rest with keyAllowed := false }

def plain (l : Lexer) : Except Fault Lexer := do
  let l ← l.saveCandidate
  let p := readPlain l.inFlow (l.indent + 1).toNat l.rest
  return { l.push (.scalar true (String.ofList p.text.reverse)) p.rest with
    keyAllowed := p.lineBroken }

/-- Whether a colon stands before a value. Between curly brackets it need not stand by itself,
except right after another one. -/
def atValue (l : Lexer) : Bool :=
  endsWord (l.rest.charAt 1) || l.brackets.head? = some .curly && !l.afterColon

def atWordEnd (l : Lexer) : Bool := endsWord (l.rest.charAt 1)

/-- Reads the token at the start, before which there is nothing to be passed. -/
def token (l : Lexer) : Except Fault Lexer :=
  let c := l.rest.char
  if c = '\x00' then l.finish
  else if c = '%' && l.rest.column = 0 then l.directive
  else if l.rest.isMarker '-' then l.separator .documentStart
  else if l.rest.isMarker '.' then l.separator .documentEnd
  else if c = '[' then l.openBracket .square
  else if c = '{' then l.openBracket .curly
  else if c = ']' then l.closeBracket .square
  else if c = '}' then l.closeBracket .curly
  else if c = ',' then l.comma
  else if c = '-' && l.atWordEnd then l.dash
  else if c = '?' && (l.inFlow || l.atWordEnd) then l.question
  else if c = ':' && l.atValue then l.value
  else if c = '*' then l.named .alias
  else if c = '&' then l.named .anchor
  else if c = '!' then l.tag
  else if (c = '|' || c = '>') && !l.inFlow then l.block
  else if c = '\'' || c = '"' then l.quoted
  else if beginsPlain l.inFlow l.rest then l.plain
  else .error .indicator

def step (l : Lexer) : Except Fault Lexer := do
  let gap := skipGap l.inFlow false false l.rest
  let l : Lexer :=
    { l with
      rest := gap.rest
      keyAllowed := l.keyAllowed || gap.lineBroken && !l.inFlow
      afterColon := l.afterColon && !gap.commented }
  let l ← l.dropStale
  (l.unwind l.rest.column).token

/-- The tokens up to the end; the first argument bounds the number of steps. -/
def run : Nat → Lexer → Except Fault (List Placed)
  | 0, _ => .error .indicator
  | n + 1, l => do
    let l ← l.step
    if l.isDone then return l.tokens.toList else run n l

end Lexer

/-- The tokens of a document. A byte order mark at its start is passed over. -/
def tokens (cs : List Char) : Except Fault (List Placed) :=
  if !cs.all isAllowed then .error .character
  else
    let s := Source.ofChars cs
    Lexer.run (s.length + 1) { rest := if s.char = '\uFEFF' then s.tail else s }

end ExamFilter.Yaml
