import ExamFilter.Yaml.Token

/-!
# Blocks of text

The indented lines after a bar keep their line breaks; those after a greater-than sign are joined
by blanks, except lines that are indented further. A plus keeps the line breaks at the end, a
minus drops them all, and otherwise one is kept.
-/
namespace ExamFilter.Yaml

/-- What becomes of the line breaks at the end. -/
inductive Chomping where
  | keep | strip | clip
  deriving DecidableEq, Repr

/-- The signs after the one that begins the block. -/
structure BlockHeader where
  chomping : Chomping := .clip
  /-- How much further than what encloses it the block is indented. -/
  indent? : Option Nat := none

def chomping? (c : Char) : Option Chomping :=
  if c = '+' then some .keep else if c = '-' then some .strip else none

def indent? (c : Char) : Option Nat :=
  if '1' ≤ c ∧ c ≤ '9' then some (c.toNat - '0'.toNat) else none

/-- The signs in either order, each at most once. -/
def readHeader (s : Source) : BlockHeader × Source :=
  match chomping? s.char, indent? s.char with
  | some k, _ => match indent? (s.charAt 1) with
    | some n => (⟨k, some n⟩, s.drop 2)
    | none => (⟨k, none⟩, s.tail)
  | none, some n => match chomping? (s.charAt 1) with
    | some k => (⟨k, some n⟩, s.drop 2)
    | none => (⟨.clip, some n⟩, s.tail)
  | none, none => ({}, s)

/-- The start of the line after the header, beside which only a comment may stand. -/
def skipHeaderLine (s : Source) : Except Fault Source :=
  let rest := s.skip (· = ' ')
  if !(s.char = ' ' || isBreak s.char || s.char = '\x00') then .error .indicator
  else if rest.char = '#' then .ok (rest.skip fun c => !isLineEnd c).skipBreak
  else if isLineEnd rest.char then .ok rest.skipBreak
  else .error .indicator

/-- The blank lines before the first line of text. -/
structure Lead where
  /-- The line breaks, the last first. -/
  breaks : List Char := []
  /-- The greatest column that blanks lead to. -/
  deepest : Nat := 0
  /-- Where the first blank line ends. -/
  first? : Option Nat := none

def readLead (lead : Lead) : Source → Lead × Source
  | [] => (lead, [])
  | g :: rest =>
    if g.char = ' ' then
      readLead { lead with deepest := max lead.deepest (g.mark.column + 1) } rest
    else if isBreak g.char then
      readLead { lead with
        breaks := breakText g.char :: lead.breaks
        first? := lead.first? <|> some g.mark.column } rest
    else (lead, g :: rest)

/-- No blank line after the first one reaches further than it, if it has any blanks. -/
def Lead.isEven (lead : Lead) : Bool :=
  match lead.first? with
  | some n => n = 0 || lead.deepest ≤ n
  | none => true

/-- The blank lines before the next line of text, and the text of that line from the column of
the block on. -/
def blockBreaks (column : Nat) (breaks : List Char) : Source → List Char × Source
  | [] => (breaks, [])
  | g :: rest =>
    if g.char = ' ' && g.mark.column < column then blockBreaks column breaks rest
    else if isBreak g.char then blockBreaks column (breakText g.char :: breaks) rest
    else (breaks, g :: rest)

/-- How the lines of a block are read. -/
structure BlockStyle where
  isFolded : Bool
  column : Nat
  /-- The block is not enclosed by anything, so that a separator of documents ends it. -/
  isOutermost : Bool

/-- A block whose lines have been read. All texts are held last character first. -/
structure Block where
  text : List Char := []
  /-- The line break after the last line. -/
  lineBreak : List Char := []
  /-- The line breaks of blank lines after it. -/
  breaks : List Char := []

/-- Adds the lines at the column of the block. The first argument bounds their number. -/
def Block.readLines (style : BlockStyle) : Nat → Block → Source → Block × Source
  | 0, b, s => (b, s)
  | n + 1, b, s =>
    if s.column ≠ style.column || s.char = '\x00' then (b, s)
    else
      let line := s.taken fun c => !isLineEnd c
      let rest := s.skip fun c => !isLineEnd c
      let lineBreak := if isBreak rest.char then [breakText rest.char] else []
      let (breaks, next) := blockBreaks style.column [] rest.skipBreak
      let text := line.reverse ++ b.breaks ++ b.text
      if style.isOutermost && next.isSeparator
          || next.column ≠ style.column || next.char = '\x00' then
        (⟨text, lineBreak, breaks⟩, next)
      else
        let joins := style.isFolded && lineBreak = ['\n'] && !isSpace s.char && !isSpace next.char
        let joint := if !joins then lineBreak else if breaks.isEmpty then [' '] else []
        readLines style n ⟨joint ++ text, lineBreak, breaks⟩ next

def Block.finish (b : Block) (chomping : Chomping) : List Char :=
  match chomping with
  | .strip => b.text.reverse
  | .clip => (b.lineBreak ++ b.text).reverse
  | .keep => (b.breaks ++ b.lineBreak ++ b.text).reverse

/-- The block that begins with the sign at the start, where what encloses it ends at the column
before `least`. -/
def readBlock (least : Nat) (s : Source) : Except Fault (List Char × Source) := do
  let (header, rest) := readHeader s.tail
  let rest ← skipHeaderLine rest
  let style (column : Nat) (isOutermost : Bool) : BlockStyle := ⟨s.char = '>', column, isOutermost⟩
  match header.indent? with
  | some n =>
    let column := max least 1 + n - 1
    let (breaks, rest) := blockBreaks column [] rest
    let (block, rest) := Block.readLines (style column false) s.length { breaks } rest
    return (block.finish header.chomping, rest)
  | none =>
    let (lead, rest) := readLead {} rest
    if !lead.isEven then throw .text
    let column := max least lead.deepest
    let (block, rest) :=
      Block.readLines (style column (least = 0)) s.length { breaks := lead.breaks } rest
    return (block.finish header.chomping, rest)

end ExamFilter.Yaml
