import ExamFilter.Text.Numeral
import ExamFilter.Yaml.PlainText
import ExamFilter.Yaml.Token

/-!
# Quoted text

Between single quotes a quote is written twice and nothing is escaped. Between double quotes a
backslash begins an escape. In both the lines are joined as in plain text, and an escaped line
break joins them without a blank.
-/
namespace ExamFilter.Yaml

/-- What a backslash and the character stand for. -/
def escape? (c : Char) : Option Char :=
  match c with
  | '0' => some '\x00'
  | 'a' => some '\x07'
  | 'b' => some '\x08'
  | 't' | '\t' => some '\t'
  | 'n' => some '\n'
  | 'v' => some '\x0b'
  | 'f' => some '\x0c'
  | 'r' => some '\r'
  | 'e' => some '\x1b'
  | ' ' | '"' | '/' | '\\' => some c
  | 'N' => some '\u0085'
  | '_' => some '\u00a0'
  | 'L' => some '\u2028'
  | 'P' => some '\u2029'
  | _ => none

/-- The number of hexadecimal digits after a backslash and the character. -/
def escapeWidth? (c : Char) : Option Nat :=
  match c with
  | 'x' => some 2
  | 'u' => some 4
  | 'U' => some 8
  | _ => none

/-- The character of a code point. Halves of pairs are no characters. -/
def ofCode (n : Nat) : Except Fault Char :=
  match Text.ofCode? n with
  | some c => .ok c
  | none =>
    if n < 0x110000 then .error .text
    else if n < Nat.pow 2 31 then .error (.value .codePoint)
    else .error (.value .codeSize)

/-- The line breaks up to the next line that is not blank, the last break first, and that line
from its first character on. -/
def quotedBreaks (breaks : List Char) (s : Source) : Except Fault (List Char × Source) :=
  if s.separates then .error .text
  else match _ : s.skip isSpace with
    | [] => .ok (breaks, [])
    | g :: rest =>
      if isBreak g.char then quotedBreaks (breakText g.char :: breaks) rest
      else .ok (breaks, g :: rest)
termination_by s.length
decreasing_by exact Source.length_lt_of_skip_eq_cons ‹_›

/-- Reads up to the closing quote; `text` holds what has been read, the last character first. The
first argument bounds the number of steps. -/
def quotedFrom (isDouble : Bool) :
    Nat → List Char → Source → Except Fault (List Char × Source)
  | 0, _, _ | _, _, [] => .error .text
  | n + 1, text, g :: rest =>
    let c := g.char
    if c = '\x00' then .error .text
    else if isSpace c || isBreak c then
      let line := Source.skip isSpace (g :: rest)
      if isBreak line.char then do
        let (further, next) ← quotedBreaks [] line.tail
        quotedFrom isDouble n ((foldedBreak line.char further.reverse).reverse ++ text) next
      else quotedFrom isDouble n ((Source.taken isSpace (g :: rest)).reverse ++ text) line
    else if !isDouble then
      if c ≠ '\'' then quotedFrom isDouble n (c :: text) rest
      else if Source.char rest = '\'' then quotedFrom isDouble n (c :: text) rest.tail
      else .ok (text, rest)
    else if c = '"' then .ok (text, rest)
    else if c ≠ '\\' then quotedFrom isDouble n (c :: text) rest
    else
      let e := Source.char rest
      match escape? e, escapeWidth? e with
      | some x, _ => quotedFrom isDouble n (x :: text) rest.tail
      | none, some width =>
        match Text.readHex? ((rest.tail.take width).map (·.char)) with
        | some code => do
          quotedFrom isDouble n ((← ofCode code) :: text) (rest.tail.drop width)
        | none => .error .text
      | none, none =>
        if isBreak e then do
          let (further, next) ← quotedBreaks [] rest.tail
          quotedFrom isDouble n (further ++ text) next
        else .error .text

/-- The text that begins with the quote at the start, and what follows its closing quote. -/
def readQuoted (s : Source) : Except Fault (List Char × Source) :=
  (quotedFrom (s.char = '"') s.length [] s.tail).map fun (text, rest) => (text.reverse, rest)

end ExamFilter.Yaml
