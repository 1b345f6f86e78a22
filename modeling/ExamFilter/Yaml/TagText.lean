import ExamFilter.Text.Numeral
import ExamFilter.Yaml.Token

/-!
# Tags and directives

A tag follows an exclamation mark. It is written out between angle brackets, or begins with a handle
that stands for the beginning of tags. A line after a percent sign, before a document, gives the
version or such a handle; other lines of this form say nothing.
-/
namespace ExamFilter.Yaml

/-- The character after which a tag, a handle or a version has ended. -/
def endsTag (c : Char) : Bool := c = ' ' || isBreak c || c = '\x00'

def isAsciiWord (c : Char) : Bool := c.isAlphanum || c = '-' || c = '_'

def isTagChar (c : Char) : Bool := c.isAlphanum || "-;/?:@&=+$,_.!~*'()[]%#".toList.contains c

/-- The bytes that are written as percent signs and two hexadecimal digits, and what follows. The
first argument bounds their number. -/
def escapedBytes : Nat → Source → Except Fault (List UInt8 × Source)
  | 0, s => .ok ([], s)
  | n + 1, s =>
    if s.char ≠ '%' then .ok ([], s)
    else match Text.readHex? [s.charAt 1, s.charAt 2] with
      | none => .error .directive
      | some b => (escapedBytes n (s.drop 3)).map fun (bs, rest) => (UInt8.ofNat b :: bs, rest)

/-- The characters of a tag, of which those in `text` have been read, the last one first. -/
def tagChars : Nat → List Char → Source → Except Fault (List Char × Source)
  | 0, text, s => .ok (text.reverse, s)
  | n + 1, text, s =>
    if !isTagChar s.char then .ok (text.reverse, s)
    else if s.char ≠ '%' then tagChars n (s.char :: text) s.tail
    else do
      let (bytes, rest) ← escapedBytes n s
      match String.fromUTF8? ⟨bytes.toArray⟩ with
      | some t => tagChars n (t.toList.reverse ++ text) rest
      | none => throw .directive

/-- The part of a tag after its handle, which is not empty. -/
def readSuffix (s : Source) : Except Fault (String × Source) := do
  let (text, rest) ← tagChars s.length [] s
  if isTagChar s.char then return (String.ofList text, rest) else throw .directive

/-- A handle, which is an exclamation mark by itself, or two with a word between them. -/
def readHandle (s : Source) : Except Fault (String × Source) :=
  let word := Source.taken isAsciiWord s.tail
  let rest := Source.skip isAsciiWord s.tail
  if s.char ≠ '!' then .error .directive
  else if s.charAt 1 = ' ' then .ok ("!", s.tail)
  else if Source.char rest ≠ '!' then .error .directive
  else .ok (String.ofList ('!' :: (word ++ ['!'])), rest.tail)

/-- Whether another exclamation mark follows the one at the start before the tag ends. -/
def hasHandle (s : Source) : Bool :=
  Source.char (Source.skip (fun c => !endsTag c && c ≠ '!') s.tail) = '!'

/-- The handle and the rest of the tag that begins at the start, and what follows it. A tag that is
written out has no handle. -/
def readTag (s : Source) : Except Fault (Option String × String × Source) := do
  let (handle?, suffix, rest) ←
    if s.charAt 1 = '<' then do
      let (suffix, rest) ← readSuffix (s.drop 2)
      if Source.char rest ≠ '>' then throw .directive
      pure (none, suffix, rest.tail)
    else if endsWord (s.charAt 1) then pure (none, "!", s.tail)
    else if hasHandle s then do
      let (handle, rest) ← readHandle s
      let (suffix, rest) ← readSuffix rest
      pure (some handle, suffix, rest)
    else do
      let (suffix, rest) ← readSuffix s.tail
      pure (some "!", suffix, rest)
  if endsTag (Source.char rest) then return (handle?, suffix, rest) else throw .directive

/-- The start of the line after a directive, beside which only a comment may stand. -/
def skipDirectiveLine (s : Source) : Except Fault Source :=
  let rest := s.skip (· = ' ')
  let rest := if rest.char = '#' then rest.skip fun c => !isLineEnd c else rest
  if isLineEnd rest.char then .ok rest.skipBreak else .error .directive

def readDigits (s : Source) : Except Fault (Nat × Source) :=
  if s.char.isDigit then
    .ok ((s.taken Char.isDigit).foldl (fun n c => 10 * n + (c.toNat - '0'.toNat)) 0,
      s.skip Char.isDigit)
  else .error .directive

def readVersion (s : Source) : Except Fault (Directive × Source) := do
  let (major, rest) ← readDigits (s.skip (· = ' '))
  if rest.char ≠ '.' then throw .directive
  let (minor, rest) ← readDigits rest.tail
  if endsTag rest.char then return (.version major minor, rest) else throw .directive

def readTagHandle (s : Source) : Except Fault (Directive × Source) := do
  let (handle, rest) ← readHandle (s.skip (· = ' '))
  if rest.char ≠ ' ' then throw .directive
  let (beginning, rest) ← readSuffix (rest.skip (· = ' '))
  if endsTag rest.char then return (.tagHandle handle beginning, rest) else throw .directive

def isDirectiveChar (c : Char) : Bool := isAsciiWord c || c = ':' || c = '.'

/-- The directive on the line after the percent sign at the start, and the next line. -/
def readDirective (s : Source) : Except Fault (Directive × Source) := do
  let name := String.ofList (Source.taken isDirectiveChar s.tail)
  let rest := Source.skip isDirectiveChar s.tail
  if name = "" || !endsTag rest.char then throw .directive
  let (directive, rest) ←
    if name = "YAML" then readVersion rest
    else if name = "TAG" then readTagHandle rest
    else pure (.other, rest.skip fun c => !isLineEnd c)
  return (directive, ← skipDirectiveLine rest)

end ExamFilter.Yaml
