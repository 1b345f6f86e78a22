import ExamFilter.Decimal.Whole
import ExamFilter.Json.Encoding
import ExamFilter.Value

/-!
# Reading JSON

A JSON text is read into a value. A number is whole unless it has a fraction or an exponent, an
infinity and what is not a number may be written by name, and of two members with the same name
the last one counts. Whole numbers with very many digits and values nested very deeply are not read.
-/
namespace ExamFilter.Json

inductive Fault where
  | malformed
  | tooManyDigits
  | tooDeep
  | encoding
  deriving DecidableEq, Repr

/-- So many lists and objects may contain one another. -/
def maxDepth : Nat := 960

def isBlank (c : Char) : Bool := c = ' ' || c = '\t' || c = '\n' || c = '\r'

def skipBlank (cs : List Char) : List Char := cs.dropWhile isBlank

def escape? (c : Char) : Option Char :=
  match c with
  | '"' | '\\' | '/' => some c
  | 'b' => some '\x08'
  | 'f' => some '\x0c'
  | 'n' => some '\n'
  | 'r' => some '\r'
  | 't' => some '\t'
  | _ => none

/-- Reads up to the closing quote; `text` holds what has been read, the last character first. -/
def readText (text : List Char) : List Char → Option (String × List Char)
  | [] => none
  | '"' :: cs => some (String.ofList text.reverse, cs)
  | '\\' :: 'u' :: a :: b :: c :: d :: '\\' :: 'u' :: e :: f :: g :: h :: cs => do
    let high ← Text.readHex? [a, b, c, d]
    match Text.ofCode? high with
    | some x => readText (x :: text) ('\\' :: 'u' :: e :: f :: g :: h :: cs)
    | none => readText ((← ofPair? high (← Text.readHex? [e, f, g, h])) :: text) cs
  | '\\' :: 'u' :: a :: b :: c :: d :: cs => do
    readText ((← Text.ofCode? (← Text.readHex? [a, b, c, d])) :: text) cs
  | '\\' :: c :: cs => do readText ((← escape? c) :: text) cs
  | c :: cs => if c.toNat < 0x20 then none else readText (c :: text) cs

/-- The digits of a fraction, with the point. -/
def takeFraction : List Char → List Char × List Char
  | '.' :: cs =>
    let digits := cs.takeWhile Char.isDigit
    if digits.isEmpty then ([], '.' :: cs) else ('.' :: digits, cs.dropWhile Char.isDigit)
  | cs => ([], cs)

def takeExponent : List Char → List Char × List Char
  | e :: cs =>
    let (sign, rest) := match cs with
      | '+' :: r => (['+'], r)
      | '-' :: r => (['-'], r)
      | r => ([], r)
    let digits := rest.takeWhile Char.isDigit
    if (e = 'e' || e = 'E') && !digits.isEmpty then
      (e :: (sign ++ digits), rest.dropWhile Char.isDigit)
    else ([], e :: cs)
  | [] => ([], [])

/-- The digits before the point, which do not begin with a zero unless there is no other. -/
def takeWhole : List Char → List Char × List Char
  | '0' :: cs => (['0'], cs)
  | cs => (cs.takeWhile Char.isDigit, cs.dropWhile Char.isDigit)

def wholeNumber (isNegative : Bool) (digits : List Char) : Except Fault Value :=
  if Decimal.maxDigits < digits.length then .error .tooManyDigits
  else
    let n := Decimal.valueOf digits
    .ok (.int (if isNegative then -(n : Int) else n))

def readNumber (cs : List Char) : Except Fault (Value × List Char) :=
  let (isNegative, body) := match cs with
    | '-' :: r => (true, r)
    | r => (false, r)
  let (whole, rest) := takeWhole body
  let (fraction, rest) := takeFraction rest
  let (exponent, rest) := takeExponent rest
  if whole.isEmpty then .error .malformed
  else if fraction.isEmpty && exponent.isEmpty then
    (wholeNumber isNegative whole).map fun v => (v, rest)
  else match Decimal.readUnsigned? (whole ++ fraction ++ exponent) with
    | some x => .ok (.float (Decimal.withSign isNegative x), rest)
    | none => .error .malformed

/-- The words for values, and for numbers that have no digits. -/
def words : List (List Char × Value) :=
  [("null".toList, .null), ("true".toList, .bool true), ("false".toList, .bool false),
   ("NaN".toList, .float Decimal.notANumber), ("Infinity".toList, .float Decimal.infinity),
   ("-Infinity".toList, .float (-Decimal.infinity))]

def readWord? (cs : List Char) : Option (Value × List Char) :=
  words.findSome? fun (word, v) =>
    if word.isPrefixOf cs then some (v, cs.drop word.length) else none

/-- A value that holds no others. -/
def readSimple (cs : List Char) : Except Fault (Value × List Char) :=
  match readWord? cs with
  | some r => .ok r
  | none => readNumber cs

def orMalformed : Option α → Except Fault α
  | some x => .ok x
  | none => .error .malformed

/-- One list or object more is open; `depth` is the number of those that may still be opened. -/
def deeper (depth : Nat) : Except Fault Nat :=
  match depth with
  | 0 => .error .tooDeep
  | d + 1 => .ok d

/-- Reads the name of a member and the colon after it. -/
def readName (cs : List Char) : Except Fault (String × List Char) := do
  let '"' :: r := cs | .error .malformed
  let (name, rest) ← orMalformed (readText [] r)
  let ':' :: rest := skipBlank rest | .error .malformed
  return (name, skipBlank rest)

mutual

/-- Reads the value at the start. Here and below the first argument bounds the number of steps. -/
def readValue : Nat → Nat → List Char → Except Fault (Value × List Char)
  | 0, _, _ => .error .malformed
  | n + 1, depth, cs =>
    match cs with
    | '"' :: r => (orMalformed (readText [] r)).map fun (s, rest) => (.text s, rest)
    | '[' :: r => do
      let inner ← deeper depth
      match skipBlank r with
      | ']' :: rest => .ok (.list [], rest)
      | r => readItems n inner [] r
    | '{' :: r => do
      let inner ← deeper depth
      match skipBlank r with
      | '}' :: rest => .ok (.dict [], rest)
      | r => readMembers n inner [] r
    | r => readSimple r

/-- Reads items up to the closing bracket, after those in `done`, the last of which comes first. -/
def readItems : Nat → Nat → List Value → List Char → Except Fault (Value × List Char)
  | 0, _, _, _ => .error .malformed
  | n + 1, depth, done, cs => do
    let (v, rest) ← readValue n depth cs
    match skipBlank rest with
    | ']' :: rest => .ok (.list (v :: done).reverse, rest)
    | ',' :: rest => readItems n depth (v :: done) (skipBlank rest)
    | _ => .error .malformed

/-- Reads members up to the closing bracket, after those in `done`, the last of which comes
first. -/
def readMembers : Nat → Nat → List (Value × Value) → List Char → Except Fault (Value × List Char)
  | 0, _, _, _ => .error .malformed
  | n + 1, depth, done, cs => do
    let (name, rest) ← readName cs
    let (v, rest) ← readValue n depth rest
    match skipBlank rest with
    | '}' :: rest => .ok (Value.dictOf ((.text name, v) :: done).reverse, rest)
    | ',' :: rest => readMembers n depth ((.text name, v) :: done) (skipBlank rest)
    | _ => .error .malformed

end

/-- The value of a JSON text, before which a byte order mark may stand. -/
def readChars (cs : List Char) : Except Fault Value := do
  let cs := match cs with
    | '\uFEFF' :: r => r
    | r => r
  let (v, rest) ← readValue (cs.length + 1) maxDepth (skipBlank cs)
  if (skipBlank rest).isEmpty then return v else throw .malformed

/-- The value of the JSON text that bytes stand for. -/
def read (octets : List UInt8) : Except Fault Value :=
  match decode? octets with
  | some cs => readChars cs
  | none => .error .encoding

end ExamFilter.Json
