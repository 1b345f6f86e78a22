import ExamFilter.Text.Numeral
import ExamFilter.Text.Printable

/-!
# Quoted text

The quoted form in which a text appears inside a printed list. Single quotes are used unless the
text holds a single quote and no double quote. The backslash, the quote in use and every
character that is not printable are escaped.
-/
namespace ExamFilter.Text

def quoteOf (cs : List Char) : Char :=
  if cs.contains '\'' && !cs.contains '"' then '"' else '\''

/-- The escape of a character by its code point, as short as its size allows. -/
def codeEscape (n : Nat) : List Char :=
  if n < 0x100 then '\\' :: 'x' :: hexDigits 2 n
  else if n < 0x10000 then '\\' :: 'u' :: hexDigits 4 n
  else '\\' :: 'U' :: hexDigits 8 n

def quotedChar (quote c : Char) : List Char :=
  if c = quote || c = '\\' then ['\\', c]
  else if c = '\n' then ['\\', 'n']
  else if c = '\r' then ['\\', 'r']
  else if c = '\t' then ['\\', 't']
  else if isPrintable c then [c]
  else codeEscape c.toNat

def quoted (s : String) : String :=
  let q := quoteOf s.toList
  String.ofList (q :: (s.toList.flatMap (quotedChar q) ++ [q]))

/-- A byte above the printable range of the seven-bit set is always escaped. -/
def quotedByteChar (quote : Char) (b : UInt8) : List Char :=
  if b.toNat < 0x7F then quotedChar quote (Char.ofNat b.toNat) else codeEscape b.toNat

/-- The quoted form of a byte string, marked by a leading `b`. -/
def quotedBytes (bs : List UInt8) : String :=
  let q := quoteOf (bs.map fun b => Char.ofNat b.toNat)
  String.ofList ('b' :: q :: (bs.flatMap (quotedByteChar q) ++ [q]))

end ExamFilter.Text
