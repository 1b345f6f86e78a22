import ExamFilter.Calendar.Component
import ExamFilter.Decimal.Whole
import ExamFilter.Value.Text
import ExamFilter.Yaml.Source

/-!
# Tokens of a document

The structure of a document without its layout: indentation has become the start and the end of
blocks.
-/
namespace ExamFilter.Yaml

/-- Why a text of a proper document has no value, or a value is no key. -/
inductive ValueFault where
  | component (e : Calendar.ComponentError)
  /-- A moment lies before the first or after the last one. -/
  | moment
  /-- A number has no digits. -/
  | noDigits
  /-- A text is no whole number in the given base, or no number at all. -/
  | noWhole (base : Nat) (text : String)
  | noNumber (text : String)
  | tooManyDigits (count : Nat)
  /-- A key that stands twice, or one of its values, is not printed. -/
  | print (e : Value.PrintError)
  /-- A code point is beyond the last one, or too large to be any. -/
  | codePoint
  | codeSize
  /-- A word names no truth value. -/
  | noTruth (word : String)
  /-- Something that contains a collection of the given kind is used as a key. -/
  | key (kind : String)
  deriving DecidableEq, Repr

def ValueFault.message : ValueFault → String
  | .component e => e.message
  | .moment => "date value out of range"
  | .noDigits => "string index out of range"
  | .noWhole base text =>
    s!"invalid literal for int() with base {base}: " ++ ((Text.quoted text).take 200).copy
  | .noNumber text => s!"could not convert string to float: {Text.quoted text}"
  | .tooManyDigits count =>
    s!"Exceeds the limit ({Decimal.maxDigits} digits) for integer string conversion: value has "
      ++ s!"{count} digits; use sys.set_int_max_str_digits() to increase the limit"
  | .print e => e.message
  | .codePoint => "chr() arg not in range(0x110000)"
  | .codeSize => "Python int too large to convert to C int"
  | .noTruth word => Text.quoted word
  | .key kind => s!"unhashable type: \x27{kind}\x27"

/-- Why a document cannot be read. -/
inductive Fault where
  /-- No document holds the character. -/
  | character
  /-- A text in quotes or a block of text is malformed or does not end. -/
  | text
  /-- A name after an anchor or alias sign is missing or malformed. -/
  | name
  /-- An indicator stands where it cannot stand, or none stands where one is needed. -/
  | indicator
  /-- A directive or a tag is malformed, or a tag does not fit what it stands before. -/
  | directive
  | tag
  | anchor (name : String)
  /-- Collections are nested too deeply. -/
  | depth
  | key
  | merge
  | value (e : ValueFault)
  deriving DecidableEq, Repr

/-- The version of the language that a document is written in. -/
inductive Version where
  | older | newer
  deriving DecidableEq, Repr

inductive Bracket where
  | square | curly
  deriving DecidableEq, Repr

/-- What a line says that begins with a percent sign. -/
inductive Directive where
  | version (major minor : Nat)
  /-- The handle stands for the beginning of tags. -/
  | tagHandle (handle beginning : String)
  | other
  deriving DecidableEq, Repr

inductive Token where
  | documentStart | documentEnd | streamEnd
  | directive (d : Directive)
  | sequenceStart | mappingStart | blockEnd
  | opening (b : Bracket)
  | closing (b : Bracket)
  | key | value | item | comma
  | anchor (name : String)
  | alias (name : String)
  | tag (handle? : Option String) (suffix : String)
  | scalar (isPlain : Bool) (text : String)
  deriving DecidableEq, Repr

/-- No more collections than this contain one another. -/
def maxDepth : Nat := 10

/-- A token with its first place and the place after it. -/
structure Placed where
  token : Token
  start : Mark
  stop : Mark

end ExamFilter.Yaml
