import ExamFilter.Text.Base64
import ExamFilter.Yaml.Node
import ExamFilter.Yaml.Number
import ExamFilter.Yaml.Timestamp

/-!
# The meaning of texts

A plain text that has the form of a number, a truth value, a date or of nothing stands for it, and
any other one for itself, unless a tag says what a text is.
-/
namespace ExamFilter.Yaml

/-- The words for truth values in any case, some of which are given a meaning only by a tag or in
documents of the older version. -/
def boolOf (s : String) : Except ValueFault Bool :=
  let word := Text.lower s
  if word ∈ ["yes", "y", "true", "on"] then .ok true
  else if word ∈ ["no", "n", "false", "off"] then .ok false
  else .error (.noTruth word)

/-- The date or moment of a plain text. Without a time of day, a date has ten characters. -/
def timestamp? (cs : List Char) : Option Timestamp :=
  (Timestamp.read? cs).filter fun t => t.clock?.isSome || cs.length = 10

/-- A word in lower case, with a capital and in upper case. -/
def inCases (word : String) : List String := [word, word.capitalize, word.toUpper]

/-- The truth value that a plain text is a word for. -/
def truth? (version : Version) (s : String) : Option Bool :=
  let (yes, no) := match version with
    | .newer => (["true"], ["false"])
    | .older => (["true", "yes", "y", "on"], ["false", "no", "n", "off"])
  if s ∈ yes.flatMap inCases then some true
  else if s ∈ no.flatMap inCases then some false
  else none

/-- The other words for values that are no numbers. The signs for merging and for the value of a
mapping are known only as texts. -/
def word? (s : String) : Option Value :=
  if s ∈ ["", "~", "null", "Null", "NULL"] then some .null
  else if s ∈ [".inf", ".Inf", ".INF", "+.inf", "+.Inf", "+.INF"] then
    some (.float Decimal.infinity)
  else if s ∈ ["-.inf", "-.Inf", "-.INF"] then some (.float (-Decimal.infinity))
  else if s ∈ [".nan", ".NaN", ".NAN"] then some (.float Decimal.notANumber)
  else if s ∈ ["<<", "="] then some (.other s)
  else none

def plainValue (version : Version) (s : String) : Except ValueFault Value :=
  let cs := s.toList
  match (truth? version s).map Value.bool <|> word? s with
  | some v => .ok v
  | none =>
    if isFloat version cs then (floatOf version s).map .float
    else if isWhole version cs then (wholeOf version s).map .int
    else match timestamp? cs with
      | some t => t.value
      | none => .ok (.text s)

/-- A truth value that has been given a name is a number. -/
def namedValue (isAnchored : Bool) : Value → Value
  | .bool b => if isAnchored then .int (if b then 1 else 0) else .bool b
  | v => v

/-- What a tag says of the node behind it. -/
inductive Kind where
  | null | bool | int | float | text | binary | timestamp | list | mapping | merge | value
  /-- Collections of a kind that is not supported. -/
  | unsupported
  /-- Anything else, of which nothing is known. -/
  | other
  deriving DecidableEq, Repr

def coreKinds : Table String Kind :=
  [("null", .null), ("bool", .bool), ("int", .int), ("float", .float), ("str", .text),
    ("binary", .binary), ("timestamp", .timestamp), ("seq", .list), ("map", .mapping),
    ("merge", .merge), ("value", .value), ("omap", .unsupported), ("pairs", .unsupported),
    ("set", .unsupported)]

def Kind.ofTag (tag : String) : Kind :=
  (((coreKinds.map fun k => (Node.coreBeginning ++ k.1, k.2)).find? fun k => k.1 = tag).map
    (·.2)).getD .other

/-- The value of a text behind a tag of the kind. -/
def Kind.valueOf (version : Version) (s : String) : Kind → Except Fault Value
  | .null => .ok .null
  | .bool => ((boolOf s).map .bool).mapError .value
  | .int => ((wholeOf version s).map .int).mapError .value
  | .float => ((floatOf version s).map .float).mapError .value
  | .text => .ok (.text s)
  | .binary =>
    if s.toList.all fun c => c.toNat < 0x80 then
      match Text.readBase64? s.toList with
      | some octets => .ok (.bytes octets)
      | none => .error .tag
    else .error .tag
  | .timestamp =>
    match Timestamp.read? s.toList with
    | some t => t.value.mapError .value
    | none => .error .tag
  | .list | .mapping | .unsupported => .error .tag
  | .merge | .value | .other => .ok (.other s)

/-- The value of a text in a document. -/
def scalarValue (version : Version) (isAnchored isPlain : Bool) (tag? : Option String)
    (s : String) : Except Fault Value :=
  match tag? with
  | some tag => ((Kind.ofTag tag).valueOf version s).map (namedValue isAnchored)
  | none =>
    if isPlain then ((plainValue version s).mapError Fault.value).map (namedValue isAnchored)
    else .ok (.text s)

end ExamFilter.Yaml
