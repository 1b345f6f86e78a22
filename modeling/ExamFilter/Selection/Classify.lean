import ExamFilter.Value.Text
import ExamFilter.Text.Blank

/-!
# Classifying a request value

Which selection a loosely typed value stands for. The word `All` selects everything only as the
whole selection. The marker `__ALL__` does so too, and also as the only entry of a list.
-/
namespace ExamFilter.Selection

def allLabel : String := "All"

def allMarker : String := "__ALL__"

def isNull : Value → Bool
  | .null => true
  | _ => false

/-- The trimmed texts of the entries that are neither null nor blank. -/
def entryTexts (values : List Value) : List String :=
  ((values.filter (!isNull ·)).map fun v => Text.trim v.asText).filter (· ≠ "")

def onlyMarkers (values : List Value) : Bool :=
  !(entryTexts values).isEmpty && (entryTexts values).all (· = allMarker)

def ofMany (values : List Value) : Selection Value :=
  if onlyMarkers values then .wildcard allMarker else .many values

/-- Sets come in the order of the texts of their items. -/
def byText (items : List Value) : List Value :=
  items.mergeSort fun v w => !(w.asText < v.asText)

/-- A value that already is a selection stays as it is, except that a list of markers selects
everything. -/
def ofValue : Value → Selection Value
  | .selection (.many values) => ofMany values
  | .selection s => s
  | .list items | .tuple items => ofMany items
  | .set items | .frozenSet items => ofMany (byText items)
  | .byteArray octets => ofMany (octets.map fun b => .int b.toNat)
  | .range start stop step => ofMany ((rangeItems start stop step).map .int)
  | .text s =>
    if s = allLabel || s = allMarker then .wildcard s
    else if s = "" then .noFilter
    else .single (.text s)
  | v => if v.isGiven then .single v else .noFilter

/-- The value already is the selection that it stands for. -/
def isClassified : Value → Bool
  | .selection (.many values) => !onlyMarkers values
  | .selection _ => true
  | _ => false

end ExamFilter.Selection
