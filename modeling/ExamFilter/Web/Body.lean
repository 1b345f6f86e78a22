import ExamFilter.Form.Integer
import ExamFilter.Json.Reading
import ExamFilter.Report.Request
import ExamFilter.Text.Blank
import ExamFilter.Text.Lower

/-!
# Bodies of requests

What the endpoints take, read from the JSON body of a request. Members that are not known are
passed over.
-/
namespace ExamFilter.Web
open Form

def atBody : List Step := [.field "body"]

/-- The truth value that a text names, regardless of case. -/
def truth? (s : String) : Option Bool :=
  let word := String.ofList (s.toList.map Char.toLower)
  if word ∈ ["1", "on", "t", "true", "y", "yes"] then some true
  else if word ∈ ["0", "off", "f", "false", "n", "no"] then some false
  else none

def interpreted (place : List Step) : Option Bool → Checked Bool
  | some b => .ok b
  | none => .fail .truthText place

def truthOfWhole? (n : Int) : Option Bool :=
  if n = 1 then some true else if n = 0 then some false else none

/-- One and zero are truth values, and other whole numbers of 64 bits cannot be interpreted as
one. -/
def readTruth (place : List Step) (v : Value) : Checked Bool :=
  match v with
  | .bool b => .ok b
  | .text s => interpreted place (truth? s)
  | _ => match wholeNumber? v with
    | some n => if fitsWord n then interpreted place (truthOfWhole? n) else .fail .truth place
    | none => .fail .truth place

/-- The member with the given name, or the default if there is none. -/
def readMember (given : Table String Value) (place : List Step) (name : String)
    (default : Checked α) (read : List Step → Value → Checked α) : Checked α :=
  match Table.get? given name with
  | some v => read (place ++ [.field name]) v
  | none => default

def members (entries : List (Value × Value)) : Table String Value :=
  entries.filterMap fun
    | (.text name, v) => some (name, v)
    | _ => none

/-- The members of an object. -/
def readObject (place : List Step) : Value → Checked (Table String Value)
  | .dict entries => .ok (members entries)
  | _ => .fail .object place

def readReport (place : List Step) (v : Value) : Checked Report.Request :=
  match readObject place v with
  | .ok given => Report.Request.read place given
  | .error problems => .error problems

/-- Compile the selection of one dimension. -/
structure CompileBody where
  dimension : String
  selection : Value

def CompileBody.read (place : List Step) (given : Table String Value) : Checked CompileBody :=
  let dimension :=
    readMember given place "dimension" (.fail .missing (place ++ [.field "dimension"])) readText
  let selection :=
    readMember given place "selection" (.ok .null) Report.Request.readSelection
  (dimension.both selection).map fun (dimension, selection) => { dimension, selection }

/-- Render the condition of a report. -/
structure WhereBody where
  request : Report.Request
  dialect : Option String
  ignore : List String
  isParameterized : Bool

def WhereBody.read (place : List Step) (given : Table String Value) : Checked WhereBody :=
  let request := readMember given place "request" (.ok {}) readReport
  let dialect := readMember given place "dialect" (.ok none) (readOptional readText)
  let ignore := readMember given place "ignore" (.ok []) readTexts
  let isParameterized := readMember given place "parameterized" (.ok false) readTruth
  ((request.both dialect).both (ignore.both isParameterized)).map
    fun ((request, dialect), (ignore, isParameterized)) =>
      { request, dialect, ignore, isParameterized }

/-- Render the option queries of a report. -/
structure OptionsBody where
  request : Report.Request
  dialect : Option String

def OptionsBody.read (place : List Step) (given : Table String Value) : Checked OptionsBody :=
  let request := readMember given place "request" (.ok {}) readReport
  let dialect := readMember given place "dialect" (.ok none) (readOptional readText)
  (request.both dialect).map fun (request, dialect) => { request, dialect }

/-- Normalize dates. -/
structure DatesBody where
  values : List String

def DatesBody.read (place : List Step) (given : Table String Value) : Checked DatesBody :=
  (readMember given place "values" (.ok []) readTexts).map DatesBody.mk

/-- Whether a body of the given type is JSON. Parameters of the type do not count. -/
def isJson (contentType : String) : Bool :=
  let type := Text.lower (Text.trim (String.ofList (contentType.toList.takeWhile (· ≠ ';'))))
  match type.toList.splitOn '/' with
  | [main, sub] =>
    main = "application".toList && (sub = "json".toList || "+json".toList.isSuffixOf sub)
  | _ => false

/-- What has been sent as a body. -/
inductive Body where
  | absent
  | json (v : Value)
  /-- A body that is not looked at because of its type. -/
  | other

/-- The text of a body has the type but not the form of JSON, or it is one that cannot be read. -/
inductive BodyFault where
  | malformed | unreadable
  deriving DecidableEq, Repr

def readBody (contentType body : String) : Except BodyFault Body :=
  if body = "" then .ok .absent
  else if isJson contentType then
    match Json.read body.toUTF8.toList with
    | .ok v => .ok (.json v)
    | .error .malformed => .error .malformed
    | .error _ => .error .unreadable
  else .ok .other

/-- The members of the object that a body holds. -/
def Body.members : Body → Checked (Table String Value)
  | .absent => .fail .missing atBody
  | .other => .fail .object atBody
  | .json v => readObject atBody v

/-- The part of a value in which a problem with the given place lies. The members and items that
are missing do not count, and neither do the forms that the part could have. -/
def offending (v : Value) : List Step → Value
  | .field name :: place => match readObject [] v with
    | .ok given => match Table.get? given name with
      | some member => offending member place
      | none => v
    | .error _ => v
  | .index i :: place => match itemsOf v with
    | .ok items => match items[i]? with
      | some item => offending item place
      | none => v
    | .error _ => v
  | _ => v

/-- The value without the parts of the place that lead to the body. -/
def Body.offending (b : Body) (p : Problem) : Value :=
  match b with
  | .json v => Web.offending v (p.place.drop atBody.length)
  | _ => .null

mutual

/-- The value holds no number that JSON has no digits for. -/
def isFinite : Value → Bool
  | .float x => (Value.float x).number?.isSome
  | .list items => areFinite items
  | .dict entries => areFiniteEntries entries
  | _ => true

def areFinite : List Value → Bool
  | [] => true
  | v :: vs => isFinite v && areFinite vs

def areFiniteEntries : List (Value × Value) → Bool
  | [] => true
  | (_, v) :: rest => isFinite v && areFiniteEntries rest

end

end ExamFilter.Web
