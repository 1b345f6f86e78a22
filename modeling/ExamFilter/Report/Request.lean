import ExamFilter.Form.Reading
import ExamFilter.Table

/-!
# The inputs of a report

The layout of the report table says which columns hold the dimensions, the date and the student. The
order of the dimensions is that of the choices on the dashboard, each of which narrows those after
it.

A request holds a selection for each of five dimensions, a search for students, and the first and
the last day. A submitted field may be named in either of two ways.
-/
namespace ExamFilter.Report

/-- A field of the request and the column that it filters. -/
structure Dimension where
  key : String
  column : String
  deriving DecidableEq, Repr, Inhabited

def Dimension.builtin : List Dimension :=
  [⟨"campus", "CAMPUS_NAME"⟩, ⟨"stream", "Stream"⟩, ⟨"test_type", "Test_Type"⟩,
   ⟨"test", "Test"⟩, ⟨"top_all", "Top_ALL"⟩]

structure Layout where
  dimensions : List Dimension := Dimension.builtin
  dateColumn : String := "DATE"
  idColumn : String := "STUD_ID"
  nameColumn : String := "NAME_OF_THE_STUDENT"
  deriving Inhabited

def defaultTable : String := "MEDICAL_RESULT"

/-- Students are searched by a text in their name or number, or chosen by a list of numbers. -/
inductive Search where
  | none
  | text (s : String)
  | ids (items : List Value)
  deriving Inhabited

def Search.value : Search → Value
  | .none => .null
  | .text s => .text s
  | .ids items => .list items

structure Request where
  campus : Value := .null
  stream : Value := .null
  testType : Value := .null
  test : Value := .null
  topAll : Value := .null
  search : Search := .none
  dateFrom : Option String := none
  dateTo : Option String := none
  deriving Inhabited

def optionalText : Option String → Value
  | some s => .text s
  | none => .null

namespace Request

/-- The fields by their names. -/
def fields (r : Request) : List (String × Value) :=
  [("campus", r.campus), ("stream", r.stream), ("test_type", r.testType), ("test", r.test),
   ("top_all", r.topAll), ("student_search", r.search.value),
   ("date_from", optionalText r.dateFrom), ("date_to", optionalText r.dateTo)]

/-- The value of the field with the given name, null if there is no such field. -/
def selectionFor (r : Request) (key : String) : Value := (Table.get? r.fields key).getD .null

open Form

/-- The submitted value and the name it was submitted under; of two names the first counts. -/
def submitted (given : Table String Value) (names : List String) : Option (String × Value) :=
  names.findSome? fun name => (Table.get? given name).map fun v => (name, v)

/-- The text or the list that a value is read as, or why it is neither. -/
def textOrList (v : Value) : Except (Fault × Fault) (String ⊕ List Value) :=
  match textOf v, itemsOf v with
  | .ok s, _ => .ok (.inl s)
  | .error _, .ok items => .ok (.inr items)
  | .error noText, .error noList => .error (noText, noList)

/-- Why a value that is no text is no whole number and no number at all: bytes are looked at as
digits. -/
def numberFaults : Fault → Fault × Fault
  | .encoding => (.integerText, .numberText)
  | _ => (.integer, .number)

/-- A selection is a text, a number or a list. A truth value becomes a number. -/
def readSelection (place : List Step) (v : Value) : Checked Value :=
  match v with
  | .null | .int _ | .float _ => .ok v
  | .bool b => .ok (.int (if b then 1 else 0))
  | _ => match textOrList v with
    | .ok (.inl s) => .ok (.text s)
    | .ok (.inr items) => .ok (.list items)
    | .error (noText, noList) =>
      let (noInteger, noNumber) := numberFaults noText
      .error
        [⟨noText, place ++ [.form "str"]⟩, ⟨noInteger, place ++ [.form "int"]⟩,
         ⟨noNumber, place ++ [.form "float"]⟩, ⟨noList, place ++ [.form "list[any]"]⟩]

def readSearch (place : List Step) (v : Value) : Checked Search :=
  match v with
  | .null => .ok .none
  | _ => match textOrList v with
    | .ok (.inl s) => .ok (.text s)
    | .ok (.inr items) => .ok (.ids items)
    | .error (noText, noList) =>
      .error [⟨noText, place ++ [.form "str"]⟩, ⟨noList, place ++ [.form "list[any]"]⟩]

/-- A field that was not submitted has its default. -/
def readField (given : Table String Value) (place : List Step) (names : List String)
    (default : α) (read : List Step → Value → Checked α) : Checked α :=
  match submitted given names with
  | some (name, v) => read (place ++ [.field name]) v
  | none => .ok default

/-- Fields that are not known are passed over. -/
def read (place : List Step) (given : Table String Value) : Checked Request :=
  let selection (names : List String) := readField given place names .null readSelection
  let date (names : List String) := readField given place names none (readOptional readText)
  let five :=
    ((((selection ["campus"]).both (selection ["stream"])).both
      (selection ["testType", "test_type"])).both (selection ["test"])).both
      (selection ["topAll", "top_all"])
  let search := readField given place ["studentSearch", "student_search"] .none readSearch
  let dates := (date ["dateFrom", "date_from"]).both (date ["dateTo", "date_to"])
  ((five.both search).both dates).map
    fun (((((((campus, stream), testType), test), topAll), search), (dateFrom, dateTo))) =>
      { campus, stream, testType, test, topAll, search, dateFrom, dateTo }

end Request

end ExamFilter.Report
