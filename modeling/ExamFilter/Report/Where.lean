import ExamFilter.Calendar.Reading
import ExamFilter.Filter.Predicate
import ExamFilter.Report.Request
import ExamFilter.Sql.Dialect

/-!
# The condition of a report

The rows of a report satisfy the predicate of every dimension, the search for students and the
limits of the date. What the request leaves open imposes nothing.
-/
namespace ExamFilter.Report
open Sql ExamFilter.Filter

inductive Warning where
  | unreadableDate (field text : String)
  deriving DecidableEq, Repr

def Warning.message : Warning → String
  | .unreadableDate field text => s!"Ignoring unparseable {field} '{text}'"

/-- A condition, the predicates it was made from by their columns, and what was passed over. -/
structure Where where
  condition : Option Expr := none
  predicates : Table String Predicate := []
  warnings : List Warning := []
  deriving Inhabited

def predicateCondition : Predicate → Expr
  | .oneOf m => .oneOf (.column m.dimension) (m.bindValues.map Expr.string)
  | .matchNone _ => .matchNothing

/-- The predicates of the dimensions that are not ignored. Of two dimensions on one column the
last one that has a predicate counts. -/
def dimensionPredicates (rules : Rules) (dimensions : List Dimension) (r : Request)
    (ignore : List String) : Table String Predicate :=
  dimensions.foldl
    (fun t d =>
      if ignore.contains d.key then t
      else match rules.compile d.column (r.selectionFor d.key) with
        | some p => Table.put t d.column p
        | none => t)
    []

/-- The pattern that a searched text stands for, if it is not blank. -/
def searchPattern? (s : String) : Option Expr :=
  if Text.trim s = "" then none else some (.string (escapeLike (Text.trim s)))

/-- A text is searched in the name and in the number of the student; a list selects numbers. -/
def searchCondition (rules : Rules) (d : Dialect) (l : Layout) : Search → Option Expr
  | .none => none
  | .text s => (searchPattern? s).bind fun pattern =>
      Expr.disjunction
        [d.contains (.column l.nameColumn) pattern, d.contains (.column l.idColumn) pattern]
  | .ids items => (rules.compile l.idColumn (.list items)).map predicateCondition

/-- The limits of the date that a request sets, and what was passed over. -/
structure DateLimits where
  first : Option Calendar.Date := none
  last : Option Calendar.Date := none
  warnings : List Warning := []

/-- One limit of the date. A text that is no date imposes nothing and gives a warning. -/
def readLimit (field : String) : Option String →
    Except Calendar.Breakdown (Option Calendar.Date × List Warning)
  | none => .ok (none, [])
  | some text =>
    if text = "" then .ok (none, [])
    else (Calendar.readDate (.text text)).map fun
      | some date => (some date, [])
      | none => (none, [.unreadableDate field text])

def DateLimits.read (r : Request) : Except Calendar.Breakdown DateLimits := do
  let (first, before) ← readLimit "date_from" r.dateFrom
  let (last, after) ← readLimit "date_to" r.dateTo
  return { first, last, warnings := before ++ after }

def betweenBounds (column : Expr) : Option Expr → Option Expr → Option Expr
  | some low, some high => some (.between column low high)
  | some low, none => some (.binary column ">=" low)
  | none, some high => some (.binary column "<=" high)
  | none, none => none

def dateCondition (d : Dialect) (l : Layout) (limits : DateLimits) : Option Expr :=
  let bound (date : Calendar.Date) : Expr := Dialect.dateValue date.iso
  betweenBounds (d.readDate (.column l.dateColumn)) (limits.first.map bound)
    (limits.last.map bound)

/-- The condition of a request whose limits of the date have been read. -/
def Where.within (limits : DateLimits) (rules : Rules) (d : Dialect) (l : Layout) (r : Request)
    (ignore : List String) : Where :=
  let ps := dimensionPredicates rules l.dimensions r ignore
  { condition := Expr.conjunction <|
      (Table.values ps).map predicateCondition
        ++ (searchCondition rules d l r.search).toList ++ (dateCondition d l limits).toList
    predicates := ps
    warnings := limits.warnings }

def Where.build (rules : Rules) (d : Dialect) (l : Layout) (r : Request)
    (ignore : List String) : Except Calendar.Breakdown Where :=
  (DateLimits.read r).map fun limits => Where.within limits rules d l r ignore

end ExamFilter.Report
