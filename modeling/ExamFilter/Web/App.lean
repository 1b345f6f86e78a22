import ExamFilter.Calendar.Reading
import ExamFilter.GroupFile.Load
import ExamFilter.Report.Service
import ExamFilter.Settings
import ExamFilter.Sql.Registry
import ExamFilter.Web.Body
import ExamFilter.Web.Target

/-!
# The web service

Answers requests for conditions, option queries and dates.
-/
namespace ExamFilter.Web
open Form

def version : String := "0.3.0"

inductive Endpoint where
  | health | dialects | compile | conditions | options | dates
  deriving DecidableEq, Repr

namespace Endpoint

def path : Endpoint → String
  | health => "/health"
  | dialects => "/dialects"
  | compile => "/filters/compile"
  | conditions => "/filters/where"
  | options => "/filters/options"
  | dates => "/dates/normalize"

def method : Endpoint → String
  | health | dialects => "GET"
  | compile | conditions | options | dates => "POST"

def all : List Endpoint := [health, dialects, compile, conditions, options, dates]

def ofTarget? (target : String) : Option Endpoint := all.find? fun e => e.path = pathOf target

end Endpoint

structure Request where
  method : String
  target : String
  contentType : String
  body : String

/-- The content of a response; some have none. -/
structure Response where
  status : Nat
  content : Option Value

/-- Why a request gets no response. -/
inductive Failure where
  | noService
  /-- A number cannot be written as JSON. -/
  | notFinite
  | service (e : Report.ServiceError)

def Failure.message : Failure → String
  | .noService => "ReportFilterService not initialised — call init_filter_service() first"
  | .notFinite => "Out of range float values are not JSON compliant"
  | .service e => e.message

/-- The state between two requests. -/
structure App where
  service? : Option Report.Service := none
  dialect : String := "mysql"

/-- The service that settings describe. -/
def serviceOf (parse : Sql.Parser) (files : GroupFile.Files) (s : Settings) :
    Except GroupFile.LoadError Report.Service := do
  let groups ← match s.groupFile with
    | some file => (GroupFile.loadFile files file).map (·.table)
    | none => pure Filter.GroupTable.builtin
  return {
    parse
    rules := { groups, onEmpty := s.onEmpty }
    table := s.table
    layout := { dateColumn := s.dateColumn } }

def App.start (parse : Sql.Parser) (files : GroupFile.Files) (s : Settings) :
    Except GroupFile.LoadError App :=
  (serviceOf parse files s).map fun service => { service? := some service, dialect := s.dialect }

def object (members : List (String × Value)) : Value :=
  .dict (members.map fun (name, v) => (.text name, v))

def texts (items : List String) : Value := .list (items.map .text)

def success (members : List (String × Value)) : Response := ⟨200, some (object members)⟩

/-- A response that tells by a text why the request is refused. -/
def refusal (status : Nat) (detail : String) : Response :=
  ⟨status, some (object [("detail", .text detail)])⟩

def stepValue : Step → Value
  | .field name | .form name => .text name
  | .index i => .int i

def problemValue (p : Problem) : Value :=
  object [("type", .text p.fault.code), ("loc", .list (p.place.map stepValue)),
    ("msg", .text p.fault.message)]

/-- The response to a body in which there are problems. It is accompanied by the parts in which they
lie, and fails if those cannot be written. -/
def rejection (body : Body) (problems : List Problem) : Except Failure Response :=
  if problems.all fun p => isFinite (body.offending p) then
    .ok ⟨422, some (object [("detail", .list (problems.map problemValue))])⟩
  else .error .notFinite

def health : Response := success [("status", .text "ok"), ("version", .text version)]

def compiled (dimension : String) : Option Filter.Predicate → Response
  | some (.oneOf m) => answer false false m.values
  | some (.matchNone _) => answer false true []
  | none => answer true false []
where
  answer (isAbsent matchesNone : Bool) (values : List String) : Response :=
    success [("dimension", .text dimension), ("absent", .bool isAbsent),
      ("match_none", .bool matchesNone), ("values", texts values)]

def rendered (w : Report.RenderedWhere) : Response :=
  success [("sql", .text w.sql), ("dialect", .text w.dialect), ("params", object w.bindings),
    ("warnings", texts w.warnings), ("sql_valid", .bool w.isValid)]

structure NormalizedDate where
  raw : String
  normalized : String
  isParsed : Bool
  deriving DecidableEq, Repr

/-- A text that is no date stays as it is. -/
def NormalizedDate.ofText (raw : String) : Except Calendar.Breakdown NormalizedDate :=
  (Calendar.readDate (.text raw)).map fun
    | some d => ⟨raw, d.dayFirst, true⟩
    | none => ⟨raw, raw, false⟩

def NormalizedDate.value (d : NormalizedDate) : Value :=
  object [("raw", .text d.raw), ("normalized", .text d.normalized), ("parsed", .bool d.isParsed)]

/-- All values of a body, each by itself. -/
def normalizeDates (body : DatesBody) : Except Calendar.Breakdown (List NormalizedDate) :=
  body.values.mapM NormalizedDate.ofText

namespace App

/-- The dialect that a body asks for; the empty name asks for the one of the settings. -/
def dialectFor (a : App) (asked : Option String) : Except Sql.LookupError Sql.Dialect :=
  match asked with
  | some name => Sql.Registry.builtin.get (if name = "" then a.dialect else name)
  | none => Sql.Registry.builtin.get a.dialect

def service (a : App) : Except Failure Report.Service :=
  match a.service? with
  | some s => .ok s
  | none => .error .noService

/-- Refuses a body that cannot be read or has problems. -/
def withBody (r : Request) (read : List Step → Table String Value → Checked α)
    (respond : α → Except Failure Response) : Except Failure Response :=
  match readBody r.contentType r.body with
  | .error .unreadable => .ok (refusal 400 "There was an error parsing the body")
  | .error .malformed => rejection .absent [⟨.json, atBody⟩]
  | .ok body => match body.members.bind (read atBody) with
    | .ok content => respond content
    | .error problems => rejection body problems

/-- Refuses an unknown dialect. -/
def withDialect (a : App) (asked : Option String)
    (respond : Sql.Dialect → Except Report.ServiceError Response) : Except Failure Response :=
  match a.dialectFor asked with
  | .ok d => (respond d).mapError .service
  | .error e => .ok (refusal 400 e.message)

def respondAt (a : App) (r : Request) : Endpoint → Except Failure Response
  | .health => .ok health
  | .dialects => .ok (success
      [("dialects", texts Sql.Registry.builtin.available), ("default", .text a.dialect)])
  | .compile => withBody r CompileBody.read fun body => do
      let s ← a.service
      return compiled body.dimension (s.rules.compile body.dimension body.selection)
  | .conditions => withBody r WhereBody.read fun body => do
      let s ← a.service
      a.withDialect body.dialect fun d =>
        (s.renderWhere d body.request body.ignore body.isParameterized).map rendered
  | .options => withBody r OptionsBody.read fun body => do
      let s ← a.service
      a.withDialect body.dialect fun d =>
        (s.renderOptions d body.request).map fun queries =>
          success [("dialect", .text d.name),
            ("queries", object (queries.map fun (key, sql) => (key, .text sql)))]
  | .dates => withBody r DatesBody.read fun body =>
      ((normalizeDates body).mapError fun b => .service (.date b)).map fun dates =>
        success [("results", .list (dates.map NormalizedDate.value))]

/-- The content of a response to a request for the head alone is left out. -/
def withoutContent (method : String) (response : Response) : Response :=
  if method = "HEAD" then { response with content := none } else response

/-- The response to a request with the given method, which is in upper case. -/
def respondTo (a : App) (r : Request) (method : String) : Except Failure Response :=
  match Endpoint.ofTarget? r.target with
  | none => .ok (refusal 404 "Not Found")
  | some e =>
    if method = e.method then a.respondAt r e else .ok (refusal 405 "Method Not Allowed")

/-- The response to a request. -/
def respond (a : App) (r : Request) : Except Failure Response :=
  let method := String.ofList (r.method.toList.map Char.toUpper)
  (a.respondTo r method).map (withoutContent method)

end App

end ExamFilter.Web
