import ExamFilter.Report.Options

/-!
# The report service

Conditions and option queries as finished SQL, for one table and one set of rules. A parser of SQL
looks the conditions over once more; what it finds is a warning and holds nothing back.
-/
namespace ExamFilter.Sql

/-- What a parser of SQL finds wrong with a statement in the dialect of the given name. -/
abbrev Parser := (dialect sql : String) → Option String

/-- The names of the dialects that the parser is asked about. -/
def parsedDialects : List String := ["mysql", "postgres"]

inductive CheckFault where
  | unknownDialect (name : String)
  | refused (message : String)
  deriving DecidableEq, Repr

def CheckFault.message : CheckFault → String
  | .unknownDialect name => s!"Unknown dialect '{name}' — skipping SQL validation"
  | .refused message => message

/-- The fault of a statement in the dialect of exactly the given name. -/
def check? (parse : Parser) (dialect sql : String) : Option CheckFault :=
  if dialect ∈ parsedDialects then (parse dialect sql).map .refused
  else some (.unknownDialect dialect)

/-- The fault of a condition on the rows of a table. -/
def checkCondition? (parse : Parser) (dialect table condition : String) : Option CheckFault :=
  check? parse dialect s!"SELECT * FROM {table} WHERE {condition}"

end ExamFilter.Sql

namespace ExamFilter.Report
open Sql ExamFilter.Filter

structure Service where
  parse : Parser
  rules : Rules := {}
  table : String := defaultTable
  layout : Layout := {}

/-- A condition as SQL text, empty if no row is excluded. -/
structure RenderedWhere where
  sql : String
  dialect : String
  bindings : Bindings := []
  warnings : List String
  /-- The text has passed the check of SQL text. -/
  isValid : Bool := true

/-- Why there is no condition. -/
inductive ServiceError where
  | date (b : Calendar.Breakdown)
  | render (e : RenderError)
  deriving DecidableEq, Repr

def ServiceError.message : ServiceError → String
  | .date b => b.message
  | .render e => e.message

namespace Service

/-- The condition of a report, with its values inside or bound to it. -/
def renderWhere (s : Service) (d : Dialect) (r : Request) (ignore : List String)
    (isParameterized : Bool) : Except ServiceError RenderedWhere := do
  let w ← (Where.build s.rules d s.layout r ignore).mapError .date
  match w.condition with
  | none => return { sql := "", dialect := d.name, warnings := w.warnings.map Warning.message }
  | some e =>
    let literal ← (d.literalSql e).mapError .render
    let fault? := checkCondition? s.parse d.name s.table literal
    let (sql, bindings) ←
      if isParameterized then (d.boundSql e).mapError .render else pure (literal, [])
    return {
      sql, bindings
      dialect := d.name
      warnings := w.warnings.map Warning.message
        ++ fault?.toList.map fun fault => s!"SQL validation: {fault.message}"
      isValid := fault?.isNone }

/-- The option queries by the keys of their dimensions. -/
def renderOptions (s : Service) (d : Dialect) (r : Request) :
    Except ServiceError (Table String String) :=
  (options s.rules s.layout.dimensions s.table r).mapM fun (key, query) =>
    ((d.literalQuery query).mapError .render).map fun sql => (key, sql)

end Service

end ExamFilter.Report
