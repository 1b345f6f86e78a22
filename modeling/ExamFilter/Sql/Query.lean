import ExamFilter.Sql.Render

/-!
# Queries

A `SELECT` statement is built step by step and rendered with one clause a line.
-/
namespace ExamFilter.Sql

structure Select where
  columns : List Expr := []
  distinct : Bool := false
  table : Option String := none
  condition : Option Expr := none
  order : List Expr := []
  deriving Inhabited

namespace Select

def select (q : Select) (columns : List Expr) : Select :=
  { q with columns := q.columns ++ columns }

def makeDistinct (q : Select) : Select := { q with distinct := true }

def fromTable (q : Select) (name : String) : Select := { q with table := some name }

/-- A further condition narrows the query; no condition leaves it as it is. -/
def narrow (q : Select) : Option Expr → Select
  | none => q
  | some e => match q.condition with
    | none => { q with condition := some e }
    | some c => { q with condition := some (.binary c "AND" e) }

def orderBy (q : Select) (e : Expr) : Select := { q with order := q.order ++ [e] }

end Select

/-- One step in building a query. -/
inductive Step where
  | select (columns : List Expr)
  | distinct
  | table (name : String)
  | narrow (condition : Option Expr)
  | orderBy (e : Expr)

def Select.apply (q : Select) : Step → Select
  | .select columns => q.select columns
  | .distinct => q.makeDistinct
  | .table name => q.fromTable name
  | .narrow condition => q.narrow condition
  | .orderBy e => q.orderBy e

namespace Dialect

def columnsClause (d : Dialect) (mode : Literals) (q : Select) (bs : Bindings) : Rendered := do
  let keyword := if q.distinct then "SELECT DISTINCT" else "SELECT"
  if q.columns.isEmpty then .ok (keyword ++ " *", bs)
  else
    let (sqls, bs) ← d.renderAll mode q.columns bs
    .ok (keyword ++ " " ++ listed sqls, bs)

def conditionClause (d : Dialect) (mode : Literals) (q : Select) (bs : Bindings) :
    Except RenderError (List String × Bindings) :=
  match q.condition.filter (·.isGiven) with
  | none => .ok ([], bs)
  | some e => do
    let (sql, bs) ← d.renderExpr mode e bs
    .ok (["WHERE " ++ sql], bs)

/-- Every order is ascending. -/
def orderClause (d : Dialect) (mode : Literals) (q : Select) (bs : Bindings) :
    Except RenderError (List String × Bindings) :=
  if q.order.isEmpty then .ok ([], bs)
  else do
    let (sqls, bs) ← d.renderAll mode q.order bs
    .ok (["ORDER BY " ++ listed (sqls.map (· ++ " ASC"))], bs)

def renderSelect (d : Dialect) (mode : Literals) (q : Select) (bs : Bindings) : Rendered := do
  let (columns, bs) ← d.columnsClause mode q bs
  let table := q.table.toList.map fun name => "FROM " ++ d.quoteName name
  let (condition, bs) ← d.conditionClause mode q bs
  let (order, bs) ← d.orderClause mode q bs
  .ok ("\n".intercalate (columns :: (table ++ condition ++ order)), bs)

def literalQuery (d : Dialect) (q : Select) : Except RenderError String :=
  (d.renderSelect .inline q []).map (·.1)

def boundQuery (d : Dialect) (q : Select) : Rendered := d.renderSelect .bound q []

end Dialect

end ExamFilter.Sql
