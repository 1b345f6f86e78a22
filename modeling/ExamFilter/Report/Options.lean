import ExamFilter.Report.Where
import ExamFilter.Sql.Query

/-!
# Options of the dashboard

One query per dimension lists the values that can still be chosen, given the selections of the
dimensions before it.
-/
namespace ExamFilter.Report
open Sql ExamFilter.Filter

/-- The column holds a value that is not empty. -/
def isPresent (column : Expr) : Option Expr :=
  Expr.conjunction [.isNotNull column, .binary column "<>" (.string "")]

/-- The distinct values of a column in the rows that satisfy a condition. -/
def distinctValues (table column : String) (narrowing : Option Expr) : Select :=
  let value := Expr.column column
  ((((({} : Select).select [value]).makeDistinct.fromTable table).narrow narrowing).narrow
    (isPresent value)).orderBy value

/-- The query of the dimension at position `i` ignores that dimension and those after it. -/
def optionQuery (rules : Rules) (dimensions : List Dimension) (table : String) (r : Request)
    (i : Nat) (d : Dimension) : Select :=
  let later := (dimensions.drop i).map (·.key)
  let predicates := Table.values (dimensionPredicates rules dimensions r later)
  distinctValues table d.column (Expr.conjunction (predicates.map predicateCondition))

/-- The queries by the keys of their dimensions. -/
def options (rules : Rules) (dimensions : List Dimension) (table : String) (r : Request) :
    Table String Select :=
  Table.ofPairs <| dimensions.zipIdx.map fun (d, i) =>
    (d.key, optionQuery rules dimensions table r i d)

end ExamFilter.Report
