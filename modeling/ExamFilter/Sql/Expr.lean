import ExamFilter.Value

/-!
# SQL expressions

Conditions and the operands they are made of. An expression holds names and values as they are;
nothing in it is quoted or escaped yet.
-/
namespace ExamFilter.Sql

inductive Expr where
  | literal (v : Value)
  | column (name : String)
  | call (function : String) (args : List Expr)
  | binary (left : Expr) (op : String) (right : Expr)
  | isNull (e : Expr)
  | isNotNull (e : Expr)
  | oneOf (e : Expr) (values : List Expr)
  | cast (e : Expr) (type : String)
  /-- A fixed fragment, never made from a request. -/
  | raw (sql : String)
  | between (e low high : Expr)
  /-- A value that stands where an expression belongs. -/
  | stray (v : Value)
  /-- A table that stands where an expression belongs. -/
  | strayTable (name : String)
  deriving Inhabited

namespace Expr

def string (s : String) : Expr := .literal (.text s)

/-- Left-nested; no condition is left of none. -/
def join (op : String) : List Expr → Option Expr
  | [] => none
  | e :: rest => some (rest.foldl (fun acc c => .binary acc op c) e)

def conjunction (es : List Expr) : Option Expr := join "AND" es

def disjunction (es : List Expr) : Option Expr := join "OR" es

/-- Only a stray value can count as not given. -/
def isGiven : Expr → Bool
  | stray v => v.isGiven
  | _ => true

/-- The condition that no row satisfies. -/
def matchNothing : Expr := .raw "(1 = 0)"

end Expr

end ExamFilter.Sql
