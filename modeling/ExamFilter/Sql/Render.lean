import ExamFilter.Sql.Dialect
import ExamFilter.Table
import ExamFilter.Value.Text

/-!
# Rendering expressions

The SQL text of an expression in a dialect. Literals are written into the text, which fails if they
cannot be printed, or they are bound: then the text holds a placeholder for each of them, and its
value is recorded under the name of the placeholder. Null is always written.
-/
namespace ExamFilter.Sql

inductive Literals where
  | inline
  | bound
  deriving DecidableEq, Repr

/-- The values of the placeholders by their names, in the order of rendering. -/
abbrev Bindings := Table String Value

inductive RenderError where
  | notAnExpression (kind : String)
  /-- A literal is not printed. -/
  | literal (e : Value.PrintError)
  deriving DecidableEq, Repr

def RenderError.message : RenderError → String
  | .notAnExpression kind => s!"Unknown AST node type: {kind}"
  | .literal e => e.message

/-- The name of the placeholder with the given number. -/
def placeholderName (i : Nat) : String := "p" ++ toString i

def placeholder (name : String) : String := "%(" ++ name ++ ")s"

abbrev Rendered := Except RenderError (String × Bindings)

namespace Dialect

def inlineLiteral (d : Dialect) : Value → Except RenderError String
  | .null => .ok "NULL"
  | .text s => .ok ("'" ++ d.escapeString s ++ "'")
  | v => v.print.mapError .literal

def renderLiteral (d : Dialect) (mode : Literals) (v : Value) (bs : Bindings) : Rendered :=
  match mode, v with
  | .bound, .null => .ok ("NULL", bs)
  | .bound, v => .ok (placeholder (placeholderName bs.length),
      Table.put bs (placeholderName bs.length) v)
  | .inline, v => (d.inlineLiteral v).map fun sql => (sql, bs)

def listed (sqls : List String) : String := ", ".intercalate sqls

mutual

/-- The listed values of a membership test are rendered before the tested expression. -/
def renderExpr (d : Dialect) (mode : Literals) : Expr → Bindings → Rendered
  | .literal v, bs => d.renderLiteral mode v bs
  | .column name, bs => .ok (d.quoteName name, bs)
  | .call function args, bs => do
    let (sqls, bs) ← renderAll d mode args bs
    .ok (function ++ "(" ++ listed sqls ++ ")", bs)
  | .binary left op right, bs => do
    let (l, bs) ← renderExpr d mode left bs
    let (r, bs) ← renderExpr d mode right bs
    .ok ("(" ++ l ++ " " ++ op ++ " " ++ r ++ ")", bs)
  | .isNull e, bs => do
    let (sql, bs) ← renderExpr d mode e bs
    .ok ("(" ++ sql ++ " IS NULL)", bs)
  | .isNotNull e, bs => do
    let (sql, bs) ← renderExpr d mode e bs
    .ok ("(" ++ sql ++ " IS NOT NULL)", bs)
  | .oneOf e values, bs => do
    let (sqls, bs) ← renderAll d mode values bs
    let (sql, bs) ← renderExpr d mode e bs
    .ok ("(" ++ sql ++ " IN (" ++ listed sqls ++ "))", bs)
  | .cast e type, bs => do
    let (sql, bs) ← renderExpr d mode e bs
    .ok ("CAST(" ++ sql ++ " AS " ++ type ++ ")", bs)
  | .raw sql, bs => .ok (sql, bs)
  | .between e low high, bs => do
    let (sql, bs) ← renderExpr d mode e bs
    let (l, bs) ← renderExpr d mode low bs
    let (h, bs) ← renderExpr d mode high bs
    .ok ("(" ++ sql ++ " BETWEEN " ++ l ++ " AND " ++ h ++ ")", bs)
  | .stray v, _ => .error (.notAnExpression v.kindName)
  | .strayTable _, _ => .error (.notAnExpression "From")

def renderAll (d : Dialect) (mode : Literals) :
    List Expr → Bindings → Except RenderError (List String × Bindings)
  | [], bs => .ok ([], bs)
  | e :: es, bs => do
    let (sql, bs) ← renderExpr d mode e bs
    let (sqls, bs) ← renderAll d mode es bs
    .ok (sql :: sqls, bs)

end

/-- The text of a condition with its literals written into it. -/
def literalSql (d : Dialect) (e : Expr) : Except RenderError String :=
  (d.renderExpr .inline e []).map (·.1)

/-- The text of a condition with placeholders, and their values. -/
def boundSql (d : Dialect) (e : Expr) : Rendered := d.renderExpr .bound e []

end Dialect

end ExamFilter.Sql
