import ExamFilter.Sql.Expr
import ExamFilter.Text.Basic

/-!
# SQL dialects

What tells one SQL dialect from another: how names are quoted, whether a backslash escapes inside
string literals, and how a date is read and a substring searched.
-/
namespace ExamFilter.Sql

structure Dialect where
  name : String
  /-- Other names under which the dialect is found. -/
  aliases : List String
  /-- A backslash is an escape inside string literals. -/
  backslashEscapes : Bool
  quoteName : String → String
  /-- The date that a text column holds as day, month and year. -/
  readDate : Expr → Expr
  /-- The condition that the column contains the text that the pattern stands for. -/
  contains : (column pattern : Expr) → Expr

/-- The name between two delimiters, with the delimiter doubled inside. -/
def delimited (q : Char) (name : String) : String :=
  String.ofList (q :: (Text.doubleChars q name.toList ++ [q]))

/-- A wildcard for any run of characters. -/
def anyRun : Expr := .string "%"

/-- The pattern between two wildcards, joined by the concatenation operator. -/
def joinedPattern (pattern : Expr) : Expr :=
  .binary (.binary anyRun "||" pattern) "||" anyRun

namespace Dialect

def mysql : Dialect where
  name := "mysql"
  aliases := ["mariadb", "tidb"]
  backslashEscapes := true
  quoteName := delimited (Char.ofNat 0x60)
  readDate column := .call "STR_TO_DATE" [column, .string "%d-%m-%Y"]
  contains column pattern :=
    .binary column "LIKE" (.call "CONCAT" [anyRun, pattern, anyRun])

def postgres : Dialect where
  name := "postgres"
  aliases := ["postgresql", "pg"]
  backslashEscapes := false
  quoteName := delimited '"'
  readDate column := .call "TO_DATE" [column, .string "DD-MM-YYYY"]
  contains column pattern := .binary column "ILIKE" (joinedPattern pattern)

/-- The starting point for further dialects: names in brackets, and dates stored as dates. -/
def generic : Dialect where
  name := "generic"
  aliases := []
  backslashEscapes := false
  quoteName name := "[" ++ name ++ "]"
  readDate column := column
  contains column pattern := .binary column "LIKE" (joinedPattern pattern)

/-- The text as it stands between the quotes of a string literal. -/
def escapeString (d : Dialect) (s : String) : String :=
  Text.double '\'' (if d.backslashEscapes then Text.double '\\' s else s)

/-- A date value. -/
def dateValue (iso : String) : Expr := .cast (.string iso) "DATE"

end Dialect

def escapeLikeChars : List Char → List Char
  | [] => []
  | c :: cs =>
    if c = '\\' || c = '%' || c = '_' then '\\' :: c :: escapeLikeChars cs
    else c :: escapeLikeChars cs

/-- The pattern that only the text itself matches. -/
def escapeLike (s : String) : String := String.ofList (escapeLikeChars s.toList)

end ExamFilter.Sql
