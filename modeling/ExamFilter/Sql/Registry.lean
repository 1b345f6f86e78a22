import ExamFilter.Sql.Dialect
import ExamFilter.Table
import ExamFilter.Text.Blank
import ExamFilter.Text.Lower

/-!
# The registry of dialects

Dialects are found by their name or one of their aliases, regardless of case and of white space
around it.
-/
namespace ExamFilter.Sql

structure Registry where
  dialects : Table String Dialect := []
  /-- The name that an alias stands for. -/
  aliases : Table String String := []

inductive LookupError where
  | unsupported (name : String) (available : List String)
  deriving DecidableEq, Repr

def LookupError.message : LookupError → String
  | .unsupported name available =>
    s!"Unsupported dialect '{name}'. Available: " ++ ", ".intercalate available

namespace Registry

/-- A dialect replaces an earlier one of the same name, and takes over its aliases from others. -/
def register (r : Registry) (d : Dialect) : Registry where
  dialects := Table.put r.dialects d.name d
  aliases := d.aliases.foldl (fun t a => Table.put t a d.name) r.aliases

def builtin : Registry := ((Registry.mk [] []).register .mysql).register .postgres

/-- The key under which a name is looked up. -/
def key (name : String) : String := Text.lower (Text.trim name)

/-- Aliases come before names. -/
def canonical (r : Registry) (name : String) : String :=
  (Table.get? r.aliases (key name)).getD (key name)

def get? (r : Registry) (name : String) : Option Dialect :=
  Table.get? r.dialects (r.canonical name)

/-- The names of all dialects in the order of their characters. -/
def available (r : Registry) : List String :=
  (Table.keys r.dialects).mergeSort fun a b => !(b < a)

def get (r : Registry) (name : String) : Except LookupError Dialect :=
  match r.get? name with
  | some d => .ok d
  | none => .error (.unsupported name r.available)

end Registry

end ExamFilter.Sql
