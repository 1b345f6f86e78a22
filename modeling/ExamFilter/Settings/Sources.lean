import ExamFilter.Settings.Assignment
import ExamFilter.Settings.Expansion
import ExamFilter.Text.Basic
import ExamFilter.Text.Lower
import ExamFilter.Value

/-!
# Where settings come from

Settings are given directly, by variables of the environment and by the assignments of a file, of
which those named first come before the others. Variables are found regardless of case.
-/
namespace ExamFilter.Settings

/-- Of names that differ in case only the last one counts. -/
def Variables.ignoringCase (given : Variables) : Variables :=
  Table.ofPairs (given.map fun p => (Text.lower p.1, p.2))

def Variables.ofPairs (pairs : List (String × String)) : Variables :=
  Table.ofPairs (pairs.map fun p => (p.1, some p.2))

/-- The variables that are set one after another. A value may refer to those set before it and to
the environment, which they hide. -/
def Variables.ofAssignments (environment : Variables) (assignments : List Assignment) :
    Variables :=
  assignments.foldl
    (fun set a =>
      let value := a.value.map fun v => String.ofList (expand (set ++ environment) v)
      Table.put set a.name value)
    []

/-- The values that settings are read from. -/
structure Sources where
  direct : Table String Value := []
  environment : Variables := []
  /-- The text of the file. -/
  file : String := ""

def Sources.fileVariables (s : Sources) : Variables :=
  .ofAssignments s.environment (assignments (Text.normalizeBreaks s.file.toList))

/-- The value that is given first. A variable without a value gives none. -/
def Sources.find? (s : Sources) (name : String) : Option Value :=
  (Table.get? s.direct name).or <|
    ((Table.get? s.environment.ignoringCase name).join.or
      (Table.get? s.fileVariables.ignoringCase name).join).map Value.text

end ExamFilter.Settings
