import ExamFilter.Filter.Predicate
import ExamFilter.Form.Integer
import ExamFilter.Report.Request
import ExamFilter.Settings.Sources

/-!
# Settings

The settings of the service. A value that is given directly comes before one from the environment,
that one before one from a file, and the default comes last.
-/
namespace ExamFilter

structure Settings where
  logLevel : String := "INFO"
  serverHost : String := "localhost"
  serverPort : Int := 8000
  /-- Takes precedence over the port of the server. -/
  port : Option Int := none
  groupFile : Option String := none
  onEmpty : Filter.EmptyPolicy := .unfiltered
  dialect : String := "mysql"
  table : String := Report.defaultTable
  dateColumn : String := "DATE"

namespace Settings
open Form

def effectivePort (s : Settings) : Int := s.port.getD s.serverPort

/-- The settings by their names. -/
def fields (s : Settings) : List (String × Value) :=
  [("log_level", .text s.logLevel), ("api_server_host", .text s.serverHost),
   ("api_server_port", .int s.serverPort), ("port", (s.port.map Value.int).getD .null),
   ("group_table_path", (s.groupFile.map Value.text).getD .null),
   ("empty_selection_policy", .text s.onEmpty.name), ("default_dialect", .text s.dialect),
   ("report_table", .text s.table), ("date_column", .text s.dateColumn)]

/-- The parts of a path between slashes, without those that lead nowhere. -/
def pathParts (s : String) : List String := (s.splitOn "/").filter fun p => p ≠ "" && p ≠ "."

/-- A path in its shortest form. Two slashes at its start differ from one. -/
def normalizePath (s : String) : String :=
  let root :=
    if s.startsWith "//" && !s.startsWith "///" then "//" else if s.startsWith "/" then "/" else ""
  let path := root ++ "/".intercalate (pathParts s)
  if path = "" then "." else path

def readPath (place : List Step) : Value → Checked String
  | .text s => .ok (normalizePath s)
  | _ => .fail .path place

def readPolicy (place : List Step) : Value → Checked Filter.EmptyPolicy
  | .text s => match Filter.EmptyPolicy.ofName? s with
    | some p => .ok p
    | none => .fail (.option "'unfiltered' or 'match_none'") place
  | _ => .fail (.option "'unfiltered' or 'match_none'") place

def readField (s : Sources) (name : String) (default : α)
    (read : List Step → Value → Checked α) : Checked α :=
  match s.find? name with
  | some v => read [.field name] v
  | none => .ok default

/-- All settings are checked. -/
def read (s : Sources) : Checked Settings :=
  let usual : Settings := {}
  let logLevel := readField s "log_level" usual.logLevel readText
  let serverHost := readField s "api_server_host" usual.serverHost readText
  let serverPort := readField s "api_server_port" usual.serverPort readInt
  let port := readField s "port" none (readOptional readInt)
  let groupFile := readField s "group_table_path" none (readOptional readPath)
  let onEmpty := readField s "empty_selection_policy" usual.onEmpty readPolicy
  let dialect := readField s "default_dialect" usual.dialect readText
  let table := readField s "report_table" usual.table readText
  let dateColumn := readField s "date_column" usual.dateColumn readText
  let server := (logLevel.both serverHost).both (serverPort.both port)
  let filter := (groupFile.both onEmpty).both dialect
  ((server.both filter).both (table.both dateColumn)).map
    fun (((((logLevel, serverHost), (serverPort, port)), ((groupFile, onEmpty), dialect)),
        (table, dateColumn))) =>
      { logLevel, serverHost, serverPort, port, groupFile, onEmpty, dialect, table, dateColumn }

end Settings

end ExamFilter
