import Timings.Files.Path
import Timings.Histogram
import Timings.Line.Columns

/-!
What a run is asked to do.
-/

namespace Timings

/-- The reports a run can make. -/
inductive ReportKind where
  /-- Statistics of the time per item, by event and number of items. -/
  | compound
  /-- Statistics of one column by another. -/
  | keyed
  /-- The latencies themselves, and a view of their distribution. -/
  | latency
deriving DecidableEq, Repr

/-- The name of a report. -/
def ReportKind.name : ReportKind → String
  | compound => "compound"
  | keyed => "keyed"
  | latency => "latency"

/-- The delimiters a plain log can have. -/
inductive Delimiter where
  | space
  | tab
deriving DecidableEq, Repr

namespace Delimiter

/-- The name of a delimiter. -/
def name : Delimiter → String
  | space => "space"
  | tab => "tab"

/-- The delimiter itself. -/
def char : Delimiter → Char
  | space => ' '
  | tab => '\t'

end Delimiter

/-- The themes of the view. -/
inductive ThemeName where
  | light
  | dark
  | classic
  /-- Light or dark, as the terminal is. -/
  | auto
deriving DecidableEq, Repr

/-- The name of a theme. -/
def ThemeName.name : ThemeName → String
  | light => "light"
  | dark => "dark"
  | classic => "classic"
  | auto => "auto"

/-- How much a run tells about itself. -/
inductive LogLevel where
  | debug
  | info
  | warning
  | error
  | critical
deriving DecidableEq, Repr

/-- The name of a level. -/
def LogLevel.name : LogLevel → String
  | debug => "DEBUG"
  | info => "INFO"
  | warning => "WARNING"
  | error => "ERROR"
  | critical => "CRITICAL"

/-- What a run is asked to do. -/
structure Settings where
  /-- The log to read. -/
  input : String
  /-- The report to write. -/
  out : String
  report : ReportKind
  delimiter : Delimiter
  /-- The column of the keys of a plain log, from zero. -/
  keyField : Nat
  /-- The column of its values. -/
  valueField : Nat
  /-- The number of buckets of the distribution. -/
  bins : Nat
  /-- No view of the distribution is wanted. -/
  noPlot : Bool
  theme : ThemeName
  logLevel : LogLevel
  /-- Where a run tells about itself, if not among the errors. -/
  logFile : Option String
  /-- Everything is told, whatever the level. -/
  debug : Bool
deriving DecidableEq, Repr

namespace Settings

/-- The format of the lines of a plain log. -/
def columnFormat (s : Settings) : ColumnFormat := ⟨s.delimiter.char, s.keyField, s.valueField⟩

/-- What is wrong with settings that each alone are right: a column cannot be key
and value at once, and the report cannot take the place of the log. -/
def conflict? (s : Settings) : Option Conflict :=
  if s.report = .keyed ∧ s.keyField = s.valueField then some (.sameColumn s.keyField)
  else if Files.samePath s.input s.out then some (.samePath s.input)
  else none

/-- The settings, unless they contradict each other. -/
def check (s : Settings) : Except Failure Settings :=
  match s.conflict? with
  | some conflict => .error (.settings conflict)
  | none => .ok s

/-- A name as it is written for a constant. -/
def capitalized (name : String) : String :=
  match name.toList with
  | [] => ""
  | c :: cs => String.ofList (c.toUpper :: cs)

/-- The settings in one line. -/
def describe (s : Settings) : String :=
  let flag (b : Bool) : String := if b then "true" else "false"
  let field (name value : String) : String := name ++ ": " ++ value
  let logFile :=
    match s.logFile with
    | some path => "Some(" ++ Text.quote path ++ ")"
    | none => "None"
  "Settings \x7b " ++ String.intercalate ", "
    [field "input" (Text.quote s.input), field "out" (Text.quote s.out),
      field "report" (capitalized s.report.name),
      field "delimiter" (capitalized s.delimiter.name),
      field "key_field" (toString s.keyField), field "value_field" (toString s.valueField),
      field "bins" (toString s.bins), field "no_plot" (flag s.noPlot),
      field "theme" (Text.quote s.theme.name), field "log_level" (Text.quote s.logLevel.name),
      field "log_file" logFile, field "debug" (flag s.debug)] ++ " \x7d"

end Settings

end Timings
