import Timings.Settings.Basic
import Timings.Text.Case

/-!
What a run tells about itself on the side, and who wants to know.
-/

namespace Timings

namespace Log

/-- How much a record matters. -/
inductive Severity where
  | debug
  | info
deriving DecidableEq, Repr

/-- The name of a severity. -/
def Severity.name : Severity → String
  | debug => "DEBUG"
  | info => "INFO"

/-- A record of the log. -/
inductive Record where
  | starting (version : String)
  | settings (settings : Settings)
  /-- A line ended the analysis. -/
  | stopped (line : Nat) (failure : Failure)
  /-- An analysis was made of so many lines, with so many keys. -/
  | analysed (report : ReportKind) (lines keys : Nat)
  /-- An analysis took so many milliseconds. -/
  | took (report : ReportKind) (milliseconds : Nat)
  /-- So many bytes were written to a path. -/
  | wrote (bytes : Nat) (path : String)

namespace Record

/-- How much a record matters. -/
def severity : Record → Severity
  | starting _ | analysed _ _ _ => .info
  | settings _ | stopped _ _ | took _ _ | wrote _ _ => .debug

/-- Milliseconds as seconds, with three places. -/
def seconds (milliseconds : Nat) : String :=
  let places := (Nat.toDigits 10 (milliseconds % 1000 + 1000)).drop 1
  toString (milliseconds / 1000) ++ "." ++ String.ofList places

/-- The text of a record. -/
def message : Record → String
  | starting version => "bench-stats v" ++ version ++ " starting"
  | settings s => "Settings: " ++ s.describe
  | stopped line failure =>
    "Extraction stopped at line " ++ toString line ++ ": " ++ failure.message
  | analysed report lines keys =>
    report.name ++ " analysis: " ++ toString lines ++ " lines, " ++ toString keys ++ " keys"
  | took report milliseconds =>
    report.name ++ " analysis took " ++ seconds milliseconds ++ "s"
  | wrote bytes path => "Wrote " ++ toString bytes ++ " bytes to " ++ path

/-- A character of a record as it goes into the log. The controls that a terminal
takes for commands are spelled out: those that begin a command, ring, step back or
clear the screen, and all of the second set of controls. -/
def harmless (c : Char) : List Char :=
  match c with
  | '\x07' | '\x08' | '\x0c' | '\x1b' | '\x7f' =>
    ['\\', 'x'] ++ (Nat.toDigits 16 (0x100 + c.toNat)).drop 1
  | c =>
    if 0x80 ≤ c.toNat ∧ c.toNat < 0xa0 then
      ['\\', 'u', '\x7b'] ++ Nat.toDigits 16 c.toNat ++ ['\x7d']
    else [c]

/-- The line of a record: when it was made, how much it matters, and its text. -/
def line (r : Record) (stamp : String) : String :=
  let name := r.severity.name
  let indent := String.ofList (List.replicate (5 - name.length) ' ')
  let text := String.ofList (r.message.toList.flatMap harmless)
  stamp ++ " " ++ indent ++ name ++ " " ++ text ++ "\n"

end Record

/-- The filter that a level name stands for. Names that are no level stand for
filters themselves. -/
def directive (level : String) : String :=
  let name := Text.upper level
  if name = "DEBUG" ∨ name = "CRITICAL" then "debug"
  else if name = "INFO" then "info"
  else if name = "WARNING" then "warn"
  else if name = "ERROR" then "error"
  else Text.lower level

/-- Whether a filter lets records of a severity through. -/
def passes (filter : String) : Severity → Bool
  | .debug => filter == "debug"
  | .info => filter == "debug" || filter == "info"

/-- Whether a record is wanted at a level. -/
def wanted (level : LogLevel) (r : Record) : Bool := passes (directive level.name) r.severity

end Log

end Timings
