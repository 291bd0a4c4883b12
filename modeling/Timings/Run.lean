import Timings.Files.Replace
import Timings.Log
import Timings.Report.Table
import Timings.Settings.CommandLine
import Timings.Viewer

/-!
A run of the program: from a command line to a report.

What a run does is said once, for any host; a `Session` is the host whose files,
outputs and terminal are values, so that a whole run is a function.
-/

namespace Timings

/-- What a run needs from the machine it runs on. Writing to the output and to where
errors go has no outcome but success. -/
class Host (m : Type → Type) extends Files.FileHost m where
  /-- Writes to the output. What becomes of a run whose output cannot be written, as
  when it is a pipe that nobody reads, is left open. -/
  print : String → m Unit
  /-- Writes to where errors go. -/
  complain : String → m Unit
  /-- Has records go to the end of a file from now on. -/
  openLog : String → m (Except SystemFault Unit)
  /-- Writes a record where records go: at first, where errors go. -/
  log : Log.Record → m Unit
  /-- Opens a file for reading. -/
  openInput : String → m (Except SystemFault Source)
  /-- Shows a distribution until the user leaves. -/
  view : Viewer → m (Except SystemFault Unit)
  /-- The time in milliseconds, from any start. -/
  clock : m Nat

/-! ## Errors -/

/-- Why a run ends early. -/
inductive RunError where
  | failed (failure : Failure)
  /-- The log at a path cannot be made into a report. -/
  | analysis (path : String) (failure : Failure)
  /-- Records cannot go to a path. -/
  | logFile (path : String) (fault : SystemFault)
  | viewer (fault : SystemFault)

namespace RunError

/-- The text of an error, and those of its causes, the nearest first. -/
def chain : RunError → String × List String
  | failed failure => (failure.message, failure.sources)
  | analysis path failure => ("failed to parse " ++ path, failure.message :: failure.sources)
  | logFile path fault => ("cannot open log file " ++ path, [fault.message])
  | viewer fault => ("histogram viewer failed", [fault.message])

/-- A text behind a margin: `first` on its first line, so many spaces on others. -/
def indented (first : String) (others : Nat) (text : String) : String :=
  let margin := String.ofList (List.replicate others ' ')
  first ++ String.intercalate ("\n" ++ margin)
    ((Text.pieces '\n' text.toList).map String.ofList)

/-- A number at the right end of five columns. -/
def numbered (n : Nat) : String :=
  let digits := Nat.toDigits 10 n
  String.ofList (List.replicate (5 - digits.length) ' ' ++ digits) ++ ": "

/-- The lines for the causes of an error. Several causes are numbered. -/
def causes : List String → List String
  | [] => []
  | [cause] => [indented "    " 4 cause]
  | several => several.zipIdx.map fun c => indented (numbered c.2) 7 c.1

/-- What is written about an error. -/
def report (e : RunError) : String :=
  let (message, below) := e.chain
  let below :=
    match causes below with
    | [] => ""
    | lines => "\n\nCaused by:\n" ++ String.intercalate "\n" lines
  "Error: " ++ message ++ below ++ "\n"

end RunError

/-! ## The course of a run -/

namespace Run

/-- The version of the program. -/
def version : String := "0.3.0"

/-- What is written about the version. -/
def versionText : String := "bench-stats " ++ version ++ "\n"

/-- How the program is used. -/
def usage : String :=
  String.join (List.map (· ++ "\n") [
    "Aggregate benchmark log files into per-key statistics",
    "",
    "Usage: bench-stats [OPTIONS] --input <INPUT> --out <OUT>",
    "",
    "Options:",
    "  -i, --input <INPUT>              Input benchmark log",
    "  -o, --out <OUT>                  Output file (TSV report, or CSV for the latency report)",
    "      --report <REPORT>            Report to produce: compound, keyed, latency",
    "      --delimiter <DELIMITER>      Column delimiter for the keyed report: space, tab",
    "      --key-field <KEY_FIELD>      Zero-based column holding the key (keyed report)",
    "      --value-field <VALUE_FIELD>  Zero-based column holding the value (keyed report)",
    "      --bins <BINS>                Number of histogram buckets (latency report)",
    "      --no-plot                    Skip the interactive histogram (latency report)",
    "      --theme <THEME>              Histogram colour theme: light, dark, classic, auto",
    "      --log-level <LOG_LEVEL>      Logging level: DEBUG, INFO, WARNING, ERROR, CRITICAL",
    "      --log-file <LOG_FILE>        Log file path (defaults to stderr)",
    "      --debug                      Enable debug logging",
    "  -h, --help                       Print help",
    "  -V, --version                    Print version"])

/-- What becomes of a log: the report, and perhaps a view of it. -/
structure Product where
  content : Bytes
  /-- The number of lines of the log. -/
  lines : Nat
  /-- The number of groups of the report. -/
  keys : Nat
  viewer : Option Viewer

/-- The view of latencies that settings ask for, if they do. -/
def viewer? (environment : Environment) (s : Settings) (rows : List Latency) : Option Viewer :=
  if s.noPlot then none
  else
    some {
      title := (Files.fileName? s.input).getD s.input
      histogram := Histogram.ofSamples (rows.map (·.time)) s.bins
      theme := .named s.theme.name environment.colours }

/-- The report that settings ask for, of a log. -/
def produce (environment : Environment) (s : Settings) (source : Source) :
    Except Failure Product :=
  match s.report with
  | .compound => do
    let a ← Analysis.byEvent source
    .ok ⟨Bytes.ofText (Report.byEvent a.result), a.lines, a.groups, none⟩
  | .keyed => do
    let a ← Analysis.byLabel s.columnFormat source
    .ok ⟨Bytes.ofText (Report.byLabel a.result), a.lines, a.groups, none⟩
  | .latency => do
    let a ← Analysis.latencies source
    .ok ⟨Report.latencyRows a.result, a.lines, a.groups, viewer? environment s a.result⟩

variable {m : Type → Type} [Monad m] [Host m]

/-- Logs a record that is wanted. -/
def tell (s : Settings) (r : Log.Record) : m Unit :=
  if Log.wanted s.logLevel r then Host.log r else pure ()

/-- Has records go where settings say. -/
def openLog (s : Settings) : m (Except RunError Unit) := do
  match s.logFile with
  | none => return .ok ()
  | some path =>
    match ← Host.openLog path with
    | .ok () => return .ok ()
    | .error fault => return .error (.logFile path fault)

/-- Reads the log and makes the report. -/
def analyse (environment : Environment) (s : Settings) : m (Except RunError Product) := do
  match ← Host.openInput s.input with
  | .error fault => return .error (.failed (.fileRead s.input fault))
  | .ok source =>
    let start ← Host.clock
    match produce environment s source with
    | .error failure =>
      match failure.line? with
      | some line => tell s (.stopped line failure)
      | none => pure ()
      return .error (.analysis s.input failure)
    | .ok product =>
      let stop ← Host.clock
      tell s (.analysed s.report product.lines product.keys)
      tell s (.took s.report (stop - start))
      return .ok product

/-- Writes the report. -/
def write (s : Settings) (product : Product) : m (Except RunError Unit) := do
  match ← Files.replaceFile s.out product.content with
  | .error failure => return .error (.failed failure)
  | .ok () =>
    tell s (.wrote product.content.length s.out)
    return .ok ()

/-- Shows the view, if there is one. -/
def showView (product : Product) : m (Except RunError Unit) := do
  match product.viewer with
  | none => return .ok ()
  | some viewer =>
    match ← Host.view viewer with
    | .ok () => return .ok ()
    | .error fault => return .error (.viewer fault)

/-- Makes the report that settings ask for. -/
def execute (environment : Environment) (s : Settings) : m (Except RunError Unit) := do
  match ← openLog s with
  | .error error => return .error error
  | .ok () =>
    tell s (.starting version)
    tell s (.settings s)
    Host.print ("Parsing " ++ s.input ++ ", and outputting in " ++ s.out ++ "\n")
    match ← analyse environment s with
    | .error error => return .error error
    | .ok product =>
      match ← write s product with
      | .error error => return .error error
      | .ok () =>
        match ← showView product with
        | .error error => return .error error
        | .ok () =>
          Host.print "Done\n"
          return .ok ()

/-- Complains of an error that ends the run, and gives the exit status for it. -/
def fail (error : RunError) : m Nat := do
  Host.complain error.report
  return 1

/-- Does what a command line asks for, and gives the exit status: one for a run that
fails, two for a command line that is not accepted. -/
def command (environment : Environment) (arguments : List String) : m Nat := do
  match Command.read environment arguments with
  | .error rejection =>
    Host.complain ("error: " ++ rejection.message ++ "\n\nFor more information, try '--help'.\n")
    return 2
  | .ok .help =>
    Host.print usage
    return 0
  | .ok .version =>
    Host.print versionText
    return 0
  | .ok (.run s) =>
    match s.check with
    | .error failure => fail (.failed failure)
    | .ok s =>
      match ← execute environment s with
      | .error error => fail error
      | .ok () => return 0

end Run

end Timings
