import Timings.Settings.Basic

/-!
The command line: options with a value, and switches.

Arguments are taken from left to right, and so are their errors. A value that
stands in an argument of its own is looked at late, when the next option that is
known or the end is met; an argument that nothing can be made of is an error at
once, and passes over a value not yet looked at. Variables of the environment
stand in for options that are not given.
-/

namespace Timings

/-- The options that have a value. -/
inductive Field where
  | input
  | out
  | report
  | delimiter
  | keyField
  | valueField
  | bins
  | theme
  | logLevel
  | logFile
deriving DecidableEq, Repr

/-- The options that have none. -/
inductive Switch where
  | noPlot
  | debug
  | help
  | version
deriving DecidableEq, Repr

/-- Something to be given on the command line. -/
inductive CommandOption where
  | field (f : Field)
  | switch (s : Switch)
deriving DecidableEq, Repr

namespace CommandOption

/-- Every option by its long name. -/
def longNames : List (String × CommandOption) :=
  [("input", .field .input), ("out", .field .out), ("report", .field .report),
    ("delimiter", .field .delimiter), ("key-field", .field .keyField),
    ("value-field", .field .valueField), ("bins", .field .bins),
    ("no-plot", .switch .noPlot), ("theme", .field .theme), ("log-level", .field .logLevel),
    ("log-file", .field .logFile), ("debug", .switch .debug), ("help", .switch .help),
    ("version", .switch .version)]

/-- The options that have a short name too. -/
def shortNames : List (Char × CommandOption) :=
  [('i', .field .input), ('o', .field .out), ('h', .switch .help), ('V', .switch .version)]

/-- The long name of an option. -/
def longName (o : CommandOption) : String :=
  match longNames.find? fun named => named.2 = o with
  | some named => "--" ++ named.1
  | none => ""

end CommandOption

/-- Why a command line is not accepted. -/
inductive Rejection where
  /-- No option and no value. -/
  | unknown (argument : String)
  /-- An option that needs a value has none. -/
  | noValue (field : Field)
  /-- The value is not one of the choices, or empty. -/
  | badChoice (field : Field) (value : String)
  /-- The value is not a number, or not one in range. -/
  | badNumber (field : Field) (value : String)
  | repeated (option : CommandOption)
  /-- A switch is given a value. -/
  | unexpectedValue (switch : Switch) (value : String)
  | missing (fields : List Field)
deriving DecidableEq, Repr

/-- The text of a rejection. -/
def Rejection.message : Rejection → String
  | unknown argument => "unexpected argument '" ++ argument ++ "'"
  | noValue field => "a value is required for '" ++ (CommandOption.field field).longName ++ "'"
  | badChoice field value | badNumber field value =>
    "invalid value '" ++ value ++ "' for '" ++ (CommandOption.field field).longName ++ "'"
  | repeated option => "the argument '" ++ option.longName ++ "' is given twice"
  | unexpectedValue switch value =>
    "unexpected value '" ++ value ++ "' for '" ++ (CommandOption.switch switch).longName ++ "'"
  | missing fields =>
    "not provided: " ++
      String.intercalate ", " (fields.map fun f => (CommandOption.field f).longName)

/-- What a command line asks for. -/
inductive Command where
  | run (settings : Settings)
  | help
  | version
deriving DecidableEq, Repr

/-! ## Values -/

/-- The settings given so far. -/
structure Draft where
  input : Option String := none
  out : Option String := none
  report : Option ReportKind := none
  delimiter : Option Delimiter := none
  keyField : Option Nat := none
  valueField : Option Nat := none
  bins : Option Nat := none
  noPlot : Bool := false
  theme : Option ThemeName := none
  logLevel : Option LogLevel := none
  logFile : Option String := none
  debug : Bool := false
deriving Repr

namespace Draft

/-- The choice of a name among named values. -/
def choose {α : Type} (name : α → String) (field : Field) (choices : List α) (value : String) :
    Except Rejection α :=
  match choices.find? fun a => name a = value with
  | some a => .ok a
  | none => .error (.badChoice field value)

/-- A path, which cannot be empty. -/
def path (field : Field) (value : String) : Except Rejection String :=
  if value = "" then .error (.badChoice field value) else .ok value

/-- A natural number in a range: ASCII digits, perhaps behind a plus sign. -/
def number (field : Field) (low high : Nat) (value : String) : Except Rejection Nat :=
  match Label.integer? value.toList with
  | some (.ofNat n) =>
    if value.toList.head? ≠ some '-' ∧ low ≤ n ∧ n ≤ high then .ok n
    else .error (.badNumber field value)
  | _ => .error (.badNumber field value)

/-- The most buckets a distribution can be asked to have. -/
def mostBins : Nat := 100000

/-- The greatest column number. -/
def lastColumn : Nat := 2 ^ 64 - 1

/-- Whether an option with a value is given. -/
def has (d : Draft) : Field → Bool
  | .input => d.input.isSome
  | .out => d.out.isSome
  | .report => d.report.isSome
  | .delimiter => d.delimiter.isSome
  | .keyField => d.keyField.isSome
  | .valueField => d.valueField.isSome
  | .bins => d.bins.isSome
  | .theme => d.theme.isSome
  | .logLevel => d.logLevel.isSome
  | .logFile => d.logFile.isSome

/-- Takes in the value of an option. -/
def set (d : Draft) (field : Field) (value : String) : Except Rejection Draft :=
  match field with
  | .input => (fun p => { d with input := some p }) <$> path field value
  | .out => (fun p => { d with out := some p }) <$> path field value
  | .report =>
    (fun r => { d with report := some r }) <$>
      choose ReportKind.name field [.compound, .keyed, .latency] value
  | .delimiter =>
    (fun c => { d with delimiter := some c }) <$> choose Delimiter.name field [.space, .tab] value
  | .keyField => (fun n => { d with keyField := some n }) <$> number field 0 lastColumn value
  | .valueField => (fun n => { d with valueField := some n }) <$> number field 0 lastColumn value
  | .bins => (fun n => { d with bins := some n }) <$> number field 1 mostBins value
  | .theme =>
    (fun t => { d with theme := some t }) <$>
      choose ThemeName.name field [.light, .dark, .classic, .auto] value
  | .logLevel =>
    (fun l => { d with logLevel := some l }) <$>
      choose LogLevel.name field [.debug, .info, .warning, .error, .critical] value
  | .logFile => (fun p => { d with logFile := some p }) <$> path field value

/-- Takes in the value of an option that is given once at most. -/
def give (d : Draft) (field : Field) (value : String) : Except Rejection Draft :=
  if d.has field then .error (.repeated (.field field)) else d.set field value

/-- The settings of a command line, with their defaults. -/
def settings (d : Draft) : Except Rejection Settings :=
  match d.input, d.out with
  | some input, some out =>
    .ok {
      input := input
      out := out
      report := d.report.getD .compound
      delimiter := d.delimiter.getD .space
      keyField := d.keyField.getD 0
      valueField := d.valueField.getD 2
      bins := d.bins.getD Histogram.standardBuckets
      noPlot := d.noPlot
      theme := d.theme.getD .auto
      logLevel := if d.debug then .debug else d.logLevel.getD .warning
      logFile := d.logFile
      debug := d.debug }
  | none, some _ => .error (.missing [.input])
  | some _, none => .error (.missing [.out])
  | none, none => .error (.missing [.input, .out])

end Draft

/-! ## Arguments -/

/-- An option whose value is awaited, or not yet looked at. -/
structure Awaited where
  field : Field
  value : Option String
deriving DecidableEq, Repr

/-- How far the arguments have been taken. -/
structure Reading where
  draft : Draft := {}
  awaited : Option Awaited := none

/-- How a reading goes on after an argument. -/
inductive Progress where
  | more (reading : Reading)
  /-- The command line asks for something else than a run. -/
  | stop (command : Command)

namespace Reading

/-- Looks at the value put off. -/
def settle (r : Reading) : Except Rejection Draft :=
  match r.awaited with
  | none => .ok r.draft
  | some ⟨field, none⟩ => .error (.noValue field)
  | some ⟨field, some value⟩ => r.draft.give field value

/-- Takes an option with the value attached to it, if there is one. -/
def takeField (r : Reading) (field : Field) (attached : Option String) :
    Except Rejection Progress := do
  let draft ← r.settle
  match attached with
  | some value => return .more ⟨← draft.give field value, none⟩
  | none => return .more ⟨draft, some ⟨field, none⟩⟩

/-- Takes a switch. -/
def takeSwitch (r : Reading) (switch : Switch) : Except Rejection Progress := do
  let draft ← r.settle
  match switch with
  | .noPlot =>
    if draft.noPlot then .error (.repeated (.switch switch))
    else return .more ⟨{ draft with noPlot := true }, none⟩
  | .debug =>
    if draft.debug then .error (.repeated (.switch switch))
    else return .more ⟨{ draft with debug := true }, none⟩
  | .help => return .stop .help
  | .version => return .stop .version

/-- A text cut at its first `=`: the name before it and the value behind it. -/
def cutValue (cs : List Char) : String × Option String :=
  (String.ofList (cs.takeWhile (· ≠ '=')),
    match cs.dropWhile (· ≠ '=') with
    | [] => none
    | _ :: value => some (String.ofList value))

/-- Takes an argument that begins with two hyphens, of which `cs` is the rest. -/
def takeLong (r : Reading) (argument : String) (cs : List Char) : Except Rejection Progress :=
  let (name, attached) := cutValue cs
  match CommandOption.longNames.lookup name, attached with
  | none, _ => .error (.unknown argument)
  | some (.field field), _ => r.takeField field attached
  | some (.switch switch), none => r.takeSwitch switch
  | some (.switch switch), some value => .error (.unexpectedValue switch value)

/-- Takes an argument that begins with one hyphen, of which `cs` is the rest. What
follows the letter of an option with a value is the value, perhaps behind `=`;
what follows the letter of a switch is further letters. -/
def takeShort (r : Reading) (argument : String) : List Char → Except Rejection Progress
  | [] => .ok (.more r)
  | c :: cs =>
    match CommandOption.shortNames.lookup c with
    | none => .error (.unknown argument)
    | some (.field field) =>
      match cs with
      | [] => r.takeField field none
      | '=' :: value => r.takeField field (some (String.ofList value))
      | value => r.takeField field (some (String.ofList value))
    | some (.switch switch) =>
      match r.takeSwitch switch with
      | .ok (.more r) => takeShort r argument cs
      | answer => answer

/-- Takes an argument that begins with no hyphen, or is one: it can only be the
value awaited. -/
def takeValue (r : Reading) (argument : String) : Except Rejection Progress :=
  match r.awaited with
  | some ⟨field, none⟩ => .ok (.more { r with awaited := some ⟨field, some argument⟩ })
  | _ => .error (.unknown argument)

/-- Takes an argument. -/
def take (r : Reading) (argument : String) : Except Rejection Progress :=
  match argument.toList with
  | '-' :: '-' :: cs => r.takeLong argument cs
  | '-' :: c :: cs => r.takeShort argument (c :: cs)
  | _ => r.takeValue argument

/-- Takes all arguments. Behind `--` there can be no option, and so nothing. -/
def takeAll (r : Reading) : List String → Except Rejection (Draft ⊕ Command)
  | [] => .inl <$> r.settle
  | "--" :: [] => .inl <$> r.settle
  | "--" :: argument :: _ => .error (.unknown argument)
  | argument :: rest =>
    match r.take argument with
    | .error rejection => .error rejection
    | .ok (.stop command) => .ok (.inr command)
    | .ok (.more r) => r.takeAll rest

end Reading

/-- The variables of the environment that matter. -/
structure Environment where
  /-- The variable `BENCH_STATS_LOG_LEVEL`. -/
  logLevel : Option String := none
  /-- The variable `BENCH_STATS_LOG_FILE`. -/
  logFile : Option String := none
  /-- The variable `COLORFGBG`: the colours of the terminal. -/
  colours : Option String := none
deriving DecidableEq, Repr

/-- Lets a variable stand in for an option that is not given. -/
def Draft.fill (d : Draft) (field : Field) (value? : Option String) : Except Rejection Draft :=
  match value? with
  | some value => if d.has field then .ok d else d.set field value
  | none => .ok d

/-- What a command line asks for, in an environment. -/
def Command.read (environment : Environment) (arguments : List String) :
    Except Rejection Command := do
  match ← Reading.takeAll {} arguments with
  | .inr command => return command
  | .inl draft =>
    let draft ← draft.fill .logLevel environment.logLevel
    let draft ← draft.fill .logFile environment.logFile
    return .run (← draft.settings)

end Timings
