import Timings.Json.Fault

/-!
Everything that can go wrong in a run, as causes.

A `Failure` says what was being done and what got in the way; its wording is in
`Failure.message` alone. Where a failure has another cause below it, `sources`
lists the texts down to the bottom.
-/

namespace Timings

/-- How the system classifies a fault of reading, as far as reading goes on
differently after it. -/
inductive ReadKind where
  /-- The read may be tried again. -/
  | interrupted
  /-- The data is not what it should be. -/
  | invalidData
  | other
deriving DecidableEq, Repr

/-- A fault of the operating system. -/
inductive SystemFault where
  | notFound
  | notADirectory
  | isADirectory
  | nameTooLong
  | busy
  /-- Any other one, by its text. -/
  | reported (kind : ReadKind) (text : String)
deriving DecidableEq, Repr

namespace SystemFault

/-- How reading goes on after the fault. -/
def kind : SystemFault → ReadKind
  | reported kind _ => kind
  | _ => .other

/-- The text of the fault. -/
def message : SystemFault → String
  | notFound => "No such file or directory (os error 2)"
  | notADirectory => "Not a directory (os error 20)"
  | isADirectory => "Is a directory (os error 21)"
  | nameTooLong => "File name too long (os error 36)"
  | busy => "Device or resource busy (os error 16)"
  | reported _ text => text

end SystemFault

/-- What is wrong with a line. -/
inductive Defect where
  /-- It does not end in a JSON object. -/
  | noFragment
  /-- The JSON object at its end is not a measurement. -/
  | badFragment (fault : Json.Fault)
  /-- The measurement does not say what was measured. -/
  | noMessage
  /-- The measurement has no time of the whole operation. -/
  | noTime
  /-- It has fewer columns than a column number asks for. -/
  | noColumn (index available : Nat)
  /-- The value column holds no number. -/
  | notNumeric (field : String)
  /-- Its bytes are not UTF-8. -/
  | notUtf8
  /-- Anything else, in words. -/
  | described (text : String)

/-- The text of a defect. -/
def Defect.message : Defect → String
  | noFragment => "missing trailing JSON fragment"
  | badFragment fault => "invalid JSON fragment: " ++ fault.message
  | noMessage => "missing field `message`"
  | noTime => "missing field `time`"
  | noColumn index available =>
    "expected column " ++ toString index ++ " but line has " ++ toString available
  | notNumeric field => "non-numeric value " ++ Text.quote field
  | notUtf8 => "invalid UTF-8"
  | described text => text

/-- What is wrong with the settings of a run. -/
inductive Conflict where
  /-- Key and value are taken from the same column. -/
  | sameColumn (index : Nat)
  /-- The report would replace the log it is made from. -/
  | samePath (path : String)
  /-- Anything else, in words. -/
  | described (text : String)
deriving DecidableEq, Repr

/-- The text of a conflict. -/
def Conflict.message : Conflict → String
  | sameColumn index =>
    "key and value fields must differ (both are " ++ toString index ++ ")"
  | samePath path => "input and output are the same file: " ++ path
  | described text => text

/-- Why a run, or a part of it, failed. -/
inductive Failure where
  /-- A line is not what the report needs. -/
  | malformedLine (line : Nat) (defect : Defect)
  /-- A line holds a number that is infinite or undefined. -/
  | nonFinite (line : Nat) (value : Float)
  /-- The log cannot be opened. -/
  | fileRead (path : String) (cause : SystemFault)
  /-- The log cannot be read on. -/
  | lineRead (line : Nat) (cause : SystemFault)
  /-- The report cannot be written. -/
  | fileWrite (path : String) (cause : SystemFault)
  /-- A row of comma-separated values cannot be written. -/
  | row (cause : SystemFault)
  /-- The settings contradict each other. -/
  | settings (conflict : Conflict)
  /-- A fault of the system by itself. -/
  | system (cause : SystemFault)

namespace Failure

/-- Numbers in messages: never with an exponent, whole ones without a point. -/
def messageStyle : Style := { tie := .up, plain := none, pointed := false, plus := false }

/-- The text of a failure. -/
def message : Failure → String
  | malformedLine line defect =>
    "Malformed line " ++ toString line ++ ": " ++ defect.message
  | nonFinite line value =>
    "Non-finite value on line " ++ toString line ++ ": " ++ messageStyle.write value
  | fileRead path cause => "Failed to read file " ++ path ++ ": " ++ cause.message
  | lineRead line cause => "Failed to read line " ++ toString line ++ ": " ++ cause.message
  | fileWrite path cause => "Failed to write file " ++ path ++ ": " ++ cause.message
  | row cause => "CSV error: " ++ cause.message
  | settings conflict => "Configuration error: " ++ conflict.message
  | system cause => cause.message

/-- The number of the line at which a log failed, if it did at one. -/
def line? : Failure → Option Nat
  | malformedLine line _ | nonFinite line _ | lineRead line _ => some line
  | fileRead _ _ | fileWrite _ _ | row _ | settings _ | system _ => none

/-- The texts of the causes below a failure, the nearest first. -/
def sources : Failure → List String
  | malformedLine _ _ | nonFinite _ _ | settings _ | system _ => []
  | fileRead _ cause | lineRead _ cause | fileWrite _ cause | row cause => [cause.message]

end Failure

end Timings
