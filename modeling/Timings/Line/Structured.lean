import Timings.Failure
import Timings.Label
import Timings.Measurement
import Timings.Text.Basic

/-!
Lines of a structured log: each ends in a measurement.

Whatever a logger puts in front, a structured line ends in an object. The
fragment is the longest stretch from an opening brace to the closing brace that
ends the line, without a line break inside.

`measurement` reads the measurement of a line; `event` and `latency` take from it
what the report by event and the list of latencies need. Every number they give
is finite.
-/

namespace Timings

namespace Fragment

/-- The characters that may surround a line. -/
def isMargin (c : Char) : Bool := c == '\n' || c == '\t' || c == '\r'

/-- Whether a text runs from an opening to a closing brace on one line. -/
def isFragment (cs : List Char) : Bool :=
  cs.head? == some '\x7b' && cs.getLast? == some '\x7d' && !cs.contains '\n'

/-- The longest end of a text that is a fragment. -/
def search : List Char → Option (List Char)
  | [] => none
  | c :: cs => if isFragment (c :: cs) then some (c :: cs) else search cs

/-- The fragment at the end of a line, if it has one. -/
def ofLine (line : String) : Option String :=
  (search (Text.trim isMargin line.toList)).map String.ofList

end Fragment

/-- One keyed value taken from a line. -/
structure Observation (κ : Type) where
  key : κ
  value : Float
deriving DecidableEq, Repr

/-- One row of the list of latencies. -/
structure Latency where
  time : Float
  items : Nat
  timePerItem : Float

namespace Line

/-- Refuses numbers that are infinite or undefined. -/
def ensureFinite (line : Nat) (x : Float) : Except Failure Unit :=
  if x.isFinite then .ok () else .error (.nonFinite line x)

/-- The measurement at the end of a line. -/
def measurement (text : String) (line : Nat) : Except Failure Measurement :=
  match Fragment.ofLine text with
  | none => .error (.malformedLine line .noFragment)
  | some fragment =>
    match Measurement.decode fragment with
    | .error fault => .error (.malformedLine line (.badFragment fault))
    | .ok m => do
      ensureFinite line m.timePerItem
      match m.time with
      | none => .ok m
      | some time => do
        ensureFinite line time
        .ok m

/-- The time per item of a line, under its event and number of items. -/
def event (text : String) (line : Nat) : Except Failure (Observation EventKey) := do
  let m ← measurement text line
  match m.message with
  | none => .error (.malformedLine line .noMessage)
  | some message => .ok ⟨⟨message, m.items⟩, m.timePerItem⟩

/-- The latency of a line. -/
def latency (text : String) (line : Nat) : Except Failure Latency := do
  let m ← measurement text line
  match m.time with
  | none => .error (.malformedLine line .noTime)
  | some time => .ok ⟨time, m.items, m.timePerItem⟩

end Line

end Timings
