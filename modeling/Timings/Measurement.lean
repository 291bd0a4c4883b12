import Timings.Json.Skip

/-!
A measurement as a benchmark logs it: a JSON object with a few known members.

`decode` reads the object from left to right and gives the measurement or the
first fault. Known members may come in any order, at most once each; unknown ones
are skipped. A member that may be absent may be `null` as well.
-/

namespace Timings

/-- One logged measurement. -/
structure Measurement where
  /-- What was measured. -/
  message : Option String
  /-- How many items the operation worked on. -/
  items : Nat
  /-- How long the operation took. -/
  time : Option Float
  /-- The same, per item. -/
  timePerItem : Float

namespace Measurement

open Json

/-- The members a measurement has. -/
inductive Member where
  | message
  | items
  | time
  | timePerItem
deriving DecidableEq, Repr

/-- The name of a member. -/
def Member.name : Member → String
  | message => "message"
  | items => "items"
  | time => "time"
  | timePerItem => "time/item"

/-- The member of a name. -/
def Member.ofName? (name : String) : Option Member :=
  [message, items, time, timePerItem].find? (·.name == name)

/-- The members read so far. The inner options tell `null` from a value. -/
structure Draft where
  message : Option (Option String)
  items : Option Nat
  time : Option (Option Float)
  timePerItem : Option Float

namespace Draft

/-- The draft before any member. -/
def blank : Draft := ⟨none, none, none, none⟩

/-- Whether a member has been read. -/
def has (d : Draft) : Member → Bool
  | .message => d.message.isSome
  | .items => d.items.isSome
  | .time => d.time.isSome
  | .timePerItem => d.timePerItem.isSome

/-- The measurement of a complete draft. -/
def finish (d : Draft) : Except Fault Measurement :=
  match d.items with
  | none => .error (.missingMember Member.items.name)
  | some items =>
    match d.timePerItem with
    | none => .error (.missingMember Member.timePerItem.name)
    | some timePerItem =>
      .ok { message := d.message.join, items := items, time := d.time.join
            timePerItem := timePerItem }

end Draft

/-- The fault of a numeral where something else is wanted. -/
def Number.mismatch (wanted : Wanted) : Number → Fault
  | .natural n => .wrongType (.integer n) wanted
  | .negative n => if wanted = .count then .wrongSign n else .wrongType (.integer n) wanted
  | .float x => .wrongType (.float x) wanted

/-- The fault of a scanned value of another type, or of its own if it has one. -/
def mismatchOf {α : Type} (scanned : Except Fault α) (fault : α → Fault) : Fault :=
  match scanned with
  | .error e => e
  | .ok a => fault a

/-- The fault of a value that is not of the wanted type. Words, numerals and
strings are read first, and a fault inside them comes before the wrong type. -/
def mismatch (wanted : Wanted) (cs : List Char) : Fault :=
  match cs with
  | [] => .endInValue
  | c :: rest =>
    match c with
    | 'n' => mismatchOf (scanWord ['u', 'l', 'l'] rest) fun _ => .wrongType .null wanted
    | 't' => mismatchOf (scanWord ['r', 'u', 'e'] rest) fun _ => .wrongType (.boolean true) wanted
    | 'f' =>
      mismatchOf (scanWord ['a', 'l', 's', 'e'] rest) fun _ => .wrongType (.boolean false) wanted
    | '"' => mismatchOf (scanString rest) fun p => .wrongType (.string p.1) wanted
    | '[' => .wrongType .sequence wanted
    | '\x7b' => .wrongType .map wanted
    | _ =>
      match scanNumeral? cs with
      | none => .noValue
      | some scanned => mismatchOf scanned fun p => Number.mismatch wanted p.1

/-- Reads a numeral. -/
def readNumber (wanted : Wanted) (cs : List Char) : Except Fault (Number × List Char) :=
  match scanNumeral? (skipBlanks cs) with
  | some scanned => scanned
  | none => .error (mismatch wanted (skipBlanks cs))

/-- Reads a natural number. -/
def readCount (cs : List Char) : Except Fault (Nat × List Char) := do
  let (number, rest) ← readNumber .count cs
  match number with
  | .natural n => .ok (n, rest)
  | number => .error (Number.mismatch .count number)

/-- The double nearest to a number. -/
def Number.toFloat : Number → Float
  | .natural n => (UInt64.ofNat n).toFloat
  | .negative n => -(UInt64.ofNat n.natAbs).toFloat
  | .float x => x

/-- Reads any number. -/
def readFloat (cs : List Char) : Except Fault (Float × List Char) := do
  let (number, rest) ← readNumber .number cs
  .ok (Number.toFloat number, rest)

/-- Reads a string. -/
def readText (cs : List Char) : Except Fault (String × List Char) :=
  match skipBlanks cs with
  | '"' :: rest => scanString rest
  | cs => .error (mismatch .text cs)

/-- Reads `null` or what `read` reads. -/
def readNullable {α : Type} (read : List Char → Except Fault (α × List Char))
    (cs : List Char) : Except Fault (Option α × List Char) :=
  match skipBlanks cs with
  | 'n' :: rest => (scanWord ['u', 'l', 'l'] rest).map fun rest => (none, rest)
  | cs => (read cs).map fun p => (some p.1, p.2)

/-- Reads the value of a member into the draft. -/
def readMember (d : Draft) (m : Member) (cs : List Char) : Except Fault (Draft × List Char) :=
  match m with
  | .message => (readNullable readText cs).map fun p => ({ d with message := some p.1 }, p.2)
  | .items => (readCount cs).map fun p => ({ d with items := some p.1 }, p.2)
  | .time => (readNullable readFloat cs).map fun p => ({ d with time := some p.1 }, p.2)
  | .timePerItem => (readFloat cs).map fun p => ({ d with timePerItem := some p.1 }, p.2)

/-- Passes over the colon behind a name. -/
def passColon (cs : List Char) : Except Fault (List Char) :=
  match skipBlanks cs with
  | [] => .error .endInObject
  | c :: rest => if c = ':' then .ok rest else .error .noColon

/-- Finds the next member, behind its opening quote, or the end of the object,
`none`. Between members there is a comma. -/
def nextMember (first : Bool) (cs : List Char) : Except Fault (Option (List Char) × List Char) :=
  match skipBlanks cs with
  | [] => .error .endInObject
  | c :: rest =>
    if c = '\x7d' then .ok (none, rest)
    else if first then
      if c = '"' then .ok (some rest, rest) else .error .keyNotString
    else if c = ',' then
      match skipBlanks rest with
      | [] => .error .endInValue
      | c :: rest =>
        if c = '"' then .ok (some rest, rest)
        else if c = '\x7d' then .error .trailingComma
        else .error .keyNotString
    else .error .noCommaOrBrace

/-- Reads one member behind its opening quote. A repeated name is a fault before
the value is looked at. -/
def decodeMember (d : Draft) (cs : List Char) : Except Fault (Draft × List Char) := do
  let (name, rest) ← scanString cs
  match Member.ofName? name with
  | some m =>
    if d.has m then .error (.duplicateMember name)
    else do
      let rest ← passColon rest
      readMember d m rest
  | none => do
    let rest ← passColon rest
    let rest ← skipValue rest
    .ok (d, rest)

/-- Reads members up to the end of the object. Every member takes characters, so
their number is enough fuel. -/
def decodeMembers : Nat → Bool → Draft → List Char → Except Fault (Draft × List Char)
  | 0, _, _, _ => .error .endInObject
  | fuel + 1, first, d, cs => do
    match ← nextMember first cs with
    | (none, rest) => .ok (d, rest)
    | (some cs, _) => do
      let (d, rest) ← decodeMember d cs
      decodeMembers fuel false d rest

/-- Decodes the text of an object. A missing member comes before anything that
follows the object. -/
def decode (text : String) : Except Fault Measurement :=
  match text.toList with
  | '\x7b' :: cs => do
    let (d, rest) ← decodeMembers (cs.length + 1) true .blank cs
    let measurement ← d.finish
    if (skipBlanks rest).isEmpty then .ok measurement else .error .trailingCharacters
  | _ => .error .noValue

end Measurement

end Timings
