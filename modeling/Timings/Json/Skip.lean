import Timings.Json.Numeral

/-!
Passing over whole JSON values.

Members that a measurement does not have may hold anything. Only their syntax is
checked: numerals may be out of range, escapes may be lone surrogates, and
brackets may nest to any depth.
-/

namespace Timings.Json

/-- An opened bracket. -/
inductive Bracket where
  | list
  | object
deriving DecidableEq, Repr

namespace Bracket

/-- The bracket that closes it. -/
def close : Bracket → Char
  | list => ']'
  | object => '\x7d'

/-- The fault of a text that ends inside. -/
def endFault : Bracket → Fault
  | list => .endInList
  | object => .endInObject

/-- The fault of two entries without a comma between them. -/
def commaFault : Bracket → Fault
  | list => .noCommaOrBracket
  | object => .noCommaOrBrace

end Bracket

/-- What may come next. -/
inductive Phase where
  /-- A value. -/
  | value
  /-- The first entry of a bracket just opened, or its end. -/
  | opened
  /-- An entry after a comma, or the first one. -/
  | entry
  /-- A comma or the end of the innermost bracket. -/
  | after
deriving DecidableEq, Repr

/-- Passes over a value that is no list and no object; `none` if a bracket
opens. -/
def skipScalar : List Char → Except Fault (Option Bracket × List Char)
  | [] => .error .endInValue
  | c :: cs =>
    let scalar (rest : Except Fault (List Char)) := rest.map fun cs => (none, cs)
    match c with
    | 'n' => scalar (scanWord ['u', 'l', 'l'] cs)
    | 't' => scalar (scanWord ['r', 'u', 'e'] cs)
    | 'f' => scalar (scanWord ['a', 'l', 's', 'e'] cs)
    | '"' => scalar (skipString cs)
    | '-' => scalar (skipNumeral cs)
    | '[' => .ok (some .list, cs)
    | '\x7b' => .ok (some .object, cs)
    | c => if c.isDigit then scalar (skipNumeral (c :: cs)) else .error .noValue

/-- Passes over the name of a member and its colon. -/
def skipName (cs : List Char) : Except Fault (List Char) :=
  match skipBlanks cs with
  | [] => .error .endInObject
  | c :: cs =>
    if c = '"' then do
      let cs ← skipString cs
      match skipBlanks cs with
      | [] => .error .endInObject
      | c :: cs => if c = ':' then .ok cs else .error .noColon
    else .error .keyNotString

/-- Passes over what is left of a value whose open brackets are given, the
innermost first. Every second step reads a character, so twice the number of
characters is enough fuel. -/
def skipFrom : Nat → Phase → List Bracket → List Char → Except Fault (List Char)
  | 0, _, _, _ => .error .endInValue
  | fuel + 1, .value, brackets, cs => do
    match ← skipScalar (skipBlanks cs) with
    | (none, rest) => skipFrom fuel .after brackets rest
    | (some bracket, rest) => skipFrom fuel .opened (bracket :: brackets) rest
  | _ + 1, .opened, [], cs => .ok cs
  | fuel + 1, .opened, bracket :: brackets, cs =>
    match skipBlanks cs with
    | [] => .error bracket.endFault
    | c :: rest =>
      if c = bracket.close then skipFrom fuel .after brackets rest
      else skipFrom fuel .entry (bracket :: brackets) (c :: rest)
  | _ + 1, .entry, [], cs => .ok cs
  | fuel + 1, .entry, .list :: brackets, cs => skipFrom fuel .value (.list :: brackets) cs
  | fuel + 1, .entry, .object :: brackets, cs => do
    let rest ← skipName cs
    skipFrom fuel .value (.object :: brackets) rest
  | _ + 1, .after, [], cs => .ok cs
  | fuel + 1, .after, bracket :: brackets, cs =>
    match skipBlanks cs with
    | [] => .error bracket.endFault
    | c :: rest =>
      if c = ',' then skipFrom fuel .entry (bracket :: brackets) rest
      else if c = bracket.close then skipFrom fuel .after brackets rest
      else .error bracket.commaFault

/-- Passes over one value of any kind. -/
def skipValue (cs : List Char) : Except Fault (List Char) :=
  skipFrom (3 * cs.length + 3) .value [] cs

end Timings.Json
