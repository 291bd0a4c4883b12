import Timings.Decimal.Style
import Timings.Text.Quoted

/-!
What can be wrong with the JSON of a measurement, and how it is reported.

A fault is the first problem met when the text is read from left to right.
-/

namespace Timings.Json

/-- A value of a type that a member does not take. -/
inductive Found where
  | null
  | boolean (value : Bool)
  | integer (value : Int)
  | float (value : Float)
  | string (content : String)
  | sequence
  | map

/-- What a member takes. -/
inductive Wanted where
  /-- A natural number of 64 bits. -/
  | count
  /-- Any number. -/
  | number
  | text
deriving DecidableEq, Repr

/-- The first problem of a text. -/
inductive Fault where
  | endInObject
  | endInList
  | endInValue
  | endInString
  | keyNotString
  | trailingComma
  | noColon
  | noCommaOrBrace
  | noCommaOrBracket
  | trailingCharacters
  | unknownWord
  | noValue
  | malformedNumber
  | numberOutOfRange
  | controlInString
  | unknownEscape
  | loneSurrogate
  | halfSurrogatePair
  | duplicateMember (name : String)
  | missingMember (name : String)
  | wrongType (found : Found) (wanted : Wanted)
  /-- A negative integer where a natural number is wanted. -/
  | wrongSign (value : Int)

/-- Floats in messages: positional from `0.00001` to below ten to the sixteenth,
elsewhere with an exponent that carries its sign. -/
def messageStyle : Style := { tie := .even, plain := some (-5, 15), pointed := true, plus := true }

/-- A value of the wrong type, in words. -/
def Found.describe : Found → String
  | null => "null"
  | boolean true => "boolean `true`"
  | boolean false => "boolean `false`"
  | integer n => "integer `" ++ toString n ++ "`"
  | float x => "floating point `" ++ messageStyle.write x ++ "`"
  | string s => "string " ++ Text.quote s
  | sequence => "sequence"
  | map => "map"

/-- What a member takes, in words. -/
def Wanted.describe : Wanted → String
  | count => "u64"
  | number => "f64"
  | text => "a string"

/-- The text of a fault. -/
def Fault.message : Fault → String
  | endInObject => "EOF while parsing an object"
  | endInList => "EOF while parsing a list"
  | endInValue => "EOF while parsing a value"
  | endInString => "EOF while parsing a string"
  | keyNotString => "key must be a string"
  | trailingComma => "trailing comma"
  | noColon => "expected `:`"
  | noCommaOrBrace => "expected `,` or `\x7d`"
  | noCommaOrBracket => "expected `,` or `]`"
  | trailingCharacters => "trailing characters"
  | unknownWord => "expected ident"
  | noValue => "expected value"
  | malformedNumber => "invalid number"
  | numberOutOfRange => "number out of range"
  | controlInString => "control character (\\u0000-\\u001F) found while parsing a string"
  | unknownEscape => "invalid escape"
  | loneSurrogate => "lone leading surrogate in hex escape"
  | halfSurrogatePair => "unexpected end of hex escape"
  | duplicateMember name => "duplicate field `" ++ name ++ "`"
  | missingMember name => "missing field `" ++ name ++ "`"
  | wrongType found wanted =>
    "invalid type: " ++ found.describe ++ ", expected " ++ wanted.describe
  | wrongSign n =>
    "invalid value: " ++ (Found.integer n).describe ++ ", expected " ++ Wanted.count.describe

end Timings.Json
