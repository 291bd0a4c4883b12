import Timings.Text.Unprintable
import Timings.Text.Extending

/-!
Quoted text in messages: between double quotes, with escapes for quotes,
backslashes and whatever has no printed shape of its own.
-/

namespace Timings.Text

/-- Marks that would join what stands before them. The voicing marks of halfwidth
kana do not: they are letters that keep a place of their own. -/
def isJoiningMark (c : Char) : Bool :=
  extending.contains c && !(c.toNat = 0xff9e || c.toNat = 0xff9f)

/-- One character inside quotes. The common controls have a letter, other
unprintable characters and marks that would join the quote or the character
before them are given by their code point; an apostrophe stays. -/
def quoteChar (c : Char) : List Char :=
  match c with
  | '"' => ['\\', '"']
  | '\\' => ['\\', '\\']
  | '\t' => ['\\', 't']
  | '\r' => ['\\', 'r']
  | '\n' => ['\\', 'n']
  | '\x00' => ['\\', '0']
  | c =>
    if unprintable.contains c || isJoiningMark c then
      '\\' :: 'u' :: '\x7b' :: (Nat.toDigits 16 c.toNat ++ ['\x7d'])
    else [c]

/-- A text in double quotes. -/
def quote (text : String) : String :=
  String.ofList ('"' :: (text.toList.flatMap quoteChar ++ ['"']))

end Timings.Text
