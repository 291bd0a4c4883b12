import Timings.Text.CaseTables

/-!
Upper and lower case of whole texts, by the full case mappings: one character
may become several, and a capital sigma becomes the final form at the end of a
word.
-/

namespace Timings.Text

/-- The character a run maps `c` to, if it covers `c`. -/
def CaseRun.image? (run : CaseRun) (c : Char) : Option Char :=
  if run.first ≤ c.toNat ∧ c.toNat ≤ run.last ∧ (c.toNat - run.first) % run.step = 0 then
    some (Char.ofNat (c.toNat + run.shift).toNat)
  else none

/-- The image of a character under a case mapping: itself unless listed. -/
def mapCase (runs : List CaseRun) (specials : List (Nat × List Nat)) (c : Char) : List Char :=
  match specials.lookup c.toNat with
  | some cs => cs.map Char.ofNat
  | none => [(runs.findSome? (·.image? c)).getD c]

/-- Whether the first character that is not ignorable is a cased letter. -/
def startsCased (cs : List Char) : Bool :=
  match cs.dropWhile caseIgnorable.contains with
  | [] => false
  | c :: _ => cased.contains c

/-- Lower case of the characters of a text; `before` holds the ones already
passed, last first. -/
def lowerFrom (before : List Char) : List Char → List Char
  | [] => []
  | c :: cs =>
    let mapped :=
      if c = 'Σ' then if startsCased before && !startsCased cs then ['ς'] else ['σ']
      else mapCase lowerRuns lowerSpecials c
    mapped ++ lowerFrom (c :: before) cs

/-- A text in lower case. -/
def lower (text : String) : String := String.ofList (lowerFrom [] text.toList)

/-- A text in upper case. -/
def upper (text : String) : String :=
  String.ofList (text.toList.flatMap (mapCase upperRuns upperSpecials))

end Timings.Text
