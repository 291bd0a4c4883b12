import Timings.Counter

/-!
Labels of groups.

A label that looks like an integer is one: it sorts by value, before every other
label, and is shown in its plain form. All other labels sort by code points.
-/

namespace Timings

/-- The label of a group of values. -/
inductive Label where
  | number (value : Int)
  | text (content : String)
deriving DecidableEq, Repr

namespace Label

/-- The range of the integers that are labels by value: 64 bits with a sign. -/
def inRange (n : Int) : Bool := decide (-(2 ^ 63) ≤ n ∧ n < 2 ^ 63)

/-- The integer a text spells: at most one sign, then one or more ASCII digits
and nothing else. -/
def integer? (cs : List Char) : Option Int :=
  let (negative, digits) :=
    match cs with
    | '-' :: rest => (true, rest)
    | '+' :: rest => (false, rest)
    | rest => (false, rest)
  if digits.isEmpty ∨ digits.any (!·.isDigit) then none
  else
    let value : Int := Nat.ofDigitChars 10 digits 0
    some (if negative then -value else value)

/-- The label a text stands for. An integer out of range stays a text. -/
def parse (raw : String) : Label :=
  match integer? raw.toList with
  | some n => if inRange n then .number n else .text raw
  | none => .text raw

/-- The digits of an integer, behind a minus sign if it is negative. -/
def integerText (n : Int) : String :=
  String.ofList ((if n < 0 then ['-'] else []) ++ Nat.toDigits 10 n.natAbs)

/-- How a label is shown. -/
def display : Label → String
  | number n => integerText n
  | text s => s

/-- Numbers come first. -/
protected def compare : Label → Label → Ordering
  | number m, number n => compare m n
  | number _, text _ => .lt
  | text _, number _ => .gt
  | text s, text t => compare s t

instance : Ord Label := ⟨Label.compare⟩

instance : Std.TransOrd Label where
  eq_swap {a b} := by
    cases a <;> cases b
    · exact @Std.OrientedCmp.eq_swap Int compare _ _ _
    · rfl
    · rfl
    · exact @Std.OrientedCmp.eq_swap String compare _ _ _
  isLE_trans {a b c} hab hbc := by
    cases a <;> cases b <;> cases c
    case number.number.number =>
      exact @Std.TransCmp.isLE_trans Int compare _ _ _ _ hab hbc
    case text.text.text =>
      exact @Std.TransCmp.isLE_trans String compare _ _ _ _ hab hbc
    case number.number.text => rfl
    case number.text.text => rfl
    case number.text.number => exact Bool.noConfusion hbc
    case text.number.number => exact Bool.noConfusion hab
    case text.number.text => exact Bool.noConfusion hab
    case text.text.number => exact Bool.noConfusion hbc

instance : Std.LawfulEqOrd Label where
  eq_of_compare {a b} h := by
    cases a <;> cases b
    · exact congrArg number (@Std.LawfulEqCmp.eq_of_compare Int compare _ _ _ h)
    · cases h
    · cases h
    · exact congrArg text
        (@Std.LawfulEqCmp.eq_of_compare String compare _ _ _ h)

end Label

/-- The key of a measurement in a structured log: what was measured, and how
many items one operation worked on. -/
structure EventKey where
  event : String
  items : Nat
deriving DecidableEq, Repr

namespace EventKey

/-- Events sort by code points, the same event by the number of items. -/
instance : Ord EventKey := ⟨compareLex (compareOn EventKey.event) (compareOn EventKey.items)⟩

instance : Std.TransOrd EventKey :=
  inferInstanceAs (Std.TransCmp (compareLex (compareOn EventKey.event) (compareOn EventKey.items)))

instance : Std.LawfulEqOrd EventKey where
  eq_of_compare {a b} h := by
    obtain ⟨event, items⟩ := compareLex_eq_eq.1 h
    cases a; cases b
    cases @Std.LawfulEqCmp.eq_of_compare String compare _ _ _ event
    cases @Std.LawfulEqCmp.eq_of_compare Nat compare _ _ _ items
    rfl

end EventKey

end Timings
