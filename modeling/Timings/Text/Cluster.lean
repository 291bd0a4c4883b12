import Timings.Text.ClusterTables
import Timings.Text.Extending

/-!
Grapheme clusters: the units a terminal cell holds, a base character together
with the marks and joiners that belong to it.

The rules are those of extended grapheme clusters. `CutState` carries what a cut
between two characters depends on besides the two of them.
-/

namespace Timings.Text

/-- How a character behaves at the edge of a cluster. -/
inductive ClusterClass where
  | control
  | extend
  | joiner
  | spacing
  | prepended
  | regional
  | leading
  | vowel
  | final
  | syllableOpen
  | syllableClosed
  | pictograph
  | other
deriving DecidableEq, Repr

/-- The zero width joiner. -/
def zeroWidthJoiner : Char := Char.ofNat 0x200d

/-- The zero width non-joiner. -/
def zeroWidthNonJoiner : Char := Char.ofNat 0x200c

/-- Flags are written with two letters of this alphabet. -/
def isRegional (c : Char) : Bool := 0x1f1e6 ≤ c.toNat && c.toNat ≤ 0x1f1ff

/-- Skin tones; they extend the pictograph before them. -/
def isSkinTone (c : Char) : Bool := 0x1f3fb ≤ c.toNat && c.toNat ≤ 0x1f3ff

/-- The class of a character. The consonants and syllables of Hangul are a matter of
code points. -/
def clusterClass (c : Char) : ClusterClass :=
  let n := c.toNat
  if 0x20 ≤ n ∧ n < 0x7f then .other
  else if c = zeroWidthJoiner then .joiner
  else if extending.contains c || isSkinTone c then .extend
  else if controls.contains c then .control
  else if isRegional c then .regional
  else if prepended.contains c then .prepended
  else if (0x1100 ≤ n && n ≤ 0x115f) || (0xa960 ≤ n && n ≤ 0xa97c) then .leading
  else if conjoiningVowels.contains c then .vowel
  else if (0x11a8 ≤ n && n ≤ 0x11ff) || (0xd7cb ≤ n && n ≤ 0xd7fb) then .final
  else if 0xac00 ≤ n ∧ n ≤ 0xd7a3 then
    if (n - 0xac00) % 28 = 0 then .syllableOpen else .syllableClosed
  else if spacingMarks.contains c then .spacing
  else if pictographs.contains c then .pictograph
  else .other

/-- What the cluster read so far says about the next cut. -/
structure CutState where
  /-- The class of the last character. -/
  last : ClusterClass
  /-- The cluster ends in a pictograph and characters extending it. -/
  pictured : Bool
  /-- The joiner at the end follows such a pictograph. -/
  joined : Bool
  /-- Whether the flag letters at the end are odd in number. -/
  halfFlag : Bool
  /-- The cluster ends in a conjunct consonant and marks; the second flag says
  that a virama is among them. -/
  conjunct : Bool
  linked : Bool

/-- The state after a first character. -/
def CutState.start (c : Char) : CutState :=
  let kind := clusterClass c
  { last := kind, pictured := kind == .pictograph, joined := false,
    halfFlag := kind == .regional, conjunct := conjunctConsonants.contains c, linked := false }

/-- The state after one more character of the same cluster. -/
def CutState.push (s : CutState) (c : Char) : CutState :=
  let kind := clusterClass c
  let consonant := conjunctConsonants.contains c
  let mark := kind == .joiner || (kind == .extend && c != zeroWidthNonJoiner)
  { last := kind
    pictured := kind == .pictograph || (s.pictured && kind == .extend)
    joined := s.pictured && kind == .joiner
    halfFlag := kind == .regional && !s.halfFlag
    conjunct := consonant || (s.conjunct && mark)
    linked := !consonant && s.conjunct && mark && (s.linked || conjunctLinkers.contains c) }

/-- Whether the next character belongs to the cluster read so far. -/
def CutState.joins (s : CutState) (c : Char) : Bool :=
  let kind := clusterClass c
  if s.last == .control || kind == .control then false
  else if kind == .extend || kind == .joiner || kind == .spacing then true
  else if s.last == .prepended then true
  else if s.linked && conjunctConsonants.contains c then true
  else
    match s.last, kind with
    | .leading, .leading | .leading, .vowel | .leading, .syllableOpen
    | .leading, .syllableClosed => true
    | .syllableOpen, .vowel | .vowel, .vowel => true
    | .syllableOpen, .final | .vowel, .final | .syllableClosed, .final | .final, .final => true
    | .joiner, .pictograph => s.joined
    | .regional, .regional => s.halfFlag
    | _, _ => false

/-- Goes on with a cluster whose characters so far are `current`, last first. -/
def clustersFrom (current : List Char) (s : CutState) : List Char → List (List Char)
  | [] => [current.reverse]
  | c :: cs =>
    if s.joins c then clustersFrom (c :: current) (s.push c) cs
    else current.reverse :: clustersFrom [c] (CutState.start c) cs

/-- The clusters of a text, in order. -/
def clusters : List Char → List (List Char)
  | [] => []
  | c :: cs => clustersFrom [c] (CutState.start c) cs

end Timings.Text
