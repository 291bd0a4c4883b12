import Timings.Text.Cluster
import Timings.Text.ColumnWidth
import Timings.Text.FormTables

/-!
How many terminal columns a cluster takes.

Most characters take their own columns wherever they stand. Some depend on what
follows: a selector chooses the form of the character before it, a joiner or a
skin tone makes one picture of several, and a few letters melt into those behind
them. So a cluster is measured from its last character to its first, and
`Following` is what the part measured so far is to the character before it.
-/

namespace Timings.Text

/-! ## Single characters -/

/-- The selector that chooses the wide form of the quotation mark before it. -/
def wideSelector : Char := Char.ofNat 0xfe01

/-- The selector that chooses the text form of the character before it. -/
def textSelector : Char := Char.ofNat 0xfe0e

/-- The selector that chooses the picture form of the character before it. -/
def pictureSelector : Char := Char.ofNat 0xfe0f

/-- The mark that draws a key around the character before it. -/
def keycap : Char := Char.ofNat 0x20e3

/-- The black flag, which stands for the place that is spelled behind it. -/
def blackFlag : Char := Char.ofNat 0x1f3f4

/-- The end of the spelling behind a black flag. -/
def spellingEnd : Char := Char.ofNat 0xe007f

/-- The letters of such a spelling. -/
def isSpellingLetter (c : Char) : Bool := 0xe0061 ≤ c.toNat && c.toNat ≤ 0xe007a

/-- The digits of such a spelling. -/
def isSpellingDigit (c : Char) : Bool := 0xe0030 ≤ c.toNat && c.toNat ≤ 0xe0039

/-- The quotation marks that have a wide form. -/
def isCurlyQuote (c : Char) : Bool := [0x2018, 0x2019, 0x201c, 0x201d].contains c.toNat

/-- The Khmer sign that puts the letter behind it below the letter before it. -/
def subscriptSign : Char := Char.ofNat 0x17d2

/-! ## What follows a character -/

/-- A form that a selector chooses. -/
inductive Form where
  | picture
  | text
  | wide
deriving DecidableEq, Repr

/-- What follows a character, as far as the columns of that character depend on it. -/
inductive Following where
  /-- Nothing, or nothing that matters. -/
  | nothing
  /-- A selector. -/
  | selector (form : Form)
  /-- A picture, maybe put together from several characters. -/
  | picture
  /-- A skin tone. -/
  | skinTone
  /-- A joiner and a picture, with a picture selector before them or not. -/
  | joined (selected : Bool)
  /-- The same behind a keycap, with a picture selector before all of them or not. -/
  | joinedKeycap (selected : Bool)
  /-- So many letters of the spelling of a place, its end, a joiner and a picture. -/
  | letters (count : Nat)
  /-- So many digits of such a spelling, and the rest of it. -/
  | digits (count : Nat)
  /-- A vowel of Kirat Rai that is written as one with another vowel before it. -/
  | vowel
  /-- Two of them, written as one. -/
  | vowelPair
  /-- A Khmer letter that takes no column when it is written below another. -/
  | subscripted
deriving DecidableEq, Repr

namespace Following

/-- What a character is to the one before it, whatever follows. -/
def ofChar (c : Char) : Following :=
  if isSkinTone c then .skinTone
  else if c.toNat = 0x16d67 then .vowel
  else if c.toNat = 0x16d68 then .vowelPair
  else if subscriptLetters.contains c then .subscripted
  else if pictures.contains c then .picture
  else .nothing

/-- A character that does not depend on what follows. -/
def alone (c : Char) : Int × Following := (columnWidth c, ofChar c)

/-- What a selector makes of what follows it. A letter written below another is not
reached by selectors between the two. -/
def select (form : Form) : Following → Following
  | subscripted => .subscripted
  | joined _ => if form = .picture then .joined true else .selector form
  | joinedKeycap _ => if form = .picture then .joinedKeycap true else .selector form
  | _ => .selector form

/-- The columns of a character behind which a picture form is chosen, if it has
one: two, or none if the picture is joined to another. -/
def selectedWidth? : Following → Option Int
  | selector .picture => some 2
  | joined true | joinedKeycap true => some 0
  | _ => none

/-- What follows, without a picture selector that chose nothing. -/
def unselected : Following → Following
  | selector .picture | joined true | joinedKeycap true => .nothing
  | f => f

/-- The columns of a character that is no selector before what follows it, and what
both are to the character before them. -/
def measureLetter (c : Char) : Following → Int × Following
  | selector .text => if textChoosable.contains c then (1, .nothing) else alone c
  | selector .wide => if isCurlyQuote c then (2, .nothing) else alone c
  | picture => if c = zeroWidthJoiner then (0, .joined false) else alone c
  | skinTone =>
    if toned.contains c then (0, .picture)
    else if c = zeroWidthJoiner then (0, .joined false)
    else alone c
  | joined _ =>
    if c = keycap then (0, .joinedKeycap false)
    else if isSkinTone c then (0, .skinTone)
    else if c = spellingEnd then (0, .letters 0)
    else if ofChar c = .picture then (0, .picture)
    else alone c
  | letters count =>
    if isSpellingLetter c && count < 6 then (0, .letters (count + 1))
    else if isSpellingDigit c && count < 5 then (0, .digits 1)
    else if c = blackFlag && 3 ≤ count then (0, .picture)
    else alone c
  | digits count =>
    if isSpellingDigit c && count < 3 then (0, .digits (count + 1))
    else if c = blackFlag && count = 3 then (0, .picture)
    else alone c
  | vowel =>
    match c.toNat with
    | 0x16d63 | 0x16d69 => (0, .nothing)
    | 0x16d67 => (0, .vowelPair)
    | 0x16d68 => (1, .vowel)
    | _ => alone c
  | vowelPair => if c.toNat = 0x16d63 then (0, .nothing) else alone c
  | subscripted =>
    if ignorableMarks.contains c then (0, .subscripted)
    else if c = subscriptSign then (-1, .nothing)
    else alone c
  | _ => alone c

/-- The columns of a character before what follows it, and what both are to the
character before them. -/
def measure (f : Following) (c : Char) : Int × Following :=
  match f.selectedWidth?, pictureChoosable.contains c with
  | some width, true => (width, .picture)
  | _, _ =>
    if c = pictureSelector then (0, f.unselected.select .picture)
    else if c = textSelector then (0, f.unselected.select .text)
    else if c = wideSelector then (0, f.unselected.select .wide)
    else measureLetter c f.unselected

end Following

/-! ## Clusters -/

/-- The columns of a text, and what it is to a character before it. -/
def measureText : List Char → Int × Following
  | [] => (0, .nothing)
  | c :: cs =>
    let (columns, following) := measureText cs
    let (width, f) := following.measure c
    (width + columns, f)

/-- The number of columns of a cluster. -/
def clusterWidth (cluster : List Char) : Nat := (measureText cluster).1.toNat

end Timings.Text
