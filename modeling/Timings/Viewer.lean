import Timings.Screen.Distribution
import Timings.Failure

/-!
The viewer: it takes over the terminal, shows a distribution until the user
leaves, and gives the terminal back.

How the terminal answers is a `Script`; what the viewer asks of it, in order, is
the `Transcript` of a run. The script ends, and so does every run.
-/

namespace Timings

/-! ## The user -/

/-- A key of the keyboard, as far as the viewer cares. -/
inductive Key where
  | char (c : Char)
  | escape
  /-- Any other key. -/
  | other
deriving DecidableEq, Repr

/-- What happens to a key. -/
inductive KeyMotion where
  | press
  | release
  | repeated
deriving DecidableEq, Repr

/-- Something the terminal reports. -/
inductive TerminalEvent where
  /-- A key and what happens to it, with the Control key held or not. -/
  | key (key : Key) (motion : KeyMotion) (control : Bool)
  /-- The screen has a new size. -/
  | resize (width height : Nat)
  | other
deriving DecidableEq, Repr

/-- Whether the user leaves: `q`, `Q` or Escape is pressed, or `c` with Control. -/
def TerminalEvent.leaves : TerminalEvent → Bool
  | key (.char 'q') .press _ | key (.char 'Q') .press _ | key .escape .press _ => true
  | key (.char 'c') .press control => control
  | _ => false

/-! ## The terminal -/

/-- How the terminal answers in one round of the viewer. -/
structure Round where
  /-- Drawing fails. -/
  draw : Option SystemFault := none
  /-- Whether there is an event to read. -/
  poll : Except SystemFault Bool
  /-- The event, if there is one. -/
  read : Except SystemFault TerminalEvent

/-- How the terminal answers in a whole run. -/
structure Script where
  enableRawMode : Option SystemFault := none
  enterAlternateScreen : Option SystemFault := none
  /-- The width and the height of the screen. -/
  size : Except SystemFault (Nat × Nat)
  rounds : List Round
  /-- Drawing fails once there are no more rounds. -/
  lastDraw : Option SystemFault := none
  /-- The fault that ends the script: the poll behind the last round fails. -/
  ending : SystemFault
  disableRawMode : Option SystemFault := none
  leaveAlternateScreen : Option SystemFault := none
  showCursor : Option SystemFault := none

/-- What the viewer asks of the terminal. -/
inductive TerminalCall where
  | enableRawMode
  | enterAlternateScreen
  | draw (screen : Picture)
  /-- Waits for an event, at most so long. -/
  | poll (milliseconds : Nat)
  | read
  | disableRawMode
  | leaveAlternateScreen
  | showCursor
deriving DecidableEq, Repr

/-- How long the viewer waits for an event, in milliseconds. -/
def pollTime : Nat := 250

/-- What a run of the viewer asks, how many rounds of the script it leaves, and
how it ends. -/
structure Transcript where
  calls : List TerminalCall
  left : Nat
  result : Except SystemFault Unit

/-! ## The viewer -/

/-- A distribution to show. -/
structure Viewer where
  title : String
  histogram : Histogram Float
  theme : Theme

namespace Viewer

/-- What is drawn on a screen of this size. -/
def frame (v : Viewer) (width height : Nat) : Picture :=
  let screen := Screen.blank width height
  let drawn :=
    if v.histogram.total = 0 then Distribution.emptyView screen screen.area v.theme
    else Distribution.view screen screen.area v.title v.histogram v.theme
  drawn.picture

/-- How the rounds went: what was asked, whether the cursor is hidden since, how
many rounds are left, and how they ended. -/
structure Rounds where
  calls : List TerminalCall
  hidden : Bool
  left : Nat
  result : Except SystemFault Unit

/-- The rounds with other calls before them. -/
def Rounds.after (calls : List TerminalCall) (r : Rounds) : Rounds :=
  { r with calls := calls ++ r.calls }

/-- The size of the screen after an event. -/
def resized (size : Nat × Nat) : TerminalEvent → Nat × Nat
  | .resize width height => (width, height)
  | _ => size

/-- Draws and waits for events until the user leaves or a call fails. Drawing hides
the cursor. -/
def showRounds (v : Viewer) (s : Script) (size : Nat × Nat) (hidden : Bool) :
    List Round → Rounds
  | [] =>
    match s.lastDraw with
    | some fault => ⟨[], hidden, 0, .error fault⟩
    | none => ⟨[.draw (v.frame size.1 size.2), .poll pollTime], true, 0, .error s.ending⟩
  | round :: rest =>
    match round.draw with
    | some fault => ⟨[], hidden, rest.length + 1, .error fault⟩
    | none =>
      let drawn : List TerminalCall := [.draw (v.frame size.1 size.2), .poll pollTime]
      match round.poll with
      | .error fault => ⟨drawn, true, rest.length, .error fault⟩
      | .ok false => (v.showRounds s size true rest).after drawn
      | .ok true =>
        match round.read with
        | .error fault => ⟨drawn ++ [.read], true, rest.length, .error fault⟩
        | .ok event =>
          if event.leaves then ⟨drawn ++ [.read], true, rest.length, .ok ()⟩
          else (v.showRounds s (resized size event) true rest).after (drawn ++ [.read])

/-- Gives the terminal back, and says whether that worked. A call that fails is the
last one, except that a cursor still hidden is shown in any case. -/
def restore (s : Script) (hidden : Bool) : List TerminalCall × Except SystemFault Unit :=
  let reveal : List TerminalCall := if hidden then [.showCursor] else []
  match s.disableRawMode with
  | some fault => ([.disableRawMode] ++ reveal, .error fault)
  | none =>
    match s.leaveAlternateScreen with
    | some fault => ([.disableRawMode, .leaveAlternateScreen] ++ reveal, .error fault)
    | none =>
      match s.showCursor with
      | some fault =>
        ([.disableRawMode, .leaveAlternateScreen, .showCursor] ++ reveal, .error fault)
      | none => ([.disableRawMode, .leaveAlternateScreen, .showCursor], .ok ())

/-- The calls that set the terminal up, after raw mode, and the size of the screen. -/
def setUp (s : Script) : Except SystemFault (Nat × Nat) :=
  match s.enterAlternateScreen with
  | some fault => .error fault
  | none => s.size

/-- A whole run. Without raw mode nothing else is tried; a failed set-up is undone
as far as that goes, and its fault is the one that counts. -/
def run (v : Viewer) (s : Script) : Transcript :=
  match s.enableRawMode with
  | some fault => ⟨[.enableRawMode], s.rounds.length, .error fault⟩
  | none =>
    let opening : List TerminalCall := [.enableRawMode, .enterAlternateScreen]
    match setUp s with
    | .error fault =>
      ⟨opening ++ [.disableRawMode, .leaveAlternateScreen], s.rounds.length, .error fault⟩
    | .ok size =>
      let shown := v.showRounds s size false s.rounds
      let (closing, restored) := restore s shown.hidden
      ⟨opening ++ shown.calls ++ closing, shown.left,
        match restored with
        | .error fault => .error fault
        | .ok () => shown.result⟩

end Viewer

end Timings
