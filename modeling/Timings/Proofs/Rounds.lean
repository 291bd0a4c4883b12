import Timings.Viewer

/-!
# The rounds of a viewer

A run of the viewer is said here without its loop. A round either goes on or
stops (`Round.GoesOn`, `Round.Stops`), which depends on that round alone, and so
does what it asks of the terminal (`Round.asks`); only what is drawn depends on
the rounds before, through the size of the screen.

* `showRounds_of_goesOn` and `showRounds_of_stops`: one round of the loop.
* `exists_last_round`: a loop is some rounds that go on and one that stops.
* `viewer_stops_at_first`: the whole run, with the terminal given back.
-/

namespace Timings

/-- The user asks to leave: `q`, `Q` or Escape is pressed, whatever else is held, or
`c` while Control is held. -/
inductive TerminalEvent.Quits : TerminalEvent → Prop
  | lower (control : Bool) : Quits (.key (.char 'q') .press control)
  | upper (control : Bool) : Quits (.key (.char 'Q') .press control)
  | escape (control : Bool) : Quits (.key .escape .press control)
  | interrupt : Quits (.key (.char 'c') .press true)

theorem TerminalEvent.leaves_iff {event : TerminalEvent} :
    event.leaves = true ↔ event.Quits := by
  constructor
  · intro leaves
    unfold TerminalEvent.leaves at leaves
    split at leaves
    · exact .lower _
    · exact .upper _
    · exact .escape _
    · subst leaves
      exact .interrupt
    · cases leaves
  · intro quits
    cases quits <;> rfl

namespace Round

variable {r : Round}

/-! ## One round -/

/-- The round does not end the loop: nothing happens before the poll gives up, or
what happens is not the user leaving. -/
inductive GoesOn (r : Round) : Prop
  | idle (drawn : r.draw = none) (quiet : r.poll = .ok false)
  | passed (event : TerminalEvent) (drawn : r.draw = none) (polled : r.poll = .ok true)
    (read : r.read = .ok event) (stays : ¬event.Quits)

/-- The round ends the loop with a result: the first of its calls that fails, or the
user leaving. -/
inductive Stops (r : Round) : Except SystemFault Unit → Prop
  | undrawn (fault : SystemFault) (draw : r.draw = some fault) : Stops r (.error fault)
  | unpolled (fault : SystemFault) (drawn : r.draw = none) (poll : r.poll = .error fault) :
    Stops r (.error fault)
  | unread (fault : SystemFault) (drawn : r.draw = none) (polled : r.poll = .ok true)
    (read : r.read = .error fault) : Stops r (.error fault)
  | left (event : TerminalEvent) (drawn : r.draw = none) (polled : r.poll = .ok true)
    (read : r.read = .ok event) (quits : event.Quits) : Stops r (.ok ())

theorem goesOn_or_stops (r : Round) : r.GoesOn ∨ ∃ result, r.Stops result := by
  cases draw : r.draw with
  | some fault => exact .inr ⟨_, .undrawn fault draw⟩
  | none =>
    cases poll : r.poll with
    | error fault => exact .inr ⟨_, .unpolled fault draw poll⟩
    | ok ready =>
      cases ready with
      | false => exact .inl (.idle draw poll)
      | true =>
        cases read : r.read with
        | error fault => exact .inr ⟨_, .unread fault draw poll read⟩
        | ok event =>
          by_cases quits : event.Quits
          · exact .inr ⟨_, .left event draw poll read quits⟩
          · exact .inl (.passed event draw poll read quits)

/-- A round that goes on does not stop, so the first round that stops is the only one
with quiet rounds before it. -/
theorem GoesOn.not_stops (goes : r.GoesOn) (result : Except SystemFault Unit) :
    ¬r.Stops result := by
  intro stops
  cases goes with
  | idle drawn quiet => cases stops <;> simp_all
  | passed event drawn polled read stays => cases stops <;> simp_all

/-- What the round asks of the terminal: a picture is drawn, one poll follows it, and
one read follows a poll that reports an event. A picture that cannot be drawn is the
last thing tried. -/
def asks (r : Round) (screen : Picture) : List TerminalCall :=
  match r.draw, r.poll with
  | some _, _ => []
  | none, .ok true => [.draw screen, .poll pollTime, .read]
  | none, _ => [.draw screen, .poll pollTime]

/-- The size of the screen behind the round. -/
def sizeAfter (r : Round) (size : Nat × Nat) : Nat × Nat :=
  match r.poll, r.read with
  | .ok true, .ok event => Viewer.resized size event
  | _, _ => size

end Round

namespace Script

variable {s : Script}

/-- The round behind those of the script: its picture is drawn or not, and its poll
fails. -/
def lastRound (s : Script) : Round where
  draw := s.lastDraw
  poll := .error s.ending
  read := .error s.ending

/-- The rounds a run can come to. -/
def allRounds (s : Script) : List Round := s.rounds ++ [s.lastRound]

/-- The result of the round behind those of the script. -/
def lastFault (s : Script) : SystemFault := s.lastDraw.getD s.ending

theorem lastRound_stops (s : Script) : s.lastRound.Stops (.error s.lastFault) := by
  cases draw : s.lastDraw with
  | some fault =>
    rw [lastFault, draw]
    exact .undrawn fault draw
  | none =>
    rw [lastFault, draw]
    exact .unpolled s.ending draw rfl

/-- Where no round of the script stops, it is the round behind them that does. -/
theorem eq_rounds_of_quiet {quiet rest : List Round} {last : Round}
    {result : Except SystemFault Unit} (parts : s.allRounds = quiet ++ last :: rest)
    (stops : last.Stops result) (calm : ∀ r ∈ s.rounds, r.GoesOn) : quiet = s.rounds := by
  cases List.eq_nil_or_concat rest with
  | inl none =>
    subst none
    exact (List.append_inj' parts rfl).1.symm
  | inr ends =>
    obtain ⟨between, final, rfl⟩ := ends
    have parts : s.rounds ++ [s.lastRound] = (quiet ++ last :: between) ++ [final] := by
      simpa [allRounds] using parts
    have rounds : s.rounds = quiet ++ last :: between := (List.append_inj' parts rfl).1
    exact absurd stops ((calm last (by simp [rounds])).not_stops result)

end Script

namespace Viewer

variable {v : Viewer} {s : Script} {size : Nat × Nat} {hidden : Bool} {r : Round}
  {rounds : List Round} {result : Except SystemFault Unit}

/-- What some rounds in a row ask, on a screen that has this size at first. -/
def asksInTurn (v : Viewer) (size : Nat × Nat) : List Round → List TerminalCall
  | [] => []
  | r :: rounds => r.asks (v.frame size.1 size.2) ++ v.asksInTurn (r.sizeAfter size) rounds

/-! ## One round of the loop -/

theorem showRounds_of_goesOn (goes : r.GoesOn) :
    v.showRounds s size hidden (r :: rounds) =
      (v.showRounds s (r.sizeAfter size) true rounds).after
        (r.asks (v.frame size.1 size.2)) := by
  cases goes with
  | idle drawn quiet => simp only [showRounds, drawn, quiet, Round.asks, Round.sizeAfter]
  | passed event drawn polled read stays =>
    have stays : event.leaves = false := by
      rw [← Bool.not_eq_true, TerminalEvent.leaves_iff]
      exact stays
    simp only [showRounds, drawn, polled, read, stays, Round.asks, Round.sizeAfter]
    rfl

theorem showRounds_of_stops (stops : r.Stops result) :
    (v.showRounds s size hidden (r :: rounds)).calls = r.asks (v.frame size.1 size.2) ∧
      (v.showRounds s size hidden (r :: rounds)).result = result := by
  cases stops with
  | undrawn fault draw => simp only [showRounds, draw, Round.asks, and_self]
  | unpolled fault drawn poll => simp only [showRounds, drawn, poll, Round.asks, and_self]
  | unread fault drawn polled read =>
    simp only [showRounds, drawn, polled, read, Round.asks, List.cons_append,
      List.nil_append, and_self]
  | left event drawn polled read quits =>
    have leaves : event.leaves = true := TerminalEvent.leaves_iff.mpr quits
    simp only [showRounds, drawn, polled, read, leaves, Round.asks, if_true,
      List.cons_append, List.nil_append, and_self]

theorem showRounds_nil (v : Viewer) (s : Script) (size : Nat × Nat) (hidden : Bool) :
    (v.showRounds s size hidden []).calls = s.lastRound.asks (v.frame size.1 size.2) ∧
      (v.showRounds s size hidden []).result = .error s.lastFault := by
  cases draw : s.lastDraw with
  | some fault => simp [showRounds, Round.asks, Script.lastRound, Script.lastFault, draw]
  | none => simp [showRounds, Round.asks, Script.lastRound, Script.lastFault, draw]

/-! ## The loop -/

/-- The loop is some rounds that go on, then one that stops; it asks what these ask,
nothing of the rounds behind them, and its result is that of the last. The induction
is on the script; the size of the screen is the only thing one round hands to the
next that shows. -/
theorem exists_last_round (v : Viewer) (s : Script) (size : Nat × Nat) (hidden : Bool)
    (rounds : List Round) :
    ∃ quiet last rest,
      rounds ++ [s.lastRound] = quiet ++ last :: rest ∧
        (∀ r ∈ quiet, r.GoesOn) ∧
        last.Stops (v.showRounds s size hidden rounds).result ∧
        (v.showRounds s size hidden rounds).calls =
          v.asksInTurn size (quiet ++ [last]) := by
  induction rounds generalizing size hidden with
  | nil =>
    obtain ⟨calls, result⟩ := v.showRounds_nil s size hidden
    refine ⟨[], s.lastRound, [], rfl, by simp, ?_, ?_⟩
    · rw [result]
      exact s.lastRound_stops
    · rw [calls]
      simp [asksInTurn]
  | cons r rounds ih =>
    obtain goes | ⟨result, stops⟩ := r.goesOn_or_stops
    · obtain ⟨quiet, last, rest, parts, allQuiet, stops, calls⟩ := ih (r.sizeAfter size) true
      rw [showRounds_of_goesOn goes]
      refine ⟨r :: quiet, last, rest, ?_, ?_, stops, ?_⟩
      · rw [List.cons_append, parts, List.cons_append]
      · exact List.forall_mem_cons.mpr ⟨goes, allQuiet⟩
      · simp only [Rounds.after, calls, List.cons_append, asksInTurn]
    · obtain ⟨calls, resulting⟩ : (v.showRounds s size hidden (r :: rounds)).calls = _ ∧
          (v.showRounds s size hidden (r :: rounds)).result = _ := showRounds_of_stops stops
      refine ⟨[], r, _, rfl, by simp, ?_, ?_⟩
      · rw [resulting]
        exact stops
      · rw [calls]
        simp [asksInTurn]

/-! ## The whole run -/

theorem restore_of_none (cooked : s.disableRawMode = none)
    (mainScreen : s.leaveAlternateScreen = none) (cursor : s.showCursor = none) :
    restore s hidden =
      ([.disableRawMode, .leaveAlternateScreen, .showCursor], .ok ()) := by
  simp only [restore, cooked, mainScreen, cursor]

/-- **The viewer stops at the first round that ends it.** Where raw mode and the
calls that give the terminal back work: after a failed set-up nothing is drawn or
asked, and its fault is the result; otherwise the run consists of rounds that go on
and one that stops, whose result it has. Rounds that go on never end it, however many
there are. What its rounds ask is asked, in their order, and nothing else; behind it
raw mode ends, then the alternate screen is left, then the cursor is shown. -/
theorem viewer_stops_at_first (v : Viewer) (s : Script) (raw : s.enableRawMode = none)
    (cooked : s.disableRawMode = none) (mainScreen : s.leaveAlternateScreen = none)
    (cursor : s.showCursor = none) :
    (∀ fault, setUp s = .error fault →
      (v.run s).calls = [.enableRawMode, .enterAlternateScreen, .disableRawMode,
          .leaveAlternateScreen] ∧
        (v.run s).result = .error fault) ∧
      ∀ size, setUp s = .ok size →
        ∃ quiet last rest,
          s.allRounds = quiet ++ last :: rest ∧
            (∀ r ∈ quiet, r.GoesOn) ∧
            ((∀ r ∈ s.rounds, r.GoesOn) → quiet = s.rounds) ∧
            last.Stops (v.run s).result ∧
            (v.run s).calls =
              [.enableRawMode, .enterAlternateScreen] ++
                v.asksInTurn size (quiet ++ [last]) ++
                [.disableRawMode, .leaveAlternateScreen, .showCursor] := by
  refine ⟨fun fault failed => ?_, fun size ready => ?_⟩
  · simp [run, raw, failed]
  · obtain ⟨quiet, last, rest, parts, allQuiet, stops, calls⟩ :=
      v.exists_last_round s size false s.rounds
    have gone : v.run s =
        ⟨[.enableRawMode, .enterAlternateScreen] ++ v.asksInTurn size (quiet ++ [last]) ++
          [.disableRawMode, .leaveAlternateScreen, .showCursor],
          (v.showRounds s size false s.rounds).left,
          (v.showRounds s size false s.rounds).result⟩ := by
      simp only [run, raw, ready, restore_of_none cooked mainScreen cursor, calls]
    rw [gone]
    exact ⟨quiet, last, rest, parts, allQuiet, Script.eq_rounds_of_quiet parts stops,
      stops, rfl⟩

/-- The terminal in a visit that Control and `c` end: nothing happens, the screen
grows, a `q` is let go, a plain `c` is pressed. Drawing would fail behind it. -/
def visit : Script where
  size := .ok (80, 24)
  rounds :=
    [{ poll := .ok false, read := .ok .other },
      { poll := .ok true, read := .ok (.resize 120 40) },
      { poll := .ok true, read := .ok (.key (.char 'q') .release false) },
      { poll := .ok true, read := .ok (.key (.char 'c') .press false) },
      { poll := .ok true, read := .ok (.key (.char 'c') .press true) },
      { draw := some .busy, poll := .ok false, read := .ok .other }]
  ending := .busy

/-- A viewer with nothing to show. -/
def vacant : Viewer where
  title := "bench.log"
  histogram := Histogram.ofSamples [] 10
  theme := .classic

theorem visit_stops_at_interrupt :
    visit.enableRawMode = none ∧ visit.disableRawMode = none ∧
      visit.leaveAlternateScreen = none ∧ visit.showCursor = none ∧
      setUp visit = .ok (80, 24) ∧
      ∃ quiet last rest,
        visit.allRounds = quiet ++ last :: rest ∧
          (∀ r ∈ quiet, r.GoesOn) ∧
          ((∀ r ∈ visit.rounds, r.GoesOn) → quiet = visit.rounds) ∧
          last.Stops (vacant.run visit).result ∧
          (vacant.run visit).calls =
            [.enableRawMode, .enterAlternateScreen] ++
              vacant.asksInTurn (80, 24) (quiet ++ [last]) ++
              [.disableRawMode, .leaveAlternateScreen, .showCursor] :=
  ⟨rfl, rfl, rfl, rfl, rfl,
    (viewer_stops_at_first vacant visit rfl rfl rfl rfl).2 (80, 24) rfl⟩

end Viewer

end Timings
