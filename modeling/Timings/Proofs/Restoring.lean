import Timings.Proofs.Rounds

/-!
# Giving the terminal back

Behind the rounds of a viewer raw mode ends, the alternate screen is left and the cursor
is shown. The first of these calls that fails keeps the next ones from being tried
(`Script.GivesBack`), and its fault takes the place of what the rounds came to
(`Script.outcome`); only a cursor that drawing has hidden is shown in any case
(`hidden_showRounds_iff`).

* `terminal_given_back_until_fault`: what a run whose set-up worked gives back, and its
  result.
* `alternate_screen_stays`: a run that leaves its user in the alternate screen, and reports
  the fault of raw mode in place of that which ended the rounds.
-/

namespace Timings

/-- Some picture is drawn. -/
def TerminalCall.Drawn (calls : List TerminalCall) : Prop := ∃ picture, .draw picture ∈ calls

open TerminalCall (Drawn)

namespace Script

variable {s : Script}

/-- The first fault of the calls that give the terminal back. -/
def restoringFault (s : Script) : Option SystemFault :=
  s.disableRawMode.or (s.leaveAlternateScreen.or s.showCursor)

/-- The result of a run whose rounds came to one. -/
def outcome (s : Script) (rounds : Except SystemFault Unit) : Except SystemFault Unit :=
  match s.restoringFault with
  | some fault => .error fault
  | none => rounds

/-- Which calls are tried to give the terminal back, with the cursor hidden or not. They
come in one order, and a cursor that could not be shown is tried once more. -/
structure GivesBack (s : Script) (hidden : Prop) (closing : List TerminalCall) : Prop where
  order : closing.Sublist [.disableRawMode, .leaveAlternateScreen, .showCursor, .showCursor]
  rawMode : .disableRawMode ∈ closing
  screen : .leaveAlternateScreen ∈ closing ↔ s.disableRawMode = none
  cursor : .showCursor ∈ closing ↔
    hidden ∨ s.disableRawMode = none ∧ s.leaveAlternateScreen = none

/-- All three are tried unless raw mode does not end, or the alternate screen is not left
and no cursor was hidden. -/
theorem GivesBack.all_iff {hidden : Prop} {closing : List TerminalCall}
    (gives : s.GivesBack hidden closing) :
    (∀ call ∈ [.disableRawMode, .leaveAlternateScreen, .showCursor], call ∈ closing) ↔
      s.disableRawMode = none ∧ (hidden ∨ s.leaveAlternateScreen = none) := by
  have raw := gives.rawMode
  simp only [List.forall_mem_cons, List.not_mem_nil, false_implies, implies_true, and_true,
    gives.screen, gives.cursor, raw, true_and]
  grind

end Script

namespace Viewer

variable {v : Viewer} {s : Script} {size : Nat × Nat} {hidden : Bool} {r : Round}
  {rounds : List Round} {result : Except SystemFault Unit}

/-! ## The cursor -/

theorem drawn_asks_iff (screen : Picture) : Drawn (r.asks screen) ↔ r.draw = none := by
  unfold Drawn Round.asks
  split <;> simp_all

/-- The cursor is hidden as soon as a picture is drawn. The induction is on the script; a
round that goes on draws. -/
theorem hidden_showRounds_iff (v : Viewer) (s : Script) (size : Nat × Nat) (hidden : Bool)
    (rounds : List Round) :
    (v.showRounds s size hidden rounds).hidden = true ↔
      hidden = true ∨ Drawn (v.showRounds s size hidden rounds).calls := by
  induction rounds generalizing size hidden with
  | nil =>
    cases draw : s.lastDraw with
    | some fault => simp [showRounds, draw, Drawn]
    | none => simp [showRounds, draw, Drawn]
  | cons r rounds ih =>
    rcases r.goesOn_or_stops with goes | ⟨result, stops⟩
    · rw [showRounds_of_goesOn goes]
      have drawn : r.draw = none := by cases goes <;> assumption
      obtain ⟨picture, asked⟩ := (drawn_asks_iff (v.frame size.1 size.2)).2 drawn
      have shown := (ih (r.sizeAfter size) true).2 (.inl rfl)
      exact iff_of_true shown (.inr ⟨picture, List.mem_append_left _ asked⟩)
    · cases stops with
      | undrawn fault draw => simp [showRounds, draw, Drawn]
      | unpolled fault draw poll => simp [showRounds, draw, poll, Drawn]
      | unread fault draw poll read => simp [showRounds, draw, poll, read, Drawn]
      | left event draw poll read quits =>
        simp [showRounds, draw, poll, read, TerminalEvent.leaves_iff.2 quits, Drawn]

/-! ## The calls -/

theorem restore_givesBack (s : Script) (hidden : Bool) :
    s.GivesBack (hidden = true) (restore s hidden).1 := by
  cases raw : s.disableRawMode with
  | some fault => cases hidden <;> constructor <;> simp [restore, raw]
  | none =>
    cases screen : s.leaveAlternateScreen with
    | some fault => cases hidden <;> constructor <;> simp [restore, raw, screen]
    | none =>
      cases cursor : s.showCursor with
      | some fault => cases hidden <;> constructor <;> simp [restore, raw, screen, cursor]
      | none => constructor <;> simp [restore, raw, screen, cursor]

theorem restore_fault (s : Script) (hidden : Bool) :
    (restore s hidden).2 = s.outcome (.ok ()) := by
  unfold restore Script.outcome Script.restoringFault
  cases s.disableRawMode with
  | some fault => rfl
  | none =>
    cases s.leaveAlternateScreen with
    | some fault => rfl
    | none => cases s.showCursor <;> rfl

/-- A run whose set-up works: its rounds, then the calls that give the terminal back. -/
theorem run_of_setUp (v : Viewer) (raw : s.enableRawMode = none) (ready : setUp s = .ok size) :
    (v.run s).calls = [.enableRawMode, .enterAlternateScreen] ++
        (v.showRounds s size false s.rounds).calls ++
        (restore s (v.showRounds s size false s.rounds).hidden).1 ∧
      (v.run s).result = s.outcome (v.showRounds s size false s.rounds).result := by
  have fault := restore_fault s (v.showRounds s size false s.rounds).hidden
  simp only [run, raw, ready, fault, true_and]
  unfold Script.outcome
  cases s.restoringFault <;> rfl

/-! ## The whole run -/

/-- **The terminal is given back until a call fails.** Once the set-up has worked, a run
consists of rounds that go on and one that stops, and of the calls behind them that give
the terminal back: raw mode ends in any case, the alternate screen is left unless this
failed, and the cursor is shown if both worked or if it was hidden by drawing. All three
are tried exactly if raw mode ends and, unless a picture was drawn, the alternate screen is
left. The result is the first fault of these calls, and that of the rounds if there is
none. -/
theorem terminal_given_back_until_fault (v : Viewer) (s : Script) (size : Nat × Nat)
    (raw : s.enableRawMode = none) (ready : setUp s = .ok size) :
    ∃ quiet last rest ended closing,
      s.allRounds = quiet ++ last :: rest ∧
        (∀ r ∈ quiet, r.GoesOn) ∧
        last.Stops ended ∧
        (v.run s).calls = [.enableRawMode, .enterAlternateScreen] ++
          v.asksInTurn size (quiet ++ [last]) ++ closing ∧
        s.GivesBack (Drawn (v.asksInTurn size (quiet ++ [last]))) closing ∧
        ((∀ call ∈ [.disableRawMode, .leaveAlternateScreen, .showCursor], call ∈ closing) ↔
          s.disableRawMode = none ∧
            (Drawn (v.asksInTurn size (quiet ++ [last])) ∨ s.leaveAlternateScreen = none)) ∧
        (v.run s).result = s.outcome ended := by
  obtain ⟨quiet, last, rest, parts, allQuiet, stops, asked⟩ :=
    v.exists_last_round s size false s.rounds
  obtain ⟨calls, result⟩ := run_of_setUp v raw ready
  have hidden := v.hidden_showRounds_iff s size false s.rounds
  have gives := restore_givesBack s (v.showRounds s size false s.rounds).hidden
  rw [asked] at calls hidden
  rw [propext hidden, or_iff_right Bool.false_ne_true] at gives
  exact ⟨quiet, last, rest, _, _, parts, allQuiet, stops, calls, gives, gives.all_iff, result⟩

/-- A terminal that fails twice: the poll behind the first picture fails, and then raw mode
does not end. -/
def stranding : Script where
  size := .ok (80, 24)
  rounds := []
  ending := .notFound
  disableRawMode := some .busy

theorem stranding_given_back_until_fault :
    stranding.enableRawMode = none ∧ setUp stranding = .ok (80, 24) ∧
      ∃ quiet last rest ended closing,
        stranding.allRounds = quiet ++ last :: rest ∧
          (∀ r ∈ quiet, r.GoesOn) ∧
          last.Stops ended ∧
          (vacant.run stranding).calls = [.enableRawMode, .enterAlternateScreen] ++
            vacant.asksInTurn (80, 24) (quiet ++ [last]) ++ closing ∧
          stranding.GivesBack (Drawn (vacant.asksInTurn (80, 24) (quiet ++ [last]))) closing ∧
          ((∀ call ∈ [.disableRawMode, .leaveAlternateScreen, .showCursor], call ∈ closing) ↔
            stranding.disableRawMode = none ∧
              (Drawn (vacant.asksInTurn (80, 24) (quiet ++ [last])) ∨
                stranding.leaveAlternateScreen = none)) ∧
          (vacant.run stranding).result = stranding.outcome ended :=
  ⟨rfl, rfl, terminal_given_back_until_fault vacant stranding (80, 24) rfl rfl⟩

/-- The rounds end with a fault; the alternate screen is not left although the set-up
worked, and another fault is the result. -/
theorem alternate_screen_stays :
    stranding.enableRawMode = none ∧ setUp stranding = .ok (80, 24) ∧
      (vacant.showRounds stranding (80, 24) false stranding.rounds).result = .error .notFound ∧
      .leaveAlternateScreen ∉ (vacant.run stranding).calls ∧
      (vacant.run stranding).result = .error .busy := by
  refine ⟨rfl, rfl, rfl, ?_, rfl⟩
  have calls : (vacant.run stranding).calls =
      [.enableRawMode, .enterAlternateScreen, .draw (vacant.frame 80 24), .poll pollTime,
        .disableRawMode, .showCursor] := rfl
  rw [calls]
  simp

end Viewer

end Timings
