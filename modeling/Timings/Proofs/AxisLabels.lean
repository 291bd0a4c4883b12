import Mathlib.Data.Nat.PSub
import Timings.Proofs.Middle
import Timings.Proofs.PlainText
import Timings.Proofs.Positional
import Timings.Viewer

/-!
# The labels of an axis

The labels of an axis fill their row from one end to the other, whatever numbers they show and
however wide the row is. Numbers are written in plain characters
(`Report.isPlain_of_mem_number`), so it makes no difference whether labels are measured in bytes,
in characters or in columns.

* `Distribution.axis_fills_width`: the text of the axis, the differences that it is computed
  with, the number in the middle, and the row of the screen that shows it.
* `Distribution.middle_of_far_ends_overflows`: a range of finite numbers whose middle is shown as
  infinite.
-/

namespace Timings

open Text (IsPlain)

/-! ## Numbers are plain -/

/-- A number in a report is written in plain characters, also one that is not finite. -/
theorem Report.isPlain_of_mem_number (x : Float) : ∀ c ∈ (number x).toList, IsPlain c := by
  rcases isFinite_or_word x with finite | word | word | word
  · have others : ∀ c ∈ ['+', '-', '.', 'e', 'E'], IsPlain c := by decide
    cases denotes_number finite with
    | mk spelled closest =>
      intro c inside
      exact (spelled.isNumeric c inside).imp (fun _ => Text.isPlain_of_isDigit) others
  all_goals
    rw [word]
    decide

namespace Distribution

/-! ## Labels side by side -/

section Labels

variable {left mid right : List Char} {gap width : Nat}

theorem length_spaces (count : Nat) : (spaces count).length = count := List.length_replicate

/-- Where not even both ends have room, there is only the left label. -/
theorem axisLabels_of_small (small : width ≤ left.length + right.length) :
    axisLabels left mid right width = left :=
  if_pos small

/-- A gap without room for the label in the middle stays empty. -/
theorem axisLabels_of_narrow (some_room : 0 < gap) (narrow : gap ≤ mid.length + 2) :
    axisLabels left mid right (left.length + right.length + gap) =
      left ++ spaces gap ++ right := by
  rw [axisLabels, if_neg (by omega), Nat.add_sub_cancel_left]
  exact if_neg (by omega)

/-- In a gap with room for it, the label in the middle has spaces on both sides, at most one
more behind it than before it. -/
theorem axisLabels_of_wide (left right : List Char) (wide : mid.length + 2 < gap) :
    ∃ before behind, 1 ≤ before ∧ before ≤ behind ∧ behind ≤ before + 1 ∧
      before + mid.length + behind = gap ∧
      axisLabels left mid right (left.length + right.length + gap) =
        left ++ spaces before ++ mid ++ spaces behind ++ right := by
  refine ⟨(gap - mid.length) / 2, gap - mid.length - (gap - mid.length) / 2,
    by omega, by omega, by omega, by omega, ?_⟩
  rw [axisLabels, if_neg (by omega), Nat.add_sub_cancel_left]
  exact if_pos wide

/-- Labels at both ends fill the row. -/
theorem length_axisLabels (some_room : 0 < gap) :
    (axisLabels left mid right (left.length + right.length + gap)).length =
      left.length + right.length + gap := by
  by_cases wide : mid.length + 2 < gap
  · obtain ⟨before, behind, -, -, -, whole, labels⟩ := axisLabels_of_wide left right wide
    simp only [labels, List.length_append, length_spaces]
    omega
  · rw [axisLabels_of_narrow some_room (Nat.le_of_not_lt wide)]
    simp only [List.length_append, length_spaces]
    omega

theorem prefix_axisLabels (left mid right : List Char) (width : Nat) :
    left <+: axisLabels left mid right width := by
  unfold axisLabels
  dsimp only
  split
  · exact List.prefix_rfl
  · split <;> simp only [List.append_assoc, List.prefix_append]

theorem suffix_axisLabels (some_room : 0 < gap) :
    right <:+ axisLabels left mid right (left.length + right.length + gap) := by
  unfold axisLabels
  rw [if_neg (by omega)]
  dsimp only
  split <;> exact List.suffix_append _ _

theorem isPlain_of_mem_spaces {count : Nat} : ∀ c ∈ spaces count, IsPlain c := by
  intro c inside
  rw [List.eq_of_mem_replicate inside]
  decide

/-- Between plain labels there are only plain characters. -/
theorem isPlain_of_mem_axisLabels (plain : ∀ c ∈ left, IsPlain c) (plain' : ∀ c ∈ mid, IsPlain c)
    (plain'' : ∀ c ∈ right, IsPlain c) (width : Nat) :
    ∀ c ∈ axisLabels left mid right width, IsPlain c := by
  unfold axisLabels
  dsimp only
  split
  · exact plain
  · split <;> simp only [List.forall_mem_append]
    · exact ⟨⟨⟨⟨plain, isPlain_of_mem_spaces⟩, plain'⟩, isPlain_of_mem_spaces⟩, plain''⟩
    · exact ⟨⟨plain, isPlain_of_mem_spaces⟩, plain''⟩

end Labels

/-! ## Labels measured in bytes -/

/-- A text of so many spaces. -/
def padding (count : Nat) : String := String.ofList (spaces count)

/-- The labels of an axis, measured in bytes. There is no text if one of the differences would
be below zero. -/
def axisLabels? (left mid right : String) (width : Nat) : Option String :=
  let used := left.utf8ByteSize + right.utf8ByteSize
  if width ≤ used then some left
  else do
    let gap ← width.psub used
    if mid.utf8ByteSize + 2 < gap then
      let free ← gap.psub mid.utf8ByteSize
      let behind ← free.psub (free / 2)
      some (left ++ padding (free / 2) ++ mid ++ padding behind ++ right)
    else some (left ++ padding gap ++ right)

/-- Every difference has a value, and labels of one byte for each character are put together
as by their characters. -/
theorem axisLabels?_eq {left mid right : String} (left_size : left.utf8ByteSize = left.length)
    (mid_size : mid.utf8ByteSize = mid.length) (right_size : right.utf8ByteSize = right.length)
    (width : Nat) :
    axisLabels? left mid right width =
      some (String.ofList (axisLabels left.toList mid.toList right.toList width)) := by
  rw [axisLabels?, axisLabels, left_size, mid_size, right_size, ← String.length_toList,
    ← String.length_toList, ← String.length_toList]
  dsimp only
  by_cases small : width ≤ left.toList.length + right.toList.length
  · rw [if_pos small, if_pos small, String.ofList_toList]
  rw [if_neg small, if_neg small, Nat.psub_eq_sub (Nat.le_of_not_ge small), Option.bind_eq_bind,
    Option.bind_some]
  generalize width - (left.toList.length + right.toList.length) = gap
  by_cases wide : mid.toList.length + 2 < gap
  · have before_le : (gap - mid.toList.length) / 2 ≤ gap - mid.toList.length :=
      Nat.div_le_self _ _
    rw [if_pos wide, if_pos wide, Nat.psub_eq_sub (by omega), Option.bind_some,
      Nat.psub_eq_sub before_le, Option.bind_some]
    simp only [padding, String.ofList_append, String.ofList_toList]
  · rw [if_neg wide, if_neg wide]
    simp only [padding, String.ofList_append, String.ofList_toList]

/-! ## The row of the screen -/

section View

variable {s : Screen}

theorem isRectangle_text (whole : s.IsRectangle) (a : Area) (lines : List (List Span)) :
    (text s a lines).IsRectangle :=
  whole.put _ _

theorem isRectangle_plot (whole : s.IsRectangle) (a : Area) (h : Histogram Float)
    (theme : Theme) : (plot s a h theme).IsRectangle :=
  (whole.put _ _).put _ _

/-- A line of text on a row of the screen. -/
theorem getElem?_text (whole : s.IsRectangle) (line : List Span) {i : Nat}
    (inside : i < s.height) :
    (text s (s.area.rows i 1) [line]).picture[i]? = some (Row.ofLine s.width line) := by
  have top : s.area.line + i = i := Nat.zero_add i
  have seen : (s.area.rows i 1).visible s.width s.height = ⟨0, i, s.width, 1⟩ := by
    rw [Area.visible, Area.rows, Area.mk.injEq]
    refine ⟨rfl, top, Nat.min_self s.width, Nat.min_eq_left ?_⟩
    change 1 ≤ s.height - (s.area.line + i)
    omega
  have drawn : (Picture.ofLines s.width 1 [line])[0]? = some (Row.ofLine s.width line) := rfl
  rw [text, Screen.fill, seen]
  exact whole.getElem?_put (a := ⟨0, i, s.width, 1⟩) rfl drawn (Row.length_ofLine _ _) inside

theorem getElem?_text_above {a : Area} {i first : Nat} (above : i < a.line + first)
    (lines : List (List Span)) (count : Nat) :
    (text s (a.rows first count) lines).picture[i]? = s.picture[i]? :=
  Screen.getElem?_put_above above _

/-- The row of the axis in a view that has one. -/
theorem getElem?_view (whole : s.IsRectangle) (title : String) (h : Histogram Float)
    (theme : Theme) (high : 7 ≤ s.height) :
    (view s s.area title h theme).picture[
        (Heights.share s.height).header + (Heights.share s.height).plot]? =
      some (Row.ofLine s.width [⟨axisText h s.width, theme.axis⟩]) := by
  have sum := Heights.share_sum s.height
  have axis : (Heights.share s.height).axis = 1 := if_pos high
  have area : s.area.height = s.height := rfl
  unfold view
  rw [area]
  generalize Heights.share s.height = share at sum axis
  dsimp only at sum ⊢
  rw [axis] at sum ⊢
  -- the hint is drawn last, and below the axis
  rw [getElem?_text_above]
  · have inside : share.header + share.plot < s.height := by omega
    exact getElem?_text (isRectangle_plot (isRectangle_text whole _ _) _ h theme) _ inside
  · rw [show s.area.line = 0 from rfl]
    omega

/-- The row of the axis on a screen. -/
theorem getElem?_frame {h : Histogram Float} (samples : h.total ≠ 0) (title : String)
    (theme : Theme) (width : Nat) {height : Nat} (high : 7 ≤ height) :
    (Viewer.frame ⟨title, h, theme⟩ width height)[
        (Heights.share height).header + (Heights.share height).plot]? =
      some (Row.ofLine width [⟨axisText h width, theme.axis⟩]) := by
  rw [Viewer.frame]
  dsimp only
  rw [if_neg samples]
  exact getElem?_view (Screen.isRectangle_blank width height) title h theme high

end View

/-! ## The axis -/

theorem toList_axisText (h : Histogram Float) (width : Nat) :
    (axisText h width).toList =
      axisLabels (Report.number h.start).toList (Report.number ((h.start + h.stop) / 2)).toList
        (Report.number h.stop).toList width :=
  String.toList_ofList

theorem isPlain_of_mem_axisText (h : Histogram Float) (width : Nat) :
    ∀ c ∈ (axisText h width).toList, IsPlain c := by
  rw [toList_axisText]
  exact isPlain_of_mem_axisLabels (Report.isPlain_of_mem_number _)
    (Report.isPlain_of_mem_number _) (Report.isPlain_of_mem_number _) width

/-- The middle of a range whose ends have no finite sum is shown as infinite. -/
theorem number_half_sum_of_overflow {x y : Float} (finite : x.isFinite = true)
    (finite' : y.isFinite = true) (overflow : (x + y).isFinite = false) :
    Report.number ((x + y) / 2) = "inf" ∨ Report.number ((x + y) / 2) = "-inf" := by
  obtain ⟨negative, half⟩ := Double.half_sum_of_overflow finite finite' overflow
  rw [half]
  cases negative
  · exact .inl (by decide +kernel)
  · exact .inr (by decide +kernel)

/-- **The labels of an axis.** They show where the histogram starts and stops and, in the middle,
half the sum of both, as a report writes these numbers. If this sum is finite, its half is the
double closest to the middle of the range; if it overflows, the word for infinity is shown. The
differences that the gaps are computed with are never below zero, and no text has more bytes than
characters. If there is more room than both ends take, the labels fill the width exactly, from the
start at its left end to the stop at its right end; if the gap between them has room for the
middle and a space on each side, it stands there, with at most one more space behind it than before
it, and otherwise there are only spaces. If there is no such room, only the start is there. On a
screen of this width the row of the axis shows the labels that fill it, one character in each
cell. -/
theorem axis_fills_width (h : Histogram Float) (width : Nat) :
    let left := Report.number h.start
    let mid := Report.number ((h.start + h.stop) / 2)
    let right := Report.number h.stop
    let labels := axisText h width
    (h.start.isFinite = true → h.stop.isFinite = true →
      ((h.start + h.stop).isFinite = true →
        Double.IsMiddle h.start h.stop ((h.start + h.stop) / 2)) ∧
      ((h.start + h.stop).isFinite = false → mid = "inf" ∨ mid = "-inf")) ∧
    axisLabels? left mid right width = some labels ∧
    (∀ text ∈ [left, mid, right, labels], text.utf8ByteSize = text.length) ∧
    (width ≤ left.length + right.length → labels = left) ∧
    ∀ gap, 0 < gap → width = left.length + right.length + gap →
      labels.length = width ∧ left.toList <+: labels.toList ∧ right.toList <:+ labels.toList ∧
      (mid.length + 2 < gap →
        ∃ before behind, 1 ≤ before ∧ before ≤ behind ∧ behind ≤ before + 1 ∧
          labels.toList =
            left.toList ++ spaces before ++ mid.toList ++ spaces behind ++ right.toList) ∧
      (gap ≤ mid.length + 2 → labels.toList = left.toList ++ spaces gap ++ right.toList) ∧
      ∀ (title : String) (theme : Theme) (height : Nat), 7 ≤ height → h.total ≠ 0 →
        let share := Heights.share height
        (Viewer.frame ⟨title, h, theme⟩ width height)[share.header + share.plot]? =
          some (Row.cells theme.axis labels) := by
  intro left mid right labels
  have plain : ∀ text ∈ [left, mid, right, labels], ∀ c ∈ text.toList, IsPlain c := by
    simp only [List.forall_mem_cons]
    exact ⟨Report.isPlain_of_mem_number _, Report.isPlain_of_mem_number _,
      Report.isPlain_of_mem_number _, isPlain_of_mem_axisText h width, List.forall_mem_nil _⟩
  have sizes : ∀ text ∈ [left, mid, right, labels], text.utf8ByteSize = text.length :=
    fun text known => Text.utf8ByteSize_of_plain (plain text known)
  have shown : labels.toList = axisLabels left.toList mid.toList right.toList width :=
    toList_axisText h width
  have fits : axisLabels? left mid right width = some labels :=
    axisLabels?_eq (sizes _ (by simp)) (sizes _ (by simp)) (sizes _ (by simp)) width
  refine ⟨fun finite finite' => ⟨Double.isMiddle_half_sum finite finite',
    number_half_sum_of_overflow finite finite'⟩, fits, sizes, ?_, ?_⟩
  · intro small
    rw [← String.length_toList, ← String.length_toList] at small
    rw [← String.toList_inj, shown, axisLabels_of_small small]
  · intro gap some_room whole
    have ends : width = left.toList.length + right.toList.length + gap := by
      rw [String.length_toList, String.length_toList, whole]
    have filled : labels.length = width := by
      rw [← String.length_toList, shown, ends, length_axisLabels some_room]
    refine ⟨filled, shown ▸ prefix_axisLabels .., ?_, ?_, ?_, ?_⟩
    · rw [shown, ends]
      exact suffix_axisLabels some_room
    · intro wide
      rw [← String.length_toList] at wide
      obtain ⟨before, behind, first, second, third, -, labelled⟩ :=
        axisLabels_of_wide left.toList right.toList wide
      rw [← ends] at labelled
      exact ⟨before, behind, first, second, third, shown.trans labelled⟩
    · intro narrow
      rw [← String.length_toList] at narrow
      rw [shown, ends, axisLabels_of_narrow some_room narrow]
    · intro title theme height high samples
      have row := Row.ofLine_of_plain_whole theme.axis (plain labels (by simp))
      rw [filled] at row
      exact (getElem?_frame samples title theme width high).trans (congrArg some row)

/-- From two to four the number in the middle is three. It needs a gap of six columns; five are
left empty. -/
theorem labels_from_two_to_four :
    let h : Histogram Float := .ofSamples [2.0, 4.0] 10
    let left := (Report.number h.start).toList
    let mid := (Report.number ((h.start + h.stop) / 2)).toList
    let right := (Report.number h.stop).toList
    left = ['2', '.', '0'] ∧ mid = ['3', '.', '0'] ∧ right = ['4', '.', '0'] ∧
    Double.IsMiddle h.start h.stop ((h.start + h.stop) / 2) ∧
    (∃ before behind, 1 ≤ before ∧ before ≤ behind ∧ behind ≤ before + 1 ∧
      (axisText h 12).toList = left ++ spaces before ++ mid ++ spaces behind ++ right) ∧
    (axisText h 11).toList = left ++ spaces 5 ++ right ∧
    (∀ title theme, (Viewer.frame ⟨title, h, theme⟩ 11 7)[6]? =
      some (Row.cells theme.axis (axisText h 11))) ∧
    axisText h 6 = Report.number h.start := by
  intro h left mid right
  have wide := (axis_fills_width h 12).2.2.2.2 6 (by decide) (by decide +kernel)
  have narrow := (axis_fills_width h 11).2.2.2.2 5 (by decide) (by decide +kernel)
  have middle := ((axis_fills_width h 12).1 (by decide +kernel) (by decide +kernel)).1
  refine ⟨by decide +kernel, by decide +kernel, by decide +kernel, middle (by decide +kernel),
    wide.2.2.2.1 (by decide +kernel), narrow.2.2.2.2.1 (by decide +kernel), ?_,
    (axis_fills_width h 6).2.2.2.1 (by decide +kernel)⟩
  intro title theme
  exact narrow.2.2.2.2.2 title theme 7 (by decide) (by decide +kernel)

/-- A range of two finite numbers whose sum overflows: there would be room for its middle, which is
a double, but the word for infinity stands there. -/
theorem middle_of_far_ends_overflows :
    let h : Histogram Float := .ofSamples [1e308, 1.7e308] 1
    let left := (Report.number h.start).toList
    let mid := (Report.number 1.35e308).toList
    let right := (Report.number h.stop).toList
    h.start.isFinite = true ∧ h.stop.isFinite = true ∧
    Double.IsMiddle h.start h.stop 1.35e308 ∧
    1000 = left.length + right.length + 378 ∧ mid.length + 2 < 378 ∧
    (axisText h 1000).toList = left ++ spaces 187 ++ ['i', 'n', 'f'] ++ spaces 188 ++ right ∧
    ∀ before behind, (axisText h 1000).toList ≠
      left ++ spaces before ++ mid ++ spaces behind ++ right := by
  intro h left mid right
  have start : left = '1' :: List.replicate 308 '0' ++ ['.', '0'] :=
    (Report.toList_number _).trans (by decide +kernel)
  have middle : mid = '1' :: '3' :: '5' :: List.replicate 306 '0' ++ ['.', '0'] :=
    (Report.toList_number _).trans (by decide +kernel)
  have stop : right = '1' :: '7' :: List.replicate 307 '0' ++ ['.', '0'] :=
    (Report.toList_number _).trans (by decide +kernel)
  have half : (Report.number ((h.start + h.stop) / 2)).toList = ['i', 'n', 'f'] :=
    (Report.toList_number _).trans (by decide +kernel)
  have shown : (axisText h 1000).toList =
      left ++ spaces 187 ++ ['i', 'n', 'f'] ++ spaces 188 ++ right := by
    rw [toList_axisText, half]
    change axisLabels left _ right 1000 = _
    rw [start, stop]
    decide +kernel
  refine ⟨by decide +kernel, by decide +kernel, ?_, ?_, ?_, shown, ?_⟩
  · have packed : (1.35e308 : Float) = Pattern.toFloat false (Pattern.ofFloat 1.35e308) := by
      decide +kernel
    rw [packed]
    apply Double.isMiddle_of_isClosest rfl
    · decide +kernel
    · rw [Pattern.isClosest_iff Nat.two_pos]
      decide +kernel
    · decide +kernel
  · rw [start, stop]
    decide +kernel
  · rw [middle]
    decide +kernel
  · intro before behind same
    -- no label of a finite number has a letter
    have word : 'i' ∈ (axisText h 1000).toList := by
      rw [shown]
      simp
    have letter : ∀ count, 'i' ∉ spaces count := fun count inside =>
      absurd (List.eq_of_mem_replicate inside) (by decide)
    have digits : 'i' ∉ left ∧ 'i' ∉ mid ∧ 'i' ∉ right := by
      rw [start, middle, stop]
      decide +kernel
    rw [same] at word
    simp only [List.mem_append, letter, digits.1, digits.2.1, digits.2.2, or_self] at word

end Distribution

end Timings
