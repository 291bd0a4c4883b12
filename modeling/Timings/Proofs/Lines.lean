import Timings.Line.Source

/-!
Lines, cut from bytes that are all there.

`Bytes.lines` is the reference that reading is held against: it cuts behind each
line feed, whatever the pieces in which the bytes arrive. `Source.lines` are the
lines that can be had from a source, and `Source.readLine_of_lines_cons` and
`Source.readLine_of_lines_nil` say what reading a line gives of them.
-/

namespace Timings

namespace Bytes

/-- The lines of some bytes, each with its line feed. What stands behind the last
line feed is a line as well. -/
def lines : Bytes → List Bytes
  | [] => []
  | b :: bs =>
    if b = newline then [b] :: lines bs
    else
      match lines bs with
      | [] => [[b]]
      | line :: rest => (b :: line) :: rest

/-- The lines that end in a line feed. -/
def fullLines (bytes : Bytes) : List Bytes :=
  bytes.lines.filter fun line => line.getLast? = some newline

/-! ## Cutting off one line -/

theorem lines_of_cutLine?_some {bytes line rest : Bytes}
    (cut : bytes.cutLine? = some (line, rest)) : bytes.lines = line :: rest.lines := by
  induction bytes generalizing line with
  | nil => cases cut
  | cons b bs ih =>
      rw [cutLine?] at cut
      rw [lines]
      by_cases ends : b = newline
      · rw [if_pos ends] at cut ⊢
        cases cut
        rfl
      · rw [if_neg ends] at cut ⊢
        obtain ⟨⟨front, behind⟩, cutRest, same⟩ := Option.map_eq_some_iff.1 cut
        cases same
        rw [ih cutRest]

theorem lines_of_cutLine?_none {bytes : Bytes} (whole : bytes.cutLine? = none) :
    bytes.lines = if bytes = [] then [] else [bytes] := by
  induction bytes with
  | nil => rfl
  | cons b bs ih =>
      rw [cutLine?] at whole
      rw [lines, if_neg (List.cons_ne_nil b bs)]
      by_cases ends : b = newline
      · rw [if_pos ends] at whole
        cases whole
      · rw [if_neg ends] at whole ⊢
        rw [ih (Option.map_eq_none_iff.1 whole)]
        cases bs <;> rfl

theorem getLast?_of_cutLine? {bytes line rest : Bytes}
    (cut : bytes.cutLine? = some (line, rest)) : line.getLast? = some newline := by
  induction bytes generalizing line with
  | nil => cases cut
  | cons b bs ih =>
      rw [cutLine?] at cut
      by_cases ends : b = newline
      · rw [if_pos ends] at cut
        cases cut
        rw [ends]
        rfl
      · rw [if_neg ends] at cut
        obtain ⟨⟨front, behind⟩, cutRest, same⟩ := Option.map_eq_some_iff.1 cut
        cases same
        rw [List.getLast?_cons, ih cutRest]
        rfl

theorem newline_notMem_of_cutLine? {bytes : Bytes} (whole : bytes.cutLine? = none) :
    newline ∉ bytes := by
  induction bytes with
  | nil => exact List.not_mem_nil
  | cons b bs ih =>
      rw [cutLine?] at whole
      by_cases ends : b = newline
      · rw [if_pos ends] at whole
        cases whole
      · rw [if_neg ends] at whole
        rw [List.mem_cons]
        rintro (here | later)
        · exact ends here.symm
        · exact ih (Option.map_eq_none_iff.1 whole) later

/-- Bytes without a line feed in front become part of the first line. -/
theorem cutLine?_append_of_none {bytes : Bytes} (whole : bytes.cutLine? = none) (more : Bytes) :
    (bytes ++ more).cutLine? = more.cutLine?.map fun p => (bytes ++ p.1, p.2) := by
  induction bytes with
  | nil =>
      rw [List.nil_append]
      cases more.cutLine? <;> rfl
  | cons b bs ih =>
      rw [cutLine?] at whole
      by_cases ends : b = newline
      · rw [if_pos ends] at whole
        cases whole
      · rw [if_neg ends] at whole
        rw [List.cons_append, cutLine?, if_neg ends, ih (Option.map_eq_none_iff.1 whole)]
        cases more.cutLine? <;> rfl

theorem cutLine?_append_of_some {bytes line rest : Bytes}
    (cut : bytes.cutLine? = some (line, rest)) (more : Bytes) :
    (bytes ++ more).cutLine? = some (line, rest ++ more) := by
  induction bytes generalizing line with
  | nil => cases cut
  | cons b bs ih =>
      rw [cutLine?] at cut
      rw [List.cons_append, cutLine?]
      by_cases ends : b = newline
      · rw [if_pos ends] at cut ⊢
        cases cut
        rfl
      · rw [if_neg ends] at cut ⊢
        obtain ⟨⟨front, behind⟩, cutRest, same⟩ := Option.map_eq_some_iff.1 cut
        cases same
        rw [ih cutRest]
        rfl

/-! ## All lines -/

theorem lines_ne_nil (b : UInt8) (bs : Bytes) : lines (b :: bs) ≠ [] := by
  rw [lines]
  by_cases ends : b = newline
  · rw [if_pos ends]
    exact List.cons_ne_nil _ _
  · rw [if_neg ends]
    cases lines bs <;> exact List.cons_ne_nil _ _

theorem ne_nil_of_mem_lines {bytes line : Bytes} (member : line ∈ bytes.lines) : line ≠ [] := by
  induction bytes generalizing line with
  | nil => cases member
  | cons b bs ih =>
      rw [lines] at member
      by_cases ends : b = newline
      · rw [if_pos ends] at member
        rcases List.mem_cons.1 member with rfl | later
        · exact List.cons_ne_nil b []
        · exact ih later
      · rw [if_neg ends] at member
        cases rest : lines bs with
        | nil =>
            rw [rest] at member
            rw [List.mem_singleton.1 member]
            exact List.cons_ne_nil b []
        | cons first others =>
            rw [rest] at member
            rcases List.mem_cons.1 member with rfl | later
            · exact List.cons_ne_nil b first
            · refine ih ?_
              rw [rest]
              exact List.mem_cons_of_mem first later

/-- Behind a line feed the lines start anew. -/
theorem lines_append {bytes : Bytes} (terminated : bytes.getLast? = some newline)
    (more : Bytes) : (bytes ++ more).lines = bytes.lines ++ more.lines := by
  induction bytes with
  | nil => cases terminated
  | cons b bs ih =>
      rw [List.cons_append, lines, lines]
      cases bs with
      | nil =>
          have ends : b = newline := Option.some.inj terminated
          rw [if_pos ends, if_pos ends]
          rfl
      | cons c cs =>
          have rest := ih terminated
          by_cases ends : b = newline
          · rw [if_pos ends, if_pos ends, rest]
            rfl
          · rw [if_neg ends, if_neg ends, rest]
            cases cut : lines (c :: cs) with
            | nil => exact absurd cut (lines_ne_nil c cs)
            | cons first others => rfl

theorem fullLines_of_cutLine?_some {bytes line rest : Bytes}
    (cut : bytes.cutLine? = some (line, rest)) : bytes.fullLines = line :: rest.fullLines := by
  unfold fullLines
  rw [lines_of_cutLine?_some cut]
  exact List.filter_cons_of_pos (by simpa using getLast?_of_cutLine? cut)

theorem fullLines_of_cutLine?_none {bytes : Bytes} (whole : bytes.cutLine? = none) :
    bytes.fullLines = [] := by
  unfold fullLines
  rw [lines_of_cutLine?_none whole, List.filter_eq_nil_iff]
  intro line member terminated
  have same : line = bytes := by
    by_cases empty : bytes = []
    · rw [if_pos empty] at member
      cases member
    · rw [if_neg empty] at member
      exact List.mem_singleton.1 member
  have last : bytes.getLast? = some newline := by simpa [same] using terminated
  exact newline_notMem_of_cutLine? whole (List.mem_of_getLast? last)

end Bytes

/-! ## Lines of a source -/

namespace Delivery

/-- The bytes that answers bring until reading fails. -/
def content : List Delivery → Bytes
  | [] => []
  | bytes more :: rest => more ++ content rest
  | fault f :: rest => if f.kind = .interrupted then content rest else []

/-- The fault with which reading fails. -/
def fault? : List Delivery → Option SystemFault
  | [] => none
  | bytes _ :: rest => fault? rest
  | fault f :: rest => if f.kind = .interrupted then fault? rest else some f

end Delivery

namespace Source

/-- All bytes that can be read, from here to the end or the failure. -/
def content (s : Source) : Bytes := s.pending ++ Delivery.content s.deliveries

/-- The fault with which reading fails, if it does. -/
def fault? (s : Source) : Option SystemFault := Delivery.fault? s.deliveries

/-- The lines that can be read. A line that a failure cuts short is not among them. -/
def lines (s : Source) : List Bytes :=
  match s.fault? with
  | none => s.content.lines
  | some _ => s.content.fullLines

/-- Reading on, behind a part of a line, is cutting the bytes that are still to come. -/
theorem readFrom_eq_cutLine? {read : Bytes} (part : read.cutLine? = none) (pending : Bytes)
    (deliveries : List Delivery) :
    match (read ++ content ⟨pending, deliveries⟩).cutLine?, Delivery.fault? deliveries with
    | some (line, rest), fault? =>
      ∃ t, readFrom read pending deliveries = (.ok line, t) ∧ t.content = rest ∧
        t.fault? = fault?
    | none, none =>
      ∃ t, readFrom read pending deliveries = (.ok (read ++ content ⟨pending, deliveries⟩), t) ∧
        t.content = [] ∧ t.fault? = none
    | none, some fault => ∃ t, readFrom read pending deliveries = (.error fault, t) := by
  -- what was read so far has no line feed, and each answer that is used up keeps that so
  induction deliveries generalizing read pending with
  | nil =>
      rw [Bytes.cutLine?_append_of_none part]
      simp only [content, Delivery.content, Delivery.fault?, List.append_nil, readFrom]
      cases cut : pending.cutLine? with
      | none => exact ⟨⟨[], []⟩, rfl, rfl, rfl⟩
      | some p => exact ⟨⟨p.2, []⟩, rfl, List.append_nil p.2, rfl⟩
  | cons delivery deliveries ih =>
      cases cut : pending.cutLine? with
      | some p =>
          have whole := Bytes.cutLine?_append_of_some cut (Delivery.content (delivery :: deliveries))
          rw [Bytes.cutLine?_append_of_none part, content, whole]
          simp only [Option.map_some, readFrom, cut]
          exact ⟨⟨p.2, delivery :: deliveries⟩, rfl, rfl, rfl⟩
      | none =>
          have longer : (read ++ pending).cutLine? = none := by
            rw [Bytes.cutLine?_append_of_none part, cut]
            rfl
          cases delivery with
          | bytes more =>
              have later := ih longer more
              simp only [content, Delivery.content, Delivery.fault?, readFrom, cut,
                List.append_assoc] at later ⊢
              exact later
          | fault f =>
              by_cases again : f.kind = .interrupted
              · have later := ih longer []
                simp only [content, Delivery.content, Delivery.fault?, readFrom, cut,
                  if_pos again, List.append_assoc, List.nil_append] at later ⊢
                exact later
              · simp only [content, Delivery.content, Delivery.fault?, readFrom, cut,
                  if_neg again, List.append_nil]
                rw [longer]
                exact ⟨_, rfl⟩

theorem readLine_of_cutLine?_some {s : Source} {line rest : Bytes}
    (cut : s.content.cutLine? = some (line, rest)) :
    ∃ t, s.readLine = (.ok line, t) ∧ t.content = rest ∧ t.fault? = s.fault? := by
  have reading := readFrom_eq_cutLine? (rfl : Bytes.cutLine? [] = none) s.pending s.deliveries
  rw [List.nil_append, show content ⟨s.pending, s.deliveries⟩ = s.content from rfl, cut] at reading
  exact reading

theorem readLine_of_cutLine?_none {s : Source} (whole : s.content.cutLine? = none)
    (sound : s.fault? = none) :
    ∃ t, s.readLine = (.ok s.content, t) ∧ t.content = [] ∧ t.fault? = none := by
  have reading := readFrom_eq_cutLine? (rfl : Bytes.cutLine? [] = none) s.pending s.deliveries
  rw [List.nil_append, show content ⟨s.pending, s.deliveries⟩ = s.content from rfl, whole,
    show Delivery.fault? s.deliveries = none from sound] at reading
  exact reading

/-! ## Reading, line by line -/

theorem lines_of_cutLine?_some {s t : Source} {line : Bytes}
    (cut : s.content.cutLine? = some (line, t.content)) (same : t.fault? = s.fault?) :
    s.lines = line :: t.lines := by
  unfold lines
  rw [same]
  cases s.fault? with
  | none => exact Bytes.lines_of_cutLine?_some cut
  | some fault => exact Bytes.fullLines_of_cutLine?_some cut

theorem lines_of_fault?_none {s : Source} (sound : s.fault? = none) :
    s.lines = s.content.lines := by
  unfold lines
  rw [sound]

theorem lines_of_fault?_some {s : Source} {fault : SystemFault} (fails : s.fault? = some fault) :
    s.lines = s.content.fullLines := by
  unfold lines
  rw [fails]

theorem ne_nil_of_mem_lines {s : Source} {line : Bytes} (member : line ∈ s.lines) : line ≠ [] := by
  cases fault : s.fault? with
  | none =>
      rw [lines_of_fault?_none fault] at member
      exact Bytes.ne_nil_of_mem_lines member
  | some f =>
      rw [lines_of_fault?_some fault] at member
      exact Bytes.ne_nil_of_mem_lines (List.mem_filter.1 member).1

/-- Reading takes the first line, if there is one. -/
theorem readLine_of_lines_cons {s : Source} {line : Bytes} {rest : List Bytes}
    (there : s.lines = line :: rest) :
    ∃ t, s.readLine = (.ok line, t) ∧ t.lines = rest ∧ t.fault? = s.fault? := by
  cases cut : s.content.cutLine? with
  | some p =>
      obtain ⟨t, step, behind, same⟩ := readLine_of_cutLine?_some cut
      rw [lines_of_cutLine?_some (by rw [cut, behind]) same] at there
      cases there
      exact ⟨t, step, rfl, same⟩
  | none =>
      cases fault : s.fault? with
      | some f =>
          rw [lines_of_fault?_some fault, Bytes.fullLines_of_cutLine?_none cut] at there
          cases there
      | none =>
          obtain ⟨t, step, behind, sound⟩ := readLine_of_cutLine?_none cut fault
          rw [lines_of_fault?_none fault, Bytes.lines_of_cutLine?_none cut] at there
          by_cases empty : s.content = []
          · rw [if_pos empty] at there
            cases there
          · rw [if_neg empty] at there
            cases there
            refine ⟨t, step, ?_, sound⟩
            rw [lines_of_fault?_none sound, behind]
            rfl

theorem content_eq_nil {s : Source} (done : s.lines = []) (sound : s.fault? = none) :
    s.content = [] := by
  rw [lines_of_fault?_none sound] at done
  cases content : s.content with
  | nil => rfl
  | cons b bs =>
      rw [content] at done
      exact absurd done (Bytes.lines_ne_nil b bs)

/-- Behind the last line reading gives no bytes. -/
theorem readLine_of_lines_nil {s : Source} (done : s.lines = []) (sound : s.fault? = none) :
    ∃ t, s.readLine = (.ok [], t) ∧ t.lines = [] ∧ t.fault? = none := by
  have empty := content_eq_nil done sound
  obtain ⟨t, step, behind, sound'⟩ := readLine_of_cutLine?_none (by rw [empty]; rfl) sound
  rw [empty] at step
  refine ⟨t, step, ?_, sound'⟩
  rw [lines_of_fault?_none sound', behind]
  rfl

end Source

end Timings
