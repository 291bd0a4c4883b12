import Timings.Proofs.Stream

/-!
Streams and the pieces in which their bytes arrive.

`reference` says what a stream has to give of some bytes that are all there, and of
a read that fails behind them: it cuts the bytes into lines, takes the line ends off,
parses line by line and ends with the first failure. `Gives` says that a stream gives
a list, call by call, and nothing behind it. `gives_reference` holds the one against
the other: only the bytes count, and not how they are cut or which reads are made
twice.
-/

namespace Timings

namespace Bytes

/-- A line without its end: a line feed, and one carriage return directly before it.
A line that stops without a line feed keeps all its bytes. -/
def withoutEnd (line : Bytes) : Bytes :=
  if line.getLast? = some newline then
    if line.dropLast.getLast? = some carriageReturn then line.dropLast.dropLast
    else line.dropLast
  else line

theorem chopLine_eq_withoutEnd (line : Bytes) : line.chopLine = line.withoutEnd := by
  unfold chopLine withoutEnd
  rcases List.eq_nil_or_concat line with rfl | ⟨front, b, rfl⟩
  · rfl
  · rw [List.concat_eq_append, List.reverse_append, List.dropLast_concat, List.getLast?_concat]
    simp only [List.reverse_singleton, List.singleton_append, Option.some.injEq]
    by_cases ends : b = newline
    · rw [if_pos ends, if_pos ends]
      rcases List.eq_nil_or_concat front with rfl | ⟨inner, r, rfl⟩
      · rfl
      · rw [List.concat_eq_append, List.reverse_append, List.dropLast_concat, List.getLast?_concat]
        simp
    · rw [if_neg ends, if_neg ends]

/-- There is a full line for each line feed. -/
theorem length_fullLines (bytes : Bytes) : bytes.fullLines.length = bytes.count newline := by
  unfold fullLines
  induction bytes with
  | nil => rfl
  | cons b bs ih =>
      rw [lines]
      by_cases ends : b = newline
      · subst ends
        rw [if_pos rfl, List.filter_cons_of_pos (by simp), List.length_cons, ih,
          List.count_cons_self]
      · rw [if_neg ends, List.count_cons_of_ne ends, ← ih]
        cases cut : lines bs with
        | nil => rw [List.filter_cons_of_neg (by simpa using ends)]
        | cons line rest =>
            -- what stands in front of a line leaves its last byte as it is
            have nonempty : line ≠ [] := ne_nil_of_mem_lines (cut ▸ List.mem_cons_self)
            have last : (b :: line).getLast? = line.getLast? :=
              List.getLast?_cons_of_ne_nil nonempty
            simp only [List.filter_cons, last]
            split <;> rfl

end Bytes

namespace Source

/-- Where no full line is left, a read that fails shows its fault. -/
theorem readLine_of_fault?_some {s : Source} {fault : SystemFault} (done : s.lines = [])
    (fails : s.fault? = some fault) : ∃ t, s.readLine = (.error fault, t) := by
  cases cut : s.content.cutLine? with
  | some p =>
      rw [lines_of_fault?_some fails, Bytes.fullLines_of_cutLine?_some cut] at done
      cases done
  | none =>
      have reading := readFrom_eq_cutLine? (rfl : Bytes.cutLine? [] = none) s.pending s.deliveries
      rw [List.nil_append, show content ⟨s.pending, s.deliveries⟩ = s.content from rfl, cut,
        show Delivery.fault? s.deliveries = some fault from fails] at reading
      exact reading

end Source

namespace Stream

variable {α : Type}

/-! ## What a stream has to give -/

/-- What a line is worth to a parser, by the number of the line. -/
def resultOf (parse : LineParser α) (line : Bytes) (number : Nat) : Except Failure α :=
  match line.withoutEnd.toText? with
  | some text => parse text number
  | none => .error (.malformedLine number .notUtf8)

/-- What lines are worth, one by one, behind a number of lines already read. -/
def resultsOf (parse : LineParser α) (read : Nat) (lines : List Bytes) :
    List (Except Failure α) :=
  lines.mapIdx fun i line => resultOf parse line (read + i + 1)

/-- Results up to the first failure, and with it. -/
def upToFailure : List (Except Failure α) → List (Except Failure α)
  | [] => []
  | .ok item :: rest => .ok item :: upToFailure rest
  | .error failure :: _ => [.error failure]

/-- What a read that fails is worth, on the line with this number. -/
def resultOfFault (number : Nat) (fault : SystemFault) : Except Failure α :=
  if fault.kind = .invalidData then .error (.malformedLine number .notUtf8)
  else .error (.lineRead number fault)

/-- What a stream has to give of bytes, if all reads succeed; or else of the bytes in
front of a read that fails, whose line is the one behind all line feeds. -/
def reference (parse : LineParser α) (bytes : Bytes) :
    Option SystemFault → List (Except Failure α)
  | none => upToFailure (resultsOf parse 0 bytes.lines)
  | some fault =>
    upToFailure (resultsOf parse 0 bytes.fullLines ++
      [resultOfFault (1 + bytes.count Bytes.newline) fault])

/-- The stream behind a number of calls for the next item. -/
def afterCalls (parse : LineParser α) (s : Stream) : Nat → Stream
  | 0 => s
  | n + 1 => afterCalls parse (s.next parse).2 n

/-- A stream gives a list: the calls for the next item are answered by the items of the
list in order, and by nothing ever after. -/
structure Gives (parse : LineParser α) (s : Stream) (items : List (Except Failure α)) : Prop where
  answer : ∀ n, ((s.afterCalls parse n).next parse).1 = items[n]?
  /-- At any time as many lines have been taken as items have been given. -/
  linesRead : ∀ n, (s.afterCalls parse n).linesRead = s.linesRead + min n items.length

/-! ## One call -/

theorem resultOf_eq_parseLine (parse : LineParser α) (line : Bytes) (number : Nat) :
    resultOf parse line number = parseLine parse line number := by
  unfold resultOf parseLine
  rw [Bytes.chopLine_eq_withoutEnd]
  cases line.withoutEnd.toText? <;> rfl

theorem resultsOf_cons (parse : LineParser α) (read : Nat) (line : Bytes) (lines : List Bytes) :
    resultsOf parse read (line :: lines) =
      resultOf parse line (read + 1) :: resultsOf parse (read + 1) lines := by
  unfold resultsOf
  rw [List.mapIdx_cons]
  simp only [Nat.add_zero, Nat.add_comm, Nat.add_left_comm]

theorem resultOfFault_eq_error (number : Nat) (fault : SystemFault) :
    (resultOfFault number fault : Except Failure α) = .error (readFailure number fault) := by
  unfold resultOfFault readFailure
  split <;> rfl

theorem next_of_failed {s : Stream} (failed : s.failed = true) (parse : LineParser α) :
    s.next parse = (none, s) := by
  unfold next
  rw [if_pos failed]

/-- A stream at a read that fails gives its fault. -/
theorem next_of_fault?_some {source : Source} {fault : SystemFault} (done : source.lines = [])
    (fails : source.fault? = some fault) (parse : LineParser α) (read : Nat) :
    ∃ behind, next parse ⟨source, read, false⟩ =
      (some (resultOfFault (read + 1) fault), ⟨behind, read + 1, true⟩) := by
  obtain ⟨behind, step⟩ := Source.readLine_of_fault?_some done fails
  refine ⟨behind, ?_⟩
  unfold next
  rw [if_neg Bool.false_ne_true, step, resultOfFault_eq_error]

/-! ## All calls -/

namespace Gives

variable {parse : LineParser α} {s t : Stream} {items : List (Except Failure α)}

theorem cons {item : Except Failure α} (first : s.next parse = (some item, t))
    (counted : t.linesRead = s.linesRead + 1) (rest : Gives parse t items) :
    Gives parse s (item :: items) where
  answer n := by
    cases n with
    | zero => rw [afterCalls, first]; rfl
    | succ n => rw [afterCalls, first, rest.answer n]; rfl
  linesRead n := by
    cases n with
    | zero => rw [afterCalls, Nat.zero_min, Nat.add_zero]
    | succ n =>
        rw [afterCalls, first, rest.linesRead n, counted, List.length_cons]
        omega

theorem of_failed (failed : s.failed = true) : Gives parse s [] := by
  have stays : ∀ n, s.afterCalls parse n = s := by
    intro n
    induction n with
    | zero => rfl
    | succ n ih => rw [afterCalls, next_of_failed failed, ih]
  constructor
  · intro n
    rw [stays, next_of_failed failed]
    rfl
  · intro n
    rw [stays, List.length_nil, Nat.min_zero, Nat.add_zero]

theorem of_lines_nil {source : Source} (done : source.lines = []) (sound : source.fault? = none)
    (read : Nat) : Gives parse ⟨source, read, false⟩ [] := by
  -- a source that has ended is not the same after a call, but it has ended still
  have ended : ∀ source : Source, source.lines = [] → source.fault? = none →
      ∃ behind : Source, behind.lines = [] ∧ behind.fault? = none ∧
        next parse ⟨source, read, false⟩ = (none, ⟨behind, read, false⟩) := by
    intro source done sound
    obtain ⟨behind, step, done', sound'⟩ := Source.readLine_of_lines_nil done sound
    refine ⟨behind, done', sound', ?_⟩
    unfold next
    rw [if_neg Bool.false_ne_true, step]
  have stays : ∀ n, ∃ behind : Source, behind.lines = [] ∧ behind.fault? = none ∧
      afterCalls parse ⟨source, read, false⟩ n = ⟨behind, read, false⟩ := by
    intro n
    induction n generalizing source with
    | zero => exact ⟨source, done, sound, rfl⟩
    | succ n ih =>
        obtain ⟨behind, done', sound', step⟩ := ended source done sound
        rw [afterCalls, step]
        exact ih done' sound'
  constructor
  · intro n
    obtain ⟨behind, done', sound', same⟩ := stays n
    obtain ⟨last, -, -, step⟩ := ended behind done' sound'
    rw [same, step]
    rfl
  · intro n
    obtain ⟨behind, -, -, same⟩ := stays n
    rw [same, List.length_nil, Nat.min_zero, Nat.add_zero]

/-- Lines in front give their results, and the stream goes on unless one of them fails. -/
theorem of_lines_append {source : Source} {lines : List Bytes} {read : Nat}
    {after : List (Except Failure α)} (there : source.lines = lines)
    (behind : ∀ t : Source, t.lines = [] → t.fault? = source.fault? →
      Gives parse ⟨t, read + lines.length, false⟩ (upToFailure after)) :
    Gives parse ⟨source, read, false⟩ (upToFailure (resultsOf parse read lines ++ after)) := by
  induction lines generalizing source read with
  | nil => exact behind source there rfl
  | cons line lines ih =>
      obtain ⟨t, lines', fault', given⟩ := next_of_lines_cons there parse read
      have step := given _ (lineResult_iff.2 (resultOf_eq_parseLine parse line (read + 1)).symm)
      rw [resultsOf_cons, List.cons_append]
      cases worth : resultOf parse line (read + 1) with
      | error failure =>
          rw [worth] at step
          exact cons step rfl (of_failed rfl)
      | ok item =>
          rw [worth] at step
          refine cons step rfl (ih lines' ?_)
          intro u done same
          have later := behind u done (same.trans fault')
          rw [List.length_cons, show read + (lines.length + 1) = read + 1 + lines.length by
            omega] at later
          exact later

end Gives

/-- **Arrival.** A stream gives what its bytes are worth line by line, however they
arrive, and the fault of a read only behind all full lines. -/
theorem gives_reference (parse : LineParser α) (source : Source) :
    Gives parse (start source) (reference parse source.content source.fault?) := by
  unfold start
  cases fault : source.fault? with
  | none =>
      have whole : Gives parse ⟨source, 0, false⟩
          (upToFailure (resultsOf parse 0 source.content.lines ++ [])) :=
        Gives.of_lines_append (Source.lines_of_fault?_none fault) fun t done same =>
          Gives.of_lines_nil done (same.trans fault) _
      rw [List.append_nil] at whole
      exact whole
  | some f =>
      refine Gives.of_lines_append (Source.lines_of_fault?_some fault) ?_
      intro t done same
      obtain ⟨behind, step⟩ := next_of_fault?_some done (same.trans fault) parse
        (0 + source.content.fullLines.length)
      rw [Bytes.length_fullLines, Nat.zero_add] at step ⊢
      rw [resultOfFault_eq_error, Nat.add_comm (List.count _ _) 1] at step
      rw [resultOfFault_eq_error]
      exact Gives.cons step (Nat.add_comm _ _) (Gives.of_failed rfl)

end Stream

end Timings
