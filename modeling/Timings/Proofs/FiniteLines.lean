import Timings.Proofs.Accepted
import Timings.Proofs.Members
import Timings.Proofs.StructuredLines

/-!
Lines give finite numbers.

A draft of a measurement holds finite numbers only (`Draft.IsFinite`): reading a member keeps
this, and so does passing over one that is not known, whatever text they are read from. So a
fragment that is decoded has finite numbers, and the checks behind the decoding let it pass
(`Measurement.isFinite_of_decode`). A structured line that gives nothing is therefore
malformed, and never one with a number that is not finite; on plain lines, where such numbers
can be written, the check refuses them (`Line.gives_finite_numbers`).
-/

namespace Timings

open Json

namespace Measurement

/-! ## Members -/

/-- Whether the numbers in the value of a member are finite. -/
def Member.IsFinite : (m : Member) → m.Value → Prop
  | .message => fun _ => True
  | .items => fun _ => True
  | .time => fun (time? : Option Float) => ∀ time ∈ time?, time.isFinite = true
  | .timePerItem => fun (x : Float) => x.isFinite = true

theorem isFinite_of_readFloat {cs rest : List Char} {x : Float}
    (read : readFloat cs = .ok (x, rest)) : x.isFinite = true := by
  obtain ⟨number, numeral, rfl⟩ := readFloat_eq_ok_iff.1 read
  unfold readNumber at numeral
  split at numeral
  · rename_i scanned found
    rw [numeral] at found
    exact isFinite_of_scanNumeral? found
  · cases numeral

theorem isFinite_of_readNullable {cs rest : List Char} {time? : Option Float}
    (read : readNullable readFloat cs = .ok (time?, rest)) :
    ∀ time ∈ time?, time.isFinite = true := by
  unfold readNullable at read
  split at read
  · obtain ⟨rest, -, same⟩ := map_eq_ok_iff.1 read
    cases same
    rintro time ⟨⟩
  · obtain ⟨⟨x, rest⟩, number, same⟩ := map_eq_ok_iff.1 read
    cases same
    rintro time ⟨⟩
    exact isFinite_of_readFloat number

theorem Member.isFinite_of_read {m : Member} {cs rest : List Char} {a : m.Value}
    (read : m.read cs = .ok (a, rest)) : m.IsFinite a := by
  cases m with
  | message => trivial
  | items => trivial
  | time => exact isFinite_of_readNullable read
  | timePerItem => exact isFinite_of_readFloat read

/-! ## Drafts -/

/-- All numbers read so far are finite. -/
def Draft.IsFinite (d : Draft) : Prop := ∀ m, ∀ a ∈ d.get m, m.IsFinite a

theorem Draft.isFinite_blank : blank.IsFinite := by
  intro m a held
  rw [get_blank] at held
  cases held

theorem Draft.IsFinite.put {d : Draft} {m : Member} {a : m.Value} (known : d.IsFinite)
    (finite : m.IsFinite a) : (d.put m a).IsFinite := by
  intro m' a' held
  by_cases same : m' = m
  · subst same
    rw [get_put_self] at held
    cases held
    exact finite
  · rw [get_put_of_ne d a same] at held
    exact known m' a' held

/-- One more member, known or not, leaves a draft finite. -/
theorem Draft.IsFinite.decodeMember {d d' : Draft} {cs rest : List Char} (known : d.IsFinite)
    (decoded : Measurement.decodeMember d cs = .ok (d', rest)) : d'.IsFinite := by
  unfold Measurement.decodeMember at decoded
  obtain ⟨⟨name, behind⟩, -, decoded⟩ := bind_eq_ok_iff.1 decoded
  dsimp only at decoded
  split at decoded
  · split at decoded
    · cases decoded
    · obtain ⟨behind, -, member⟩ := bind_eq_ok_iff.1 decoded
      rw [readMember_eq] at member
      obtain ⟨⟨a, rest⟩, read, same⟩ := map_eq_ok_iff.1 member
      cases same
      exact known.put (Member.isFinite_of_read read)
  · obtain ⟨behind, -, decoded⟩ := bind_eq_ok_iff.1 decoded
    obtain ⟨behind, -, same⟩ := bind_eq_ok_iff.1 decoded
    cases same
    exact known

theorem Draft.IsFinite.decodeMembers {fuel : Nat} {first : Bool} {d d' : Draft}
    {cs rest : List Char} (known : d.IsFinite)
    (decoded : Measurement.decodeMembers fuel first d cs = .ok (d', rest)) : d'.IsFinite := by
  induction fuel generalizing first d cs with
  | zero => cases decoded
  | succ fuel ih =>
      unfold Measurement.decodeMembers at decoded
      obtain ⟨⟨next, behind⟩, -, decoded⟩ := bind_eq_ok_iff.1 decoded
      cases next with
      | none =>
          cases decoded
          exact known
      | some cs =>
          obtain ⟨⟨d'', behind⟩, member, rest⟩ := bind_eq_ok_iff.1 decoded
          exact ih (known.decodeMember member) rest

/-- **Decoding gives finite numbers**, of whatever text. -/
theorem isFinite_of_decode {text : String} {m : Measurement} (decoded : decode text = .ok m) :
    m.timePerItem.isFinite = true ∧ ∀ time ∈ m.time, time.isFinite = true := by
  unfold decode at decoded
  split at decoded
  · obtain ⟨⟨d, rest⟩, members, decoded⟩ := bind_eq_ok_iff.1 decoded
    obtain ⟨m', finished, checked⟩ := bind_eq_ok_iff.1 decoded
    have known := Draft.isFinite_blank.decodeMembers members
    split at checked
    · cases checked
      obtain ⟨-, -, time, timePerItem⟩ := finish_eq_ok_iff.1 finished
      refine ⟨known .timePerItem _ timePerItem, ?_⟩
      intro x held
      rw [← time] at held
      exact known .time (some x) (Option.join_eq_some_iff.1 held) x rfl
    · cases checked
  · cases decoded

end Measurement

/-! ## Lines -/

theorem exists_eq_ok_of_isOk {ε α : Type} {result : Except ε α} (accepted : result.isOk = true) :
    ∃ a, result = .ok a := by
  cases result with
  | error failure => cases accepted
  | ok a => exact ⟨a, rfl⟩

/-- A line gives an item of some kind, or it is malformed. -/
def GivesOrMalformed {α : Type} (line : Nat) (kind : α → Prop) : Except Failure α → Prop
  | .ok a => kind a
  | .error failure => ∃ defect, failure = .malformedLine line defect

theorem GivesOrMalformed.bind {α β : Type} {line : Nat} {kind : α → Prop} {kind' : β → Prop}
    {result : Except Failure α} {next : α → Except Failure β}
    (first : GivesOrMalformed line kind result)
    (second : ∀ a, kind a → GivesOrMalformed line kind' (next a)) :
    GivesOrMalformed line kind' (result >>= next) := by
  cases result with
  | error failure => exact first
  | ok a => exact second a first

namespace Line

theorem givesOrMalformed_measurement (text : String) (line : Nat) :
    GivesOrMalformed line
      (fun m : Measurement => m.timePerItem.isFinite = true ∧ ∀ time ∈ m.time, time.isFinite = true)
      (measurement text line) := by
  cases fragment : Fragment.ofLine text with
  | none =>
      rw [measurement, fragment]
      exact ⟨.noFragment, rfl⟩
  | some object =>
      cases decoded : Measurement.decode object with
      | error fault =>
          simp only [measurement, fragment, decoded]
          exact ⟨.badFragment fault, rfl⟩
      | ok m =>
          -- the checks behind the decoding find nothing to refuse
          have finite := Measurement.isFinite_of_decode decoded
          rw [← String.ofList_toList (s := object)] at fragment decoded
          rw [measurement_of_decode fragment decoded finite]
          exact finite

theorem givesOrMalformed_event (text : String) (line : Nat) :
    GivesOrMalformed line (fun o : Observation EventKey => o.value.isFinite = true)
      (event text line) := by
  refine (givesOrMalformed_measurement text line).bind fun m finite => ?_
  cases m.message with
  | none => exact ⟨.noMessage, rfl⟩
  | some message => exact finite.1

theorem givesOrMalformed_latency (text : String) (line : Nat) :
    GivesOrMalformed line
      (fun row : Latency => row.time.isFinite = true ∧ row.timePerItem.isFinite = true)
      (latency text line) := by
  refine (givesOrMalformed_measurement text line).bind fun m finite => ?_
  cases held : m.time with
  | none => exact ⟨.noTime, rfl⟩
  | some time => exact ⟨finite.2 time held, finite.1⟩

theorem isFinite_of_event {text : String} {line : Nat} {o : Observation EventKey}
    (accepted : event text line = .ok o) : o.value.isFinite = true := by
  have known := givesOrMalformed_event text line
  rw [accepted] at known
  exact known

theorem isFinite_of_labelled {format : ColumnFormat} {text : String} {line : Nat}
    {o : Observation Label} (accepted : labelled format text line = .ok o) :
    o.value.isFinite = true := by
  obtain ⟨label, x⟩ := o
  obtain ⟨key, column, -, -, -, -, finite⟩ := labelled_eq_ok_iff.1 accepted
  exact finite

/-- **Finite numbers.** A plain line gives finite numbers only. A structured line gives finite
numbers or is malformed, and it is never refused for a number that is not finite: whatever
fragment is decoded, both checks of its numbers succeed. -/
theorem gives_finite_numbers :
    (∀ format text line o, labelled format text line = .ok o → o.value.isFinite = true) ∧
    (∀ fragment m, Measurement.decode fragment = .ok m → ∀ line,
      ensureFinite line m.timePerItem = .ok () ∧
        ∀ time ∈ m.time, ensureFinite line time = .ok ()) ∧
    ∀ text line,
      GivesOrMalformed line
        (fun m : Measurement =>
          m.timePerItem.isFinite = true ∧ ∀ time ∈ m.time, time.isFinite = true)
        (measurement text line) ∧
      GivesOrMalformed line (fun o : Observation EventKey => o.value.isFinite = true)
        (event text line) ∧
      GivesOrMalformed line
        (fun row : Latency => row.time.isFinite = true ∧ row.timePerItem.isFinite = true)
        (latency text line) := by
  refine ⟨fun _ _ _ _ => isFinite_of_labelled, ?_, fun text line =>
    ⟨givesOrMalformed_measurement text line, givesOrMalformed_event text line,
      givesOrMalformed_latency text line⟩⟩
  intro fragment m decoded line
  obtain ⟨finite, finite'⟩ := Measurement.isFinite_of_decode decoded
  exact ⟨ensureFinite_of_isFinite finite line,
    fun time held => ensureFinite_of_isFinite (finite' time held) line⟩

/-- Digits and exponents beyond those of doubles, whose numbers are doubles or are not. -/
theorem long_numerals_give_finite_numbers :
    let fragment := "\x7b\"items\":1,\"time\":0.000000000000000000000000000001e330," ++
      "\"time/item\":1797693134862315700000000000000e270\x7d"
    let beyond := "\x7b\"items\":1,\"time/item\":0.000000000000000000000000000001e339\x7d"
    (∃ m, Measurement.decode fragment = .ok m ∧ ensureFinite 1 m.timePerItem = .ok ()) ∧
      (∃ defect, (measurement beyond 2).map (fun _ => ()) = .error (.malformedLine 2 defect)) ∧
      ∃ o, labelled .standard "a x 00000000000000000000000000001.7e308" 3 = .ok o ∧
        o.value.isFinite = true := by
  intro fragment beyond
  obtain ⟨plain, checked, structured⟩ := gives_finite_numbers
  refine ⟨?_, ?_, ?_⟩
  · have accepted : (Measurement.decode fragment).isOk = true := by decide +kernel
    obtain ⟨m, decoded⟩ := exists_eq_ok_of_isOk accepted
    exact ⟨m, decoded, (checked fragment m decoded 1).1⟩
  · have refused : (measurement beyond 2).isOk = false := by decide +kernel
    have known := (structured beyond 2).1
    cases read : measurement beyond 2 with
    | error failure =>
        rw [read] at known
        obtain ⟨defect, rfl⟩ := known
        exact ⟨defect, rfl⟩
    | ok m =>
        rw [read] at refused
        cases refused
  · have accepted :
        (labelled .standard "a x 00000000000000000000000000001.7e308" 3).isOk = true := by
      decide +kernel
    obtain ⟨o, read⟩ := exists_eq_ok_of_isOk accepted
    exact ⟨o, read, plain _ _ _ o read⟩

end Line

end Timings
