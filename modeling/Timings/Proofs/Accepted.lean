import Mathlib.Data.List.Perm.Basic
import Timings.Proofs.LineEnds
import Timings.Proofs.Outcomes

/-!
What a line has to be to be accepted.

`labelled_eq_ok_iff` and `event_eq_ok_iff` say when a line gives a value and which one.
Nothing of this depends on the number of the line (`Unnumbered`), so the items of a log can
be told line by line, each from what is left of it without its end (`parses_iff_forall₂`).
-/

namespace Timings

/-! ## Lines -/

namespace Line

theorem ensureFinite_eq_ok_iff {number : Nat} {x : Float} {done : Unit} :
    ensureFinite number x = .ok done ↔ x.isFinite = true := by
  unfold ensureFinite
  split
  · exact iff_of_true rfl ‹_›
  · exact iff_of_false (fun accepted => nomatch accepted) ‹_›

/-- A plain line gives a value when both of its columns are there and the one for the value
holds a finite number. -/
theorem labelled_eq_ok_iff {format : ColumnFormat} {text : String} {number : Nat}
    {label : Label} {x : Float} :
    labelled format text number = .ok ⟨label, x⟩ ↔
      ∃ key column,
        (Text.pieces format.delimiter (Text.dropEnd isLineEnd text.toList))[format.keyColumn]? =
          some key ∧
        (Text.pieces format.delimiter (Text.dropEnd isLineEnd text.toList))[format.valueColumn]? =
          some column ∧
        Label.parse (String.ofList key) = label ∧ value? column = some x ∧ x.isFinite = true := by
  unfold labelled
  dsimp only
  generalize Text.pieces format.delimiter (Text.dropEnd isLineEnd text.toList) = columns
  cases columns[format.keyColumn]? with
  | none => simp
  | some key =>
      cases columns[format.valueColumn]? with
      | none => simp
      | some column =>
          cases numeric : value? column with
          | none => simp [numeric]
          | some y =>
              simp only [numeric, bind_eq_ok_iff, ensureFinite_eq_ok_iff, Except.ok.injEq,
                Observation.mk.injEq, Option.some.injEq, exists_and_left, exists_eq_left',
                exists_const]
              constructor
              · rintro ⟨finite, same, rfl⟩
                exact ⟨same, rfl, finite⟩
              · rintro ⟨same, rfl, finite⟩
                exact ⟨finite, same, rfl⟩

theorem measurement_eq_ok_iff {text : String} {number : Nat} {m : Measurement} :
    measurement text number = .ok m ↔
      ∃ fragment, Fragment.ofLine text = some fragment ∧ Measurement.decode fragment = .ok m ∧
        m.timePerItem.isFinite = true ∧ ∀ time ∈ m.time, time.isFinite = true := by
  unfold measurement
  cases Fragment.ofLine text with
  | none => simp
  | some fragment =>
      cases decoded : Measurement.decode fragment with
      | error fault => simp [decoded]
      | ok n =>
          simp only [decoded, bind_eq_ok_iff, ensureFinite_eq_ok_iff, Except.ok.injEq,
            Option.some.injEq, exists_eq_left', exists_const]
          cases time : n.time with
          | none =>
              constructor
              · rintro ⟨finite, ⟨⟩⟩
                refine ⟨rfl, finite, ?_⟩
                rw [time]
                rintro _ ⟨⟩
              · rintro ⟨rfl, finite, -⟩
                exact ⟨finite, rfl⟩
          | some x =>
              simp only [bind_eq_ok_iff, ensureFinite_eq_ok_iff, exists_const]
              constructor
              · rintro ⟨finite, finite', ⟨⟩⟩
                refine ⟨rfl, finite, ?_⟩
                rw [time]
                rintro _ ⟨⟩
                exact finite'
              · rintro ⟨rfl, finite, times⟩
                exact ⟨finite, times x time, rfl⟩

theorem event_eq_ok_iff {text : String} {number : Nat} {o : Observation EventKey} :
    event text number = .ok o ↔
      ∃ m, measurement text number = .ok m ∧ m.message = some o.key.event ∧
        m.items = o.key.items ∧ m.timePerItem = o.value := by
  obtain ⟨⟨name, items⟩, value⟩ := o
  unfold event
  rw [bind_eq_ok_iff]
  refine exists_congr fun m => and_congr_right fun _ => ?_
  cases m.message <;> simp [and_assoc]

end Line

/-! ## Items without line numbers -/

/-- What a parser accepts, it accepts at any line number. -/
def Unnumbered {α : Type} (parse : LineParser α) : Prop :=
  ∀ (text : String) (number number' : Nat) (item : α), parse text number = .ok item →
    parse text number' = .ok item

namespace Line

theorem unnumbered_labelled (format : ColumnFormat) : Unnumbered (labelled format) := by
  rintro text number number' ⟨label, x⟩ accepted
  exact labelled_eq_ok_iff.2 (labelled_eq_ok_iff.1 accepted)

theorem unnumbered_measurement : Unnumbered measurement := by
  intro text number number' m accepted
  exact measurement_eq_ok_iff.2 (measurement_eq_ok_iff.1 accepted)

theorem unnumbered_event : Unnumbered event := by
  intro text number number' o accepted
  obtain ⟨m, measured, parts⟩ := event_eq_ok_iff.1 accepted
  exact event_eq_ok_iff.2 ⟨m, unnumbered_measurement text number number' m measured, parts⟩

end Line

section Items

open Timings.Stream

variable {α : Type} {parse : LineParser α}

theorem Unnumbered.parseBody_eq_ok (unnumbered : Unnumbered parse) {body : Bytes} {number : Nat}
    {item : α} (accepted : parseBody parse body number = .ok item) (number' : Nat) :
    parseBody parse body number' = .ok item := by
  unfold parseBody at accepted ⊢
  cases decoded : body.toText? with
  | none =>
      rw [decoded] at accepted
      cases accepted
  | some text =>
      rw [decoded] at accepted
      exact unnumbered text number number' item accepted

/-- The items of lines, line by line and without their numbers. -/
theorem parses_iff_forall₂ (ignores : IgnoresEnds parse) (unnumbered : Unnumbered parse)
    {read : Nat} {lines : List Bytes} {items : List α} :
    Parses parse read lines items ↔
      List.Forall₂ (fun body item => parseBody parse body 0 = .ok item)
        (lines.map Bytes.stripped) items := by
  constructor
  · intro parsed
    induction parsed with
    | nil read => exact .nil
    | cons head _ ih =>
        rw [lineResult_iff, ignores.parseLine_eq_stripped] at head
        exact .cons (unnumbered.parseBody_eq_ok head 0) ih
  · intro each
    induction lines generalizing read items with
    | nil =>
        cases each
        exact .nil read
    | cons line lines ih =>
        cases each with
        | cons head rest =>
            refine .cons (lineResult_iff.2 ?_) (ih rest)
            rw [ignores.parseLine_eq_stripped]
            exact unnumbered.parseBody_eq_ok head _

/-- A log with the lines of one that is accepted is accepted as well, and gives the same
items in the order of its own lines. -/
theorem Parses.exists_perm (ignores : IgnoresEnds parse) (unnumbered : Unnumbered parse)
    {lines lines' : List Bytes} {items : List α} (parsed : Parses parse 0 lines items)
    (perm : (lines'.map Bytes.stripped).Perm (lines.map Bytes.stripped)) :
    ∃ items', Parses parse 0 lines' items' ∧ items'.Perm items := by
  have each := (parses_iff_forall₂ ignores unnumbered).1 parsed
  obtain ⟨items', each', permItems⟩ := List.perm_comp_forall₂ perm each
  exact ⟨items', (parses_iff_forall₂ ignores unnumbered).2 each', permItems⟩

end Items

end Timings
