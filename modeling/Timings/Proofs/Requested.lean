import Timings.Proofs.Analyses
import Timings.Proofs.Arrival
import Timings.Proofs.Places
import Timings.Run

/-!
The reports that settings ask for.

`Settings.reportOf` is the report of a log, said by the analysis and the table of its kind
alone. A run makes this report and no other (`exists_produce`, `reportOf_of_produce`), and
there is none of a folder, which can be opened but not read (`reportOf_ne_ok_of_fault`).
-/

namespace Timings

open Files

/-! ## The report that settings ask for -/

namespace Settings

/-- No view is shown. -/
def Viewless (s : Settings) : Prop := s.report = .latency → s.noPlot = true

/-- The report that settings ask for: the analysis of their kind of report, in their format,
written as the table or the rows of that report. -/
def reportOf (s : Settings) (source : Source) : Except Failure Bytes :=
  match s.report with
  | .compound => (Analysis.byEvent source).map fun a => Bytes.ofText (Report.byEvent a.result)
  | .keyed =>
    (Analysis.byLabel ⟨s.delimiter.char, s.keyField, s.valueField⟩ source).map fun a =>
      Bytes.ofText (Report.byLabel a.result)
  | .latency => (Analysis.latencies source).map fun a => Report.latencyRows a.result

end Settings

namespace Run

variable {environment : Environment} {settings : Settings} {source : Source}

/-- A run makes the report that its settings ask for, and shows nothing if they say so. -/
theorem exists_produce (viewless : settings.Viewless) {report : Bytes}
    (made : settings.reportOf source = .ok report) :
    ∃ product, produce environment settings source = .ok product ∧ product.content = report ∧
      product.viewer = none := by
  unfold Settings.reportOf at made
  unfold produce
  cases kind : settings.report with
  | compound =>
      rw [kind] at made
      obtain ⟨a, analysed, same⟩ := map_eq_ok_iff.1 made
      dsimp only
      rw [analysed]
      exact ⟨_, rfl, same, rfl⟩
  | keyed =>
      rw [kind] at made
      obtain ⟨a, analysed, same⟩ := map_eq_ok_iff.1 made
      dsimp only
      rw [Settings.columnFormat, analysed]
      exact ⟨_, rfl, same, rfl⟩
  | latency =>
      rw [kind] at made
      obtain ⟨a, analysed, same⟩ := map_eq_ok_iff.1 made
      dsimp only
      rw [analysed]
      exact ⟨_, rfl, same, if_pos (viewless kind)⟩

/-- A run makes nothing but the report that its settings ask for. -/
theorem reportOf_of_produce {product : Product}
    (made : produce environment settings source = .ok product) :
    settings.reportOf source = .ok product.content := by
  unfold produce at made
  unfold Settings.reportOf
  cases kind : settings.report with
  | compound =>
      rw [kind] at made
      obtain ⟨a, analysed, same⟩ := bind_eq_ok_iff.1 made
      cases same
      exact map_eq_ok_iff.2 ⟨a, analysed, rfl⟩
  | keyed =>
      rw [kind] at made
      obtain ⟨a, analysed, same⟩ := bind_eq_ok_iff.1 made
      cases same
      exact map_eq_ok_iff.2 ⟨a, analysed, rfl⟩
  | latency =>
      rw [kind] at made
      obtain ⟨a, analysed, same⟩ := bind_eq_ok_iff.1 made
      cases same
      exact map_eq_ok_iff.2 ⟨a, analysed, rfl⟩

end Run

/-! ## Folders as logs -/

/-- No analysis is made of a source that cannot be read at all. -/
theorem IsFold.ne_ok_of_fault {α σ ρ : Type} {parse : LineParser α} {step : σ → α → σ} {value : σ}
    {finish : σ → Nat → Analysis ρ} {analyse : Source → Except Failure (Analysis ρ)}
    (folds : IsFold parse step value finish analyse) {source : Source} {fault : SystemFault}
    (nothing : source.lines = []) (fails : source.fault? = some fault) (a : Analysis ρ) :
    analyse source ≠ .ok a := by
  obtain ⟨behind, first⟩ := Stream.next_of_fault?_some nothing fails parse 0
  rw [Stream.resultOfFault_eq_error] at first
  have failed : Stream.fold parse step value (Stream.start source) = _ :=
    Stream.fold_of_next_error first value
  rw [folds, failed]
  exact fun given => nomatch given

namespace Settings

theorem reportOf_ne_ok_of_fault (settings : Settings) {source : Source} {fault : SystemFault}
    (nothing : source.lines = []) (fails : source.fault? = some fault) (report : Bytes) :
    settings.reportOf source ≠ .ok report := by
  intro made
  unfold reportOf at made
  split at made
  · obtain ⟨a, analysed, -⟩ := map_eq_ok_iff.1 made
    exact Analysis.isFold_byEvent.ne_ok_of_fault nothing fails a analysed
  · obtain ⟨a, analysed, -⟩ := map_eq_ok_iff.1 made
    exact (Analysis.isFold_byLabel _).ne_ok_of_fault nothing fails a analysed
  · obtain ⟨a, analysed, -⟩ := map_eq_ok_iff.1 made
    exact Analysis.isFold_latencies.ne_ok_of_fault nothing fails a analysed

end Settings

namespace Files.Tree

theorem read_eq_ofBytes {t : Tree} {path : String} {content : Bytes}
    (there : t.file? path = some content) : t.read path = .ok (.ofBytes content) := by
  unfold file? entry? at there
  unfold read
  cases found : t.find path with
  | error fault =>
      rw [found] at there
      cases there
  | ok p =>
      obtain ⟨l, entry⟩ := p
      rw [found] at there
      cases entry with
      | folder => cases there
      | file content' =>
          cases there
          rfl

/-- What is opened is a file, or a folder that cannot be read. -/
theorem file?_or_fault_of_read {t : Tree} {path : String} {source : Source}
    (opened : t.read path = .ok source) :
    (∃ content, t.file? path = some content ∧ source = .ofBytes content) ∨
      source = ⟨[], [.fault .isADirectory]⟩ := by
  unfold read at opened
  obtain ⟨⟨l, entry⟩, found, given⟩ := bind_eq_ok_iff.1 opened
  cases entry with
  | folder =>
      cases given
      exact .inr rfl
  | file content =>
      cases given
      refine .inl ⟨content, ?_, rfl⟩
      unfold file? entry?
      rw [found]

/-- A file that was not there is written and removed again. -/
theorem clear_setFile_of_free {t : Tree} {l : Location} (below : l ≠ []) (nothing : t.at? l = none)
    (content : Bytes) : (t.setFile l content).clear l = t := by
  have absent : t.entries.get? l = none := by
    cases l with
    | nil => exact absurd rfl below
    | cons name names => exact nothing
  apply Tree.ext
  apply SortedMap.ext_get?
  intro k
  change ((t.entries.insert l (.file content)).erase l).get? k = t.entries.get? k
  rw [SortedMap.get?_erase, SortedMap.get?_insert]
  by_cases here : compare k l = .eq
  · rw [if_pos here, Std.LawfulEqCmp.eq_of_compare here, absent]
  · rw [if_neg here, if_neg here]

end Files.Tree

end Timings
