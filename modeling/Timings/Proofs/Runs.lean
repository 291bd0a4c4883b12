import Timings.Proofs.Places
import Timings.Session

/-!
What a run leaves alone.

A run changes files at three places: where its report goes, where the temporary file
of the report stands, and where its records go. `Session.Spares` says that the place
of a path is as it was in a tree and that no records go there; each step of a run
keeps it that uses other places. So an input at a fourth place survives every run
(`execute_keeps_input`), and a run that fails before it shows its view leaves the
place of the report as it found it (`execute_keeps_out`).
-/

namespace Timings

open Files

namespace Files.Tree

/-- Two paths do not name the same place. -/
def Apart (t : Tree) (path other : String) : Prop := ∀ l ∈ t.place? path, t.place? other ≠ some l

instance (t : Tree) (path other : String) : Decidable (t.Apart path other) :=
  inferInstanceAs (Decidable (∀ l ∈ t.place? path, t.place? other ≠ some l))

/-- The place of a path is the same in two trees, and so are all folders. -/
structure Spares (t : Tree) (path : String) (t' : Tree) : Prop where
  folders : SameFolders t t'
  same : ∀ l, t.place? path = some l → t'.at? l = t.at? l

namespace Spares

variable {t t' : Tree} {path other : String} {l : Location}

theorem refl (t : Tree) (path : String) : Spares t path t := ⟨SameFolders.refl t, fun _ _ => rfl⟩

theorem place? (kept : Spares t path t') (other : String) : t'.place? other = t.place? other :=
  place?_congr kept.folders other

theorem entry?_eq (kept : Spares t path t') : t'.entry? path = t.entry? path :=
  entry?_congr kept.folders kept.same

theorem setFile (kept : Spares t path t') (below : l ≠ []) (free : t'.at? l ≠ some .folder)
    (other : t.place? path ≠ some l) (content : Bytes) : Spares t path (t'.setFile l content) where
  folders := kept.folders.trans (sameFolders_setFile below free content)
  same l' named := by
    rw [at?_setFile t' below, if_neg, kept.same l' named]
    rintro rfl
    exact other named

theorem clear (kept : Spares t path t') (below : l ≠ []) (free : t'.at? l ≠ some .folder)
    (other : t.place? path ≠ some l) : Spares t path (t'.clear l) where
  folders := kept.folders.trans (sameFolders_clear below free)
  same l' named := by
    rw [at?_clear t' below, if_neg, kept.same l' named]
    rintro rfl
    exact other named

/-- The place of another path is another place, and it is not the root. -/
theorem other_place (kept : Spares t path t') (apart : t.Apart path other)
    (named : t'.place? other = some l) : l ≠ [] ∧ t.place? path ≠ some l := by
  refine ⟨ne_nil_of_place? named, fun same => apart l same ?_⟩
  rw [← kept.place?, named]

theorem write {content : Bytes} {t'' : Tree} (kept : Spares t path t')
    (apart : t.Apart path other) (written : t'.write other content = .ok t'') :
    Spares t path t'' := by
  obtain ⟨⟨l, before⟩, found, same⟩ := bind_eq_ok_iff.1 written
  cases same
  obtain ⟨named, free⟩ := place?_of_findWritable found
  obtain ⟨below, elsewhere⟩ := kept.other_place apart named
  exact kept.setFile below free elsewhere content

theorem move {m : Move} {newPath : String} (kept : Spares t path t') (apart : t.Apart path other)
    (apart' : t.Apart path newPath) (found : t'.findMove other newPath = .ok m) :
    Spares t path (t'.move m) := by
  obtain ⟨⟨named, there⟩, named', free⟩ := places_of_findMove found
  obtain ⟨below, elsewhere⟩ := kept.other_place apart named
  obtain ⟨below', elsewhere'⟩ := kept.other_place apart' named'
  refine (kept.clear below (by simp [there]) elsewhere).setFile below' ?_ elsewhere' m.content
  rw [at?_clear t' below]
  split
  · simp
  · exact free

theorem remove {t'' : Tree} (kept : Spares t path t') (apart : t.Apart path other)
    (removed : t'.remove other = .ok t'') : Spares t path t'' := by
  obtain ⟨l, found, same⟩ := map_eq_ok_iff.1 removed
  cases same
  obtain ⟨named, free⟩ := place?_of_findRemovable found
  obtain ⟨below, elsewhere⟩ := kept.other_place apart named
  exact kept.clear below free elsewhere

end Spares

theorem apart_temporary (t : Tree) (path : String) : t.Apart path (temporary path) :=
  fun _ => place?_temporary_ne

end Files.Tree

namespace Files.Disk

variable {t : Tree} {path other newPath : String} {d : Disk}

theorem spares_step {outcome : Except SystemFault Tree} (kept : t.Spares path d.tree)
    (changed : ∀ t', outcome = .ok t' → t.Spares path t') :
    t.Spares path (d.step outcome).2.tree := by
  cases outcome with
  | ok t' => exact changed t' rfl
  | error fault => exact kept

theorem spares_writeFile (kept : t.Spares path d.tree) (apart : t.Apart path other)
    (content : Bytes) : t.Spares path (d.writeFile other content).2.tree := by
  unfold writeFile
  split
  · exact spares_step kept fun _ => kept.write apart
  · exact spares_step kept fun _ => kept.write apart
  · exact kept

theorem spares_removeFile (kept : t.Spares path d.tree) (apart : t.Apart path other) :
    t.Spares path (d.removeFile other).2.tree := by
  unfold removeFile
  split
  · exact spares_step kept fun _ => kept.remove apart
  · exact kept

end Files.Disk

namespace LogSink

theorem moved_ne {sink : LogSink} {l : Location} {m : Tree.Move} (elsewhere : sink ≠ .file l)
    (aside : m.target ≠ l) : sink.moved m ≠ .file l := by
  unfold moved
  split
  · split
    · simpa using aside
    · split
      · simp
      · exact elsewhere
  · exact elsewhere

theorem removed_ne {sink : LogSink} {l gone : Location} (elsewhere : sink ≠ .file l) :
    sink.removed gone ≠ .file l := by
  unfold removed
  split
  · split
    · simp
    · exact elsewhere
  · exact elsewhere

end LogSink

namespace Session

variable {t : Tree} {path other newPath : String} {s : Session}

/-- The place of a path is as it was in a tree, and no records go there. -/
structure Spares (t : Tree) (path : String) (s : Session) : Prop where
  tree : t.Spares path s.disk.tree
  sink : ∀ l, t.place? path = some l → s.sink ≠ .file l

/-! ## Steps of a session -/

namespace Spares

theorem emit (kept : Spares t path s) (text : String) : Spares t path (s.emit text) := by
  unfold Session.emit
  split
  · exact ⟨kept.tree, kept.sink⟩
  · rename_i l goes
    refine ⟨?_, kept.sink⟩
    unfold append
    split
    · rename_i content there
      have below : l ≠ [] := by
        rintro rfl
        cases there
      refine kept.tree.setFile below (by simp [there]) ?_ _
      intro named
      exact kept.sink l named goes
    · exact kept.tree
  · exact kept

theorem openLog (kept : Spares t path s) (apart : t.Apart path other) :
    Spares t path (s.openLog other).2 := by
  unfold Session.openLog
  cases found : s.disk.tree.findWritable other with
  | error fault => exact kept
  | ok p =>
      obtain ⟨l, content⟩ := p
      obtain ⟨named, free⟩ := Tree.place?_of_findWritable found
      obtain ⟨below, elsewhere⟩ := kept.tree.other_place apart named
      refine ⟨kept.tree.setFile below free elsewhere content, ?_⟩
      rintro l' named' same
      cases same
      exact elsewhere named'

theorem writeFile (kept : Spares t path s) (apart : t.Apart path other) (content : Bytes) :
    Spares t path (s.writeFile other content).2 :=
  ⟨Disk.spares_writeFile kept.tree apart content, kept.sink⟩

theorem removeFile (kept : Spares t path s) (apart : t.Apart path other) :
    Spares t path (s.removeFile other).2 := by
  have tree := Disk.spares_removeFile kept.tree apart
  unfold Session.removeFile
  generalize s.disk.removeFile other = removed at tree
  obtain ⟨answer, disk⟩ := removed
  rcases answer with fault | ⟨⟩
  · exact ⟨tree, kept.sink⟩
  · cases s.disk.tree.findRemovable other with
    | error fault => exact ⟨tree, kept.sink⟩
    | ok gone => exact ⟨tree, fun l named => LogSink.removed_ne (kept.sink l named)⟩

theorem renameFile (kept : Spares t path s) (apart : t.Apart path other)
    (apart' : t.Apart path newPath) : Spares t path (s.renameFile other newPath).2 := by
  unfold Session.renameFile Disk.renameFile
  cases s.disk.mishaps.renameFile with
  | some fault => exact kept
  | none =>
      dsimp only
      unfold Tree.rename
      cases found : s.disk.tree.findMove other newPath with
      | error fault => exact kept
      | ok m =>
          have moved := kept.tree.move apart apart' found
          refine ⟨moved, fun l named => LogSink.moved_ne (kept.sink l named) ?_⟩
          rintro rfl
          exact (kept.tree.other_place apart' (Tree.places_of_findMove found).2.1).2 named

/-- A move that fails changes nothing. -/
theorem renameFile_error {fault : SystemFault}
    (failed : (s.renameFile other newPath).1 = .error fault) :
    (s.renameFile other newPath).2 = s := by
  unfold Session.renameFile Disk.renameFile at failed ⊢
  cases mishap : s.disk.mishaps.renameFile with
  | some fault => rfl
  | none =>
      rw [mishap] at failed
      dsimp only at failed ⊢
      unfold Tree.rename at failed ⊢
      cases found : s.disk.tree.findMove other newPath with
      | error fault => rfl
      | ok m => rw [found] at failed; cases failed

end Spares

/-! ## Steps of a run -/

section Run

variable {environment : Environment} {settings : Settings} {product : Run.Product}

theorem keeps_tell (r : Log.Record) :
    Keeps (Spares t path) (Run.tell settings r : StateM Session Unit) := by
  unfold Run.tell
  split
  · exact fun s kept => kept.emit _
  · exact Keeps.pure ()

theorem keeps_openLog (apart : ∀ log, settings.logFile = some log → t.Apart path log) :
    Keeps (Spares t path) (Run.openLog settings : StateM Session _) := by
  unfold Run.openLog
  split
  · exact Keeps.pure _
  · rename_i log given
    have opened : Keeps (Spares t path) (Host.openLog log : StateM Session _) :=
      fun s kept => kept.openLog (apart log given)
    refine opened.bind fun answer => ?_
    split <;> exact Keeps.pure _

/-- Making the report changes no file, except for what is told about it. -/
theorem keeps_analyse :
    Keeps (Spares t path) (Run.analyse environment settings : StateM Session _) := by
  have opened : Keeps (Spares t path) (Host.openInput settings.input : StateM Session _) :=
    fun s kept => kept
  have timed : Keeps (Spares t path) (Host.clock : StateM Session _) := fun s kept => kept
  unfold Run.analyse
  refine opened.bind fun answer => ?_
  split
  · exact Keeps.pure _
  · refine timed.bind fun start => ?_
    split
    · dsimp only
      split
      · exact (keeps_tell _).bind fun _ => Keeps.pure _
      · exact Keeps.pure _
    · refine timed.bind fun stop => ?_
      exact (keeps_tell _).bind fun _ => (keeps_tell _).bind fun _ => Keeps.pure _

theorem keeps_replaceFile {content : Bytes} (apart : t.Apart path other)
    (apart' : t.Apart path (temporary other)) :
    Keeps (Spares t path) (replaceFile other content : StateM Session _) := by
  have written : Keeps (Spares t path)
      (FileHost.writeFile (temporary other) content : StateM Session _) :=
    fun s kept => kept.writeFile apart' content
  have moved : Keeps (Spares t path)
      (FileHost.renameFile (temporary other) other : StateM Session _) :=
    fun s kept => kept.renameFile apart' apart
  have removed : Keeps (Spares t path)
      (FileHost.removeFile (temporary other) : StateM Session _) :=
    fun s kept => kept.removeFile apart'
  unfold replaceFile
  refine written.bind fun answer => ?_
  split
  · exact Keeps.pure _
  · refine moved.bind fun answer => ?_
    split
    · exact Keeps.pure _
    · exact removed.bind fun _ => Keeps.pure _

/-- A file that cannot be replaced is the same as before. -/
theorem ensures_replaceFile {content : Bytes} :
    Ensures (Spares t path) (replaceFile path content : StateM Session _)
      fun answer s => ∀ failure, answer = .error failure → Spares t path s := by
  have apart := t.apart_temporary path
  have written : Keeps (Spares t path)
      (FileHost.writeFile (temporary path) content : StateM Session _) :=
    fun s kept => kept.writeFile apart content
  have moved : Ensures (Spares t path)
      (FileHost.renameFile (temporary path) path : StateM Session _)
      fun answer s => ∀ fault, answer = .error fault → Spares t path s := by
    intro s kept fault failed
    have same : (s.renameFile (temporary path) path).2 = s := Spares.renameFile_error failed
    change Spares t path (s.renameFile (temporary path) path).2
    rw [same]
    exact kept
  unfold replaceFile
  refine Ensures.bind written fun answer => ?_
  split
  · exact Ensures.pure fun s kept _ _ => kept
  · refine Ensures.bind moved fun answer => ?_
    split
    · exact Ensures.pure fun s _ failure failed => by cases failed
    · rename_i fault
      intro s failed failure _
      exact (failed fault rfl).removeFile apart

theorem keeps_write (apart : t.Apart path settings.out)
    (apart' : t.Apart path (temporary settings.out)) :
    Keeps (Spares t path) (Run.write settings product : StateM Session _) := by
  unfold Run.write
  refine (keeps_replaceFile apart apart').bind fun answer => ?_
  split
  · exact Keeps.pure _
  · exact (keeps_tell _).bind fun _ => Keeps.pure _

theorem ensures_write :
    Ensures (Spares t settings.out) (Run.write settings product : StateM Session _)
      fun answer s => ∀ error, answer = .error error → Spares t settings.out s := by
  unfold Run.write
  refine Ensures.bind ensures_replaceFile fun answer => ?_
  split
  · rename_i failure
    exact Ensures.pure fun s kept _ _ => kept failure rfl
  · refine Ensures.bind (R := fun _ _ => True) (fun _ _ => trivial) fun _ => ?_
    exact Ensures.pure fun s _ error failed => by cases failed

theorem keeps_showView : Keeps (Spares t path) (Run.showView product : StateM Session _) := by
  unfold Run.showView
  split
  · exact Keeps.pure _
  · rename_i viewer given
    have viewed : Keeps (Spares t path) (Host.view viewer : StateM Session _) := fun s kept => kept
    refine viewed.bind fun answer => ?_
    split <;> exact Keeps.pure _

theorem ensures_showView {I : Session → Prop} :
    Ensures I (Run.showView product : StateM Session _)
      fun answer _ => ∀ error, answer = .error error → ∃ fault, error = .viewer fault := by
  unfold Run.showView
  split
  · exact Ensures.pure fun s _ error failed => by cases failed
  · refine Ensures.bind (R := fun _ _ => True) (fun _ _ => trivial) fun answer => ?_
    split
    · exact Ensures.pure fun s _ error failed => by cases failed
    · rename_i fault
      refine Ensures.pure fun s _ error failed => ?_
      cases failed
      exact ⟨fault, rfl⟩

theorem keeps_execute (apart : t.Apart path settings.out)
    (apart' : t.Apart path (temporary settings.out))
    (logs : ∀ log, settings.logFile = some log → t.Apart path log) :
    Keeps (Spares t path) (Run.execute environment settings : StateM Session _) := by
  have printed : ∀ text, Keeps (Spares t path) (Host.print text : StateM Session _) :=
    fun text s kept => ⟨kept.tree, kept.sink⟩
  unfold Run.execute
  refine (keeps_openLog logs).bind fun answer => ?_
  split
  · exact Keeps.pure _
  · refine (keeps_tell _).bind fun _ => (keeps_tell _).bind fun _ => (printed _).bind fun _ => ?_
    refine keeps_analyse.bind fun answer => ?_
    split
    · exact Keeps.pure _
    · refine (keeps_write apart apart').bind fun answer => ?_
      split
      · exact Keeps.pure _
      · refine keeps_showView.bind fun answer => ?_
        split
        · exact Keeps.pure _
        · exact (printed _).bind fun _ => Keeps.pure _

/-- Up to the view, a run that fails has left the place of its report alone. -/
theorem ensures_execute
    (logs : ∀ log, settings.logFile = some log → t.Apart settings.out log) :
    Ensures (Spares t settings.out) (Run.execute environment settings : StateM Session _)
      fun answer s => ∀ error, answer = .error error →
        (∃ fault, error = .viewer fault) ∨ Spares t settings.out s := by
  have printed : ∀ text, Keeps (Spares t settings.out) (Host.print text : StateM Session _) :=
    fun text s kept => ⟨kept.tree, kept.sink⟩
  unfold Run.execute
  refine Ensures.bind (keeps_openLog logs) fun answer => ?_
  split
  · exact Ensures.pure fun s kept _ _ => Or.inr kept
  · refine Ensures.bind (keeps_tell _) fun _ => Ensures.bind (keeps_tell _) fun _ => ?_
    refine Ensures.bind (printed _) fun _ => Ensures.bind keeps_analyse fun answer => ?_
    split
    · exact Ensures.pure fun s kept _ _ => Or.inr kept
    · refine Ensures.bind ensures_write fun answer => ?_
      split
      · rename_i error
        exact Ensures.pure fun s kept _ _ => Or.inr (kept error rfl)
      · refine Ensures.bind ensures_showView fun answer => ?_
        split
        · rename_i error
          refine Ensures.pure fun s viewed _ failed => Or.inl ?_
          cases failed
          exact viewed error rfl
        · refine Ensures.bind (R := fun _ _ => True) (fun _ _ => trivial) fun _ => ?_
          exact Ensures.pure fun s _ error failed => by cases failed

end Run

/-! ## Whole runs -/

/-- A run with settings on a disk: how it ends, and the session behind it. -/
def execute (environment : Environment) (settings : Settings) (disk : Disk) (terminal : Script)
    (stamp : String) : Except RunError Unit × Session :=
  (Run.execute environment settings : StateM Session (Except RunError Unit)).run
    { disk := disk, terminal := terminal, stamp := stamp }

theorem spares_start (disk : Disk) (terminal : Script) (stamp path : String) :
    Spares disk.tree path { disk := disk, terminal := terminal, stamp := stamp } :=
  ⟨Tree.Spares.refl _ _, fun _ _ same => by cases same⟩

/-- **The input survives.** Whatever becomes of a run, it leaves its input as it was, if
that is at none of the places that the run writes to. -/
theorem execute_keeps_input (environment : Environment) (settings : Settings) (disk : Disk)
    (terminal : Script) (stamp : String) {content : Bytes}
    (there : disk.tree.file? settings.input = some content)
    (out : disk.tree.Apart settings.input settings.out)
    (temp : disk.tree.Apart settings.input (temporary settings.out))
    (logs : ∀ log ∈ settings.logFile, disk.tree.Apart settings.input log) :
    (execute environment settings disk terminal stamp).2.disk.tree.file? settings.input =
      some content := by
  have kept : Spares disk.tree settings.input (execute environment settings disk terminal stamp).2 :=
    keeps_execute out temp logs _ (spares_start disk terminal stamp settings.input)
  unfold Tree.file? at there ⊢
  rw [kept.tree.entry?_eq]
  exact there

theorem input_in_other_folder_survives :
    let tree := ((Tree.empty.setFolder ["d"]).setFile ["d", "o.tmp"] [0x61, 0xff]).setFile ["o"] []
    let settings : Settings :=
      ⟨"d/o.tmp", "o", .keyed, .space, 0, 2, 10, true, .auto, .debug, some "e", true⟩
    tree.file? settings.input = some [0x61, 0xff] ∧ tree.Apart settings.input settings.out ∧
      tree.Apart settings.input (temporary settings.out) ∧
      (∀ log ∈ settings.logFile, tree.Apart settings.input log) ∧
      (execute {} settings { tree := tree } noTerminal "").2.disk.tree.file? settings.input =
        some [0x61, 0xff] := by
  intro tree settings
  have there : tree.file? settings.input = some [0x61, 0xff] := by decide +kernel
  have out : tree.Apart settings.input settings.out := by decide +kernel
  have temp : tree.Apart settings.input (temporary settings.out) := by decide +kernel
  have logs : ∀ log ∈ settings.logFile, tree.Apart settings.input log := by decide +kernel
  exact ⟨there, out, temp, logs,
    execute_keeps_input {} settings { tree := tree } noTerminal "" there out temp logs⟩

/-- The temporary file of a report can be the log itself, which is then gone; and the
report can be the log under another path, which is then replaced. -/
theorem input_replaced_by_report :
    let log := Bytes.ofText "a x 1\n"
    let temp := (on (Tree.empty.setFile ["o.tmp"] log) "").run {}
      ["-i", "o.tmp", "-o", "o", "--report", "keyed"]
    let same := (on (Tree.empty.setFile ["o"] log) "").run {}
      ["-i", "o", "-o", "./o", "--report", "keyed"]
    temp.1 = 0 ∧ temp.2.disk.tree.file? "o.tmp" = none ∧
      same.1 = 0 ∧ same.2.disk.tree.file? "o" = some (Bytes.ofText "a\t1.0\t0.0\t1.0\t1.0\n") := by
  decide +kernel

/-- **A failing run writes no report.** A run that fails leaves the place of its report
as it was, unless it is the view behind the report that fails. -/
theorem execute_keeps_out (environment : Environment) (settings : Settings) (disk : Disk)
    (terminal : Script) (stamp : String) {error : RunError}
    (logs : ∀ log ∈ settings.logFile, disk.tree.Apart settings.out log)
    (failed : (execute environment settings disk terminal stamp).1 = .error error)
    (early : ∀ fault, error ≠ .viewer fault) :
    (execute environment settings disk terminal stamp).2.disk.tree.entry? settings.out =
      disk.tree.entry? settings.out := by
  rcases ensures_execute logs _ (spares_start disk terminal stamp settings.out) error failed with
    ⟨fault, view⟩ | kept
  · exact absurd view (early fault)
  · exact kept.tree.entry?_eq

theorem missing_input_leaves_out :
    let tree := Tree.empty.setFile ["o"] [0x61]
    let settings : Settings :=
      ⟨"i", "o", .latency, .space, 0, 2, 10, false, .auto, .debug, some "e", true⟩
    (∀ log ∈ settings.logFile, tree.Apart settings.out log) ∧
      (∃ failure, (execute {} settings { tree := tree } noTerminal "").1 =
        .error (.failed failure)) ∧
      (execute {} settings { tree := tree } noTerminal "").2.disk.tree.entry? settings.out =
        tree.entry? settings.out := by
  intro tree settings
  have logs : ∀ log ∈ settings.logFile, tree.Apart settings.out log := by decide +kernel
  have fails : (match (execute {} settings { tree := tree } noTerminal "").1 with
      | .error (.failed _) => true
      | _ => false) = true := by decide +kernel
  obtain ⟨failure, failed⟩ : ∃ failure,
      (execute {} settings { tree := tree } noTerminal "").1 = .error (.failed failure) := by
    generalize (execute {} settings { tree := tree } noTerminal "").1 = answer at fails ⊢
    split at fails
    · exact ⟨_, rfl⟩
    · cases fails
  have early : ∀ fault, RunError.failed failure ≠ .viewer fault := by
    intro fault same
    cases same
  exact ⟨logs, ⟨failure, failed⟩,
    execute_keeps_out {} settings { tree := tree } noTerminal "" logs failed early⟩

/-- A run whose view fails has made its report; and a run whose records go to the place
of its report has made a file there before it reads anything. -/
theorem out_made_by_failing_run :
    let tree := Tree.empty.setFile ["i"] (Bytes.ofText "x\n")
    let view := (on (Tree.empty.setFile ["i"] []) "").run {}
      ["-i", "i", "-o", "o", "--report", "latency"]
    let log := (on tree "").run {} ["-i", "i", "-o", "o", "--log-file", "o"]
    tree.entry? "o" = none ∧ view.1 = 1 ∧ view.2.disk.tree.entry? "o" = some (.file []) ∧
      log.1 = 1 ∧ log.2.disk.tree.entry? "o" = some (.file []) := by
  decide +kernel

end Session

end Timings
