import Timings.Proofs.Requested
import Timings.Session

/-!
Runs without a view.

A run that shows no view and keeps no log of its own is all or nothing. If a report can be
made and there is room for it, the run ends well and the report is the one thing on the
disk that is new; if no report can be made, the run fails and the disk is as it was
(`all_or_nothing`). What such a run passes through is told by `Session.Quiet`, which
determines the files and the output of a session; each step of a run has one lemma that
says where it leads.
-/

namespace Timings

open Files

namespace Session

/-- A session with these files and this output, where nothing goes wrong by itself and
records go where errors go. -/
structure Quiet (tree : Tree) (output : String) (s : Session) : Prop where
  tree : s.disk.tree = tree
  mishaps : s.disk.mishaps = {}
  output : s.output = output
  sink : s.sink = .errors

section Steps

variable {tree : Tree} {output : String} {environment : Environment} {settings : Settings}
  {source : Source} {product : Run.Product}

theorem quiet_print (text : String) :
    Ensures (Quiet tree output) (Host.print text : StateM Session Unit)
      fun _ => Quiet tree (output ++ text) := by
  intro s quiet
  exact ⟨quiet.tree, quiet.mishaps, congrArg (· ++ text) quiet.output, quiet.sink⟩

theorem quiet_complain (text : String) :
    Keeps (Quiet tree output) (Host.complain text : StateM Session Unit) :=
  fun _ quiet => ⟨quiet.tree, quiet.mishaps, quiet.output, quiet.sink⟩

theorem quiet_tell (r : Log.Record) :
    Keeps (Quiet tree output) (Run.tell settings r : StateM Session Unit) := by
  unfold Run.tell
  split
  · intro s quiet
    have told : s.log r = { s with errors := s.errors ++ r.line s.stamp } := by
      unfold log emit
      rw [quiet.sink]
    change Quiet tree output (s.log r)
    rw [told]
    exact ⟨quiet.tree, quiet.mishaps, quiet.output, quiet.sink⟩
  · exact Keeps.pure ()

theorem quiet_openInput (path : String) :
    Ensures (Quiet tree output) (Host.openInput path : StateM Session _) fun answer s =>
      answer = tree.read path ∧ Quiet tree output s := by
  intro s quiet
  refine ⟨?_, quiet⟩
  change s.disk.openFile path = tree.read path
  unfold Disk.openFile
  rw [quiet.mishaps, quiet.tree]
  cases tree.read path <;> rfl

theorem quiet_clock :
    Keeps (Quiet tree output) (Host.clock : StateM Session Nat) := fun _ quiet => quiet

/-- The report is made of the log, and nothing but records comes of it. -/
theorem quiet_analyse (opened : tree.read settings.input = .ok source)
    (made : Run.produce environment settings source = .ok product) :
    Ensures (Quiet tree output) (Run.analyse environment settings : StateM Session _)
      fun answer s => answer = .ok product ∧ Quiet tree output s := by
  have input : Ensures (Quiet tree output) (Host.openInput settings.input : StateM Session _)
      fun answer s => answer = .ok source ∧ Quiet tree output s := by
    rw [← opened]
    exact quiet_openInput settings.input
  unfold Run.analyse
  refine Ensures.bind_eq input ?_
  refine Ensures.bind quiet_clock fun start => ?_
  dsimp only
  rw [made]
  refine Ensures.bind quiet_clock fun stop => ?_
  refine Ensures.bind (quiet_tell _) fun _ => Ensures.bind (quiet_tell _) fun _ => ?_
  exact Ensures.pure fun s quiet => ⟨rfl, quiet⟩

/-- Without a report the run stops here. -/
theorem quiet_analyse_of_ne_ok
    (none : ∀ source product, tree.read settings.input = .ok source →
      Run.produce environment settings source ≠ .ok product) :
    Ensures (Quiet tree output) (Run.analyse environment settings : StateM Session _)
      fun answer s => (∃ error, answer = .error error) ∧ Quiet tree output s := by
  unfold Run.analyse
  refine Ensures.bind_eq (quiet_openInput settings.input) ?_
  cases opened : tree.read settings.input with
  | error fault => exact Ensures.pure fun s quiet => ⟨⟨_, rfl⟩, quiet⟩
  | ok source =>
      refine Ensures.bind quiet_clock fun start => ?_
      cases made : Run.produce environment settings source with
      | ok product => exact absurd made (none source product opened)
      | error failure =>
          dsimp only
          split
          · refine Ensures.bind (quiet_tell _) fun _ => ?_
            exact Ensures.pure fun s quiet => ⟨⟨_, rfl⟩, quiet⟩
          · exact Ensures.pure fun s quiet => ⟨⟨_, rfl⟩, quiet⟩

/-- Where there is room for a file and for the one beside it, the file is replaced and
nothing else is left. -/
theorem quiet_replaceFile {path : String} {place aside : Location} (content : Bytes)
    (named : tree.place? path = some place) (free : tree.at? place ≠ some .folder)
    (named' : tree.place? (temporary path) = some aside) (nothing : tree.at? aside = none) :
    Ensures (Quiet tree output) (replaceFile path content : StateM Session _) fun answer s =>
      answer = .ok () ∧ Quiet (tree.setFile place content) output s := by
  have below : aside ≠ [] := Tree.ne_nil_of_place? named'
  have free' : tree.at? aside ≠ some .folder := by simp [nothing]
  have apart : place ≠ aside := by
    intro same
    exact Tree.place?_temporary_ne named (same ▸ named')
  have folders : Tree.SameFolders tree (tree.setFile aside content) :=
    Tree.sameFolders_setFile below free' content
  have write : tree.write (temporary path) content = .ok (tree.setFile aside content) := by
    obtain ⟨before, found⟩ := Tree.findWritable_of_place? named' free'
    unfold Tree.write
    rw [found]
    rfl
  have found : (tree.setFile aside content).findMove (temporary path) path =
      .ok ⟨aside, place, content⟩ := by
    apply Tree.findMove_of_places
    · rw [Tree.place?_congr folders]
      exact named'
    · rw [Tree.at?_setFile tree below, if_pos rfl]
    · rw [Tree.place?_congr folders]
      exact named
    · rw [Tree.at?_setFile tree below, if_neg apart]
      exact free
  have moved : (tree.setFile aside content).move ⟨aside, place, content⟩ =
      tree.setFile place content := by
    unfold Tree.move
    rw [Tree.clear_setFile_of_free below nothing]
  have written : Ensures (Quiet tree output)
      (FileHost.writeFile (temporary path) content : StateM Session _) fun answer s =>
        answer = .ok () ∧ Quiet (tree.setFile aside content) output s := by
    intro s quiet
    have done : s.disk.writeFile (temporary path) content =
        (.ok (), s.disk.become (tree.setFile aside content)) := by
      unfold Disk.writeFile
      rw [quiet.mishaps, quiet.tree, write]
      rfl
    change (s.writeFile (temporary path) content).1 = _ ∧
      Quiet _ _ (s.writeFile (temporary path) content).2
    unfold writeFile
    rw [done]
    exact ⟨rfl, rfl, quiet.mishaps, quiet.output, quiet.sink⟩
  have renamed : Ensures (Quiet (tree.setFile aside content) output)
      (FileHost.renameFile (temporary path) path : StateM Session _) fun answer s =>
        answer = .ok () ∧ Quiet (tree.setFile place content) output s := by
    intro s quiet
    have done : s.disk.renameFile (temporary path) path =
        (.ok (), s.disk.become (tree.setFile place content)) := by
      unfold Disk.renameFile Tree.rename
      rw [quiet.mishaps, quiet.tree, found, ← moved]
      rfl
    change (s.renameFile (temporary path) path).1 = _ ∧
      Quiet _ _ (s.renameFile (temporary path) path).2
    unfold renameFile
    rw [done, quiet.tree, found]
    refine ⟨rfl, rfl, quiet.mishaps, quiet.output, ?_⟩
    dsimp only
    rw [quiet.sink]
    rfl
  unfold replaceFile
  refine Ensures.bind_eq written ?_
  refine Ensures.bind_eq renamed ?_
  exact Ensures.pure fun s quiet => ⟨rfl, quiet⟩

/-- The line that a run prints before it reads its log. -/
def parsingLine (settings : Settings) : String :=
  "Parsing " ++ settings.input ++ ", and outputting in " ++ settings.out ++ "\n"

theorem quiet_openLog (unlogged : settings.logFile = none) :
    Ensures (Quiet tree output) (Run.openLog settings : StateM Session _) fun answer s =>
      answer = .ok () ∧ Quiet tree output s := by
  unfold Run.openLog
  rw [unlogged]
  exact Ensures.pure fun s quiet => ⟨rfl, quiet⟩

/-- What a run prints behind the writing of its report. -/
def closingLine : Except RunError Unit → String
  | .ok () => "Done\n"
  | .error _ => ""

/-- A run whose report is made ends as the writing of it ends. -/
theorem quiet_execute_of_write {tree' : Tree} {result : Except RunError Unit}
    (unlogged : settings.logFile = none) (opened : tree.read settings.input = .ok source)
    (produced : Run.produce environment settings source = .ok product)
    (unseen : product.viewer = none)
    (written : Ensures (Quiet tree (parsingLine settings))
      (Run.write settings product : StateM Session _) fun answer s =>
        answer = result ∧ Quiet tree' (parsingLine settings) s) :
    Ensures (Quiet tree "") (Run.execute environment settings : StateM Session _) fun answer s =>
      answer = result ∧ Quiet tree' (parsingLine settings ++ closingLine result) s := by
  have unshown : (Run.showView product : StateM Session _) = pure (.ok ()) := by
    unfold Run.showView
    rw [unseen]
  unfold Run.execute
  refine Ensures.bind_eq (quiet_openLog unlogged) ?_
  refine Ensures.bind (quiet_tell _) fun _ => Ensures.bind (quiet_tell _) fun _ => ?_
  refine Ensures.bind (quiet_print _) fun _ => ?_
  rw [String.empty_append]
  refine Ensures.bind_eq (quiet_analyse opened produced) ?_
  refine Ensures.bind_eq written ?_
  cases result with
  | error error =>
      refine Ensures.pure fun s quiet => ⟨rfl, ?_⟩
      rw [closingLine, String.append_empty]
      exact quiet
  | ok done =>
      dsimp only
      rw [unshown]
      refine Ensures.bind_eq (Ensures.pure fun s quiet => ⟨rfl, quiet⟩) ?_
      refine Ensures.bind (quiet_print _) fun _ => ?_
      exact Ensures.pure fun s quiet => ⟨rfl, quiet⟩

theorem quiet_execute {place aside : Location} {report : Bytes}
    (viewless : settings.Viewless) (unlogged : settings.logFile = none)
    (opened : tree.read settings.input = .ok source)
    (made : settings.reportOf source = .ok report)
    (named : tree.place? settings.out = some place) (free : tree.at? place ≠ some .folder)
    (named' : tree.place? (temporary settings.out) = some aside)
    (nothing : tree.at? aside = none) :
    Ensures (Quiet tree "") (Run.execute environment settings : StateM Session _) fun answer s =>
      answer = .ok () ∧
        Quiet (tree.setFile place report) (parsingLine settings ++ "Done\n") s := by
  obtain ⟨product, produced, rfl, unseen⟩ := Run.exists_produce viewless made
  have written : Ensures (Quiet tree (parsingLine settings))
      (Run.write settings product : StateM Session _) fun answer s => answer = .ok () ∧
        Quiet (tree.setFile place product.content) (parsingLine settings) s := by
    unfold Run.write
    refine Ensures.bind_eq (quiet_replaceFile product.content named free named' nothing) ?_
    refine Ensures.bind (quiet_tell _) fun _ => ?_
    exact Ensures.pure fun s quiet => ⟨rfl, quiet⟩
  exact quiet_execute_of_write unlogged opened produced unseen written

theorem quiet_execute_of_ne_ok (unlogged : settings.logFile = none)
    (none : ∀ source report, tree.read settings.input = .ok source →
      settings.reportOf source ≠ .ok report) :
    Ensures (Quiet tree "") (Run.execute environment settings : StateM Session _) fun answer s =>
      (∃ error, answer = .error error) ∧ Quiet tree (parsingLine settings) s := by
  have unmade : ∀ source product, tree.read settings.input = .ok source →
      Run.produce environment settings source ≠ .ok product := by
    intro source product opened made
    exact none source _ opened (Run.reportOf_of_produce made)
  unfold Run.execute
  refine Ensures.bind_eq (quiet_openLog unlogged) ?_
  refine Ensures.bind (quiet_tell _) fun _ => Ensures.bind (quiet_tell _) fun _ => ?_
  refine Ensures.bind (quiet_print _) fun _ => ?_
  refine Ensures.bind (quiet_analyse_of_ne_ok unmade) fun answer => ?_
  cases answer with
  | ok product =>
      intro s failed
      obtain ⟨⟨error, given⟩, -⟩ := failed
      cases given
  | error error =>
      refine Ensures.pure fun s failed => ⟨⟨error, rfl⟩, ?_⟩
      rw [← String.empty_append (s := parsingLine settings)]
      exact failed.2

/-- Without room beside the place of the report the run stops before it writes. -/
theorem quiet_execute_of_no_room {fault : SystemFault} {report : Bytes}
    (viewless : settings.Viewless) (unlogged : settings.logFile = none)
    (opened : tree.read settings.input = .ok source)
    (made : settings.reportOf source = .ok report)
    (full : tree.findWritable (temporary settings.out) = .error fault) :
    Ensures (Quiet tree "") (Run.execute environment settings : StateM Session _) fun answer s =>
      (∃ error, answer = .error error) ∧ Quiet tree (parsingLine settings) s := by
  obtain ⟨product, produced, rfl, unseen⟩ := Run.exists_produce viewless made
  have unwritten : Ensures (Quiet tree (parsingLine settings))
      (FileHost.writeFile (temporary settings.out) product.content : StateM Session _)
      fun answer s => answer = .error fault ∧ Quiet tree (parsingLine settings) s := by
    intro s quiet
    have kept : s.writeFile (temporary settings.out) product.content = (.error fault, s) := by
      unfold writeFile Disk.writeFile Tree.write
      rw [quiet.mishaps, quiet.tree, full]
      rfl
    change (s.writeFile _ _).1 = _ ∧ Quiet _ _ (s.writeFile _ _).2
    rw [kept]
    exact ⟨rfl, quiet⟩
  have unreplaced : Ensures (Quiet tree (parsingLine settings))
      (replaceFile settings.out product.content : StateM Session _) fun answer s =>
        answer = .error (.fileWrite settings.out fault) ∧
          Quiet tree (parsingLine settings) s := by
    unfold replaceFile
    refine Ensures.bind_eq unwritten ?_
    exact Ensures.pure fun s quiet => ⟨rfl, quiet⟩
  have failed : Ensures (Quiet tree (parsingLine settings))
      (Run.write settings product : StateM Session _) fun answer s =>
        answer = .error (.failed (.fileWrite settings.out fault)) ∧
          Quiet tree (parsingLine settings) s := by
    unfold Run.write
    refine Ensures.bind_eq unreplaced ?_
    exact Ensures.pure fun s quiet => ⟨rfl, quiet⟩
  intro s quiet
  obtain ⟨given, last⟩ := quiet_execute_of_write unlogged opened produced unseen failed s quiet
  rw [closingLine, String.append_empty] at last
  exact ⟨⟨_, given⟩, last⟩

end Steps

/-! ## Whole runs -/

/-- A command line that is accepted leads to the run of its settings. -/
theorem ensures_command {environment : Environment} {arguments : List String}
    {settings : Settings} (read : Command.read environment arguments = .ok (.run settings))
    (accepted : settings.conflict? = none) {I : Session → Prop}
    {Q : Except RunError Unit → Session → Prop} {R : Nat → Session → Prop}
    (executed : Ensures I (Run.execute environment settings : StateM Session _) Q)
    (done : ∀ s, Q (.ok ()) s → R 0 s)
    (failed : ∀ error, Ensures (Q (.error error)) (Run.fail error : StateM Session Nat) R) :
    Ensures I (Run.command environment arguments : StateM Session Nat) R := by
  have checked : settings.check = .ok settings := by
    unfold Settings.check
    rw [accepted]
  unfold Run.command
  rw [read]
  dsimp only
  rw [checked]
  refine Ensures.bind executed fun answer => ?_
  cases answer with
  | ok result => exact Ensures.pure done
  | error error => exact failed error

/-- A run that fails gives the status for it and prints nothing more. -/
theorem ensures_command_of_error {environment : Environment} {arguments : List String}
    {settings : Settings} (read : Command.read environment arguments = .ok (.run settings))
    (accepted : settings.conflict? = none) {tree : Tree} {output : String} {I : Session → Prop}
    (executed : Ensures I (Run.execute environment settings : StateM Session _) fun answer s =>
      (∃ error, answer = .error error) ∧ Quiet tree output s) :
    Ensures I (Run.command environment arguments : StateM Session Nat) fun status s =>
      status = 1 ∧ Quiet tree output s := by
  refine ensures_command read accepted executed ?_ ?_
  · intro s done
    obtain ⟨⟨error, given⟩, -⟩ := done
    cases given
  · intro error
    have complained : Ensures
        (fun s => (∃ e, (.error error : Except RunError Unit) = .error e) ∧ Quiet tree output s)
        (Host.complain error.report : StateM Session Unit) fun _ => Quiet tree output :=
      fun s failed => quiet_complain error.report s failed.2
    exact complained.bind fun _ => Ensures.pure fun s quiet => ⟨rfl, quiet⟩

/-- **All or nothing.** A run that shows no view and keeps no log ends well if its report
can be made and there is room for it, with the report in its place, and the rest of the
files as they were. If no report can be made of its input, it fails, and all files are as
they were. -/
theorem all_or_nothing {environment : Environment} {arguments : List String} {settings : Settings}
    (read : Command.read environment arguments = .ok (.run settings))
    (accepted : settings.conflict? = none) (viewless : settings.Viewless)
    (unlogged : settings.logFile = none) (tree : Tree) (terminal : Script) (stamp : String) :
    let start : Session := { disk := { tree := tree }, terminal := terminal, stamp := stamp }
    let behind := start.run environment arguments
    (∀ content report place aside, tree.file? settings.input = some content →
      settings.reportOf (.ofBytes content) = .ok report →
      tree.place? settings.out = some place → tree.at? place ≠ some .folder →
      tree.place? (temporary settings.out) = some aside → tree.at? aside = none →
      behind.1 = 0 ∧ behind.2.output = parsingLine settings ++ "Done\n" ∧
        behind.2.disk.tree = tree.setFile place report) ∧
    ((∀ content report, tree.file? settings.input = some content →
        settings.reportOf (.ofBytes content) ≠ .ok report) →
      behind.1 = 1 ∧ behind.2.output = parsingLine settings ∧ behind.2.disk.tree = tree) := by
  intro start behind
  have quiet : Quiet tree "" start := ⟨rfl, rfl, rfl, rfl⟩
  constructor
  · intro content report place aside there made named free named' nothing
    have executed := @quiet_execute tree environment settings _ place aside report viewless
      unlogged (Tree.read_eq_ofBytes there) made named free named' nothing
    have ended := ensures_command read accepted executed
      (R := fun status s => status = 0 ∧
        Quiet (tree.setFile place report) (parsingLine settings ++ "Done\n") s)
      (fun s done => ⟨rfl, done.2⟩) (fun error s failed => nomatch failed.1)
    obtain ⟨status, last⟩ := ended start quiet
    exact ⟨status, last.output, last.tree⟩
  · intro none
    have unmade : ∀ source report, tree.read settings.input = .ok source →
        settings.reportOf source ≠ .ok report := by
      intro source report opened
      rcases Tree.file?_or_fault_of_read opened with ⟨content, there, rfl⟩ | rfl
      · exact none content report there
      · exact settings.reportOf_ne_ok_of_fault rfl rfl report
    have executed := @quiet_execute_of_ne_ok tree environment settings unlogged unmade
    obtain ⟨status, last⟩ := ensures_command_of_error read accepted executed start quiet
    exact ⟨status, last.output, last.tree⟩

/-- A report that takes the place of an old one; and a log whose last line is bad. -/
theorem report_replaced_or_nothing_changed :
    let arguments := ["-i", "i", "-o", "d/./o", "--report", "keyed", "--delimiter", "tab",
      "--value-field", "1"]
    let settings : Settings :=
      ⟨"i", "d/./o", .keyed, .tab, 0, 1, 1000, false, .auto, .warning, none, false⟩
    let before := (Tree.empty.setFolder ["d"]).setFile ["d", "o"] [0x61]
    let tree := before.setFile ["i"] (Bytes.ofText "b\t2\t7\na\t1\nb\t4\t9\r\n")
    let tree' := before.setFile ["i"] (Bytes.ofText "b\t2\t7\nb\tx")
    let report := Bytes.ofText "a\t1.0\t0.0\t1.0\t1.0\nb\t3.0\t1.0\t2.0\t4.0\n"
    Command.read {} arguments = .ok (.run settings) ∧ settings.conflict? = none ∧
      settings.Viewless ∧ settings.logFile = none ∧
      tree.place? settings.out = some ["d", "o"] ∧
      tree.place? (temporary settings.out) = some ["d", "o.tmp"] ∧
      ((on tree "").run {} arguments).1 = 0 ∧
      ((on tree "").run {} arguments).2.disk.tree = tree.setFile ["d", "o"] report ∧
      ((on tree' "").run {} arguments).1 = 1 ∧
      ((on tree' "").run {} arguments).2.disk.tree = tree' := by
  intro arguments settings before tree tree' report
  have read : Command.read {} arguments = .ok (.run settings) :=
    toOption_eq_some_iff.1 (by decide +kernel)
  have accepted : settings.conflict? = none := by decide +kernel
  have viewless : settings.Viewless := fun same => nomatch same
  have named : tree.place? settings.out = some ["d", "o"] := by decide +kernel
  have named' : tree.place? (temporary settings.out) = some ["d", "o.tmp"] := by decide +kernel
  have made : settings.reportOf (.ofBytes (Bytes.ofText "b\t2\t7\na\t1\nb\t4\t9\r\n")) =
      .ok report := toOption_eq_some_iff.1 (by decide +kernel)
  have good := (all_or_nothing read accepted viewless rfl tree noTerminal "").1 _ report _ _
    (by decide +kernel) made named (by decide +kernel) named' (by decide +kernel)
  have bad := (all_or_nothing read accepted viewless rfl tree' noTerminal "").2 (by
    intro content report there made
    have same : tree'.file? settings.input = some (Bytes.ofText "b\t2\t7\nb\tx") := by
      decide +kernel
    rw [there] at same
    cases same
    have failed : (settings.reportOf (.ofBytes (Bytes.ofText "b\t2\t7\nb\tx"))).toOption = none :=
      by decide +kernel
    rw [toOption_eq_some_iff.2 made] at failed
    cases failed)
  exact ⟨read, accepted, viewless, rfl, named, named', good.1, good.2.2, bad.1, bad.2.2⟩

/-! ## Long names -/

/-- A run that finds no room beside the place of its report fails, and all files are as
they were. -/
theorem no_room_no_report {environment : Environment} {arguments : List String}
    {settings : Settings} (read : Command.read environment arguments = .ok (.run settings))
    (accepted : settings.conflict? = none) (viewless : settings.Viewless)
    (unlogged : settings.logFile = none) {tree : Tree} {content report : Bytes}
    (there : tree.file? settings.input = some content)
    (made : settings.reportOf (.ofBytes content) = .ok report) {fault : SystemFault}
    (full : tree.findWritable (temporary settings.out) = .error fault) (stamp : String) :
    let behind := (on tree stamp).run environment arguments
    behind.1 = 1 ∧ behind.2.output = parsingLine settings ∧ behind.2.disk.tree = tree := by
  have quiet : Quiet tree "" (on tree stamp) := ⟨rfl, rfl, rfl, rfl⟩
  have executed := @quiet_execute_of_no_room tree environment settings _ fault report viewless
    unlogged (Tree.read_eq_ofBytes there) made full
  obtain ⟨status, last⟩ := ensures_command_of_error read accepted executed (on tree stamp) quiet
  exact ⟨status, last.output, last.tree⟩

theorem findWritable_of_route {tree : Tree} {path name : String}
    (followed : route path = .ok ⟨[], some name, false⟩) (short : name.utf8ByteSize ≤ longestName)
    (nothing : tree.at? [name] = none) : tree.findWritable path = .ok ([name], []) := by
  have looked : tree.look [] name = .ok none := Tree.look_eq_ok_iff.2 ⟨short, nothing⟩
  unfold Tree.findWritable
  rw [followed]
  simp only [ok_bind, Tree.walk, looked, Bool.false_eq_true, if_false, List.nil_append]

/-- Nothing is found under a name that is too long, and nothing can be written there. -/
theorem nameTooLong_of_route {tree : Tree} {path name : String}
    (followed : route path = .ok ⟨[], some name, false⟩) (long : longestName < name.utf8ByteSize) :
    tree.find path = .error .nameTooLong ∧ tree.findWritable path = .error .nameTooLong := by
  have looked : tree.look [] name = .error .nameTooLong := if_pos long
  unfold Tree.find Tree.findWritable
  rw [followed]
  simp only [ok_bind, Tree.walk, looked, Bool.false_eq_true, if_false]
  exact ⟨rfl, rfl⟩

/-- A text that begins with no hyphen is the value of the option in front of it. -/
theorem takeAll_cons_of_plain {value : String} {c : Char} {cs : List Char}
    (first : value.toList = c :: cs) (plain : c ≠ '-') (draft : Draft) (field : Field)
    (rest : List String) :
    Reading.takeAll ⟨draft, some ⟨field, none⟩⟩ (value :: rest) =
      Reading.takeAll ⟨draft, some ⟨field, some value⟩⟩ rest := by
  have other : value ≠ "--" := by
    intro same
    rw [same] at first
    cases first
    exact plain rfl
  have taken : Reading.take ⟨draft, some ⟨field, none⟩⟩ value =
      .ok (.more ⟨draft, some ⟨field, some value⟩⟩) := by
    unfold Reading.take
    rw [first]
    split
    · rename_i same
      cases same
      exact absurd rfl plain
    · rename_i same
      cases same
      exact absurd rfl plain
    · rfl
  rw [Reading.takeAll]
  · rw [taken]
  · exact fun same => absurd same other
  · exact fun _ _ same => absurd same other

/-- A command line that ends in the path of its report. -/
theorem read_keyed {out : String} {c : Char} {cs : List Char} (first : out.toList = c :: cs)
    (plain : c ≠ '-') :
    Command.read {} ["-i", "i", "--report", "keyed", "-o", out] =
      .ok (.run ⟨"i", out, .keyed, .space, 0, 2, 1000, false, .auto, .warning, none, false⟩) := by
  have nonempty : out ≠ "" := by
    intro same
    rw [same] at first
    cases first
  let draft : Draft := { input := some "i", report := some .keyed }
  have options : Reading.takeAll {} ["-i", "i", "--report", "keyed", "-o", out] =
      Reading.takeAll ⟨draft, some ⟨.out, none⟩⟩ [out] := rfl
  have value : Reading.takeAll ⟨draft, some ⟨.out, some out⟩⟩ [] =
      .ok (.inl { draft with out := some out }) := by
    have path : Draft.path .out out = .ok out := if_neg nonempty
    change Sum.inl <$> (fun p => _) <$> Draft.path .out out = _
    rw [path]
    rfl
  unfold Command.read
  rw [options, takeAll_cons_of_plain first plain, value]
  rfl

/-- A name that is nearly as long as a name can be leaves no room for a longer one beside
it: the report could be written at the name, and nothing stands beside it, but the run
fails. -/
theorem no_room_beside_name {c : Char} {cs : List Char} (hyphen : c ≠ '-') (plain : '/' ∉ c :: cs)
    (whole : '\x00' ∉ c :: cs) (long : 2 < (c :: cs).length)
    (most : (String.ofList (c :: cs)).utf8ByteSize ≤ longestName)
    (least : longestName < (String.ofList (c :: cs)).utf8ByteSize + 4) :
    let out := String.ofList (c :: cs)
    let log := Bytes.ofText "a x 1\n"
    let tree := Tree.empty.setFile ["i"] log
    let arguments := ["-i", "i", "--report", "keyed", "-o", out]
    let settings : Settings :=
      ⟨"i", out, .keyed, .space, 0, 2, 1000, false, .auto, .warning, none, false⟩
    let behind := (on tree "").run {} arguments
    Command.read {} arguments = .ok (.run settings) ∧ settings.conflict? = none ∧
      tree.findWritable out = .ok ([out], []) ∧ tree.entry? (temporary out) = none ∧
      tree.file? "i" = some log ∧
      settings.reportOf (.ofBytes log) = .ok (Bytes.ofText "a\t1.0\t0.0\t1.0\t1.0\n") ∧
      behind.1 = 1 ∧ behind.2.output = parsingLine settings ∧ behind.2.disk.tree = tree := by
  intro out log tree arguments settings behind
  have read : Command.read {} arguments = .ok (.run settings) :=
    read_keyed String.toList_ofList hyphen
  have alone : out ≠ "i" := by
    intro same
    have short := congrArg String.length same
    rw [String.length_ofList] at short
    change _ = 1 at short
    omega
  have accepted : settings.conflict? = none := by
    have differ : samePath "i" out = false := by
      rw [samePath, beq_eq_false_iff_ne]
      intro same
      have steps : (pathPieces "i").filter isStep = (pathPieces out).filter isStep :=
        congrArg PathShape.steps same
      have step : (pathPieces "i").filter isStep = ["i"] := by decide
      have occurs : "i" ∈ (pathPieces out).filter isStep := by
        rw [← steps, step]
        exact List.mem_singleton_self "i"
      rw [pathPieces_ofList plain] at occurs
      exact alone (List.mem_singleton.1 (List.mem_filter.1 occurs).1).symm
    have columns : ¬ (ReportKind.keyed = .keyed ∧ (0 : Nat) = 2) := by decide
    exact (if_neg columns).trans (if_neg (Bool.eq_false_iff.1 differ))
  have ending : temporary out = String.ofList (c :: cs ++ ".tmp".toList) := by
    rw [String.ofList_append, String.ofList_toList]
    rfl
  have size : (temporary out).utf8ByteSize = out.utf8ByteSize + 4 := by
    unfold temporary
    rw [String.utf8ByteSize_append]
    rfl
  have followed : route out = .ok ⟨[], some out, false⟩ :=
    route_ofList plain whole long (Nat.le_trans most (by decide))
  have followed' : route (temporary out) = .ok ⟨[], some (temporary out), false⟩ := by
    have short : out.utf8ByteSize + 4 ≤ longestPath :=
      Nat.le_trans (Nat.add_le_add_right most 4) (by decide)
    rw [← size, ending] at short
    rw [ending]
    refine route_ofList ?_ ?_ ?_ short
    · rw [List.mem_append]
      exact fun inside => inside.elim plain (by decide)
    · rw [List.mem_append]
      exact fun inside => inside.elim whole (by decide)
    · rw [List.length_append]
      omega
  have writable : tree.findWritable out = .ok ([out], []) := by
    refine findWritable_of_route followed most ?_
    rw [Tree.at?_setFile _ (List.cons_ne_nil _ _), if_neg (by simpa using alone)]
    rfl
  obtain ⟨missing, full⟩ := @nameTooLong_of_route tree _ _ followed' (by rw [size]; exact least)
  have nothing : tree.entry? (temporary out) = none := by
    unfold Tree.entry?
    rw [missing]
  have there : tree.file? "i" = some log := by decide +kernel
  have made : ((Analysis.byLabel .standard (.ofBytes log)).map fun a =>
      Bytes.ofText (Report.byLabel a.result)) = .ok (Bytes.ofText "a\t1.0\t0.0\t1.0\t1.0\n") :=
    toOption_eq_some_iff.1 (by decide +kernel)
  exact ⟨read, accepted, writable, nothing, there, made,
    no_room_no_report read accepted (fun same => nomatch same) rfl there made full ""⟩

/-- A name of 252 letters is such a name. -/
theorem no_room_beside_long_name :
    let out := String.ofList (List.replicate 252 'a')
    let log := Bytes.ofText "a x 1\n"
    let tree := Tree.empty.setFile ["i"] log
    let arguments := ["-i", "i", "--report", "keyed", "-o", out]
    let settings : Settings :=
      ⟨"i", out, .keyed, .space, 0, 2, 1000, false, .auto, .warning, none, false⟩
    let behind := (on tree "").run {} arguments
    Command.read {} arguments = .ok (.run settings) ∧ settings.conflict? = none ∧
      tree.findWritable out = .ok ([out], []) ∧ tree.entry? (temporary out) = none ∧
      tree.file? "i" = some log ∧
      settings.reportOf (.ofBytes log) = .ok (Bytes.ofText "a\t1.0\t0.0\t1.0\t1.0\n") ∧
      behind.1 = 1 ∧ behind.2.output = parsingLine settings ∧ behind.2.disk.tree = tree := by
  have size : (String.ofList (List.replicate 252 'a')).utf8ByteSize = 252 := by decide +kernel
  have letters : ∀ c, c ≠ 'a' → c ∉ List.replicate 252 'a' := fun c other inside =>
    other (List.eq_of_mem_replicate inside)
  rw [List.replicate_succ] at size letters ⊢
  refine no_room_beside_name (by decide) (letters '/' (by decide)) (letters '\x00' (by decide))
    ?_ ?_ ?_
  · rw [List.length_cons, List.length_replicate]
    decide
  · rw [size]
    decide
  · rw [size]
    decide

end Session

end Timings
