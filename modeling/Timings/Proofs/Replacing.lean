import Timings.Proofs.Requested
import Timings.Proofs.Runs

/-!
# Replacing a file

What a step on files can come to is said once: `Writes`, `Moves` and `Removes` have a case for
each end of the step. From these follows what the steps of a replacement preserve. As long as
only the temporary file is touched, all else is as it was (`SameBut`); and a path that held its
old entry or the new contents before a step does so behind it (`HeldThrough`).

* `replaceFile_all_or_nothing`: whichever of the steps fail, the file is replaced and nothing
  else is different, or the file is as it was and the failure names it.
-/

namespace Timings

open Files

namespace Files.Tree

variable {t t' t'' : Tree} {path : String} {place : Location}

/-! ## Trees that differ at one place -/

/-- Two trees are the same but for a file at the place of a path. -/
structure SameBut (t : Tree) (path : String) (t' : Tree) : Prop where
  folders : SameFolders t t'
  elsewhere : ∀ l, t.place? path ≠ some l → t'.at? l = t.at? l

namespace SameBut

theorem refl (t : Tree) (path : String) : SameBut t path t := ⟨SameFolders.refl t, fun _ _ => rfl⟩

theorem place?_eq (same : SameBut t path t') (other : String) : t'.place? other = t.place? other :=
  place?_congr same.folders other

/-- A step that changes the place of the path and no folder. -/
theorem step (same : SameBut t path t') (named : t'.place? path = some place)
    (folders : SameFolders t' t'') (only : ∀ l, l ≠ place → t''.at? l = t'.at? l) :
    SameBut t path t'' where
  folders := same.folders.trans folders
  elsewhere l other := by
    rw [only l, same.elsewhere l other]
    rintro rfl
    exact other ((same.place?_eq path).symm.trans named)

theorem setFile (same : SameBut t path t') (named : t'.place? path = some place)
    (free : t'.at? place ≠ some .folder) (content : Bytes) :
    SameBut t path (t'.setFile place content) :=
  have below := ne_nil_of_place? named
  same.step named (sameFolders_setFile below free content) fun l other =>
    (at?_setFile t' below content l).trans (if_neg other)

theorem clear (same : SameBut t path t') (named : t'.place? path = some place)
    (free : t'.at? place ≠ some .folder) : SameBut t path (t'.clear place) :=
  have below := ne_nil_of_place? named
  same.step named (sameFolders_clear below free) fun l other =>
    (at?_clear t' below l).trans (if_neg other)

/-- A path leads to what it led to if only its temporary file is another. -/
theorem entry?_eq (same : SameBut t (temporary path) t') : t'.entry? path = t.entry? path :=
  entry?_congr same.folders fun l named => same.elsewhere l (place?_temporary_ne named)

end SameBut

/-- Where a file could be written and none is, there is nothing. -/
theorem at?_eq_none (named : t.place? path = some place) (free : t.at? place ≠ some .folder)
    (none : t.file? path = none) : t.at? place = Option.none := by
  rcases there : t.at? place with _ | content | _
  · rfl
  · have found := find_eq_file_iff.2 ⟨named, there⟩
    unfold file? entry? at none
    rw [found] at none
    cases none
  · exact absurd there free

theorem entry?_setFile (named : t.place? path = some place) (free : t.at? place ≠ some .folder)
    (content : Bytes) : entry? (t.setFile place content) path = some (.file content) := by
  have below := ne_nil_of_place? named
  have kept := place?_congr (sameFolders_setFile below free content) path
  have found := find_eq_file_iff.2 ⟨kept.trans named, (at?_setFile t below content place).trans
    (if_pos rfl)⟩
  unfold entry?
  rw [found]

theorem file?_eq_some_iff {content : Bytes} :
    t.file? path = some content ↔ t.entry? path = some (.file content) := by
  unfold file?
  rcases t.entry? path with _ | _ | _ <;> simp

/-- Replacing a file leaves its temporary file alone. -/
theorem file?_temporary_setFile (named : t.place? path = some place)
    (free : t.at? place ≠ some .folder) (content : Bytes) :
    (t.setFile place content).file? (temporary path) = t.file? (temporary path) := by
  have below := ne_nil_of_place? named
  have same :
      entry? (t.setFile place content) (temporary path) = t.entry? (temporary path) := by
    refine entry?_congr (sameFolders_setFile below free content) fun aside beside => ?_
    rw [at?_setFile t below, if_neg]
    rintro rfl
    exact place?_temporary_ne named beside
  unfold file?
  rw [same]

end Files.Tree

namespace Files.Disk

variable {d d' d'' : Disk} {path : String} {content : Bytes} {answer : Except SystemFault Unit}

/-! ## What steps come to -/

/-- What writing a file comes to: the file has the contents, or it has a first part of them and
the step has failed, or nothing is different. -/
inductive Writes (d : Disk) (path : String) (content : Bytes) :
    Except SystemFault Unit → Disk → Prop
  | done {place : Location} (named : d.tree.place? path = some place)
      (free : d.tree.at? place ≠ some .folder) :
    Writes d path content (.ok ()) (d.become (d.tree.setFile place content))
  | torn {place : Location} (named : d.tree.place? path = some place)
      (free : d.tree.at? place ≠ some .folder) (count : Nat) (fault : SystemFault) :
    Writes d path content (.error fault) (d.become (d.tree.setFile place (content.take count)))
  | refused (fault : SystemFault) : Writes d path content (.error fault) d

/-- What moving a file comes to. -/
inductive Moves (d : Disk) (path newPath : String) : Except SystemFault Unit → Disk → Prop
  | done {m : Tree.Move} (found : d.tree.findMove path newPath = .ok m) :
    Moves d path newPath (.ok ()) (d.become (d.tree.move m))
  | refused (fault : SystemFault) : Moves d path newPath (.error fault) d

/-- What removing a file comes to. -/
inductive Removes (d : Disk) (path : String) : Except SystemFault Unit → Disk → Prop
  | done {place : Location} (named : d.tree.place? path = some place)
      (free : d.tree.at? place ≠ some .folder) :
    Removes d path (.ok ()) (d.become (d.tree.clear place))
  | refused (fault : SystemFault) : Removes d path (.error fault) d

theorem writes_writeFile (d : Disk) (path : String) (content : Bytes) :
    d.Writes path content (d.writeFile path content).1 (d.writeFile path content).2 := by
  unfold writeFile Tree.write
  cases found : d.tree.findWritable path with
  | error fault =>
      rcases d.mishaps.writeFile with _ | ⟨_ | count, mishap⟩ <;> exact .refused _
  | ok p =>
      obtain ⟨place, before⟩ := p
      obtain ⟨named, free⟩ := Tree.place?_of_findWritable found
      rcases d.mishaps.writeFile with _ | ⟨_ | count, mishap⟩
      · exact .done named free
      · exact .refused _
      · exact .torn named free count mishap

theorem moves_renameFile (d : Disk) (path newPath : String) :
    d.Moves path newPath (d.renameFile path newPath).1 (d.renameFile path newPath).2 := by
  unfold renameFile Tree.rename
  cases d.mishaps.renameFile with
  | some mishap => exact .refused _
  | none =>
      cases found : d.tree.findMove path newPath with
      | error fault => exact .refused _
      | ok m => exact .done found

theorem removes_removeFile (d : Disk) (path : String) :
    d.Removes path (d.removeFile path).1 (d.removeFile path).2 := by
  unfold removeFile Tree.remove
  cases d.mishaps.removeFile with
  | some mishap => exact .refused _
  | none =>
      cases found : d.tree.findRemovable path with
      | error fault => exact .refused _
      | ok place =>
          obtain ⟨named, free⟩ := Tree.place?_of_findRemovable found
          exact .done named free

theorem Moves.eq_of_error {newPath : String} {fault : SystemFault}
    (moves : d.Moves path newPath (.error fault) d') : d' = d := by
  cases moves
  rfl

/-! ## What steps preserve -/

/-- Since the disk was in another state, a path has held its entry there or the contents. -/
def HeldThrough (start : Disk) (path : String) (content : Bytes) (d : Disk) : Prop :=
  ∃ passed, d.past = passed ++ start.past ∧ ∀ t ∈ d.tree :: passed,
    t.entry? path = start.tree.entry? path ∨ t.entry? path = some (.file content)

theorem HeldThrough.become {start : Disk} {t : Tree} (held : start.HeldThrough path content d)
    (still : t.entry? path = start.tree.entry? path ∨ t.entry? path = some (.file content)) :
    start.HeldThrough path content (d.become t) := by
  obtain ⟨passed, past, all⟩ := held
  exact ⟨d.tree :: passed, congrArg _ past, List.forall_mem_cons.2 ⟨still, all⟩⟩

/-- As long as the temporary file is not moved, nothing else is different. -/
structure Unmoved (start : Disk) (path : String) (content : Bytes) (d : Disk) : Prop where
  same : start.tree.SameBut (temporary path) d.tree
  held : start.HeldThrough path content d

namespace Unmoved

variable {start : Disk} {t : Tree} {part : Bytes}

theorem refl (d : Disk) (path : String) (content : Bytes) : d.Unmoved path content d where
  same := .refl _ _
  held := by
    refine ⟨[], rfl, fun t inside => .inl ?_⟩
    rw [List.mem_singleton.1 inside]

theorem become (before : start.Unmoved path content d)
    (same : start.tree.SameBut (temporary path) t) : start.Unmoved path content (d.become t) :=
  ⟨same, before.held.become (.inl same.entry?_eq)⟩

theorem writes (before : start.Unmoved path content d)
    (writes : d.Writes (temporary path) part answer d') : start.Unmoved path content d' := by
  cases writes with
  | done named free => exact before.become (before.same.setFile named free part)
  | torn named free count _ =>
      exact before.become (before.same.setFile named free (part.take count))
  | refused _ => exact before

theorem removes (before : start.Unmoved path content d)
    (removes : d.Removes (temporary path) answer d') : start.Unmoved path content d' := by
  cases removes with
  | done named free => exact before.become (before.same.clear named free)
  | refused _ => exact before

end Unmoved

/-! ## The steps of a replacement -/

/-- A file that is written where there was none. -/
theorem Writes.exists_place (free : d.tree.file? path = none)
    (writes : d.Writes path content (.ok ()) d') :
    ∃ place, d.tree.place? path = some place ∧ d.tree.at? place = none ∧
      d' = d.become (d.tree.setFile place content) := by
  cases writes with
  | @done place named vacant => exact ⟨place, named, Tree.at?_eq_none named vacant free, rfl⟩

/-- A temporary file that was written and then moved leaves nothing else behind. -/
theorem exists_of_moves (free : d.tree.file? (temporary path) = none)
    (writes : d.Writes (temporary path) content (.ok ()) d')
    (moves : d'.Moves (temporary path) path (.ok ()) d'') :
    ∃ place, d.tree.place? path = some place ∧ d.tree.at? place ≠ some .folder ∧
      d'' = d'.become (d.tree.setFile place content) := by
  have same := ((Unmoved.refl d path content).writes writes).same
  obtain ⟨aside, named, nothing, rfl⟩ := writes.exists_place free
  have below := Tree.ne_nil_of_place? named
  cases moves with
  | @done m found =>
      obtain ⟨⟨source, there⟩, target, room⟩ := Tree.places_of_findMove found
      rw [same.place?_eq] at source target
      obtain rfl := Option.some.inj (named.symm.trans source)
      refine ⟨m.target, target, fun folder => room ((same.folders _).1 folder), ?_⟩
      have moved : m.content = content := by
        have written := Tree.at?_setFile d.tree below content m.source
        rw [if_pos rfl] at written
        exact Entry.file.inj (Option.some.inj (there.symm.trans written))
      change become _ (((d.tree.setFile m.source content).clear m.source).setFile m.target
        m.content) = _
      rw [Tree.clear_setFile_of_free below nothing, moved]

/-- A temporary file that was written and is then removed leaves nothing behind. -/
theorem tree_of_removes (free : d.tree.file? (temporary path) = none)
    (writes : d.Writes (temporary path) content (.ok ()) d')
    (removes : d'.Removes (temporary path) (.ok ()) d'') : d''.tree = d.tree := by
  have same := ((Unmoved.refl d path content).writes writes).same
  obtain ⟨aside, named, nothing, rfl⟩ := writes.exists_place free
  cases removes with
  | @done place found _ =>
      rw [same.place?_eq] at found
      obtain rfl := Option.some.inj (named.symm.trans found)
      exact Tree.clear_setFile_of_free (Tree.ne_nil_of_place? named) nothing content

end Files.Disk

namespace Session

variable {s s₁ s₂ : Session} {path : String} {content : Bytes}

theorem writes_writeFile (s : Session) (path : String) (content : Bytes) :
    s.disk.Writes path content (s.writeFile path content).1 (s.writeFile path content).2.disk :=
  s.disk.writes_writeFile path content

theorem moves_renameFile (s : Session) (path newPath : String) :
    s.disk.Moves path newPath (s.renameFile path newPath).1 (s.renameFile path newPath).2.disk := by
  have moves := s.disk.moves_renameFile path newPath
  unfold renameFile
  generalize s.disk.renameFile path newPath = moved at moves
  obtain ⟨fault | ⟨⟩, disk⟩ := moved
  · exact moves
  · cases s.disk.tree.findMove path newPath <;> exact moves

theorem removes_removeFile (s : Session) (path : String) :
    s.disk.Removes path (s.removeFile path).1 (s.removeFile path).2.disk := by
  have removes := s.disk.removes_removeFile path
  unfold removeFile
  generalize s.disk.removeFile path = removed at removes
  obtain ⟨fault | ⟨⟩, disk⟩ := removed
  · exact removes
  · cases s.disk.tree.findRemovable path <;> exact removes

/-! ## The steps of a replacement, one after the other -/

theorem run_of_unwritten {fault : SystemFault}
    (written : s.writeFile (temporary path) content = (.error fault, s₁)) :
    (replaceFile path content : StateM Session _).run s = (.error (.fileWrite path fault), s₁) := by
  have first : (FileHost.writeFile (temporary path) content : StateM Session _).run s = _ := written
  rw [replaceFile, StateT.run_bind, first]
  rfl

theorem run_of_unmoved {fault : SystemFault}
    (written : s.writeFile (temporary path) content = (.ok (), s₁))
    (moved : s₁.renameFile (temporary path) path = (.error fault, s₂)) :
    (replaceFile path content : StateM Session _).run s =
      (.error (.fileWrite path fault), (s₂.removeFile (temporary path)).2) := by
  have first : (FileHost.writeFile (temporary path) content : StateM Session _).run s =
      pure (.ok (), s₁) := written
  have second : (FileHost.renameFile (temporary path) path : StateM Session _).run s₁ = _ := moved
  rw [replaceFile, StateT.run_bind, first, pure_bind]
  dsimp only
  rw [StateT.run_bind, second]
  rfl

theorem run_of_moved (written : s.writeFile (temporary path) content = (.ok (), s₁))
    (moved : s₁.renameFile (temporary path) path = (.ok (), s₂)) :
    (replaceFile path content : StateM Session _).run s = (.ok (), s₂) := by
  have first : (FileHost.writeFile (temporary path) content : StateM Session _).run s =
      pure (.ok (), s₁) := written
  have second : (FileHost.renameFile (temporary path) path : StateM Session _).run s₁ = _ := moved
  rw [replaceFile, StateT.run_bind, first, pure_bind]
  dsimp only
  rw [StateT.run_bind, second]
  rfl

/-- **Replacing a file.** Where no file stands in the way of the temporary one, the path holds
its old entry or the new contents at any time. If the temporary file is written and moved, the
contents are at the place of the path and nothing else is different. If one of these steps fails,
the failure names the path and has the fault of the step, and at most the temporary file is
another; also this one is gone if it was written and could be removed. -/
theorem replaceFile_all_or_nothing (free : s.disk.tree.file? (temporary path) = none)
    (content : Bytes) :
    let tree := s.disk.tree
    let written := s.writeFile (temporary path) content
    let moved := written.2.renameFile (temporary path) path
    let removed := moved.2.removeFile (temporary path)
    let result := (replaceFile path content : StateM Session _).run s
    let behind := result.2.disk
    s.disk.HeldThrough path content behind ∧
      (written.1 = .ok () → moved.1 = .ok () →
        result.1 = .ok () ∧ behind.tree.file? path = some content ∧
          behind.tree.file? (temporary path) = none ∧
          ∃ place, tree.place? path = some place ∧ behind.tree = tree.setFile place content) ∧
      (∀ fault, written.1 = .error fault ∨ written.1 = .ok () ∧ moved.1 = .error fault →
        result.1 = .error (.fileWrite path fault) ∧
          behind.tree.entry? path = tree.entry? path ∧
          tree.SameBut (temporary path) behind.tree) ∧
      ∀ fault, written.1 = .ok () → moved.1 = .error fault → removed.1 = .ok () →
        behind.tree = tree := by
  intro tree written moved removed result behind
  have writes : s.disk.Writes (temporary path) content written.1 written.2.disk :=
    s.writes_writeFile (temporary path) content
  have moves : written.2.disk.Moves (temporary path) path moved.1 moved.2.disk :=
    written.2.moves_renameFile (temporary path) path
  have removes : moved.2.disk.Removes (temporary path) removed.1 removed.2.disk :=
    moved.2.removes_removeFile (temporary path)
  have unmoved := (Disk.Unmoved.refl s.disk path content).writes writes
  rcases writing : written.1 with fault | ⟨⟩
  · have run : result = _ := run_of_unwritten (Prod.ext writing rfl : written = (_, written.2))
    have left : behind = written.2.disk := congrArg (·.2.disk) run
    rw [run, left]
    refine ⟨unmoved.held, nofun, fun other failed => ?_, nofun⟩
    rcases failed with first | ⟨first, -⟩
    · cases first
      exact ⟨rfl, unmoved.same.entry?_eq, unmoved.same⟩
    · cases first
  · rw [writing] at writes
    rcases moving : moved.1 with fault | ⟨⟩
    · have run : result = _ := run_of_unmoved (Prod.ext writing rfl : written = (_, written.2))
        (Prod.ext moving rfl : moved = (_, moved.2))
      have left : behind = removed.2.disk := congrArg (·.2.disk) run
      rw [moving] at moves
      have unmoved := (moves.eq_of_error ▸ unmoved).removes removes
      rw [run, left]
      refine ⟨unmoved.held, nofun, fun other failed => ?_, fun _ _ _ removing => ?_⟩
      · rcases failed with first | ⟨-, second⟩
        · cases first
        · cases second
          exact ⟨rfl, unmoved.same.entry?_eq, unmoved.same⟩
      · rw [moves.eq_of_error, removing] at removes
        exact Disk.tree_of_removes free writes removes
    · have run : result = _ := run_of_moved (Prod.ext writing rfl : written = (_, written.2))
        (Prod.ext moving rfl : moved = (_, moved.2))
      have left : behind = moved.2.disk := congrArg (·.2.disk) run
      rw [moving] at moves
      obtain ⟨place, named, room, same⟩ := Disk.exists_of_moves free writes moves
      have there := Tree.entry?_setFile named room content
      rw [run, left, same]
      refine ⟨unmoved.held.become (.inr there), fun _ _ => ⟨rfl, ?_, ?_, place, named, rfl⟩,
        fun other failed => ?_, nofun⟩
      · exact Tree.file?_eq_some_iff.2 there
      · exact (Tree.file?_temporary_setFile named room content).trans free
      · rcases failed with first | ⟨-, second⟩
        · cases first
        · cases second

/-- A file in a folder is replaced; it is kept where the temporary file cannot be moved and is
removed again, and where only a byte of it can be written. -/
theorem replaceFile_through_mishaps :
    let tree := (Tree.empty.setFolder ["d"]).setFile ["d", "o"] [0x61]
    let s (mishaps : Mishaps) : Session := ⟨⟨tree, [], mishaps⟩, noTerminal, "", "", "", .errors⟩
    let behind (mishaps : Mishaps) : Disk :=
      ((replaceFile "d/o" [0x62, 0x63] : StateM Session _).run (s mishaps)).2.disk
    let unmovable : Mishaps := { renameFile := some .busy }
    let full : Mishaps := { writeFile := some (some 1, .reported .other "No space left on device") }
    tree.file? (temporary "d/o") = none ∧
      (behind {}).tree.file? "d/o" = some [0x62, 0x63] ∧
      (behind {}).tree.file? (temporary "d/o") = none ∧
      (behind unmovable).tree = tree ∧
      (s full).disk.HeldThrough "d/o" [0x62, 0x63] (behind full) ∧
      (behind full).tree.file? "d/o" = some [0x61] ∧
      (behind full).tree.file? (temporary "d/o") = some [0x62] := by
  intro tree s behind unmovable full
  have nothing : tree.file? (temporary "d/o") = none := by decide +kernel
  have free (mishaps : Mishaps) : (s mishaps).disk.tree.file? (temporary "d/o") = none := nothing
  obtain ⟨-, replaced, -⟩ := replaceFile_all_or_nothing (free {}) [0x62, 0x63]
  obtain ⟨-, contents, temporary_gone, -⟩ := replaced rfl rfl
  obtain ⟨-, -, -, undone⟩ := replaceFile_all_or_nothing (free unmovable) [0x62, 0x63]
  obtain ⟨held, -, -, -⟩ := replaceFile_all_or_nothing (free full) [0x62, 0x63]
  exact ⟨nothing, contents, temporary_gone, undone .busy rfl rfl rfl, held, by decide +kernel,
    by decide +kernel⟩

end Session

end Timings
