import Timings.Files.Tree

/-!
Replacing a file in one step.

The new contents go to a file beside the old one, which is then moved over it. At
no time does the path hold anything else than the old or the new contents.
-/

namespace Timings.Files

/-- What replacing a file needs. -/
class FileHost (m : Type → Type) where
  /-- Writes a file anew, or creates it. -/
  writeFile : String → Bytes → m (Except SystemFault Unit)
  /-- Moves a file, in place of the one there. -/
  renameFile : String → String → m (Except SystemFault Unit)
  removeFile : String → m (Except SystemFault Unit)

/-- The path of the file beside another that its new contents go to. -/
def temporary (path : String) : String := path ++ ".tmp"

/-- Replaces the contents of a file, or creates it. If the move fails, the file
beside it is removed again, as far as that is possible. -/
def replaceFile {m : Type → Type} [Monad m] [FileHost m] (path : String) (content : Bytes) :
    m (Except Failure Unit) := do
  match ← FileHost.writeFile (temporary path) content with
  | .error fault => return .error (.fileWrite path fault)
  | .ok () =>
    match ← FileHost.renameFile (temporary path) path with
    | .ok () => return .ok ()
    | .error fault =>
      let _ ← FileHost.removeFile (m := m) (temporary path)
      return .error (.fileWrite path fault)

/-! ## On a tree of files -/

/-- Faults that strike beyond what a tree refuses by itself; a missing permission
shows up as one of them. -/
structure Mishaps where
  /-- Opening a file for reading fails. -/
  openFile : Option SystemFault := none
  /-- Reading it fails behind so many bytes. -/
  readFile : Option (Nat × SystemFault) := none
  /-- Writing fails, before there is a file, or when it holds so many bytes. -/
  writeFile : Option (Option Nat × SystemFault) := none
  /-- Moving fails. -/
  renameFile : Option SystemFault := none
  /-- Removing fails. -/
  removeFile : Option SystemFault := none

/-- A tree of files in use. -/
structure Disk where
  tree : Tree
  /-- The trees there were before, the last one first. -/
  past : List Tree := []
  mishaps : Mishaps := {}

namespace Disk

/-- The disk with another tree. -/
def become (d : Disk) (tree : Tree) : Disk := { d with tree := tree, past := d.tree :: d.past }

/-- What comes of a step that gives a new tree or fails. -/
def step (d : Disk) : Except SystemFault Tree → Except SystemFault Unit × Disk
  | .ok tree => (.ok (), d.become tree)
  | .error fault => (.error fault, d)

/-- Opens a file for reading. -/
def openFile (d : Disk) (path : String) : Except SystemFault Source := do
  let source ← d.tree.read path
  match d.mishaps.openFile, d.mishaps.readFile with
  | some fault, _ => .error fault
  | none, some (count, fault) =>
    .ok ⟨source.pending.take count, .fault fault :: source.deliveries⟩
  | none, none => .ok source

/-- Writes a file. -/
def writeFile (d : Disk) (path : String) (content : Bytes) : Except SystemFault Unit × Disk :=
  match d.mishaps.writeFile with
  | none => d.step (d.tree.write path content)
  | some (some count, fault) =>
    let (answer, d) := d.step (d.tree.write path (content.take count))
    (answer.bind fun _ => .error fault, d)
  | some (none, fault) => (.error fault, d)

/-- Moves a file. -/
def renameFile (d : Disk) (path newPath : String) : Except SystemFault Unit × Disk :=
  match d.mishaps.renameFile with
  | none => d.step (d.tree.rename path newPath)
  | some fault => (.error fault, d)

/-- Removes a file. -/
def removeFile (d : Disk) (path : String) : Except SystemFault Unit × Disk :=
  match d.mishaps.removeFile with
  | none => d.step (d.tree.remove path)
  | some fault => (.error fault, d)

instance : FileHost (StateM Disk) where
  writeFile path content := fun d => d.writeFile path content
  renameFile path newPath := fun d => d.renameFile path newPath
  removeFile path := fun d => d.removeFile path

end Disk

end Timings.Files
