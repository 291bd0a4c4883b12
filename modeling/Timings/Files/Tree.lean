import Timings.Files.Path
import Timings.Line.Source
import Timings.SortedMap

/-!
Files and the folders that hold them.

A `Tree` says what there is at every location. Following a path through a tree
gives a location; the operations on files say what they change there, and the
fault for which they change nothing. Trees have neither links nor permissions: two
locations are two places, and an operation is refused for what there is, or for the
length of a name, and for nothing else.
-/

namespace Timings.Files

/-- A place in the tree: the names on the way from the root. -/
abbrev Location := List String

/-- What there is at a place: a file or a folder, but no link to another place. Who
may read or change it is not part of it. -/
inductive Entry where
  | file (content : Bytes)
  | folder
deriving DecidableEq, Repr

/-- The files and folders below a root, which is a folder itself. Without links, a
file is found at one location only. -/
@[ext] structure Tree where
  entries : SortedMap Location Entry

namespace Tree

/-- The tree without files. -/
def empty : Tree := ⟨.empty⟩

instance : Inhabited Tree := ⟨empty⟩

instance : DecidableEq Tree := fun s t =>
  decidable_of_iff (s.entries = t.entries) Tree.ext_iff.symm

/-- What there is at a location. -/
def at? (t : Tree) : Location → Option Entry
  | [] => some .folder
  | name :: names => t.entries.get? (name :: names)

/-- The tree with a file at a location. -/
def setFile (t : Tree) (location : Location) (content : Bytes) : Tree :=
  ⟨t.entries.insert location (.file content)⟩

/-- The tree with a folder at a location. -/
def setFolder (t : Tree) (location : Location) : Tree := ⟨t.entries.insert location .folder⟩

/-- The tree with nothing at a location. -/
def clear (t : Tree) (location : Location) : Tree := ⟨t.entries.erase location⟩

/-- A file changes what there is at its own place only. -/
theorem at?_setFile (t : Tree) {location : Location} (below : location ≠ []) (content : Bytes)
    (l : Location) :
    (t.setFile location content).at? l =
      if l = location then some (.file content) else t.at? l := by
  cases l with
  | nil => rw [if_neg fun same => below same.symm]; rfl
  | cons name names =>
    simp only [at?, setFile, SortedMap.get?_insert, Std.LawfulEqOrd.compare_eq_iff_eq]

/-- Clearing a place changes what there is at that place only. -/
theorem at?_clear (t : Tree) {location : Location} (below : location ≠ []) (l : Location) :
    (t.clear location).at? l = if l = location then none else t.at? l := by
  cases l with
  | nil => rw [if_neg fun same => below same.symm]; rfl
  | cons name names =>
    simp only [at?, clear, SortedMap.get?_erase, Std.LawfulEqOrd.compare_eq_iff_eq]

/-! ## Following paths -/

/-- What a name stands for in a folder. -/
def look (t : Tree) (folder : Location) (name : String) : Except SystemFault (Option Entry) :=
  if name.utf8ByteSize > longestName then .error .nameTooLong
  else .ok (t.at? (folder ++ [name]))

/-- The folder that steps lead to. There is nothing above the root but the root. -/
def walk (t : Tree) (folder : Location) : List String → Except SystemFault Location
  | [] => .ok folder
  | step :: steps =>
    if step = ".." then walk t folder.dropLast steps
    else
      match t.look folder step with
      | .error fault => .error fault
      | .ok none => .error .notFound
      | .ok (some (.file _)) => .error .notADirectory
      | .ok (some .folder) => walk t (folder ++ [step]) steps

/-- What a path leads to, and where. -/
def find (t : Tree) (path : String) : Except SystemFault (Location × Entry) := do
  let route ← route path
  let folder ← t.walk [] route.folders
  match route.name with
  | none => .ok (folder, .folder)
  | some name =>
    match ← t.look folder name with
    | none => .error .notFound
    | some (.file content) =>
      if route.slashed then .error .notADirectory else .ok (folder ++ [name], .file content)
    | some .folder => .ok (folder ++ [name], .folder)

/-- Where the file of a path is to be written, and what the file holds before; a
new file holds nothing. -/
def findWritable (t : Tree) (path : String) : Except SystemFault (Location × Bytes) := do
  let route ← route path
  let folder ← t.walk [] route.folders
  match route.name with
  | none => .error .isADirectory
  | some name =>
    if route.slashed then .error .isADirectory
    else
      match ← t.look folder name with
      | none => .ok (folder ++ [name], [])
      | some (.file content) => .ok (folder ++ [name], content)
      | some .folder => .error .isADirectory

/-! ## Operations -/

/-- The file of a path, opened for reading. A folder can be opened, but not read. -/
def read (t : Tree) (path : String) : Except SystemFault Source := do
  match ← t.find path with
  | (_, .file content) => .ok (.ofBytes content)
  | (_, .folder) => .ok ⟨[], [.fault .isADirectory]⟩

/-- Writes a file anew, or creates it. -/
def write (t : Tree) (path : String) (content : Bytes) : Except SystemFault Tree := do
  let (location, _) ← t.findWritable path
  .ok (t.setFile location content)

/-- Where a file is moved from and to, and what it holds. -/
structure Move where
  source : Location
  target : Location
  content : Bytes

/-- The move of the file of one path to another, in place of the file there. -/
def findMove (t : Tree) (path newPath : String) : Except SystemFault Move := do
  let route ← route path
  let newRoute ← Files.route newPath
  let folder ← t.walk [] route.folders
  let newFolder ← t.walk [] newRoute.folders
  match route.name, newRoute.name with
  | none, _ | _, none => .error .busy
  | some name, some newName =>
    match ← t.look folder name with
    | none => .error .notFound
    | some .folder => .error .isADirectory
    | some (.file content) =>
      let there ← t.look newFolder newName
      if route.slashed || newRoute.slashed then .error .notADirectory
      else if there = some .folder then .error .isADirectory
      else .ok ⟨folder ++ [name], newFolder ++ [newName], content⟩

/-- The tree after a move. -/
def move (t : Tree) (m : Move) : Tree := (t.clear m.source).setFile m.target m.content

/-- Moves the file of one path to another. -/
def rename (t : Tree) (path newPath : String) : Except SystemFault Tree :=
  t.move <$> t.findMove path newPath

/-- Where the file of a path is, to be removed. -/
def findRemovable (t : Tree) (path : String) : Except SystemFault Location := do
  match ← t.find path with
  | (location, .file _) => .ok location
  | (_, .folder) => .error .isADirectory

/-- Removes a file. -/
def remove (t : Tree) (path : String) : Except SystemFault Tree :=
  t.clear <$> t.findRemovable path

end Tree

end Timings.Files
