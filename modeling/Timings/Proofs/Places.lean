import Timings.Files.Replace
import Timings.Proofs.Outcomes

/-!
Places: where the files of paths are, whether there are files or not.

Operations on files make and remove no folders, so a path has the same place before
and after them (`place?_congr`), and what it leads to changes only if the file at its
place does (`entry?_congr`). Each operation is said here by the places it changes.
The file beside another that its new contents go to has a place of its own
(`place?_temporary_ne`).
-/

namespace Timings

namespace Text

theorem pieces_of_notMem {delimiter : Char} {cs : List Char} (whole : delimiter ∉ cs) :
    pieces delimiter cs = [cs] := by
  induction cs with
  | nil => rfl
  | cons c cs ih =>
      rw [List.mem_cons, not_or] at whole
      rw [pieces, if_neg (Ne.symm whole.1), ih whole.2]

/-- A text without delimiters behind another becomes part of its last piece. -/
theorem pieces_append_of_notMem {delimiter : Char} {more : List Char} (whole : delimiter ∉ more)
    (cs : List Char) : ∃ before piece, pieces delimiter cs = before ++ [piece] ∧
      pieces delimiter (cs ++ more) = before ++ [piece ++ more] := by
  induction cs with
  | nil => exact ⟨[], [], rfl, pieces_of_notMem whole⟩
  | cons c cs ih =>
      obtain ⟨before, piece, cut, longer⟩ := ih
      rw [List.cons_append, pieces, pieces, cut, longer]
      by_cases ends : c = delimiter
      · exact ⟨[] :: before, piece, by rw [if_pos ends]; rfl, by rw [if_pos ends]; rfl⟩
      · rw [if_neg ends, if_neg ends]
        cases before with
        | nil => exact ⟨[], c :: piece, rfl, rfl⟩
        | cons first before => exact ⟨(c :: first) :: before, piece, rfl, rfl⟩

end Text

namespace Files

/-! ## The path of a temporary file -/

theorem slashed_routeOf_true (reversed : List String) : (routeOf true reversed).slashed = true := by
  induction reversed with
  | nil => rfl
  | cons piece before ih =>
      rw [routeOf]
      split
      · exact ih
      · split
        · rfl
        · split <;> rfl

/-- The route to a file ends in the last piece of its path. -/
theorem routeOf_eq_name_iff {reversed folders : List String} {name : String} :
    routeOf false reversed = ⟨folders, some name, false⟩ ↔
      ∃ before, reversed = name :: before ∧ folders = before.reverse.filter isStep ∧
        name ≠ "" ∧ name ≠ "." ∧ name ≠ ".." := by
  cases reversed with
  | nil => simp [routeOf]
  | cons piece before =>
      rw [routeOf]
      by_cases empty : piece = ""
      · rw [if_pos empty]
        constructor
        · intro same
          have slashed := slashed_routeOf_true before
          rw [same] at slashed
          cases slashed
        · rintro ⟨_, same, -, nonempty, -⟩
          cases same
          exact absurd empty nonempty
      · rw [if_neg empty]
        by_cases dot : piece = "."
        · rw [if_pos dot]
          simp only [Route.mk.injEq, reduceCtorEq, false_and, and_false, false_iff]
          rintro ⟨_, same, -, -, other, -⟩
          cases same
          exact other dot
        · rw [if_neg dot]
          by_cases up : piece = ".."
          · rw [if_pos up]
            simp only [Route.mk.injEq, reduceCtorEq, false_and, and_false, false_iff]
            rintro ⟨_, same, -, -, -, other⟩
            cases same
            exact other up
          · rw [if_neg up]
            simp only [Route.mk.injEq, Option.some.injEq, and_true, List.cons.injEq]
            constructor
            · rintro ⟨rfl, rfl⟩
              exact ⟨before, ⟨rfl, rfl⟩, rfl, empty, dot, up⟩
            · rintro ⟨_, ⟨rfl, rfl⟩, rfl, -⟩
              exact ⟨rfl, rfl⟩

theorem route_ok {path : String} {r : Route} (followed : route path = .ok r) :
    routeOf false (pathPieces path).reverse = r := by
  unfold route at followed
  split at followed
  · cases followed
  · split at followed
    · cases followed
    · split at followed
      · cases followed
      · exact Except.ok.inj followed

theorem pathPieces_ofList {name : List Char} (plain : '/' ∉ name) :
    pathPieces (String.ofList name) = [String.ofList name] := by
  unfold pathPieces
  rw [String.toList_ofList, Text.pieces_of_notMem plain]
  rfl

/-- A name is the path of a file in the root. -/
theorem route_ofList {name : List Char} (plain : '/' ∉ name) (whole : '\x00' ∉ name)
    (long : 2 < name.length) (short : (String.ofList name).utf8ByteSize ≤ longestPath) :
    route (String.ofList name) = .ok ⟨[], some (String.ofList name), false⟩ := by
  have other : ∀ cs : List Char, cs.length ≤ 2 → String.ofList name ≠ String.ofList cs := by
    intro cs few same
    rw [String.ofList_injective same] at long
    omega
  have final : routeOf false [String.ofList name] = ⟨[], some (String.ofList name), false⟩ :=
    routeOf_eq_name_iff.2 ⟨[], rfl, rfl, other [] (by decide), other ['.'] (by decide),
      other ['.', '.'] (by decide)⟩
  have unbroken : name.contains '\x00' = false := by simpa using whole
  unfold route
  rw [String.toList_ofList, unbroken, if_neg Bool.false_ne_true, if_neg (other [] (by decide)),
    if_neg (Nat.not_lt.2 short), pathPieces_ofList plain]
  exact congrArg Except.ok final

theorem pathPieces_temporary (path : String) : ∃ before piece,
    pathPieces path = before ++ [piece] ∧ pathPieces (temporary path) = before ++ [piece ++ ".tmp"] := by
  have plain : '/' ∉ ".tmp".toList := by decide
  obtain ⟨before, piece, cut, longer⟩ := Text.pieces_append_of_notMem plain path.toList
  refine ⟨before.map String.ofList, String.ofList piece, ?_, ?_⟩
  · rw [pathPieces, cut, List.map_append]
    rfl
  · rw [pathPieces, temporary, String.toList_append, longer, List.map_append, List.map_singleton,
      String.ofList_append, String.ofList_toList]

/-- The temporary file stands in the folder of the file, under a longer name. -/
theorem route_temporary {path : String} {folders : List String} {name : String} {r : Route}
    (file : route path = .ok ⟨folders, some name, false⟩) (followed : route (temporary path) = .ok r) :
    r = ⟨folders, some (name ++ ".tmp"), false⟩ := by
  obtain ⟨before, piece, cut, longer⟩ := pathPieces_temporary path
  have shorter := route_ok file
  rw [cut, List.reverse_append] at shorter
  obtain ⟨_, same, rfl, -⟩ := routeOf_eq_name_iff.1 shorter
  cases same
  rw [← route_ok followed, longer, List.reverse_append]
  refine routeOf_eq_name_iff.2 ⟨before.reverse, rfl, rfl, ?_⟩
  -- a name that is empty, a dot or two dots is shorter than the ending
  have long : 4 ≤ (name ++ ".tmp").toList.length := by
    rw [String.toList_append, List.length_append]
    exact Nat.le_add_left 4 name.toList.length
  refine ⟨?_, ?_, ?_⟩ <;> intro same <;> rw [same] at long <;> revert long <;> decide

namespace Tree

/-! ## Places -/

/-- The place of the file that a path names, whether there is one or not. -/
def place? (t : Tree) (path : String) : Option Location :=
  match route path with
  | .error _ => none
  | .ok r =>
    match t.walk [] r.folders, r.name with
    | .ok folder, some name =>
      if r.slashed ∨ longestName < name.utf8ByteSize then none else some (folder ++ [name])
    | _, _ => none

/-- What a path leads to, if it leads to anything. -/
def entry? (t : Tree) (path : String) : Option Entry :=
  match t.find path with
  | .ok (_, entry) => some entry
  | .error _ => none

/-- The bytes of the file that a path leads to. -/
def file? (t : Tree) (path : String) : Option Bytes :=
  match t.entry? path with
  | some (.file content) => some content
  | _ => none

/-- A place, and how the path leads there. -/
theorem place?_eq_some_iff {t : Tree} {path : String} {l : Location} :
    t.place? path = some l ↔ ∃ folders name folder, route path = .ok ⟨folders, some name, false⟩ ∧
      t.walk [] folders = .ok folder ∧ name.utf8ByteSize ≤ longestName ∧ l = folder ++ [name] := by
  unfold place?
  constructor
  · intro named
    split at named
    · cases named
    · rename_i r followed
      obtain ⟨folders, name?, slashed⟩ := r
      split at named
      · rename_i folder name walked same
        cases same
        split at named
        · cases named
        · rename_i short
          rw [not_or, Nat.not_lt] at short
          cases slashed with
          | true => exact absurd rfl short.1
          | false => exact ⟨folders, name, folder, followed, walked, short.2, (Option.some.inj named).symm⟩
      · cases named
  · rintro ⟨folders, name, folder, followed, walked, short, rfl⟩
    simp only [followed, walked]
    rw [if_neg]
    rintro (slashed | long)
    · cases slashed
    · omega

theorem ne_nil_of_place? {t : Tree} {path : String} {l : Location} (named : t.place? path = some l) :
    l ≠ [] := by
  obtain ⟨_, _, folder, -, -, -, rfl⟩ := place?_eq_some_iff.1 named
  exact List.append_ne_nil_of_right_ne_nil folder (List.cons_ne_nil _ [])

/-- **Temporary files.** A file and its temporary file never share a place. -/
theorem place?_temporary_ne {t : Tree} {path : String} {l : Location}
    (named : t.place? path = some l) : t.place? (temporary path) ≠ some l := by
  intro same
  obtain ⟨folders, name, folder, followed, walked, -, rfl⟩ := place?_eq_some_iff.1 named
  obtain ⟨_, _, folder', followed', walked', -, equal⟩ := place?_eq_some_iff.1 same
  cases route_temporary followed followed'
  rw [walked] at walked'
  cases walked'
  have names := List.append_cancel_left equal
  have longer := congrArg String.length (List.cons.inj names).1
  rw [String.length_append] at longer
  exact absurd longer (by simp)

/-! ## Folders that stay where they are -/

/-- Two trees with their folders in the same places. -/
def SameFolders (t t' : Tree) : Prop := ∀ l, t.at? l = some .folder ↔ t'.at? l = some .folder

theorem SameFolders.refl (t : Tree) : SameFolders t t := fun _ => Iff.rfl

theorem SameFolders.trans {t t' t'' : Tree} (first : SameFolders t t') (second : SameFolders t' t'') :
    SameFolders t t'' := fun l => (first l).trans (second l)

theorem sameFolders_setFile {t : Tree} {l : Location} (below : l ≠ [])
    (free : t.at? l ≠ some .folder) (content : Bytes) : SameFolders t (t.setFile l content) := by
  intro l'
  rw [at?_setFile t below]
  by_cases here : l' = l
  · subst here
    simp [free]
  · rw [if_neg here]

theorem sameFolders_clear {t : Tree} {l : Location} (below : l ≠ [])
    (free : t.at? l ≠ some .folder) : SameFolders t (t.clear l) := by
  intro l'
  rw [at?_clear t below]
  by_cases here : l' = l
  · subst here
    simp [free]
  · rw [if_neg here]

/-- Walking goes through folders only. -/
theorem walk_cons_ok_iff {t : Tree} {folder d : Location} {step : String} {steps : List String} :
    t.walk folder (step :: steps) = .ok d ↔
      if step = ".." then t.walk folder.dropLast steps = .ok d
      else step.utf8ByteSize ≤ longestName ∧ t.at? (folder ++ [step]) = some .folder ∧
        t.walk (folder ++ [step]) steps = .ok d := by
  rw [walk]
  by_cases up : step = ".."
  · rw [if_pos up, if_pos up]
  · rw [if_neg up, if_neg up, look]
    by_cases long : longestName < step.utf8ByteSize
    · rw [if_pos long]
      simp [Nat.not_le.2 long]
    · rw [if_neg long]
      have short := Nat.not_lt.1 long
      rcases t.at? (folder ++ [step]) with _ | (_ | _) <;> simp [short]

theorem walk_ok_iff {t t' : Tree} (same : SameFolders t t') {folder d : Location}
    {steps : List String} : t.walk folder steps = .ok d ↔ t'.walk folder steps = .ok d := by
  induction steps generalizing folder with
  | nil => rfl
  | cons step steps ih =>
      rw [walk_cons_ok_iff, walk_cons_ok_iff, same (folder ++ [step]), ih, ih]

/-- Paths keep their places as long as the folders stay. -/
theorem place?_congr {t t' : Tree} (same : SameFolders t t') (path : String) :
    t'.place? path = t.place? path := by
  apply Option.ext
  intro l
  simp only [place?_eq_some_iff, walk_ok_iff same]

/-! ## What operations find -/

theorem look_eq_ok_iff {t : Tree} {folder : Location} {name : String} {found : Option Entry} :
    t.look folder name = .ok found ↔
      name.utf8ByteSize ≤ longestName ∧ t.at? (folder ++ [name]) = found := by
  unfold look
  by_cases long : longestName < name.utf8ByteSize
  · rw [if_pos long]
    simp [Nat.not_le.2 long]
  · rw [if_neg long]
    simp [Nat.not_lt.1 long]

/-- A file is found at the place of its path. -/
theorem find_eq_file_iff {t : Tree} {path : String} {l : Location} {content : Bytes} :
    t.find path = .ok (l, .file content) ↔
      t.place? path = some l ∧ t.at? l = some (.file content) := by
  unfold find
  rw [place?_eq_some_iff]
  constructor
  · intro found
    obtain ⟨⟨folders, name?, slashed⟩, followed, found⟩ := bind_eq_ok_iff.1 found
    obtain ⟨folder, walked, found⟩ := bind_eq_ok_iff.1 found
    cases name? with
    | none => cases found
    | some name =>
        obtain ⟨there, looked, found⟩ := bind_eq_ok_iff.1 found
        obtain ⟨short, same⟩ := look_eq_ok_iff.1 looked
        rcases there with _ | (content' | _)
        · cases found
        · cases slashed with
          | true => cases found
          | false =>
              cases found
              exact ⟨⟨folders, name, folder, followed, walked, short, rfl⟩, same⟩
        · cases found
  · rintro ⟨⟨folders, name, folder, followed, walked, short, rfl⟩, there⟩
    refine bind_eq_ok_iff.2 ⟨_, followed, bind_eq_ok_iff.2 ⟨_, walked, bind_eq_ok_iff.2 ?_⟩⟩
    exact ⟨_, look_eq_ok_iff.2 ⟨short, there⟩, rfl⟩

/-- A folder is found where the folders on the way to it are, a slash behind it or not. -/
theorem find_eq_folder_iff {t : Tree} {path : String} {l : Location} :
    t.find path = .ok (l, .folder) ↔ ∃ r, route path = .ok r ∧ ∃ folder,
      t.walk [] r.folders = .ok folder ∧ match r.name with
      | none => folder = l
      | some name => name.utf8ByteSize ≤ longestName ∧ folder ++ [name] = l ∧
        t.at? (folder ++ [name]) = some .folder := by
  unfold find
  rw [bind_eq_ok_iff]
  refine exists_congr fun r => and_congr_right fun _ => ?_
  rw [bind_eq_ok_iff]
  refine exists_congr fun folder => and_congr_right fun _ => ?_
  cases r.name with
  | none => simp
  | some name =>
      simp only [bind_eq_ok_iff, look_eq_ok_iff]
      constructor
      · rintro ⟨there, ⟨short, same⟩, found⟩
        rcases there with _ | (_ | _)
        · cases found
        · dsimp only at found
          split at found <;> cases found
        · cases found
          exact ⟨short, rfl, same⟩
      · rintro ⟨short, rfl, there⟩
        exact ⟨_, ⟨short, there⟩, rfl⟩

theorem place?_of_findWritable {t : Tree} {path : String} {l : Location} {content : Bytes}
    (found : t.findWritable path = .ok (l, content)) :
    t.place? path = some l ∧ t.at? l ≠ some .folder := by
  unfold findWritable at found
  obtain ⟨⟨folders, name?, slashed⟩, followed, found⟩ := bind_eq_ok_iff.1 found
  obtain ⟨folder, walked, found⟩ := bind_eq_ok_iff.1 found
  cases name? with
  | none => cases found
  | some name =>
      cases slashed with
      | true => cases found
      | false =>
          obtain ⟨there, looked, found⟩ := bind_eq_ok_iff.1 found
          obtain ⟨short, same⟩ := look_eq_ok_iff.1 looked
          rw [place?_eq_some_iff]
          rcases there with _ | (_ | _) <;> cases found <;>
            exact ⟨⟨folders, name, folder, followed, walked, short, rfl⟩, by simp [same]⟩

theorem findWritable_of_place? {t : Tree} {path : String} {l : Location}
    (named : t.place? path = some l) (free : t.at? l ≠ some .folder) :
    ∃ content, t.findWritable path = .ok (l, content) := by
  obtain ⟨folders, name, folder, followed, walked, short, rfl⟩ := place?_eq_some_iff.1 named
  have looked : t.look folder name = .ok (t.at? (folder ++ [name])) :=
    look_eq_ok_iff.2 ⟨short, rfl⟩
  unfold findWritable
  simp only [followed, walked, looked, ok_bind, Bool.false_eq_true, if_false]
  rcases there : t.at? (folder ++ [name]) with _ | (content | _)
  · exact ⟨[], rfl⟩
  · exact ⟨content, rfl⟩
  · exact absurd there free

theorem place?_of_findRemovable {t : Tree} {path : String} {l : Location}
    (found : t.findRemovable path = .ok l) : t.place? path = some l ∧ t.at? l ≠ some .folder := by
  unfold findRemovable at found
  obtain ⟨⟨l', entry⟩, there, found⟩ := bind_eq_ok_iff.1 found
  cases entry with
  | folder => cases found
  | file content =>
      cases found
      obtain ⟨named, same⟩ := find_eq_file_iff.1 there
      exact ⟨named, by simp [same]⟩

theorem places_of_findMove {t : Tree} {path newPath : String} {m : Move}
    (found : t.findMove path newPath = .ok m) :
    (t.place? path = some m.source ∧ t.at? m.source = some (.file m.content)) ∧
      t.place? newPath = some m.target ∧ t.at? m.target ≠ some .folder := by
  unfold findMove at found
  obtain ⟨⟨folders, name?, slashed⟩, followed, found⟩ := bind_eq_ok_iff.1 found
  obtain ⟨⟨folders', name?', slashed'⟩, followed', found⟩ := bind_eq_ok_iff.1 found
  obtain ⟨folder, walked, found⟩ := bind_eq_ok_iff.1 found
  obtain ⟨folder', walked', found⟩ := bind_eq_ok_iff.1 found
  rcases name? with _ | name
  · cases found
  · rcases name?' with _ | name'
    · cases found
    · obtain ⟨there, looked, found⟩ := bind_eq_ok_iff.1 found
      obtain ⟨short, same⟩ := look_eq_ok_iff.1 looked
      rcases there with _ | (content | _)
      · cases found
      · obtain ⟨there', looked', found⟩ := bind_eq_ok_iff.1 found
        obtain ⟨short', same'⟩ := look_eq_ok_iff.1 looked'
        cases slashed with
        | true => cases found
        | false =>
            cases slashed' with
            | true => cases found
            | false =>
                simp only [Bool.or_self, Bool.false_eq_true, if_false] at found
                split at found
                · cases found
                · rename_i free
                  cases found
                  simp only [place?_eq_some_iff]
                  refine ⟨⟨⟨folders, name, folder, followed, walked, short, rfl⟩, same⟩,
                    ⟨folders', name', folder', followed', walked', short', rfl⟩, ?_⟩
                  rw [same']
                  exact free
      · cases found

theorem findMove_of_places {t : Tree} {path newPath : String} {m : Move}
    (named : t.place? path = some m.source) (there : t.at? m.source = some (.file m.content))
    (named' : t.place? newPath = some m.target) (free : t.at? m.target ≠ some .folder) :
    t.findMove path newPath = .ok m := by
  obtain ⟨source, target, content⟩ := m
  obtain ⟨folders, name, folder, followed, walked, short, rfl⟩ := place?_eq_some_iff.1 named
  obtain ⟨folders', name', folder', followed', walked', short', rfl⟩ := place?_eq_some_iff.1 named'
  have looked : t.look folder name = .ok (some (.file content)) := look_eq_ok_iff.2 ⟨short, there⟩
  have looked' : t.look folder' name' = .ok (t.at? (folder' ++ [name'])) :=
    look_eq_ok_iff.2 ⟨short', rfl⟩
  unfold findMove
  simp only [followed, followed', walked, walked', looked, looked', ok_bind, Bool.or_self,
    Bool.false_eq_true, if_false]
  exact if_neg free

/-- What a path leads to depends on the folders and on its own place. -/
theorem entry?_congr {t t' : Tree} {path : String} (folders : SameFolders t t')
    (same : ∀ l, t.place? path = some l → t'.at? l = t.at? l) :
    t'.entry? path = t.entry? path := by
  have found : ∀ l entry, t'.find path = .ok (l, entry) ↔ t.find path = .ok (l, entry) := by
    intro l entry
    cases entry with
    | file content =>
        rw [find_eq_file_iff, find_eq_file_iff, place?_congr folders]
        refine and_congr_right fun named => ?_
        rw [same l named]
    | folder => simp only [find_eq_folder_iff, walk_ok_iff folders, folders _]
  unfold entry?
  cases there : t.find path with
  | ok p =>
      obtain ⟨l, entry⟩ := p
      rw [(found l entry).2 there]
  | error fault =>
      cases there' : t'.find path with
      | ok p =>
          rw [(found p.1 p.2).1 there'] at there
          cases there
      | error fault => rfl

end Tree

end Files

end Timings
