import Mathlib.Data.String.Basic
import Timings.Screen.Area

/-!
# Plain text on a screen

The characters from the space to the tilde are plain: each of them is one byte, one cluster
and one column. So a text of them has as many bytes as characters
(`Text.utf8ByteSize_of_plain`), and a row shows it with one character in each cell
(`Row.ofLine_of_plain`).

A row that is put on a screen is seen there (`Screen.IsRectangle.getElem?_put`), and stays when
something else is put below it (`Screen.getElem?_put_above`). What is put on a screen changes
neither the number of rows nor their widths (`Screen.IsRectangle.put`).
-/

namespace Timings

/-! ## Plain characters -/

namespace Text

/-- From the space to the tilde. -/
def IsPlain (c : Char) : Prop := 0x20 ≤ c.toNat ∧ c.toNat < 0x7f

instance (c : Char) : Decidable (IsPlain c) :=
  inferInstanceAs (Decidable (0x20 ≤ c.toNat ∧ c.toNat < 0x7f))

variable {c : Char}

theorem isPlain_of_isDigit (digit : c.isDigit = true) : IsPlain c := by
  obtain ⟨least, greatest⟩ := Char.isDigit_iff_toNat.1 digit
  exact ⟨Nat.le_trans (by decide) least, Nat.lt_of_le_of_lt greatest (by decide)⟩

theorem IsPlain.clusterClass (plain : IsPlain c) : clusterClass c = .other := if_pos plain

theorem IsPlain.columnWidth (plain : IsPlain c) : columnWidth c = 1 :=
  if_pos (UInt32.lt_iff_toNat_lt.2 (Nat.lt_trans plain.2 (by decide)))

theorem IsPlain.utf8Size (plain : IsPlain c) : c.utf8Size = 1 :=
  Char.utf8Size_eq_one_iff.2 (UInt32.le_iff_toNat_le.2 (Nat.le_of_lt_succ
    (Nat.lt_trans plain.2 (by decide))))

theorem IsPlain.isControl (plain : IsPlain c) : Row.isControl c = false := by
  obtain ⟨least, greatest⟩ := plain
  simp only [Row.isControl, Bool.or_eq_false_iff, Bool.and_eq_false_iff, decide_eq_false_iff_not]
  omega

/-- A text of plain characters has a byte for each of them. -/
theorem utf8ByteSize_of_plain {text : String} (plain : ∀ c ∈ text.toList, IsPlain c) :
    text.utf8ByteSize = text.length := by
  have bytes (cs : List Char) (plain : ∀ c ∈ cs, IsPlain c) : String.utf8Len cs = cs.length := by
    induction cs with
    | nil => rfl
    | cons c cs ih =>
      rw [List.forall_mem_cons] at plain
      rw [String.utf8Len_cons, ih plain.2, plain.1.utf8Size, List.length_cons]
  rw [← String.length_toList, ← bytes _ plain, ← String.utf8ByteSize_ofList,
    String.ofList_toList]

/-! ## Clusters of plain characters -/

theorem not_joins_of_plain {d : Char} (plain : IsPlain c) (plain' : IsPlain d) :
    (CutState.start c).joins d = false := by
  simp [CutState.joins, CutState.start, plain.clusterClass, plain'.clusterClass]

/-- Every plain character is a cluster by itself. -/
theorem clusters_of_plain {cs : List Char} (plain : ∀ c ∈ cs, IsPlain c) :
    clusters cs = cs.map fun c => [c] := by
  have behind (c : Char) (cs : List Char) (plain : ∀ d ∈ c :: cs, IsPlain d) :
      clustersFrom [c] (CutState.start c) cs = (c :: cs).map fun c => [c] := by
    induction cs generalizing c with
    | nil => rfl
    | cons d cs ih =>
      have rest := List.forall_mem_cons.1 plain
      have apart := not_joins_of_plain rest.1 (List.forall_mem_cons.1 rest.2).1
      rw [clustersFrom, if_neg (Bool.eq_false_iff.1 apart), ih d rest.2]
      rfl
  cases cs with
  | nil => rfl
  | cons c cs => exact behind c cs plain

theorem IsPlain.clusterWidth (plain : IsPlain c) : clusterWidth [c] = 1 := by
  have other (d : Char) (far : 0x7f ≤ d.toNat) : c ≠ d := by
    rintro rfl
    exact Nat.not_lt.2 far plain.2
  have measured : Following.measure .nothing c = (1, Following.ofChar c) := by
    rw [Following.measure]
    dsimp only [Following.selectedWidth?]
    rw [if_neg (other pictureSelector (by decide)), if_neg (other textSelector (by decide)),
      if_neg (other wideSelector (by decide))]
    exact Prod.ext (congrArg Nat.cast plain.columnWidth) rfl
  have alone : measureText [c] = (1, Following.ofChar c) := by
    rw [measureText, measureText]
    dsimp only
    rw [measured]
    rfl
  rw [Text.clusterWidth, alone]
  rfl

end Text

/-! ## Rows of plain text -/

namespace Row

open Text (IsPlain)

/-- A cell for each character of a text. -/
def cells (paint : Paint) (text : String) : Row :=
  text.toList.map fun c => ⟨String.singleton c, paint⟩

theorem length_cells (paint : Paint) (text : String) : (cells paint text).length = text.length := by
  rw [cells, List.length_map, String.length_toList]

theorem visible_of_plain {text : String} {paint : Paint} (plain : ∀ c ∈ text.toList, IsPlain c) :
    visible ⟨text, paint⟩ = text.toList.map fun c => ([c], paint) := by
  rw [visible, Text.clusters_of_plain plain, List.filter_eq_self.2, List.map_map]
  · rfl
  · intro cluster known
    obtain ⟨c, inside, rfl⟩ := List.mem_map.1 known
    simp [(plain c inside).isControl]

/-- Plain characters take one cell each, as long as there is room. -/
theorem write_of_plain {width room : Nat} (fits : room ≤ width) {paint : Paint} {cs : List Char}
    (plain : ∀ c ∈ cs, IsPlain c) :
    write width room (cs.map fun c => ([c], paint)) =
      (cs.map fun c => ⟨String.singleton c, paint⟩).take room ++ blank (room - cs.length) := by
  induction cs generalizing room with
  | nil => simp [write]
  | cons c cs ih =>
    obtain ⟨plain, rest⟩ := List.forall_mem_cons.1 plain
    rw [List.map_cons, write, plain.clusterWidth]
    cases room with
    | zero =>
      -- without room the row ends here, or is nothing from the beginning
      split
      · rw [ih fits rest]
        simp
      · rw [if_pos Nat.one_pos]
        simp
    | succ room =>
      rw [if_neg (by omega), if_neg (by omega), Nat.add_sub_cancel, ih (by omega) rest]
      simp [blank]

/-- A row shows plain text from its left end, cut where the row ends, and nothing behind it. -/
theorem ofLine_of_plain (width : Nat) {text : String} (paint : Paint)
    (plain : ∀ c ∈ text.toList, IsPlain c) :
    ofLine width [⟨text, paint⟩] =
      (cells paint text).take width ++ blank (width - text.length) := by
  rw [ofLine, List.flatMap_singleton, visible_of_plain plain, write_of_plain (Nat.le_refl _) plain,
    String.length_toList]
  rfl

/-- A row as wide as a plain text shows all of it and nothing else. -/
theorem ofLine_of_plain_whole {text : String} (paint : Paint)
    (plain : ∀ c ∈ text.toList, IsPlain c) :
    ofLine text.length [⟨text, paint⟩] = cells paint text := by
  rw [ofLine_of_plain text.length paint plain, Nat.sub_self, ← length_cells paint text,
    List.take_length]
  exact List.append_nil _

end Row

/-! ## Rows of a screen -/

namespace Picture

theorem pasteRow_whole {row onto : Row} (whole : row.length = onto.length) :
    pasteRow 0 row onto = row := by
  simp [pasteRow, ← whole]

theorem length_pasteRow (column : Nat) (row onto : Row) :
    (pasteRow column row onto).length = onto.length := by
  simp only [pasteRow, List.length_take, List.length_append, List.length_drop]
  omega

/-- No row becomes longer or shorter. -/
theorem map_length_paste (column line : Nat) (picture onto : Picture) :
    (paste column line picture onto).map List.length = onto.map List.length := by
  have between (rows : Picture) : (List.zipWith (pasteRow column) picture rows).map List.length =
      (rows.take picture.length).map List.length := by
    induction picture generalizing rows with
    | nil => simp
    | cons row picture ih =>
      cases rows with
      | nil => rfl
      | cons under rows =>
        rw [List.zipWith_cons_cons, List.map_cons, ih, length_pasteRow, List.length_cons,
          List.take_succ_cons, List.map_cons]
  rw [paste, List.map_take, List.map_append, List.map_append, between, ← List.map_append,
    ← List.map_append, ← List.drop_drop, List.take_append_drop, List.take_append_drop,
    ← List.map_take, List.take_length]

theorem getElem?_paste_above {column line i : Nat} (above : i < line) (picture onto : Picture) :
    (paste column line picture onto)[i]? = onto[i]? := by
  by_cases inside : i < onto.length
  · rw [paste, List.getElem?_take_of_lt inside, List.getElem?_append_left,
      List.getElem?_take_of_lt above]
    rw [List.length_take]
    omega
  · have length : (paste column line picture onto).length ≤ onto.length := List.length_take_le ..
    rw [List.getElem?_eq_none (by omega), List.getElem?_eq_none (by omega)]

theorem getElem?_paste {column line k : Nat} {picture onto : Picture} {row under : Row}
    (pasted : picture[k]? = some row) (there : onto[line + k]? = some under) :
    (paste column line picture onto)[line + k]? = some (pasteRow column row under) := by
  have inside := (List.getElem?_eq_some_iff.1 there).1
  have known := (List.getElem?_eq_some_iff.1 pasted).1
  have front : (onto.take line).length = line := List.length_take_of_le (by omega)
  rw [paste, List.getElem?_take_of_lt inside, List.getElem?_append_right (by omega), front,
    Nat.add_sub_cancel_left, List.getElem?_append_left, List.getElem?_zipWith, pasted,
    List.getElem?_drop, there]
  rw [List.length_zipWith, List.length_drop]
  omega

end Picture

namespace Screen

/-- There are as many rows as the screen is high, each as long as the screen is wide. -/
def IsRectangle (s : Screen) : Prop :=
  s.picture.map List.length = List.replicate s.height s.width

theorem isRectangle_blank (width height : Nat) : (blank width height).IsRectangle := by
  rw [IsRectangle, blank, Picture.blank, List.map_replicate, Row.length_blank]

variable {s : Screen} {a : Area} {picture : Picture} {row : Row} {i : Nat}

theorem IsRectangle.put (whole : s.IsRectangle) (a : Area) (picture : Picture) :
    (s.put a picture).IsRectangle :=
  (Picture.map_length_paste a.column a.line picture s.picture).trans whole

theorem IsRectangle.exists_row (whole : s.IsRectangle) (inside : i < s.height) :
    ∃ row, s.picture[i]? = some row ∧ row.length = s.width := by
  have length : (s.picture.map List.length)[i]? = some s.width := by
    rw [whole, List.getElem?_replicate_of_lt inside]
  rw [List.getElem?_map] at length
  exact Option.map_eq_some_iff.1 length

/-- Rows above an area stay as they are. -/
theorem getElem?_put_above (above : i < a.line) (picture : Picture) :
    (s.put a picture).picture[i]? = s.picture[i]? :=
  Picture.getElem?_paste_above above picture s.picture

/-- A row that is as wide as the screen is shown as it is. -/
theorem IsRectangle.getElem?_put (whole : s.IsRectangle) (left : a.column = 0)
    (drawn : picture[i]? = some row) (wide : row.length = s.width)
    (inside : a.line + i < s.height) : (s.put a picture).picture[a.line + i]? = some row := by
  obtain ⟨under, there, length⟩ := whole.exists_row inside
  refine (Picture.getElem?_paste drawn there).trans ?_
  rw [left, Picture.pasteRow_whole (wide.trans length.symm)]

end Screen

end Timings
