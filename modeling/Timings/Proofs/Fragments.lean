import Timings.Proofs.StructuredLines
import Timings.Proofs.Tables

/-!
# Fragments of lines

The search for a fragment goes from left to right through all ends of a text. Here its result
is said without a search: a fragment has no line feed, so only the last line counts
(`search_lastLine`), and there it runs from the first brace, if the line ends in a closing one
(`search_eq_some_iff`). Margins hold no braces, so those in front need not be dropped
(`search_without_end`).

* `fragment_from_first_brace`: the fragment of any line.
-/

namespace Timings.Fragment

/-! ## Lines and braces -/

/-- The characters that are dropped at the ends of a line. -/
def margins : List Char := ['\n', '\t', '\r']

/-- What is left of a text without the margins at both of its ends. -/
structure Trimmed (text t : List Char) : Prop where
  parts : ∃ front back, text = front ++ (t ++ back) ∧ (∀ c ∈ front, c ∈ margins) ∧
    ∀ c ∈ back, c ∈ margins
  first : ∀ c ∈ t.head?, c ∉ margins
  last : ∀ c ∈ t.getLast?, c ∉ margins

/-- The part of a text behind its last line feed, or all of it if it has none. -/
def LastLine (t s : List Char) : Prop :=
  '\n' ∉ s ∧ (t = s ∨ ∃ before, t = before ++ '\n' :: s)

/-- The part of a text from its first opening brace on. -/
def FromBrace (s fragment : List Char) : Prop :=
  ∃ front rest, s = front ++ fragment ∧ '\x7b' ∉ front ∧ fragment = '\x7b' :: rest

theorem isMargin_iff {c : Char} : isMargin c = true ↔ c ∈ margins := by
  simp [isMargin, margins, or_assoc]

theorem isMargin_eq_false_iff {c : Char} : isMargin c = false ↔ c ∉ margins := by
  rw [← isMargin_iff, Bool.not_eq_true]

theorem isFragment_iff {cs : List Char} :
    isFragment cs = true ↔ cs.head? = some '\x7b' ∧ cs.getLast? = some '\x7d' ∧ '\n' ∉ cs := by
  simp [isFragment, and_assoc]

theorem exists_lastLine (t : List Char) : ∃ s, LastLine t s := by
  by_cases broken : '\n' ∈ t
  · obtain ⟨behind, before, reversed, unbroken⟩ :=
      List.eq_append_cons_of_mem (List.mem_reverse.2 broken)
    refine ⟨behind.reverse, mt List.mem_reverse.1 unbroken, .inr ⟨before.reverse, ?_⟩⟩
    rw [← List.reverse_reverse t, reversed]
    simp
  · exact ⟨t, broken, .inl rfl⟩

theorem exists_fromBrace {s : List Char} (brace : '\x7b' ∈ s) : ∃ fragment, FromBrace s fragment := by
  obtain ⟨front, rest, same, other⟩ := List.eq_append_cons_of_mem brace
  exact ⟨_, front, rest, same, other, rfl⟩

theorem FromBrace.mem {s fragment : List Char} (starts : FromBrace s fragment) : '\x7b' ∈ s := by
  obtain ⟨front, rest, rfl, -, rfl⟩ := starts
  exact List.mem_append_right _ List.mem_cons_self

/-- The two braces differ, so they are two characters. -/
theorem exists_between_braces {cs : List Char} (opened : cs.head? = some '\x7b')
    (closed : cs.getLast? = some '\x7d') : ∃ inside, cs = '\x7b' :: (inside ++ ['\x7d']) := by
  obtain ⟨rest, rfl⟩ := List.head?_eq_some_iff.1 opened
  obtain ⟨front, same⟩ := List.getLast?_eq_some_iff.1 closed
  cases front with
  | nil => cases same
  | cons brace inside => exact ⟨inside, congrArg _ (List.cons.inj same).2⟩

/-! ## What is left of a text -/

theorem head?_dropWhile_margin {cs : List Char} :
    ∀ c ∈ (cs.dropWhile isMargin).head?, isMargin c = false := by
  intro c head
  have stopped := List.head?_dropWhile_not isMargin cs
  rw [Option.mem_def.1 head] at stopped
  simpa using stopped

theorem trimmed_trim (text : List Char) : Trimmed text (Text.trim isMargin text) := by
  obtain ⟨front, back, same, before, behind⟩ := Text.exists_trim isMargin text
  refine ⟨⟨front, back, same, fun c inside => isMargin_iff.1 (before c inside),
    fun c inside => isMargin_iff.1 (behind c inside)⟩, fun c head => ?_, fun c last => ?_⟩
  · obtain ⟨rest, kept⟩ := List.head?_eq_some_iff.1 head
    obtain ⟨back, cut, -⟩ := Text.exists_dropEnd isMargin (text.dropWhile isMargin)
    rw [Text.trim] at kept
    rw [kept] at cut
    exact isMargin_eq_false_iff.1 (head?_dropWhile_margin c (by rw [cut]; rfl))
  · rw [Text.trim, Text.dropEnd, List.getLast?_reverse] at last
    exact isMargin_eq_false_iff.1 (head?_dropWhile_margin c last)

theorem Trimmed.trim_eq {text t : List Char} (trimmed : Trimmed text t) :
    Text.trim isMargin text = t := by
  obtain ⟨front, back, rfl, before, behind⟩ := trimmed.parts
  exact Text.trim_append_of_ends (fun c inside => isMargin_iff.2 (before c inside))
    (fun c head => isMargin_eq_false_iff.2 (trimmed.first c head))
    (fun c last => isMargin_eq_false_iff.2 (trimmed.last c last))
    (fun c inside => isMargin_iff.2 (behind c inside))

/-! ## The search -/

theorem exists_of_search {cs fragment : List Char} (found : search cs = some fragment) :
    ∃ front, cs = front ++ fragment ∧ isFragment fragment = true := by
  induction cs with
  | nil => cases found
  | cons c cs ih =>
      rw [search] at found
      split at found
      · rename_i whole
        cases found
        exact ⟨[], rfl, whole⟩
      · obtain ⟨front, rfl, whole⟩ := ih found
        exact ⟨c :: front, rfl, whole⟩

/-- No fragment starts in front of a line feed. -/
theorem search_append_newline (before cs : List Char) :
    search (before ++ '\n' :: cs) = search cs := by
  induction before with
  | nil => exact if_neg (by simp [isFragment])
  | cons c before ih =>
      rw [List.cons_append, search, if_neg (by simp [isFragment]), ih]

theorem search_lastLine {t s : List Char} (last : LastLine t s) : search t = search s := by
  rcases last.2 with rfl | ⟨before, rfl⟩
  · rfl
  · exact search_append_newline before s

/-- The fragment of a text is in its last line, from the first brace on. -/
theorem search_eq_some_iff {t s fragment : List Char} (last : LastLine t s) :
    search t = some fragment ↔ s.getLast? = some '\x7d' ∧ FromBrace s fragment := by
  have found {fragment : List Char} (closed : s.getLast? = some '\x7d')
      (starts : FromBrace s fragment) : search s = some fragment := by
    obtain ⟨front, rest, rfl, other, rfl⟩ := starts
    rw [List.getLast?_append_of_ne_nil _ (List.cons_ne_nil _ _)] at closed
    refine search_append other (isFragment_iff.2 ⟨rfl, closed, fun broken => last.1 ?_⟩)
    exact List.mem_append_right _ broken
  rw [search_lastLine last]
  constructor
  · intro searched
    obtain ⟨front, same, whole⟩ := exists_of_search searched
    obtain ⟨opened, closed, -⟩ := isFragment_iff.1 whole
    have ends : s.getLast? = some '\x7d' := by
      rw [same, List.getLast?_append, closed, Option.some_or]
    have brace : '\x7b' ∈ s := by
      rw [same]
      exact List.mem_append_right _ (List.mem_of_mem_head? opened)
    obtain ⟨first, starts⟩ := exists_fromBrace brace
    obtain rfl : first = fragment := Option.some.inj ((found ends starts).symm.trans searched)
    exact ⟨ends, starts⟩
  · rintro ⟨closed, starts⟩
    exact found closed starts

/-- Margins in front of a text do not change its fragment. -/
theorem search_without_end {text t back : List Char} (same : text = t ++ back)
    (behind : ∀ c ∈ back, c ∈ margins) (last : ∀ c ∈ t.getLast?, c ∉ margins) :
    search t = search (Text.trim isMargin text) := by
  have before : ∀ c ∈ t.takeWhile isMargin, c ∈ margins := fun c inside =>
    isMargin_iff.1 (List.all_eq_true.1 List.all_takeWhile c inside)
  have trimmed : Trimmed text (t.dropWhile isMargin) := by
    refine ⟨⟨t.takeWhile isMargin, back, ?_, before, behind⟩,
      fun c head => isMargin_eq_false_iff.1 (head?_dropWhile_margin c head), fun c final => ?_⟩
    · rw [same, ← List.append_assoc, List.takeWhile_append_dropWhile]
    · apply last
      rw [← List.takeWhile_append_dropWhile (p := isMargin) (l := t), List.getLast?_append,
        Option.mem_def.1 final, Option.some_or]
      rfl
  have braceless : '\x7b' ∉ t.takeWhile isMargin := fun brace =>
    absurd (before _ brace) (by decide)
  rw [trimmed.trim_eq]
  conv_lhs => rw [← List.takeWhile_append_dropWhile (p := isMargin) (l := t)]
  exact search_append_left braceless _

theorem ofLine_eq_some_iff {line : String} {t s : List Char} (trimmed : Trimmed line.toList t)
    (last : LastLine t s) {fragment : String} :
    ofLine line = some fragment ↔ s.getLast? = some '\x7d' ∧ FromBrace s fragment.toList := by
  rw [ofLine, trimmed.trim_eq, ← search_eq_some_iff last, Option.map_eq_some_iff]
  constructor
  · rintro ⟨cs, found, rfl⟩
    rw [found, String.toList_ofList]
  · intro found
    exact ⟨_, found, String.ofList_toList⟩

/-- **Fragments of lines.** A line has a fragment exactly if its last line, without the margins
at both of its ends, has an opening brace and ends in a closing one, and the fragment is what
stands there from the first brace on. It is the same if margins are dropped at the end only.
Behind a text without opening braces, what runs from an opening to a closing brace on one line
is the fragment. -/
theorem fragment_from_first_brace :
    (∀ line : String, (∃ t s, Trimmed line.toList t ∧ LastLine t s) ∧
      ∀ t s, Trimmed line.toList t → LastLine t s →
        ((ofLine line).isSome = true ↔ '\x7b' ∈ s ∧ s.getLast? = some '\x7d') ∧
        ∀ fragment, ofLine line = some fragment → FromBrace s fragment.toList) ∧
    (∀ (line : String) (t back : List Char), line.toList = t ++ back →
      (∀ c ∈ back, c ∈ margins) → (∀ c ∈ t.getLast?, c ∉ margins) →
      (search t).map String.ofList = ofLine line) ∧
    ∀ front fragment : String, '\x7b' ∉ front.toList → fragment.toList.head? = some '\x7b' →
      fragment.toList.getLast? = some '\x7d' → '\n' ∉ fragment.toList →
      ofLine (front ++ fragment) = some fragment := by
  refine ⟨fun line => ⟨?_, fun t s trimmed last => ⟨⟨?_, ?_⟩, ?_⟩⟩, ?_, ?_⟩
  · obtain ⟨s, last⟩ := exists_lastLine (Text.trim isMargin line.toList)
    exact ⟨_, s, trimmed_trim line.toList, last⟩
  · intro found
    obtain ⟨fragment, found⟩ := Option.isSome_iff_exists.1 found
    obtain ⟨closed, starts⟩ := (ofLine_eq_some_iff trimmed last).1 found
    exact ⟨starts.mem, closed⟩
  · rintro ⟨brace, closed⟩
    obtain ⟨fragment, starts⟩ := exists_fromBrace brace
    rw [← String.toList_ofList (l := fragment)] at starts
    rw [(ofLine_eq_some_iff trimmed last).2 ⟨closed, starts⟩]
    rfl
  · intro fragment found
    exact ((ofLine_eq_some_iff trimmed last).1 found).2
  · intro line t back same behind last
    rw [search_without_end same behind last, ofLine]
  · intro front fragment other opened closed unbroken
    obtain ⟨inside, same⟩ := exists_between_braces opened closed
    have clean : '\n' ∉ inside := fun broken => unbroken (by
      rw [same]
      exact List.mem_cons_of_mem _ (List.mem_append_left _ broken))
    have whole := ofLine_append other clean (List.forall_mem_nil _)
    rwa [List.append_nil, ← same, String.ofList_append, String.ofList_toList,
      String.ofList_toList] at whole

/-- Of two lines the last one counts, whose margins are on both sides of a line feed, and the
object in the object belongs to it. -/
theorem fragment_of_last_line :
    let object := "\x7b\"m\": \x7b\x7d\x7d"
    let line := "\t[\x7ba\x7d]\r\n\t[b] x\r " ++ object ++ "\t\r\n"
    let t := ("[\x7ba\x7d]\r\n\t[b] x\r " ++ object).toList
    let s := ("\t[b] x\r " ++ object).toList
    Trimmed line.toList t ∧ LastLine t s ∧ (ofLine line).isSome = true ∧
    (∀ fragment, ofLine line = some fragment → FromBrace s fragment.toList) ∧
    (search ('\t' :: t)).map String.ofList = ofLine line ∧
    ofLine ("[b] x\r " ++ object) = some object := by
  intro object line t s
  have opened : t.head? = some '[' := by decide +kernel
  have closed : t.getLast? = some '\x7d' := by decide +kernel
  have trimmed : Trimmed line.toList t := by
    refine ⟨⟨['\t'], ['\t', '\r', '\n'], by decide +kernel, by decide, by decide⟩, ?_, ?_⟩
    · rw [opened]
      rintro c ⟨⟩
      decide
    · rw [closed]
      rintro c ⟨⟩
      decide
  have last : LastLine t s :=
    ⟨by decide +kernel, .inr ⟨"[\x7ba\x7d]\r".toList, by decide +kernel⟩⟩
  obtain ⟨found, starts⟩ := (fragment_from_first_brace.1 line).2 t s trimmed last
  refine ⟨trimmed, last, found.2 ⟨by decide +kernel, by decide +kernel⟩, starts, ?_, ?_⟩
  · have ends : ('\t' :: t).getLast? = t.getLast? := by decide +kernel
    exact fragment_from_first_brace.2.1 line ('\t' :: t) ['\t', '\r', '\n'] (by decide +kernel)
      (by decide) (ends ▸ trimmed.last)
  · exact fragment_from_first_brace.2.2 "[b] x\r " object (by decide +kernel) (by decide +kernel)
      (by decide +kernel) (by decide +kernel)

end Timings.Fragment
