import Timings.Line.Structured
import Timings.Proofs.Members

/-!
Lines with an object at their end.

The fragment of such a line is the object, whatever stands in front of it. So the line
gives a measurement exactly if the object conforms to the schema, and is malformed in
every other case; numbers that are not finite do not get that far. The report by event
needs a message besides, and the list of latencies a time.
-/

namespace Timings

open Json Measurement

/-! ## The fragment -/

namespace Fragment

theorem dropEnd_append {drop : Char → Bool} {cs : List Char} {c : Char} {back : List Char}
    (stays : drop c = false) (goes : ∀ d ∈ back, drop d = true) :
    Text.dropEnd drop (cs ++ [c] ++ back) = cs ++ [c] := by
  unfold Text.dropEnd
  have reversed : ∀ d ∈ back.reverse, drop d = true := fun d inside =>
    goes d (List.mem_reverse.1 inside)
  rw [List.reverse_append, List.dropWhile_append_of_pos reversed, List.reverse_append,
    List.reverse_singleton, List.singleton_append, List.dropWhile_cons_of_neg (by simp [stays])]
  simp

/-- No fragment starts in front of the first brace. -/
theorem search_append_left {front : List Char} (other : '\x7b' ∉ front) (cs : List Char) :
    search (front ++ cs) = search cs := by
  induction front with
  | nil => rfl
  | cons c front ih =>
    rw [List.mem_cons, not_or] at other
    have refused : isFragment (c :: (front ++ cs)) ≠ true := by
      simp [isFragment, Ne.symm other.1]
    rw [List.cons_append, search, if_neg refused, ih other.2]

theorem search_append {front cs : List Char} (other : '\x7b' ∉ front)
    (fragment : isFragment cs = true) : search (front ++ cs) = some cs := by
  rw [search_append_left other]
  cases cs with
  | nil => cases fragment
  | cons c cs => exact if_pos fragment

/-- The fragment of a line is the object at its end. -/
theorem ofLine_append {front inside back : List Char} (other : '\x7b' ∉ front)
    (unbroken : '\n' ∉ inside) (margin : ∀ c ∈ back, isMargin c = true) :
    ofLine (String.ofList (front ++ ('\x7b' :: (inside ++ ['\x7d']) ++ back))) =
      some (String.ofList ('\x7b' :: (inside ++ ['\x7d']))) := by
  have start : (front ++ ('\x7b' :: (inside ++ ['\x7d']) ++ back)).dropWhile isMargin =
      front.dropWhile isMargin ++ ('\x7b' :: (inside ++ ['\x7d']) ++ back) := by
    rw [List.dropWhile_append]
    split
    · rename_i nothing
      rw [List.isEmpty_iff.1 nothing]
      rfl
    · rfl
  have regroup : front.dropWhile isMargin ++ ('\x7b' :: (inside ++ ['\x7d']) ++ back) =
      front.dropWhile isMargin ++ '\x7b' :: inside ++ ['\x7d'] ++ back := by simp
  have other' : '\x7b' ∉ front.dropWhile isMargin := fun inside =>
    other ((List.dropWhile_sublist isMargin).subset inside)
  have fragment : isFragment ('\x7b' :: (inside ++ ['\x7d'])) = true := by
    have last : ('\x7b' :: (inside ++ ['\x7d'])).getLast? = some '\x7d' := by
      rw [← List.cons_append, List.getLast?_concat]
    simp [isFragment, last, unbroken]
  unfold ofLine Text.trim
  rw [String.toList_ofList, start, regroup, dropEnd_append rfl margin]
  have found := search_append other' fragment
  rw [List.append_assoc, List.cons_append, found]
  rfl

end Fragment

/-! ## The lines -/

/-- A line that ends in an object with these members: in front of it there may be
anything but an opening brace, behind it there may be line breaks and tabs. -/
inductive EndsInObject : String → List Field → Prop
  | mk {front cs back : List Char} {fields : List Field} :
    '\x7b' ∉ front → '\n' ∉ front → IsObject cs fields → '\n' ∉ cs →
    (∀ c ∈ back, c = '\r' ∨ c = '\n' ∨ c = '\t') →
    EndsInObject (String.ofList (front ++ (cs ++ back))) fields

/-- What is taken from a line is exactly what is right; if nothing is, the line is
malformed. -/
def Exactly {α : Type} (line : Nat) (result : Except Failure α) (right : α → Prop) : Prop :=
  (∀ a, result = .ok a ↔ right a) ∧
    ((∀ a, ¬ right a) → ∃ defect, result = .error (.malformedLine line defect))

theorem Exactly.malformed {α : Type} {n : Nat} {right : α → Prop} (defect : Defect)
    (nothing : ∀ a, ¬ right a) : Exactly n (.error (.malformedLine n defect)) right := by
  refine ⟨fun a => ⟨?_, fun holds => absurd holds (nothing a)⟩, fun _ => ⟨defect, rfl⟩⟩
  rintro ⟨⟩

theorem Exactly.ok {α : Type} {n : Nat} {right : α → Prop} {a : α} (only : ∀ b, right b ↔ b = a) :
    Exactly n (.ok a) right := by
  refine ⟨fun b => ?_, fun nothing => absurd ((only a).2 rfl) (nothing a)⟩
  rw [only b, Except.ok.injEq, eq_comm]

theorem Json.IsObject.braces {cs : List Char} {fields : List Field} (known : IsObject cs fields) :
    ∃ inside, cs = '\x7b' :: (inside ++ ['\x7d']) := by
  cases known with
  | empty _ => exact ⟨_, rfl⟩
  | @filled before cs _ _ _ =>
    refine ⟨before ++ cs, ?_⟩
    rw [List.append_assoc]

theorem Fragment.ofLine_of_endsInObject {line : String} {fields : List Field}
    (known : EndsInObject line fields) :
    ∃ cs, IsObject cs fields ∧ Fragment.ofLine line = some (String.ofList cs) := by
  cases known with
  | @mk front cs back _ other _ known unbroken breaks =>
    obtain ⟨inside, rfl⟩ := known.braces
    refine ⟨_, known, ofLine_append other (fun within => unbroken ?_) fun c within => ?_⟩
    · exact List.mem_cons_of_mem _ (List.mem_append_left _ within)
    · rcases breaks c within with rfl | rfl | rfl <;> decide

theorem Line.ensureFinite_of_isFinite {x : Float} (finite : x.isFinite = true) (n : Nat) :
    Line.ensureFinite n x = .ok () := by
  simp [Line.ensureFinite, finite]

theorem Line.measurement_of_decode {line : String} {cs : List Char} {m : Measurement}
    (fragment : Fragment.ofLine line = some (String.ofList cs))
    (decoded : decode (String.ofList cs) = .ok m)
    (finite : m.timePerItem.isFinite = true ∧ ∀ time ∈ m.time, time.isFinite = true) (n : Nat) :
    Line.measurement line n = .ok m := by
  simp only [Line.measurement, fragment, decoded, ensureFinite_of_isFinite finite.1, ok_bind]
  split
  · rfl
  · rename_i time given
    rw [ensureFinite_of_isFinite (finite.2 time given)]
    rfl

theorem Line.exactly_measurement {line : String} {fields : List Field}
    (known : EndsInObject line fields) (n : Nat) :
    Exactly n (Line.measurement line n) (Conforms fields) := by
  obtain ⟨cs, object, fragment⟩ := Fragment.ofLine_of_endsInObject known
  cases decoded : decode (String.ofList cs) with
  | error fault =>
    have failed : Line.measurement line n = .error (.malformedLine n (.badFragment fault)) := by
      simp only [Line.measurement, fragment, decoded]
    rw [failed]
    refine Exactly.malformed _ fun m => ?_
    rw [← decode_eq_ok_iff object, decoded]
    rintro ⟨⟩
  | ok m =>
    have conforms := (decode_eq_ok_iff object).1 decoded
    rw [measurement_of_decode fragment decoded conforms.isFinite n]
    refine Exactly.ok fun m' => ?_
    rw [← decode_eq_ok_iff object, decoded, Except.ok.injEq, eq_comm]

/-- What is taken from a line in two steps. -/
theorem Exactly.bind {α β : Type} {n : Nat} {result : Except Failure α}
    {next : α → Except Failure β} {right : α → Prop} {right' : α → β → Prop}
    (first : Exactly n result right) (second : ∀ a, Exactly n (next a) (right' a)) :
    Exactly n (result >>= next) fun b => ∃ a, right a ∧ right' a b := by
  cases result with
  | error failure =>
    have nothing : ∀ a, ¬ right a := fun a holds => by cases (first.1 a).2 holds
    obtain ⟨defect, same⟩ := first.2 nothing
    cases same
    refine Exactly.malformed defect fun b => ?_
    rintro ⟨a, holds, -⟩
    exact nothing a holds
  | ok a =>
    have only : ∀ a', right a' ↔ a' = a := fun a' => by
      rw [← first.1 a', Except.ok.injEq, eq_comm]
    simp only [only, exists_eq_left]
    exact second a

/-- **Lines with an object at their end.** Such a line gives a measurement exactly if its
object conforms to the schema, as this measurement, and is malformed otherwise. For the
report by event it has to have a message as well, and for the list of latencies a
time. -/
theorem Line.exactly_taken {line : String} {fields : List Field}
    (known : EndsInObject line fields) (n : Nat) :
    Exactly n (Line.measurement line n) (Conforms fields) ∧
    Exactly n (Line.event line n) (fun o => ∃ m, Conforms fields m ∧
      m.message = some o.key.event ∧ m.items = o.key.items ∧ m.timePerItem = o.value) ∧
    Exactly n (Line.latency line n) (fun row => ∃ m, Conforms fields m ∧
      m.time = some row.time ∧ m.items = row.items ∧ m.timePerItem = row.timePerItem) := by
  have taken := exactly_measurement known n
  refine ⟨taken, taken.bind fun m => ?_, taken.bind fun m => ?_⟩
  · cases m.message with
    | none => exact Exactly.malformed .noMessage (by simp)
    | some message =>
      refine Exactly.ok fun o => ?_
      obtain ⟨⟨event, items⟩, value⟩ := o
      simp [eq_comm, and_assoc]
  · cases m.time with
    | none => exact Exactly.malformed .noTime (by simp)
    | some time =>
      refine Exactly.ok fun row => ?_
      obtain ⟨time', items, timePerItem⟩ := row
      simp [eq_comm]

/-- A line with an escaped name, an unknown member that comes twice and a surrogate that
stands alone inside one. -/
theorem object_with_escapes_taken :
    let cs := ("\x7b\"\\u0069tems\" :10,\"x\":[1e999,\"\\udc00\"],\"x\":\x7b\x7d," ++
      "\"message\":\"\\ud83d\\ude00\", \"time/item\":2\x7d").toList
    let fields : List Field := [("items", ['1', '0']), ("x", "[1e999,\"\\udc00\"]".toList),
      ("x", "\x7b\x7d".toList), ("message", "\"\\ud83d\\ude00\"".toList), ("time/item", ['2'])]
    let line := String.ofList ("[b] \x7d".toList ++ (cs ++ "\r\n".toList))
    EndsInObject line fields ∧ Line.event line 7 = .ok ⟨⟨"😀", 10⟩, 2⟩ := by
  intro cs fields line
  have ten : IsWhole ['1', '0'] := .digits (by decide) (by decide) (by decide)
  have two : IsWhole ['2'] := .digits (by decide) (by decide) (by decide)
  have letter : IsUnit ['0', '0', '6', '9'] 0x69 :=
    @IsUnit.digits _ _ _ _ 0 0 6 9 (.lower rfl) (.lower rfl) (.lower rfl) (.lower rfl)
  have high : IsUnit ['d', '8', '3', 'd'] 0xd83d :=
    @IsUnit.digits _ _ _ _ 13 8 3 13 (.lower rfl) (.lower rfl) (.lower rfl) (.lower rfl)
  have low : IsUnit ['d', 'e', '0', '0'] 0xde00 :=
    @IsUnit.digits _ _ _ _ 13 14 0 0 (.lower rfl) (.lower rfl) (.lower rfl) (.lower rfl)
  have alone : IsUnit ['d', 'c', '0', '0'] 0xdc00 :=
    @IsUnit.digits _ _ _ _ 13 12 0 0 (.lower rfl) (.lower rfl) (.lower rfl) (.lower rfl)
  have pair : Spells "\\ud83d\\ude00".toList ['😀'] :=
    .pair high (by decide) low (by decide) .nil
  have large : IsNumeral ([] ++ (['1'] ++ ([] ++ 'e' :: ([] ++ ['9', '9', '9'])))) :=
    .parts (by decide) (.digits (by decide) (by decide) (by decide)) .none
      (.digits (.inl rfl) (by decide) (by decide))
  have entries : Derives (.entries .list) ("1e999".toList ++ ([] ++ ',' :: ([] ++
      ('"' :: ("\\udc00".toList ++ ['"']) ++ [])))) :=
    .more (.element (.numeral large)) (by decide) (by decide)
      (.last (.element (.string (.unit alone .nil))) (by decide))
  have plain : ∀ {name value : List Char}, (∀ c ∈ name, IsPlain c) → IsValue value →
      IsMember ('"' :: (name ++ '"' :: ([] ++ ':' :: ([] ++ value))))
        (String.ofList name, value) :=
    fun known value => .mk (spells_self known) (by decide) (by decide) value
  have items : IsMember "\"\\u0069tems\" :10".toList ("items", ['1', '0']) :=
    @IsMember.mk _ _ [' '] [] _ (.unit letter (by decide)
      (@spells_self ['t', 'e', 'm', 's'] (by decide))) (by decide) (by decide)
      (.numeral ten.isNumeral)
  have nested : IsMember "\"x\":[1e999,\"\\udc00\"]".toList ("x", "[1e999,\"\\udc00\"]".toList) :=
    @plain ['x'] _ (by decide) (@Derives.filled .list [] _ (by decide) entries)
  have empty : IsMember "\"x\":\x7b\x7d".toList ("x", "\x7b\x7d".toList) :=
    @plain ['x'] _ (by decide) (@Derives.empty .object [] (by decide))
  have message : IsMember "\"message\":\"\\ud83d\\ude00\"".toList
      ("message", "\"\\ud83d\\ude00\"".toList) :=
    @plain "message".toList _ (by decide) (.string pair.isString)
  have perItem : IsMember "\"time/item\":2".toList ("time/item", ['2']) :=
    @plain "time/item".toList _ (by decide) (.numeral two.isNumeral)
  have object : IsObject cs fields := by
    have text : cs = '\x7b' :: ([] ++ (("\"\\u0069tems\" :10".toList ++ ([] ++ ',' :: ([] ++
        ("\"x\":[1e999,\"\\udc00\"]".toList ++ ([] ++ ',' :: ([] ++
        ("\"x\":\x7b\x7d".toList ++ ([] ++ ',' :: ([] ++
        ("\"message\":\"\\ud83d\\ude00\"".toList ++ ([] ++ ',' :: ([' '] ++
        ("\"time/item\":2".toList ++ []))))))))))))) ++ ['\x7d'])) := by decide
    rw [text]
    refine .filled (by decide) (.more items (by decide) (by decide) ?_)
    refine .more nested (by decide) (by decide) (.more empty (by decide) (by decide) ?_)
    exact .more message (by decide) (by decide) (.last perItem (by decide))
  have ends : EndsInObject line fields :=
    .mk (by decide) (by decide) object (by decide) (by decide)
  have conforms : Conforms fields ⟨some "😀", 10, none, 2⟩ :=
    { message := ⟨_, rfl, _, _, rfl, pair, rfl⟩
      items := ⟨_, rfl, ten, by decide, by decide⟩
      time := .inl rfl
      timePerItem := ⟨_, rfl, two.isNumeral, .natural 2,
        (scanNumeral?_eq_natural_iff two.isNumeral).2 ⟨two, by decide, by decide⟩,
        by decide +kernel⟩ }
  exact ⟨ends, ((Line.exactly_taken ends 7).2.1.1 _).2 ⟨_, conforms, rfl, rfl, rfl⟩⟩

end Timings
