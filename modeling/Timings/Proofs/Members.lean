import Timings.Proofs.Schema

/-!
Reading members.

The members of a measurement are one family: each has a type of values, a reader, what
its values denote, and a place in a draft. A draft that has read some members is
`Drafted` by them: each place holds what the one value under its name denotes. Reading
one more member keeps this, so a whole object is read exactly if it conforms to the
schema.
-/

namespace Timings.Measurement

open Json

/-! ## The family of members -/

/-- What a member holds. -/
def Member.Value : Member → Type
  | .message => Option String
  | .items => Nat
  | .time => Option Float
  | .timePerItem => Float

/-- What the values of a member denote. -/
def Member.Denotes : (m : Member) → List Char → m.Value → Prop
  | .message => Nullable DenotesText
  | .items => DenotesCount
  | .time => Nullable DenotesNumber
  | .timePerItem => DenotesNumber

/-- Reads the value of a member. -/
def Member.read : (m : Member) → List Char → Except Fault (m.Value × List Char)
  | .message => readNullable readText
  | .items => readCount
  | .time => readNullable readFloat
  | .timePerItem => readFloat

theorem Member.reads (m : Member) : Reads m.read m.Denotes := by
  cases m with
  | message => exact reads_nullable reads_text not_denotesText_null
  | items => exact reads_count
  | time => exact reads_nullable reads_number not_denotesNumber_null
  | timePerItem => exact reads_number

theorem Member.functional (m : Member) : Functional m.Denotes := by
  cases m with
  | message => exact functional_nullable functional_text not_denotesText_null
  | items => exact functional_count
  | time => exact functional_nullable functional_number not_denotesNumber_null
  | timePerItem => exact functional_number

theorem Member.ofName?_eq_some_iff {name : String} {m : Member} :
    Member.ofName? name = some m ↔ m.name = name := by
  constructor
  · intro found
    unfold Member.ofName? at found
    have known := List.find?_some found
    exact eq_of_beq known
  · rintro rfl
    cases m <;> decide

/-- What a draft holds in the place of a member. -/
def Draft.get (d : Draft) : (m : Member) → Option m.Value
  | .message => d.message
  | .items => d.items
  | .time => d.time
  | .timePerItem => d.timePerItem

/-- A draft with a value in the place of a member. -/
def Draft.put (d : Draft) : (m : Member) → m.Value → Draft
  | .message, a => { d with message := some a }
  | .items, a => { d with items := some a }
  | .time, a => { d with time := some a }
  | .timePerItem, a => { d with timePerItem := some a }

@[simp] theorem Draft.get_put_self (d : Draft) (m : Member) (a : m.Value) :
    (d.put m a).get m = some a := by
  cases m <;> rfl

theorem Draft.get_put_of_ne (d : Draft) {m m' : Member} (a : m.Value) (other : m' ≠ m) :
    (d.put m a).get m' = d.get m' := by
  cases m <;> cases m' <;> first | rfl | exact absurd rfl other

@[simp] theorem Draft.get_blank (m : Member) : Draft.blank.get m = none := by
  cases m <;> rfl

theorem Draft.ext_get {d d' : Draft} (same : ∀ m, d.get m = d'.get m) : d = d' := by
  obtain ⟨message, items, time, timePerItem⟩ := d
  obtain ⟨message', items', time', timePerItem'⟩ := d'
  have first : message = message' := same .message
  have second : items = items' := same .items
  have third : time = time' := same .time
  have fourth : timePerItem = timePerItem' := same .timePerItem
  rw [first, second, third, fourth]

theorem Draft.has_eq (d : Draft) (m : Member) : d.has m = (d.get m).isSome := by
  cases m <;> rfl

theorem readMember_eq (d : Draft) (m : Member) (cs : List Char) :
    readMember d m cs = (m.read cs).map fun p => (d.put m p.1, p.2) := by
  cases m <;> rfl

/-! ## Drafts of members -/

/-- A place is empty if there is no value, and else holds what the only value denotes. -/
def Filled {α : Type} (denotes : List Char → α → Prop) (values : List (List Char)) :
    Option α → Prop
  | none => values = []
  | some a => Required denotes values a

/-- Each place of a draft holds what there is under its name. -/
def Drafted (fields : List Field) (d : Draft) : Prop :=
  ∀ m : Member, Filled m.Denotes (valuesNamed m.name fields) (d.get m)

/-- Reading a member makes one draft from another: a member of the schema is put into its
place, which has to be empty; any other one changes nothing. -/
def Takes (d : Draft) (field : Field) (d' : Draft) : Prop :=
  match Member.ofName? field.1 with
  | none => d' = d
  | some m => d.get m = none ∧ ∃ a, m.Denotes field.2 a ∧ d' = d.put m a

/-- Reading members one after the other. -/
inductive TakesAll : Draft → List Field → Draft → Prop
  | nil {d : Draft} : TakesAll d [] d
  | cons {d d' d'' : Draft} {field : Field} {fields : List Field} :
    Takes d field d' → TakesAll d' fields d'' → TakesAll d (field :: fields) d''

theorem valuesNamed_append (name : String) (fields fields' : List Field) :
    valuesNamed name (fields ++ fields') = valuesNamed name fields ++ valuesNamed name fields' := by
  simp [valuesNamed]

theorem valuesNamed_singleton (name : String) (field : Field) :
    valuesNamed name [field] = if field.1 = name then [field.2] else [] := by
  by_cases same : field.1 = name <;> simp [valuesNamed, same]

theorem drafted_blank : Drafted [] .blank := by
  intro m
  rw [Draft.get_blank]
  rfl

theorem Filled.eq_none_iff {α : Type} {denotes : List Char → α → Prop}
    {values : List (List Char)} {place : Option α} (filled : Filled denotes values place) :
    place = none ↔ values = [] := by
  cases place with
  | none => exact iff_of_true rfl filled
  | some a =>
    obtain ⟨text, rfl, -⟩ := filled
    exact iff_of_false (Option.some_ne_none a) (List.cons_ne_nil text [])

theorem Filled.unique {α : Type} {denotes : List Char → α → Prop} {values : List (List Char)}
    {place place' : Option α} (functional : Functional denotes)
    (filled : Filled denotes values place) (filled' : Filled denotes values place') :
    place = place' := by
  cases place with
  | none =>
    cases place' with
    | none => rfl
    | some a' =>
      obtain ⟨text, same, -⟩ := filled'
      cases (show values = [] from filled).symm.trans same
  | some a =>
    obtain ⟨text, rfl, first⟩ := filled
    cases place' with
    | none => cases filled'
    | some a' =>
      obtain ⟨text', same, second⟩ := filled'
      cases same
      exact congrArg some (functional _ _ _ first second)

theorem Drafted.unique {fields : List Field} {d d' : Draft} (drafted : Drafted fields d)
    (drafted' : Drafted fields d') : d = d' :=
  Draft.ext_get fun m => (drafted m).unique m.functional (drafted' m)

/-- A member that is read joins those that a draft is drafted by. -/
theorem Drafted.takes {fields : List Field} {d d' : Draft} {field : Field}
    (drafted : Drafted fields d) (takes : Takes d field d') : Drafted (fields ++ [field]) d' := by
  intro m
  rw [valuesNamed_append, valuesNamed_singleton]
  unfold Takes at takes
  split at takes
  · rename_i unknown
    have other : field.1 ≠ m.name := by
      intro same
      rw [Member.ofName?_eq_some_iff.2 same.symm] at unknown
      cases unknown
    rw [if_neg other, List.append_nil, takes]
    exact drafted m
  · rename_i m' known
    obtain ⟨vacant, a, denotes, rfl⟩ := takes
    have name := Member.ofName?_eq_some_iff.1 known
    by_cases same : m = m'
    · subst same
      have nothing : valuesNamed m.name fields = [] := by
        have filled := drafted m
        rw [vacant] at filled
        exact filled
      rw [if_pos name.symm, nothing, Draft.get_put_self]
      exact ⟨field.2, rfl, denotes⟩
    · have other : field.1 ≠ m.name := by
        intro again
        rw [Member.ofName?_eq_some_iff.2 again.symm] at known
        exact same (Option.some.inj known)
      rw [if_neg other, List.append_nil, Draft.get_put_of_ne d a same]
      exact drafted m

/-- If all members together make a draft, each one can be read in its turn. -/
theorem Drafted.exists_takes {done rest : List Field} {d whole : Draft} {field : Field}
    (drafted : Drafted done d) (all : Drafted (done ++ field :: rest) whole) :
    ∃ d', Takes d field d' := by
  unfold Takes
  split
  · exact ⟨d, rfl⟩
  · rename_i m known
    have name := Member.ofName?_eq_some_iff.1 known
    have values : valuesNamed m.name (done ++ field :: rest) =
        valuesNamed m.name done ++ field.2 :: valuesNamed m.name rest := by
      simp [valuesNamed, name]
    have filled := all m
    rw [values] at filled
    cases place : whole.get m with
    | none =>
      rw [place] at filled
      exact absurd filled (List.append_ne_nil_of_right_ne_nil _ (List.cons_ne_nil _ _))
    | some a =>
      rw [place] at filled
      obtain ⟨text, same, denotes⟩ := filled
      have only : valuesNamed m.name done = [] ∧ field.2 = text := by
        cases earlier : valuesNamed m.name done with
        | nil =>
          rw [earlier] at same
          exact ⟨rfl, (List.cons.inj same).1⟩
        | cons value more =>
          rw [earlier] at same
          simp at same
      have vacant : d.get m = none := ((drafted m).eq_none_iff).2 only.1
      exact ⟨d.put m a, vacant, a, only.2 ▸ denotes, rfl⟩

theorem Drafted.takesAll_iff {done fields : List Field} {d d' : Draft}
    (drafted : Drafted done d) :
    TakesAll d fields d' ↔ Drafted (done ++ fields) d' := by
  induction fields generalizing done d with
  | nil =>
    rw [List.append_nil]
    constructor
    · rintro ⟨⟩
      exact drafted
    · intro drafted'
      rw [drafted.unique drafted']
      exact .nil
  | cons field fields ih =>
    have regroup : done ++ field :: fields = done ++ [field] ++ fields := by simp
    constructor
    · rintro (_ | ⟨takes, rest⟩)
      rw [regroup]
      exact (ih (drafted.takes takes)).1 rest
    · intro all
      obtain ⟨next, takes⟩ := drafted.exists_takes all
      rw [regroup] at all
      exact .cons takes ((ih (drafted.takes takes)).2 all)

/-! ## Reading members -/

theorem passColon_append {before rest : List Char} (blanks : Blanks before) :
    passColon (before ++ ':' :: rest) = .ok rest := by
  unfold passColon
  rw [skipBlanks_append blanks, skipBlanks_cons (by decide)]
  rfl

/-- Reading one member behind its opening quote. -/
theorem decodeMember_append {cs rest left : List Char} {field : Field} {d d' : Draft}
    (known : IsMember ('"' :: cs) field) (ends : Ends rest) :
    decodeMember d (cs ++ rest) = .ok (d', left) ↔ Takes d field d' ∧ left = rest := by
  cases known with
  | @mk text name before behind value spells blanks blanks' known =>
    have scanned : ∀ more, scanString (text ++ '"' :: more) = .ok (String.ofList name, more) :=
      fun more => (scanString_append_iff spells.isString).2 ⟨⟨name, spells, rfl⟩, rfl⟩
    have colon : ∀ more, passColon (before ++ ':' :: more) = .ok more := fun more =>
      passColon_append blanks
    simp only [List.append_assoc, List.cons_append, decodeMember, scanned, Takes, ok_bind, colon]
    cases Member.ofName? (String.ofList name) with
    | none =>
      simp only [skipValue_append known blanks' ends, ok_bind]
      simp [eq_comm]
    | some m =>
      simp only [Draft.has_eq, readMember_eq]
      cases place : d.get m with
      | some a => simp
      | none =>
        simp only [Option.isSome_none, Bool.false_eq_true, if_false, true_and, map_eq_ok_iff]
        constructor
        · rintro ⟨⟨a, more⟩, read, same⟩
          cases same
          obtain ⟨denotes, same⟩ := (m.reads blanks' known ends).1 read
          exact ⟨⟨a, denotes, rfl⟩, same⟩
        · rintro ⟨⟨a, denotes, rfl⟩, rfl⟩
          exact ⟨(a, left), (m.reads blanks' known ends).2 ⟨denotes, rfl⟩, rfl⟩

/-- Finding the next member behind its opening quote. -/
theorem nextMember_first {before cs : List Char} (blanks : Blanks before) :
    nextMember true (before ++ '"' :: cs) = .ok (some cs, cs) := by
  unfold nextMember
  rw [skipBlanks_append blanks, skipBlanks_cons (by decide)]
  rfl

theorem nextMember_next {before behind cs : List Char} (blanks : Blanks before)
    (blanks' : Blanks behind) :
    nextMember false (before ++ ',' :: (behind ++ '"' :: cs)) = .ok (some cs, cs) := by
  unfold nextMember
  rw [skipBlanks_append blanks, skipBlanks_cons (by decide)]
  simp only [Char.reduceEq, if_false, if_true, Bool.false_eq_true]
  rw [skipBlanks_append blanks', skipBlanks_cons (by decide)]
  rfl

theorem nextMember_close {before rest : List Char} (first : Bool) (blanks : Blanks before) :
    nextMember first (before ++ '\x7d' :: rest) = .ok (none, rest) := by
  unfold nextMember
  rw [skipBlanks_append blanks, skipBlanks_cons (by decide)]
  rfl

theorem decodeMembers_none {first : Bool} {text rest : List Char} (fuel : Nat) (d : Draft)
    (next : nextMember first text = .ok (none, rest)) :
    decodeMembers (fuel + 1) first d text = .ok (d, rest) := by
  simp only [decodeMembers, next, ok_bind]

theorem decodeMembers_some {first : Bool} {text body : List Char} (fuel : Nat) (d : Draft)
    (next : nextMember first text = .ok (some body, body)) :
    decodeMembers (fuel + 1) first d text =
      decodeMember d body >>= fun p => decodeMembers fuel false p.1 p.2 := by
  simp only [decodeMembers, next, ok_bind]

/-- The step of reading members: one is taken, and the others are read from there. -/
theorem decodeMembers_step {cs rest text left : List Char} {field : Field} {first : Bool}
    {d d' : Draft} {fuel : Nat} (known : IsMember ('"' :: cs) field) (ends : Ends rest)
    (next : nextMember first text = .ok (some (cs ++ rest), cs ++ rest)) :
    decodeMembers (fuel + 1) first d text = .ok (d', left) ↔
      ∃ between, Takes d field between ∧
        decodeMembers fuel false between rest = .ok (d', left) := by
  rw [decodeMembers_some fuel d next, bind_eq_ok_iff]
  constructor
  · rintro ⟨⟨between, more⟩, read, others⟩
    obtain ⟨takes, rfl⟩ := (decodeMember_append known ends).1 read
    exact ⟨between, takes, others⟩
  · rintro ⟨between, takes, others⟩
    exact ⟨(between, rest), (decodeMember_append known ends).2 ⟨takes, rfl⟩, others⟩

theorem takesAll_cons_iff {d d' : Draft} {field : Field} {fields : List Field} :
    TakesAll d (field :: fields) d' ↔ ∃ between, Takes d field between ∧
      TakesAll between fields d' := by
  constructor
  · rintro (_ | ⟨takes, others⟩)
    exact ⟨_, takes, others⟩
  · rintro ⟨between, takes, others⟩
    exact .cons takes others

/-- Members are read one after the other up to the end of the object. -/
theorem decodeMembers_append {cs : List Char} {fields : List Field} (known : AreMembers cs fields) :
    ∃ tail, cs = '"' :: tail ∧
      ∀ {fuel : Nat} {first : Bool} {d d' : Draft} {text rest left : List Char},
        fields.length < fuel →
        nextMember first text = .ok (some (tail ++ '\x7d' :: rest), tail ++ '\x7d' :: rest) →
        (decodeMembers fuel first d text = .ok (d', left) ↔
          TakesAll d fields d' ∧ left = rest) := by
  induction known with
  | @last cs behind field known blanks =>
    obtain ⟨tail, rfl⟩ : ∃ tail, cs = '"' :: tail := by cases known; exact ⟨_, rfl⟩
    refine ⟨tail ++ behind, rfl, fun {fuel first d d' text rest left} enough next => ?_⟩
    obtain ⟨fuel, rfl⟩ : ∃ more, fuel = more + 2 := ⟨fuel - 2, by simp at enough; omega⟩
    rw [List.append_assoc] at next
    have ends : Ends (behind ++ '\x7d' :: rest) := blanks.ends (ends_close .object rest)
    have close : nextMember false (behind ++ '\x7d' :: rest) = .ok (none, rest) :=
      nextMember_close false blanks
    simp only [decodeMembers_step known ends next, decodeMembers_none fuel _ close,
      takesAll_cons_iff]
    constructor
    · rintro ⟨between, takes, same⟩
      cases same
      exact ⟨⟨d', takes, .nil⟩, rfl⟩
    · rintro ⟨⟨between, takes, _ | _⟩, rfl⟩
      exact ⟨d', takes, rfl⟩
  | @more cs before behind more field fields known blanks blanks' _ ih =>
    obtain ⟨tail, rfl⟩ : ∃ tail, cs = '"' :: tail := by cases known; exact ⟨_, rfl⟩
    obtain ⟨others, rfl, read⟩ := ih
    refine ⟨tail ++ (before ++ ',' :: (behind ++ '"' :: others)), rfl,
      fun {fuel first d d' text rest left} enough next => ?_⟩
    obtain ⟨fuel, rfl⟩ : ∃ more, fuel = more + 1 := ⟨fuel - 1, by simp at enough; omega⟩
    simp only [List.append_assoc, List.cons_append] at next
    have ends : Ends (before ++ ',' :: (behind ++ '"' :: (others ++ '\x7d' :: rest))) :=
      blanks.ends (ends_cons (by decide))
    simp only [decodeMembers_step known ends next, takesAll_cons_iff,
      read (Nat.lt_of_succ_lt_succ enough) (nextMember_next blanks blanks')]
    constructor
    · rintro ⟨between, takes, others, same⟩
      exact ⟨⟨between, takes, others⟩, same⟩
    · rintro ⟨⟨between, takes, others⟩, same⟩
      exact ⟨between, takes, others, same⟩

/-! ## Objects -/

theorem takesAll_blank_iff {fields : List Field} {d : Draft} :
    TakesAll .blank fields d ↔ Drafted fields d :=
  drafted_blank.takesAll_iff

/-- An object is read to its end, as far as its members make a draft. -/
theorem decodeMembers_object {cs left : List Char} {fields : List Field} {d : Draft}
    (known : IsObject ('\x7b' :: cs) fields) :
    decodeMembers (cs.length + 1) true .blank cs = .ok (d, left) ↔
      Drafted fields d ∧ left = [] := by
  rw [← takesAll_blank_iff]
  cases known with
  | @empty cs blanks =>
    rw [decodeMembers_none _ _ (nextMember_close true blanks)]
    constructor
    · intro same
      cases same
      exact ⟨.nil, rfl⟩
    · rintro ⟨_ | _, rfl⟩
      rfl
  | @filled before cs fields blanks known =>
    have size := known.length_le
    obtain ⟨tail, rfl, read⟩ := decodeMembers_append known
    refine read ?_ (nextMember_first blanks)
    simp only [List.length_append, List.length_cons] at size ⊢
    omega

theorem optional_iff {α : Type} {denotes : List Char → α → Prop} {values : List (List Char)}
    {a : Option α} :
    Optional denotes values a ↔
      ∃ place, Filled (Nullable denotes) values place ∧ place.join = a := by
  cases a with
  | none =>
    constructor
    · rintro (missing | word)
      · exact ⟨none, missing, rfl⟩
      · exact ⟨some none, ⟨null, word, rfl⟩, rfl⟩
    · rintro ⟨_ | _ | a, filled, same⟩
      · exact .inl filled
      · obtain ⟨text, one, rfl⟩ := filled
        exact .inr one
      · cases same
  | some a =>
    constructor
    · intro required
      exact ⟨some (some a), required, rfl⟩
    · rintro ⟨_ | _ | a', filled, same⟩
      · cases same
      · cases same
      · cases same
        exact filled

theorem finish_eq_ok_iff {d : Draft} {m : Measurement} :
    d.finish = .ok m ↔ d.message.join = m.message ∧ d.items = some m.items ∧
      d.time.join = m.time ∧ d.timePerItem = some m.timePerItem := by
  obtain ⟨message, items, time, timePerItem⟩ := d
  obtain ⟨message', items', time', timePerItem'⟩ := m
  cases items <;> cases timePerItem <;> simp [Draft.finish]

/-- A measurement conforms to the schema exactly if a draft of the members is finished
as this measurement. -/
theorem conforms_iff {fields : List Field} {m : Measurement} :
    Conforms fields m ↔ ∃ d, Drafted fields d ∧ d.finish = .ok m := by
  constructor
  · intro conforms
    obtain ⟨message, filled, joined⟩ := optional_iff.1 conforms.message
    obtain ⟨time, filled', joined'⟩ := optional_iff.1 conforms.time
    refine ⟨⟨message, some m.items, time, some m.timePerItem⟩, fun member => ?_,
      finish_eq_ok_iff.2 ⟨joined, rfl, joined', rfl⟩⟩
    cases member with
    | message => exact filled
    | items => exact conforms.items
    | time => exact filled'
    | timePerItem => exact conforms.timePerItem
  · rintro ⟨d, drafted, finished⟩
    obtain ⟨message, items, time, timePerItem⟩ := finish_eq_ok_iff.1 finished
    have count := drafted .items
    have number := drafted .timePerItem
    simp only [Draft.get, items, timePerItem] at count number
    exact ⟨optional_iff.2 ⟨d.message, drafted .message, message⟩, count,
      optional_iff.2 ⟨d.time, drafted .time, time⟩, number⟩

/-- **Decoding an object.** An object is decoded to a measurement exactly if it conforms
to the schema as this measurement. -/
theorem decode_eq_ok_iff {cs : List Char} {fields : List Field} (known : IsObject cs fields)
    {m : Measurement} : decode (String.ofList cs) = .ok m ↔ Conforms fields m := by
  obtain ⟨cs, rfl⟩ : ∃ tail, cs = '\x7b' :: tail := by cases known <;> exact ⟨_, rfl⟩
  unfold decode
  rw [String.toList_ofList, conforms_iff]
  simp only [bind_eq_ok_iff]
  constructor
  · rintro ⟨⟨d, left⟩, read, m', finished, checked⟩
    obtain ⟨drafted, rfl⟩ := (decodeMembers_object known).1 read
    cases checked
    exact ⟨d, drafted, finished⟩
  · rintro ⟨d, drafted, finished⟩
    exact ⟨(d, []), (decodeMembers_object known).2 ⟨drafted, rfl⟩, m, finished, rfl⟩

end Timings.Measurement
