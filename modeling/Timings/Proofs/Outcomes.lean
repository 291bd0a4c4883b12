/-!
Rules for computations: those that may fail, and those that change a state.

A computation that fails is taken apart at its steps, of which each one has to
succeed. For a computation that changes a state, `Ensures` says what holds behind it,
of its answer and of the new state, if something held before.
-/

namespace Timings

/-! ## Computations that may fail -/

section Except

variable {ε α β : Type}

theorem ok_bind (a : α) (f : α → Except ε β) : (Except.ok a >>= f) = f a := rfl

theorem bind_eq_ok_iff {x : Except ε α} {f : α → Except ε β} {b : β} :
    (x >>= f) = .ok b ↔ ∃ a, x = .ok a ∧ f a = .ok b := by
  cases x with
  | error e =>
      constructor
      · intro failed
        cases failed
      · rintro ⟨a, failed, -⟩
        cases failed
  | ok a =>
      constructor
      · intro result
        exact ⟨a, rfl, result⟩
      · rintro ⟨a', same, result⟩
        cases same
        exact result

theorem map_eq_ok_iff {x : Except ε α} {f : α → β} {b : β} :
    x.map f = .ok b ↔ ∃ a, x = .ok a ∧ f a = b := by
  cases x <;> simp [Except.map]

theorem toOption_eq_some_iff {x : Except ε α} {a : α} : x.toOption = some a ↔ x = .ok a := by
  cases x <;> simp [Except.toOption]

end Except

/-! ## Computations that change a state -/

/-- Behind a computation that starts where `I` holds, `Q` holds of its answer and of
the new state. -/
def Ensures {σ α : Type} (I : σ → Prop) (act : StateM σ α) (Q : α → σ → Prop) : Prop :=
  ∀ s, I s → Q (act.run s).1 (act.run s).2

namespace Ensures

variable {σ α β : Type} {I : σ → Prop} {Q R : α → σ → Prop} {act : StateM σ α}

theorem pure {a : α} (holds : ∀ s, I s → Q a s) : Ensures I (pure a : StateM σ α) Q := holds

theorem bind {f : α → StateM σ β} {Q : β → σ → Prop} (first : Ensures I act R)
    (rest : ∀ a, Ensures (R a) (f a) Q) : Ensures I (act >>= f) Q :=
  fun s holds => rest _ _ (first s holds)

/-- A first step of which the answer is known. -/
theorem bind_eq {f : α → StateM σ β} {Q : β → σ → Prop} {J : σ → Prop} {a : α}
    (first : Ensures I act fun a' s => a' = a ∧ J s) (rest : Ensures J (f a) Q) :
    Ensures I (act >>= f) Q := by
  intro s holds
  obtain ⟨same, next⟩ := first s holds
  have behind := rest _ next
  rw [← same] at behind
  exact behind

end Ensures

/-- A computation keeps what holds, whatever it answers. -/
def Keeps {σ α : Type} (I : σ → Prop) (act : StateM σ α) : Prop := Ensures I act fun _ => I

namespace Keeps

variable {σ α β : Type} {I : σ → Prop} {act : StateM σ α}

theorem pure (a : α) : Keeps I (pure a : StateM σ α) := Ensures.pure fun _ holds => holds

theorem bind {f : α → StateM σ β} (first : Keeps I act) (rest : ∀ a, Keeps I (f a)) :
    Keeps I (act >>= f) := Ensures.bind first rest

end Keeps

end Timings
