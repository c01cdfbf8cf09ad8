/-
  File:      OrangeFtpd/Lib/Act.lean
  Subject:   Programs over a state that may stop with an error.

  `Act σ ε α` reads a state, may change it, and either returns a value or
  stops (an exception that nobody catches: the state at the stop is not kept).
  The rules at the end invert a run that returned: each construct of a program
  says what its pieces did. Nothing here knows a particular state or program.
-/

namespace OrangeFtpd

/-- A program over the state `σ` that returns an `α` or stops with an `ε`. -/
def Act (σ ε α : Type) : Type := σ → Except ε (α × σ)

namespace Act

variable {σ ε α β : Type}

/-- Return a value, touch nothing. -/
protected def pure (a : α) : Act σ ε α := fun s => .ok (a, s)

/-- One program after the other; the second never starts if the first stops. -/
protected def bind (x : Act σ ε α) (f : α → Act σ ε β) : Act σ ε β := fun s =>
  match x s with
  | .ok (a, s₁) => f a s₁
  | .error e => .error e

instance : Monad (Act σ ε) where
  pure := Act.pure
  bind := Act.bind

/-- The current state. -/
def get : Act σ ε σ := fun s => .ok (s, s)

/-- Change the state. -/
def modify (f : σ → σ) : Act σ ε Unit := fun s => .ok ((), f s)

/-- Stop. -/
def throw (e : ε) : Act σ ε α := fun _ => .error e

/-- Return the value of a computation without state, or stop with its error. -/
def lift (x : Except ε α) : Act σ ε α := fun s =>
  match x with
  | .ok a => .ok (a, s)
  | .error e => .error e

/-! ## Inversion of a run that returned -/

@[simp] theorem pure_ok {a b : α} {s s' : σ} :
    (pure a : Act σ ε α) s = .ok (b, s') ↔ b = a ∧ s' = s := by
  show (Except.ok (a, s) : Except ε (α × σ)) = .ok (b, s') ↔ _
  simp only [Except.ok.injEq, Prod.mk.injEq]
  exact ⟨fun ⟨h1, h2⟩ => ⟨h1.symm, h2.symm⟩, fun ⟨h1, h2⟩ => ⟨h1.symm, h2.symm⟩⟩

/-- A sequence returned: its first part did, and the second from there. -/
@[simp] theorem bind_ok {x : Act σ ε α} {f : α → Act σ ε β} {s s' : σ} {b : β} :
    (x >>= f) s = .ok (b, s') ↔ ∃ a s₁, x s = .ok (a, s₁) ∧ f a s₁ = .ok (b, s') := by
  show Act.bind x f s = _ ↔ _
  unfold Act.bind
  cases hx : x s with
  | error e => simp
  | ok r =>
    obtain ⟨a, s₁⟩ := r
    simp only [Except.ok.injEq, Prod.mk.injEq]
    constructor
    · exact fun h => ⟨a, s₁, ⟨rfl, rfl⟩, h⟩
    · rintro ⟨_, _, ⟨rfl, rfl⟩, h⟩
      exact h

@[simp] theorem get_ok {a s s' : σ} : (get : Act σ ε σ) s = .ok (a, s') ↔ a = s ∧ s' = s := by
  simp only [get, Except.ok.injEq, Prod.mk.injEq]
  exact ⟨fun ⟨h1, h2⟩ => ⟨h1.symm, h2.symm⟩, fun ⟨h1, h2⟩ => ⟨h1.symm, h2.symm⟩⟩

@[simp] theorem modify_ok {f : σ → σ} {u : Unit} {s s' : σ} :
    (modify f : Act σ ε Unit) s = .ok (u, s') ↔ s' = f s := by
  simp only [modify, Except.ok.injEq, Prod.mk.injEq, true_and]
  exact eq_comm

@[simp] theorem throw_ok {e : ε} {a : α} {s s' : σ} :
    (throw e : Act σ ε α) s = .ok (a, s') ↔ False := by
  simp [throw]

@[simp] theorem lift_ok {x : Except ε α} {a : α} {s s' : σ} :
    (lift x : Act σ ε α) s = .ok (a, s') ↔ x = .ok a ∧ s' = s := by
  unfold lift
  cases x with
  | error e => simp
  | ok b =>
    simp only [Except.ok.injEq, Prod.mk.injEq]
    exact ⟨fun ⟨h1, h2⟩ => ⟨h1, h2.symm⟩, fun ⟨h1, h2⟩ => ⟨h1, h2.symm⟩⟩

/-! ## Running forward -/

theorem get_bind (f : σ → Act σ ε β) (s : σ) : (get >>= f) s = f s s := rfl

theorem modify_bind (g : σ → σ) (f : Unit → Act σ ε β) (s : σ) :
    (modify g >>= f) s = f () (g s) := rfl

/-- A branch is decided before it runs. -/
theorem ite_run {c : Prop} [Decidable c] {x y : Act σ ε α} {s : σ} :
    (if c then x else y) s = if c then x s else y s := by
  split <;> rfl

end Act

end OrangeFtpd
