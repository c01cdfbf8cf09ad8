/-
  File:      OrangeFtpd/Lib/Stops.lean
  Subject:   Programs that stop with one error, and programs that never do.

  `Avoids e x`: from no state `x` stops with `e`. A program is walked through once: its
  parts that avoid the error are passed by, and what is left is the exact condition under
  which it stops.
-/
import OrangeFtpd.Lib.Act

namespace OrangeFtpd

namespace Act

variable {σ ε α β : Type} {x y : Act σ ε α} {f : α → Act σ ε β} {s s₁ : σ} {a : α} {e : ε}

/-- A sequence stops in its first part, or in its second. -/
theorem bind_error : (x >>= f) s = .error e ↔
    x s = .error e ∨ ∃ a s₁, x s = .ok (a, s₁) ∧ f a s₁ = .error e := by
  show Act.bind x f s = _ ↔ _
  unfold Act.bind
  cases hx : x s with
  | error e' => simp
  | ok r =>
    obtain ⟨a, s₁⟩ := r
    constructor
    · exact fun h => Or.inr ⟨a, s₁, rfl, h⟩
    · intro h
      obtain ⟨a', s₂, he, h⟩ := h.resolve_left nofun
      cases he
      exact h

/-- The first part returns. -/
theorem bind_error_of_ok (h : x s = .ok (a, s₁)) :
    (x >>= f) s = .error e ↔ f a s₁ = .error e := by
  rw [bind_error, h]
  constructor
  · intro h
    obtain ⟨a', s₂, he, h⟩ := h.resolve_left nofun
    cases he
    exact h
  · exact fun h => Or.inr ⟨a, s₁, rfl, h⟩

/-- From no state `x` stops with `e`. -/
def Avoids (e : ε) (x : Act σ ε α) : Prop := ∀ s, x s ≠ .error e

/-- Only the first part can stop so. -/
theorem bind_error_of_avoids (hf : ∀ a, Avoids e (f a)) :
    (x >>= f) s = .error e ↔ x s = .error e := by
  rw [bind_error]
  exact or_iff_left fun ⟨a, s₁, _, h⟩ => hf a s₁ h

namespace Avoids

theorem pure : Avoids e (Pure.pure a : Act σ ε α) := fun _ => nofun

theorem modify {g : σ → σ} : Avoids e (Act.modify g : Act σ ε Unit) := fun _ => nofun

theorem get : Avoids e (Act.get : Act σ ε σ) := fun _ => nofun

theorem throw {e' : ε} (h : e' ≠ e) : Avoids e (Act.throw e' : Act σ ε α) :=
  fun _ he => h (Except.error.inj he)

theorem lift {r : Except ε α} (h : r ≠ .error e) : Avoids e (Act.lift r : Act σ ε α) := by
  intro s he
  cases r with
  | ok a => cases he
  | error e' => exact h (congrArg Except.error (Except.error.inj he))

/-- **The sequence rule.** -/
theorem bind (hx : Avoids e x) (hf : ∀ a, Avoids e (f a)) : Avoids e (x >>= f) :=
  fun s h => hx s ((bind_error_of_avoids hf).mp h)

theorem get_bind {f : σ → Act σ ε β} (h : ∀ s, Avoids e (f s)) : Avoids e (Act.get >>= f) :=
  bind get h

theorem modify_bind {g : σ → σ} {f : Unit → Act σ ε β} (h : Avoids e (f ())) :
    Avoids e (Act.modify g >>= f) := bind modify fun _ => h

theorem ite {c : Prop} [Decidable c] (hx : c → Avoids e x) (hy : ¬ c → Avoids e y) :
    Avoids e (if c then x else y) := by
  split
  · exact hx ‹_›
  · exact hy ‹_›

end Avoids

end Act

end OrangeFtpd
