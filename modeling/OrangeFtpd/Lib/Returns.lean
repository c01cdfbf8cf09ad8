/-
  File:      OrangeFtpd/Lib/Returns.lean
  Subject:   Programs that return.

  `Returns x s Q`: from `s` the program `x` returns, with `Q`. The rules are
  equivalences, one for each construct: rewriting with them turns "this program
  returns with `Q`" into the exact condition on its inputs.
-/
import OrangeFtpd.Lib.Triple

namespace OrangeFtpd

namespace Act

variable {σ ε α β : Type}

/-- From `s`, `x` returns with `Q`. -/
def Returns (x : Act σ ε α) (s : σ) (Q : α → σ → Prop) : Prop :=
  ∃ a s', x s = .ok (a, s') ∧ Q a s'

namespace Returns

variable {s : σ} {Q : α → σ → Prop} {R : β → σ → Prop} {x : Act σ ε α} {f : α → Act σ ε β} {a : α}

theorem of_run {s' : σ} (h : x s = .ok (a, s')) : Returns x s Q ↔ Q a s' := by
  constructor
  · rintro ⟨b, s₁, h1, hq⟩
    rw [h] at h1
    cases h1
    exact hq
  · exact fun hq => ⟨a, s', h, hq⟩

/-- A triple without errors says that the program returns. -/
theorem of_triple {P : σ → Prop} (h : Triple P x Q fun _ => False) (hs : P s) : Returns x s Q := by
  have hx := h s hs
  cases hr : x s with
  | error e =>
    rw [hr] at hx
    exact hx.elim
  | ok r =>
    rw [hr] at hx
    exact ⟨r.1, r.2, hr, hx⟩

@[simp] theorem pure : Returns (Pure.pure a : Act σ ε α) s Q ↔ Q a s := of_run rfl

@[simp] theorem modify {g : σ → σ} {Q : Unit → σ → Prop} :
    Returns (Act.modify g : Act σ ε Unit) s Q ↔ Q () (g s) := of_run rfl

@[simp] theorem throw {e : ε} : ¬ Returns (Act.throw e : Act σ ε α) s Q := by
  rintro ⟨a, s', h, _⟩
  cases h

@[simp] theorem lift {r : Except ε α} : Returns (Act.lift r) s Q ↔ ∃ a, r = .ok a ∧ Q a s := by
  cases r with
  | ok a =>
    refine (of_run (show Act.lift (.ok a) s = .ok (a, s) from rfl)).trans ⟨fun h => ⟨a, rfl, h⟩, ?_⟩
    rintro ⟨_, he, h⟩
    cases he
    exact h
  | error e =>
    refine ⟨fun h => (throw h).elim, ?_⟩
    rintro ⟨_, he, _⟩
    cases he

/-- **The sequence rule.** -/
@[simp] theorem bind : Returns (x >>= f) s R ↔ Returns x s fun a s₁ => Returns (f a) s₁ R := by
  constructor
  · rintro ⟨b, s', h, hq⟩
    obtain ⟨a, s₁, h1, h2⟩ := bind_ok.mp h
    exact ⟨a, s₁, h1, b, s', h2, hq⟩
  · rintro ⟨a, s₁, h1, b, s', h2, hq⟩
    exact ⟨b, s', bind_ok.mpr ⟨a, s₁, h1, h2⟩, hq⟩

@[simp] theorem get {Q : σ → σ → Prop} : Returns (Act.get : Act σ ε σ) s Q ↔ Q s s := of_run rfl

/-- A branch is decided before it runs. -/
@[simp] theorem ite {c : Prop} [Decidable c] {y : Act σ ε α} :
    Returns (if c then x else y) s Q ↔ (c → Returns x s Q) ∧ (¬ c → Returns y s Q) := by
  by_cases hc : c
  · rw [if_pos hc]
    exact ⟨fun h => ⟨fun _ => h, fun h' => absurd hc h'⟩, fun h => h.1 hc⟩
  · rw [if_neg hc]
    exact ⟨fun h => ⟨fun h' => absurd h' hc, fun _ => h⟩, fun h => h.2 hc⟩

theorem congr {Q' : α → σ → Prop} (h : ∀ a s', x s = .ok (a, s') → (Q a s' ↔ Q' a s')) :
    Returns x s Q ↔ Returns x s Q' := by
  constructor
  · rintro ⟨a, s', hx, hq⟩
    exact ⟨a, s', hx, (h a s' hx).mp hq⟩
  · rintro ⟨a, s', hx, hq⟩
    exact ⟨a, s', hx, (h a s' hx).mpr hq⟩

end Returns

end Act

end OrangeFtpd
