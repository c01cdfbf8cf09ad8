/-
  File:      OrangeFtpd/Lib/Triple.lean
  Subject:   Triples for the programs of Act.lean, with a postcondition for each
             way a program ends.

  `Triple P x Q E`: from every state with `P`, the program `x` either returns an
  `a` in a state with `Q a`, or stops with an error that meets `E`. The rules
  follow the constructs of a program; a sequence that starts with a read, a
  change of the state or a lifted computation has a rule of its own, so that a
  proof walks through a program from its first line to its last.
-/
import OrangeFtpd.Lib.Act

namespace OrangeFtpd

namespace Act

variable {σ ε α β : Type}

/-- From a state with `P`, `x` returns with `Q` or stops with `E`. -/
def Triple (P : σ → Prop) (x : Act σ ε α) (Q : α → σ → Prop) (E : ε → Prop) : Prop :=
  ∀ s, P s → match x s with
    | .ok (a, s') => Q a s'
    | .error e => E e

namespace Triple

variable {P P' M : σ → Prop} {x : Act σ ε α} {Q Q' : α → σ → Prop} {R : β → σ → Prop}
  {E E' : ε → Prop} {f : α → Act σ ε β} {s s' : σ} {a : α} {e : ε}

/-! ## What a triple says of one run -/

theorem ok (h : Triple P x Q E) (hs : P s) (hx : x s = .ok (a, s')) : Q a s' := by
  have := h s hs
  rw [hx] at this
  exact this

theorem error (h : Triple P x Q E) (hs : P s) (hx : x s = .error e) : E e := by
  have := h s hs
  rw [hx] at this
  exact this

theorem of_ok (h : ∀ s a s', P s → x s = .ok (a, s') → Q a s') :
    Triple P x Q (fun _ => True) := by
  intro s hs
  cases hx : x s with
  | error e => trivial
  | ok r => exact h s r.1 r.2 hs hx

/-! ## Rules -/

theorem conseq (h : Triple P x Q E) (hP : ∀ s, P' s → P s) (hQ : ∀ a s, Q a s → Q' a s)
    (hE : ∀ e, E e → E' e) : Triple P' x Q' E' := by
  intro s hs
  cases hx : x s with
  | error e => exact hE e (h.error (hP s hs) hx)
  | ok r => exact hQ r.1 r.2 (h.ok (hP s hs) hx)

theorem post (h : Triple P x Q E) (hQ : ∀ a s, Q a s → Q' a s) : Triple P x Q' E :=
  h.conseq (fun _ => id) hQ (fun _ => id)

theorem pre (h : Triple P x Q E) (hP : ∀ s, P' s → P s) : Triple P' x Q E :=
  h.conseq hP (fun _ _ => id) (fun _ => id)

theorem pure (h : ∀ s, P s → Q a s) : Triple P (pure a : Act σ ε α) Q E := fun s hs => h s hs

theorem throw (h : E e) : Triple P (throw e : Act σ ε α) Q E := fun _ _ => h

theorem modify {g : σ → σ} {Q : Unit → σ → Prop} (h : ∀ s, P s → Q () (g s)) :
    Triple P (modify g : Act σ ε Unit) Q E := fun s hs => h s hs

theorem bind (hx : Triple P x Q E) (hf : ∀ a, Triple (Q a) (f a) R E) :
    Triple P (x >>= f) R E := by
  intro s hs
  show match Act.bind x f s with | .ok (a, s') => R a s' | .error e => E e
  unfold Act.bind
  cases h : x s with
  | error e => exact hx.error hs h
  | ok r => exact hf r.1 r.2 (hx.ok hs h)

/-- The state that is read is the one the rest starts in. -/
theorem get_bind {f : σ → Act σ ε β} (h : ∀ s, P s → Triple (· = s) (f s) R E) :
    Triple P (get >>= f) R E := fun s hs => h s hs s rfl

theorem modify_bind {g : σ → σ} {f : Unit → Act σ ε β} (h : ∀ s, P s → M (g s))
    (hf : Triple M (f ()) R E) : Triple P (Act.modify g >>= f) R E :=
  fun s hs => hf (g s) (h s hs)

theorem lift_bind {r : Except ε α} (hr : ∀ e, r = .error e → E e)
    (hf : ∀ a, r = .ok a → Triple P (f a) R E) : Triple P (lift r >>= f) R E := by
  intro s hs
  cases r with
  | error e => exact hr e rfl
  | ok a => exact hf a rfl s hs

theorem ite {c : Prop} [Decidable c] {y : Act σ ε α} (hx : c → Triple P x Q E)
    (hy : ¬ c → Triple P y Q E) : Triple P (if c then x else y) Q E := by
  split
  · exact hx ‹_›
  · exact hy ‹_›

/-! ## Rules at a known state -/

theorem pure_at (h : Q a s) : Triple (· = s) (Pure.pure a : Act σ ε α) Q E :=
  .pure fun s' hs => by rw [hs]; exact h

theorem modify_at {g : σ → σ} {Q : Unit → σ → Prop} (h : Q () (g s)) :
    Triple (· = s) (Act.modify g : Act σ ε Unit) Q E :=
  .modify fun s' hs => by rw [hs]; exact h

theorem get_at {f : σ → Act σ ε β} (h : Triple (· = s) (f s) R E) :
    Triple (· = s) (get >>= f) R E :=
  .get_bind fun s' hs => by rw [hs]; exact h

theorem modify_bind_at {g : σ → σ} {f : Unit → Act σ ε β}
    (hf : Triple (· = g s) (f ()) R E) : Triple (· = s) (Act.modify g >>= f) R E :=
  .modify_bind (fun s' hs => by rw [hs]) hf

end Triple

end Act

end OrangeFtpd
