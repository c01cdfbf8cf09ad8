/-
  File:      OrangeFtpd/Lib/Pool.lean
  Subject:   The pool of outstanding completion handlers of an event loop.

  An asynchronous operation is started with a handler (`task`). While the
  operation is outstanding its `result` is `none`; once it has completed, or was
  cancelled, the result is there and the handler waits to be run. A handler
  that is run leaves the pool. The pool is generic in what a handler is (`τ`)
  and in the results (`ρ`).
-/
import Mathlib.Data.List.Perm.Basic

namespace OrangeFtpd

/-- One started operation and its handler. -/
structure Pending (τ ρ : Type) where
  task : τ
  /-- `none`: outstanding. `some r`: completed with `r`, the handler is queued. -/
  result : Option ρ
  deriving DecidableEq, Repr

/-- The handlers of all started operations, in the order they were started. -/
abbrev Pool (τ ρ : Type) := List (Pending τ ρ)

namespace Pool

variable {τ ρ : Type}

/-- What the handlers of the pool are. -/
def tasks (p : Pool τ ρ) : List τ := p.map (·.task)

/-- Every outstanding operation selected by `sel` completes with `r`; operations
    already completed keep their result. -/
def cancel (sel : τ → Bool) (r : ρ) (p : Pool τ ρ) : Pool τ ρ :=
  p.map fun h => if h.result.isNone && sel h.task then { h with result := some r } else h

/-- The operation at `i` completes with `r`, if it is outstanding. -/
def complete (i : Nat) (r : ρ) (p : Pool τ ρ) : Pool τ ρ :=
  p.modify i fun h => if h.result.isNone then { h with result := some r } else h

@[simp] theorem tasks_nil : tasks ([] : Pool τ ρ) = [] := rfl

@[simp] theorem tasks_cons (h : Pending τ ρ) (p : Pool τ ρ) :
    tasks (h :: p) = h.task :: tasks p := rfl

@[simp] theorem tasks_append (p q : Pool τ ρ) : tasks (p ++ q) = tasks p ++ tasks q :=
  List.map_append

theorem mem_tasks {p : Pool τ ρ} {t : τ} : t ∈ tasks p ↔ ∃ h ∈ p, h.task = t := List.mem_map

theorem mem_tasks_of {p : Pool τ ρ} {h : Pending τ ρ} (hm : h ∈ p) : h.task ∈ tasks p :=
  List.mem_map_of_mem hm

/-- **Cancelling runs no handler**: the handlers of the pool stay the same. -/
@[simp] theorem tasks_cancel (sel : τ → Bool) (r : ρ) (p : Pool τ ρ) :
    tasks (cancel sel r p) = tasks p := by
  induction p with
  | nil => rfl
  | cons h p ih =>
    show (if h.result.isNone && sel h.task then { h with result := some r } else h).task ::
      tasks (cancel sel r p) = _
    rw [ih]
    split <;> rfl

@[simp] theorem tasks_complete (i : Nat) (r : ρ) (p : Pool τ ρ) :
    tasks (complete i r p) = tasks p := by
  unfold complete tasks
  induction p generalizing i with
  | nil => cases i <;> rfl
  | cons h p ih =>
    cases i with
    | zero =>
      simp only [List.modify_zero_cons, List.map_cons, List.cons.injEq, and_true]
      split <;> rfl
    | succ i => simp only [List.modify_succ_cons, List.map_cons, ih]

/-- What a cancelled pool holds: each handler untouched, or selected and now
    completed with `r`. -/
theorem mem_cancel {sel : τ → Bool} {r : ρ} {p : Pool τ ρ} {h : Pending τ ρ}
    (hm : h ∈ cancel sel r p) :
    (h ∈ p ∧ (h.result = none → sel h.task = false)) ∨
      (h.result = some r ∧ sel h.task = true ∧ ⟨h.task, none⟩ ∈ p) := by
  obtain ⟨g, hg, rfl⟩ := List.mem_map.mp hm
  by_cases hc : (g.result.isNone && sel g.task) = true
  · rw [if_pos hc]
    rw [Bool.and_eq_true, Option.isNone_iff_eq_none] at hc
    right
    refine ⟨rfl, hc.2, ?_⟩
    have e : (⟨g.task, none⟩ : Pending τ ρ) = g := by rw [← hc.1]
    exact e ▸ hg
  · rw [if_neg hc]
    left
    refine ⟨hg, fun hn => ?_⟩
    rw [hn] at hc
    simpa using hc

/-- Cancelling leaves alone what is not selected. -/
theorem mem_cancel_iff {sel : τ → Bool} {r : ρ} {p : Pool τ ρ} {t : τ} {q : Option ρ}
    (hs : sel t = false) : ⟨t, q⟩ ∈ cancel sel r p ↔ ⟨t, q⟩ ∈ p := by
  constructor
  · intro hm
    rcases mem_cancel hm with ⟨h1, _⟩ | ⟨_, h1, _⟩
    · exact h1
    · rw [hs] at h1
      cases h1
  · intro hm
    refine List.mem_map.mpr ⟨_, hm, ?_⟩
    rw [hs, Bool.and_false]
    rfl

/-- A cancelled pool has no outstanding operation of the selected kind. -/
theorem cancel_done {sel : τ → Bool} {r : ρ} {p : Pool τ ρ} {h : Pending τ ρ}
    (hm : h ∈ cancel sel r p) (hs : sel h.task = true) : h.result ≠ none := by
  intro hn
  rcases mem_cancel hm with ⟨_, h1⟩ | ⟨h1, _⟩
  · rw [h1 hn] at hs; cases hs
  · rw [hn] at h1; cases h1

/-- What is cancelled stays cancelled. -/
theorem cancel_cancel (sel : τ → Bool) (r : ρ) (p : Pool τ ρ) :
    cancel sel r (cancel sel r p) = cancel sel r p := by
  unfold cancel
  rw [List.map_map]
  refine List.map_congr_left fun h _ => ?_
  by_cases hc : (h.result.isNone && sel h.task) = true
  · rw [Function.comp_apply, if_pos hc]
    rfl
  · rw [Function.comp_apply, if_neg hc, if_neg hc]

theorem mem_complete {i : Nat} {r : ρ} {p : Pool τ ρ} {h : Pending τ ρ}
    (hm : h ∈ complete i r p) :
    h ∈ p ∨ (h.result = some r ∧ p[i]? = some ⟨h.task, none⟩) := by
  unfold complete at hm
  induction p generalizing i with
  | nil => cases i <;> simp at hm
  | cons g p ih =>
    cases i with
    | zero =>
      rw [List.modify_zero_cons, List.mem_cons] at hm
      rcases hm with rfl | hm
      · by_cases hn : g.result.isNone = true
        · right
          rw [if_pos hn]
          rw [Option.isNone_iff_eq_none] at hn
          refine ⟨rfl, ?_⟩
          rw [List.getElem?_cons_zero, ← hn]
        · left
          rw [if_neg hn]
          exact List.mem_cons_self
      · exact Or.inl (List.mem_cons_of_mem _ hm)
    | succ i =>
      rw [List.modify_succ_cons, List.mem_cons] at hm
      rcases hm with rfl | hm
      · exact Or.inl List.mem_cons_self
      · rcases ih hm with h1 | h1
        · exact Or.inl (List.mem_cons_of_mem _ h1)
        · exact Or.inr (by simpa using h1)

/-- Completing changes the handler at `i` only. -/
theorem perm_complete {p : Pool τ ρ} {i : Nat} {t : τ} {r : ρ} (hi : p[i]? = some ⟨t, none⟩) :
    (⟨t, some r⟩ :: p.eraseIdx i).Perm (complete i r p) := by
  unfold complete
  induction p generalizing i with
  | nil => cases hi
  | cons g p ih =>
    cases i with
    | zero =>
      cases hi
      exact List.Perm.refl _
    | succ i =>
      rw [List.modify_succ_cons, List.eraseIdx_cons_succ]
      exact (List.Perm.swap g _ _).trans ((ih hi).cons g)

/-! ## Running a handler: it leaves the pool -/

theorem perm_eraseIdx {p : Pool τ ρ} {i : Nat} {h : Pending τ ρ} (hi : p[i]? = some h) :
    (h :: p.eraseIdx i).Perm p := by
  obtain ⟨hlt, rfl⟩ := List.getElem?_eq_some_iff.mp hi
  exact List.getElem_cons_eraseIdx_perm hlt

theorem tasks_eraseIdx {p : Pool τ ρ} {i : Nat} {h : Pending τ ρ} (hi : p[i]? = some h) :
    (h.task :: tasks (p.eraseIdx i)).Perm (tasks p) :=
  (perm_eraseIdx hi).map Pending.task

theorem mem_of_eraseIdx {p : Pool τ ρ} {i : Nat} {h : Pending τ ρ}
    (hm : h ∈ p.eraseIdx i) : h ∈ p := List.mem_of_mem_eraseIdx hm

end Pool

end OrangeFtpd
