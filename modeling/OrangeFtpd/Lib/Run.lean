/-
  File:      OrangeFtpd/Lib/Run.lean
  Subject:   Runs of a machine, and what holds in all of them.

  A machine is a step function `step : σ → ε → Except φ σ` (an event that the
  machine refuses, or that stops it, has no next state). `Reach step ok s₀` are
  the states reached from `s₀` by runs whose every step meets `ok`, a condition
  on the state before the step and the event.

  * `Reach.invariant`: what holds at the start and survives every admitted step
    holds in every state reached.
  * `Reach.mono`: a weaker condition admits more runs.
  * `runAll`, `reach_runAll`: a concrete run by a list of events.
  * `runAll_induction`: what holds along such a run.
  * `InfiniteRun`: a run that never ends; `exists_after` puts a concrete run
    before it, `alternate` repeats two events for ever.
  * `Always`: a property of every entry of a log (newest entry first), given
    what was logged before it.
-/

namespace OrangeFtpd

variable {σ ε φ ω : Type}

/-! ## 1. Reached states -/

/-- The states reached from `s₀` by steps that meet `ok`. -/
inductive Reach (step : σ → ε → Except φ σ) (ok : σ → ε → Prop) (s₀ : σ) : σ → Prop where
  | start : Reach step ok s₀ s₀
  | step {s s' : σ} (e : ε) (h : Reach step ok s₀ s) (hok : ok s e) (hs : step s e = .ok s') :
      Reach step ok s₀ s'

section Reach

variable {step : σ → ε → Except φ σ} {ok ok' : σ → ε → Prop} {s₀ s : σ}

/-- **The invariant rule.** -/
theorem Reach.invariant {I : σ → Prop} (h0 : I s₀)
    (hstep : ∀ s e s', I s → ok s e → step s e = .ok s' → I s')
    (h : Reach step ok s₀ s) : I s := by
  induction h with
  | start => exact h0
  | step e _ hok hs ih => exact hstep _ e _ ih hok hs

/-- The invariant rule where the step may use what is already known of the
    reached states. -/
theorem Reach.invariant_of {J I : σ → Prop} (hJ : ∀ s, Reach step ok s₀ s → J s) (h0 : I s₀)
    (hstep : ∀ s e s', J s → I s → ok s e → step s e = .ok s' → I s')
    (h : Reach step ok s₀ s) : I s := by
  induction h with
  | start => exact h0
  | step e h hok hs ih => exact hstep _ e _ (hJ _ h) ih hok hs

theorem Reach.mono (hok : ∀ s e, ok s e → ok' s e) (h : Reach step ok s₀ s) :
    Reach step ok' s₀ s := by
  induction h with
  | start => exact .start
  | step e _ ho hs ih => exact .step e ih (hok _ _ ho) hs

end Reach

/-! ## 2. Concrete runs -/

/-- The state after a list of events. -/
def runAll (step : σ → ε → Except φ σ) : σ → List ε → Except φ σ
  | s, [] => .ok s
  | s, e :: es =>
    match step s e with
    | .ok s' => runAll step s' es
    | .error f => .error f

/-- Every step of the list of events meets `ok`. -/
def AllOk (step : σ → ε → Except φ σ) (ok : σ → ε → Prop) : σ → List ε → Prop
  | _, [] => True
  | s, e :: es => ok s e ∧
    match step s e with
    | .ok s' => AllOk step ok s' es
    | .error _ => True

/-- The condition is checked along the run. -/
instance decidableAllOk {step : σ → ε → Except φ σ} {ok : σ → ε → Prop}
    [∀ s e, Decidable (ok s e)] : ∀ s es, Decidable (AllOk step ok s es)
  | _, [] => isTrue trivial
  | s, e :: es =>
    match hs : step s e with
    | .ok s' =>
      have : Decidable (AllOk step ok s' es) := decidableAllOk s' es
      decidable_of_iff (ok s e ∧ AllOk step ok s' es) (by simp [AllOk, hs])
    | .error _ => decidable_of_iff (ok s e) (by simp [AllOk, hs])

/-- A condition that the events meet whatever the state is. -/
theorem allOk_of_mem {step : σ → ε → Except φ σ} {ok : σ → ε → Prop} :
    ∀ {es : List ε} {s : σ}, (∀ e ∈ es, ∀ s, ok s e) → AllOk step ok s es
  | [], _, _ => trivial
  | e :: _, s, h => by
    refine ⟨h e List.mem_cons_self s, ?_⟩
    split
    · exact allOk_of_mem fun e' he => h e' (List.mem_cons_of_mem e he)
    · trivial

/-- A condition that every event meets. -/
theorem allOk_of_forall {step : σ → ε → Except φ σ} {ok : σ → ε → Prop} (h : ∀ s e, ok s e)
    {es : List ε} {s : σ} : AllOk step ok s es := allOk_of_mem fun e _ s => h s e

theorem reach_runAll {step : σ → ε → Except φ σ} {ok : σ → ε → Prop} {s₀ : σ} :
    ∀ (es : List ε) {s s' : σ}, Reach step ok s₀ s → AllOk step ok s es →
      runAll step s es = .ok s' → Reach step ok s₀ s'
  | [], _, _, h, _, hr => by cases hr; exact h
  | e :: es, s, s', h, ha, hr => by
      unfold runAll at hr
      obtain ⟨ho, hrest⟩ := ha
      cases hs : step s e with
      | error f => rw [hs] at hr; cases hr
      | ok s₁ =>
        rw [hs] at hr hrest
        exact reach_runAll es (.step e h ho hs) hrest hr

/-- A concrete run is evaluated, and what its last state meets is checked. -/
theorem exists_runAll {step : σ → ε → Except φ σ} {P : σ → Prop} [DecidablePred P] {s : σ}
    {es : List ε} (h : ((runAll step s es).toOption.any fun s' => decide (P s')) = true) :
    ∃ s', runAll step s es = .ok s' ∧ P s' := by
  cases hr : runAll step s es with
  | error f => rw [hr] at h; cases h
  | ok s' =>
    rw [hr] at h
    exact ⟨s', rfl, of_decide_eq_true h⟩

/-- **The invariant rule for a run by events**: `I` may speak of the events so far. -/
theorem runAll_induction {step : σ → ε → Except φ σ} {I : List ε → σ → Prop}
    (hstep : ∀ es s e s', I es s → step s e = .ok s' → I (es ++ [e]) s') :
    ∀ {es : List ε} {before : List ε} {s s' : σ}, I before s → runAll step s es = .ok s' →
      I (before ++ es) s'
  | [], before, s, s', h, hr => by
    cases hr
    rw [List.append_nil]
    exact h
  | e :: es, before, s, s', h, hr => by
    unfold runAll at hr
    cases hs : step s e with
    | error f => rw [hs] at hr; cases hr
    | ok s₁ =>
      rw [hs] at hr
      have ih := runAll_induction hstep (hstep before s e s₁ h hs) hr
      rwa [List.append_assoc] at ih

/-! ## 3. Infinite runs -/

/-- A run that never ends, whose every step meets `ok`. -/
structure InfiniteRun (step : σ → ε → Except φ σ) (ok : σ → ε → Prop) (s₀ : σ) where
  state : Nat → σ
  event : Nat → ε
  start : state 0 = s₀
  admitted : ∀ n, ok (state n) (event n)
  next : ∀ n, step (state n) (event n) = .ok (state (n + 1))

namespace InfiniteRun

variable {step : σ → ε → Except φ σ} {ok : σ → ε → Prop} {s s₀ s₁ : σ}

/-- Its states are reached. -/
theorem reach (r : InfiniteRun step ok s₀) (n : Nat) : Reach step ok s₀ (r.state n) := by
  induction n with
  | zero =>
    rw [r.start]
    exact .start
  | succ n ih => exact .step (r.event n) ih (r.admitted n) (r.next n)

/-- One step before an infinite run. -/
def cons {e : ε} (ho : ok s₀ e) (hs : step s₀ e = .ok s₁) (r : InfiniteRun step ok s₁) :
    InfiniteRun step ok s₀ where
  state
    | 0 => s₀
    | n + 1 => r.state n
  event
    | 0 => e
    | n + 1 => r.event n
  start := rfl
  admitted
    | 0 => ho
    | n + 1 => r.admitted n
  next
    | 0 => hs.trans (congrArg Except.ok r.start.symm)
    | n + 1 => r.next n

/-- A concrete run before an infinite one. -/
theorem exists_after (r : InfiniteRun step ok s₁) :
    ∀ {es : List ε} {s : σ}, AllOk step ok s es → runAll step s es = .ok s₁ →
      ∃ q : InfiniteRun step ok s,
        ∀ n, q.state (n + es.length) = r.state n ∧ q.event (n + es.length) = r.event n
  | [], s, _, hr => by
    cases hr
    exact ⟨r, fun n => ⟨rfl, rfl⟩⟩
  | e :: es, s, ha, hr => by
    unfold runAll at hr
    obtain ⟨ho, hrest⟩ := ha
    cases hs : step s e with
    | error f => rw [hs] at hr; cases hr
    | ok s' =>
      rw [hs] at hr hrest
      obtain ⟨q, hq⟩ := exists_after r hrest hr
      exact ⟨q.cons ho hs, hq⟩

/-- Two events that take turns for ever. -/
def alternate (e e' : ε) (f g : Nat → σ) (ho : ∀ k, ok (f k) e) (ho' : ∀ k, ok (g k) e')
    (hf : ∀ k, step (f k) e = .ok (g k)) (hg : ∀ k, step (g k) e' = .ok (f (k + 1))) :
    InfiniteRun step ok (f 0) where
  state n := if n % 2 = 0 then f (n / 2) else g (n / 2)
  event n := if n % 2 = 0 then e else e'
  start := rfl
  admitted n := by
    split
    · exact ho _
    · exact ho' _
  next n := by
    by_cases h : n % 2 = 0
    · rw [if_pos h, if_pos h, if_neg (by omega), show (n + 1) / 2 = n / 2 by omega]
      exact hf _
    · rw [if_neg h, if_neg h, if_pos (by omega), show (n + 1) / 2 = n / 2 + 1 by omega]
      exact hg _

theorem alternate_even {e e' : ε} {f g : Nat → σ} (ho : ∀ k, ok (f k) e) (ho' : ∀ k, ok (g k) e')
    (hf : ∀ k, step (f k) e = .ok (g k)) (hg : ∀ k, step (g k) e' = .ok (f (k + 1))) (k : Nat) :
    (alternate e e' f g ho ho' hf hg).state (2 * k) = f k := by
  unfold alternate
  dsimp only
  rw [if_pos (Nat.mul_mod_right 2 k), Nat.mul_div_cancel_left k Nat.two_pos]

end InfiniteRun

/-! ## 4. Properties of a log -/

/-- `P pre o` for every entry `o` of the log, `pre` being what was logged before
    it (newest first). -/
def Always (P : List ω → ω → Prop) : List ω → Prop
  | [] => True
  | o :: pre => P pre o ∧ Always P pre

@[simp] theorem always_nil (P : List ω → ω → Prop) : Always P [] := trivial

@[simp] theorem always_cons {P : List ω → ω → Prop} {o : ω} {pre : List ω} :
    Always P (o :: pre) ↔ P pre o ∧ Always P pre := Iff.rfl

theorem Always.mono {P Q : List ω → ω → Prop} (hq : ∀ pre o, P pre o → Q pre o) :
    ∀ {log : List ω}, Always P log → Always Q log
  | [], _ => trivial
  | o :: pre, h => ⟨hq pre o h.1, Always.mono hq h.2⟩

/-- Entries that meet the property whatever was logged before. -/
theorem Always.append {P : List ω → ω → Prop} {pre : List ω} (h : Always P pre) :
    ∀ {new : List ω}, (∀ o ∈ new, ∀ pre, P pre o) → Always P (new ++ pre)
  | [], _ => h
  | o :: _, hn =>
    ⟨hn o List.mem_cons_self _, Always.append h fun x hx => hn x (List.mem_cons_of_mem o hx)⟩

/-- An entry of the log meets the property at the time it was logged. -/
theorem Always.of_split {P : List ω → ω → Prop} {o : ω} {pre : List ω} :
    ∀ {new : List ω}, Always P (new ++ o :: pre) → P pre o
  | [], h => h.1
  | _ :: _, h => Always.of_split h.2

end OrangeFtpd
