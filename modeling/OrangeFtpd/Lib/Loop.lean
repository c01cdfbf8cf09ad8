/-
  File:      OrangeFtpd/Lib/Loop.lean
  Subject:   A while loop whose every turn makes a call and goes on with the answer.

  `Loop.run` takes the answers from a list; it is `none` where they are used up and the
  loop still goes on. With an answer for every call, `Loop.after` are the states of the
  loop, and `Reaches` says that it gets to its turn `j`. It ends in the first state where it
  does not go on (`run_ends`); as long as it goes on, it does not end (`run_goes_on`).
-/

namespace OrangeFtpd

namespace Loop

variable {α σ : Type}

/-- The loop, over a list of answers. -/
def run (goesOn : σ → Bool) (turn : α → σ → σ) : List α → σ → Option σ
  | [], s => if goesOn s then none else some s
  | a :: as, s => if goesOn s then run goesOn turn as (turn a s) else some s

/-- The state after `j` turns. -/
def after (turn : α → σ → σ) (answers : Nat → α) (s : σ) : Nat → σ
  | 0 => s
  | j + 1 => turn (answers j) (after turn answers s j)

/-- The first `j` answers. -/
def script (answers : Nat → α) (j : Nat) : List α := (List.range j).map answers

/-- The loop gets to its turn `j`. -/
def Reaches (goesOn : σ → Bool) (turn : α → σ → σ) (answers : Nat → α) (s : σ) (j : Nat) : Prop :=
  ∀ i, i < j → goesOn (after turn answers s i) = true

section

variable {goesOn : σ → Bool} {turn : α → σ → σ} {answers : Nat → α} {s s' : σ} {i j : Nat}

theorem script_succ (answers : Nat → α) (j : Nat) :
    script answers (j + 1) = answers 0 :: script (fun i => answers (i + 1)) j := by
  unfold script
  rw [List.range_succ_eq_map, List.map_cons, List.map_map]
  rfl

theorem after_turn (j : Nat) :
    after turn (fun i => answers (i + 1)) (turn (answers 0) s) j = after turn answers s (j + 1) := by
  induction j with
  | zero => rfl
  | succ j ih => exact congrArg (turn (answers (j + 1))) ih

theorem Reaches.tail (h : Reaches goesOn turn answers s (j + 1)) :
    Reaches goesOn turn (fun i => answers (i + 1)) (turn (answers 0) s) j := fun i hi => by
  rw [after_turn]
  exact h (i + 1) (Nat.succ_lt_succ hi)

theorem Reaches.mono (h : Reaches goesOn turn answers s j) (hij : i ≤ j) :
    Reaches goesOn turn answers s i := fun k hk => h k (Nat.lt_of_lt_of_le hk hij)

/-- The loop ends in the first state where it does not go on. -/
theorem run_ends (hr : Reaches goesOn turn answers s i) (he : goesOn (after turn answers s i) = false)
    (hij : i ≤ j) : run goesOn turn (script answers j) s = some (after turn answers s i) := by
  induction i generalizing j s answers with
  | zero =>
    have h0 : ¬ goesOn s = true := Bool.eq_false_iff.mp he
    cases j with
    | zero => exact if_neg h0
    | succ j => exact (script_succ answers j) ▸ if_neg h0
  | succ i ih =>
    obtain ⟨j, rfl⟩ : ∃ k, j = k + 1 := ⟨j - 1, by omega⟩
    have h1 : goesOn s = true := hr 0 (Nat.succ_pos i)
    rw [script_succ, ← after_turn]
    rw [← after_turn] at he
    exact (if_pos h1).trans (ih hr.tail he (Nat.le_of_succ_le_succ hij))

/-- As long as it goes on, it does not end. -/
theorem run_goes_on (hr : Reaches goesOn turn answers s (j + 1)) :
    run goesOn turn (script answers j) s = none := by
  induction j generalizing s answers with
  | zero => exact if_pos (hr 0 Nat.one_pos)
  | succ j ih =>
    have h1 : goesOn s = true := hr 0 (Nat.succ_pos _)
    rw [script_succ]
    exact (if_pos h1).trans (ih hr.tail)

/-- The loop gets to its turn `j`, or does not go on before. -/
theorem reaches_or (goesOn : σ → Bool) (turn : α → σ → σ) (answers : Nat → α) (s : σ) (j : Nat) :
    Reaches goesOn turn answers s j ∨
      ∃ i, i < j ∧ Reaches goesOn turn answers s i ∧ goesOn (after turn answers s i) = false := by
  induction j with
  | zero => exact Or.inl fun i hi => absurd hi (Nat.not_lt_zero i)
  | succ j ih =>
    rcases ih with h1 | ⟨i, hi, h1⟩
    · cases hg : goesOn (after turn answers s j) with
      | false => exact Or.inr ⟨j, Nat.lt_succ_self j, h1, hg⟩
      | true =>
        refine Or.inl fun i hi => ?_
        rcases Nat.lt_succ_iff_lt_or_eq.mp hi with h2 | rfl
        · exact h1 i h2
        · exact hg
    · exact Or.inr ⟨i, Nat.lt_succ_of_lt hi, h1⟩

end

end Loop

end OrangeFtpd
