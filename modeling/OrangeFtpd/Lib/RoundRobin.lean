/-
  File:      OrangeFtpd/Lib/RoundRobin.lean
  Subject:   Slots taken in turn by a counter that wraps.

  Turn `i` takes the slot `i % m % w`: a counter that starts at 0, wraps at `m`
  and is reduced modulo the number `w` of slots. `turns m w n j` is how many of
  the first `n` turns take the slot `j`.

  * `turns_eq`: the exact number, lap by lap.
  * `fair_iff`: no two slots are more than one turn apart exactly as long as the
    wrap does not show.
-/
import Mathlib.Data.Int.CardIntervalMod
import Mathlib.Data.Nat.Count

namespace OrangeFtpd

namespace RoundRobin

/-- The slot of turn `i`. -/
def slot (m w i : Nat) : Nat := i % m % w

/-- How many of the first `n` turns take the slot `j`. -/
def turns (m w n j : Nat) : Nat := Nat.count (fun i => slot m w i = j) n

/-- No slot is more than one turn ahead of another. -/
def Fair (m w n : Nat) : Prop := ∀ j < w, ∀ k < w, turns m w n j ≤ turns m w n k + 1

variable {m w n j : Nat}

@[simp] theorem turns_zero (m w j : Nat) : turns m w 0 j = 0 := Nat.count_zero _

theorem turns_succ (m w n j : Nat) :
    turns m w (n + 1) j = turns m w n j + if slot m w n = j then 1 else 0 := Nat.count_succ _ _

/-- A whole lap more: the turns of one lap are added. -/
theorem turns_lap (m w n j : Nat) : turns m w (m + n) j = turns m w m j + turns m w n j := by
  unfold turns
  rw [Nat.count_add]
  congr 2
  funext i
  rw [slot, slot, Nat.add_mod_left]

theorem turns_laps (m w q n j : Nat) :
    turns m w (q * m + n) j = q * turns m w m j + turns m w n j := by
  induction q with
  | zero => rw [Nat.zero_mul, Nat.zero_mul, Nat.zero_add, Nat.zero_add]
  | succ q ih =>
    have e : (q + 1) * m + n = m + (q * m + n) := by rw [Nat.succ_mul]; omega
    rw [e, turns_lap, ih, Nat.succ_mul]
    omega

/-- Before the counter wraps the slots are taken one after another. -/
theorem turns_first_lap (hn : n ≤ m) (hj : j < w) :
    turns m w n j = n / w + if j < n % w then 1 else 0 := by
  have hw : 0 < w := Nat.zero_lt_of_lt hj
  have e : turns m w n j = Nat.count (· ≡ j [MOD w]) n := by
    unfold turns
    rw [Nat.count_eq_card_filter_range, Nat.count_eq_card_filter_range]
    congr 1
    refine Finset.filter_congr fun i hi => ?_
    have hi : i < m := Nat.lt_of_lt_of_le (Finset.mem_range.mp hi) hn
    rw [slot, Nat.mod_eq_of_lt hi, Nat.ModEq, Nat.mod_eq_of_lt hj]
  rw [e, Nat.count_modEq_card n hw j, Nat.mod_eq_of_lt hj]

/-- **How many turns a slot has had**: those of the whole laps and those of the
    lap that is under way. -/
theorem turns_eq (hm : 0 < m) (hj : j < w) :
    turns m w n j = n / m * (m / w + if j < m % w then 1 else 0) +
      (n % m / w + if j < n % m % w then 1 else 0) := by
  have hn : n = n / m * m + n % m := (Nat.div_add_mod' n m).symm
  have h := turns_laps m w (n / m) (n % m) j
  rw [← hn] at h
  rw [h, turns_first_lap Nat.le.refl hj, turns_first_lap (Nat.mod_lt n hm).le hj]

/-- **Slots taken in turn stay level exactly as long as the wrap does not show**:
    the number of slots divides the lap, the counter has not wrapped, or it has
    wrapped once and the second lap stands at a whole round. -/
theorem fair_iff (hm : 0 < m) (hw : 0 < w) :
    Fair m w n ↔ w ∣ m ∨ n < m ∨ (n / m = 1 ∧ w ∣ n % m) := by
  constructor
  · intro h
    -- the first slot is ahead of the last one by a turn for each lap
    have h0 := h 0 hw (w - 1) (by omega)
    rw [turns_eq hm hw, turns_eq hm (by omega : w - 1 < w)] at h0
    have hlast (x : Nat) : ¬ w - 1 < x % w := by
      have := Nat.mod_lt x hw
      omega
    simp only [if_neg (hlast _), Nat.add_zero, Nat.mul_add] at h0
    by_cases hd : w ∣ m
    · exact Or.inl hd
    by_cases hlt : n < m
    · exact Or.inr (Or.inl hlt)
    have hq : 1 ≤ n / m := (Nat.one_le_div_iff hm).mpr (Nat.not_lt.mp hlt)
    rw [if_pos (Nat.emod_pos_of_not_dvd hd), Nat.mul_one] at h0
    right; right
    by_cases hr : w ∣ n % m
    · refine ⟨?_, hr⟩
      omega
    · rw [if_pos (Nat.emod_pos_of_not_dvd hr)] at h0
      omega
  · intro h j hj k hk
    rw [turns_eq hm hj, turns_eq hm hk]
    rcases h with h | h | ⟨hq, hr⟩
    · rw [Nat.mod_eq_zero_of_dvd h, if_neg (Nat.not_lt_zero j), if_neg (Nat.not_lt_zero k)]
      split <;> split <;> omega
    · rw [Nat.div_eq_of_lt h, Nat.zero_mul, Nat.zero_mul]
      split <;> split <;> omega
    · rw [hq, Nat.one_mul, Nat.one_mul, Nat.mod_eq_zero_of_dvd hr, if_neg (Nat.not_lt_zero j),
        if_neg (Nat.not_lt_zero k)]
      split <;> split <;> omega

end RoundRobin

end OrangeFtpd
