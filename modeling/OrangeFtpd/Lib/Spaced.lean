/-
  File:      OrangeFtpd/Lib/Spaced.lean
  Subject:   How much happens in a window of time.

  `Spaced d time l`: the events `l`, newest first, are at least `d` apart. A half-open
  window of length `k * d` then holds at most `k` of them (`length_window`), and where
  each weighs at most `m`, they weigh at most `k * m` together (`sum_window`).
-/
import Mathlib

namespace OrangeFtpd

variable {α : Type}

/-- The events, newest first, are at least `d` apart. -/
def Spaced (d : Int) (time : α → Int) (l : List α) : Prop :=
  l.Pairwise fun later earlier => time earlier + d ≤ time later

namespace Spaced

variable {d T : Int} {time : α → Int} {l : List α} {k : Nat}

theorem nil (d : Int) (time : α → Int) : Spaced d time [] := List.Pairwise.nil

theorem cons {x : α} (h : Spaced d time l) (hx : ∀ y ∈ l, time y + d ≤ time x) :
    Spaced d time (x :: l) := List.pairwise_cons.mpr ⟨hx, h⟩

/-- **Counting**: `k` spacings have room for `k` events. -/
theorem length_le : ∀ {l : List α} {k : Nat}, Spaced d time l →
    (∀ x ∈ l, T ≤ time x ∧ time x < T + k * d) → l.length ≤ k
  | [], _, _, _ => Nat.zero_le _
  | x :: l, 0, _, hw => by
    have h1 := hw x List.mem_cons_self
    omega
  | x :: l, k + 1, h, hw => by
    obtain ⟨hx, hl⟩ := List.pairwise_cons.mp h
    have hw' : ∀ y ∈ l, T ≤ time y ∧ time y < T + k * d := by
      intro y hy
      have h1 := (hw x List.mem_cons_self).2
      have h2 := hx y hy
      have h3 : ((k + 1 : Nat) : Int) * d = k * d + d := by
        rw [Int.natCast_succ, Int.add_mul, Int.one_mul]
      refine ⟨(hw y (List.mem_cons_of_mem x hy)).1, ?_⟩
      omega
    exact Nat.succ_le_succ (length_le hl hw')

/-- The events in the half-open window of length `w` that begins at `T`. -/
def window (time : α → Int) (T w : Int) (l : List α) : List α :=
  l.filter fun x => T ≤ time x ∧ time x < T + w

theorem length_window (h : Spaced d time l) : (window time T (k * d) l).length ≤ k := by
  refine @length_le _ d T _ _ _ (h.sublist List.filter_sublist) fun x hx => ?_
  simpa using (List.mem_filter.mp hx).2

/-- **Weighing**: the events of a window, each of weight at most `m`. -/
theorem sum_window {weight : α → Nat} {m : Nat} (h : Spaced d time l)
    (hm : ∀ x ∈ l, weight x ≤ m) : ((window time T (k * d) l).map weight).sum ≤ k * m :=
  calc ((window time T (k * d) l).map weight).sum
    _ ≤ ((window time T (k * d) l).map weight).length • m := by
        refine List.sum_le_card_nsmul _ m fun y hy => ?_
        obtain ⟨x, hx, rfl⟩ := List.mem_map.mp hy
        exact hm x (List.mem_filter.mp hx).1
    _ ≤ k * m := by
        rw [List.length_map, smul_eq_mul]
        exact Nat.mul_le_mul_right m (length_window h)

end Spaced

end OrangeFtpd
