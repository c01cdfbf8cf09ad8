/-
  File:      OrangeFtpd/Lib/Framer.lean
  Subject:   Cutting a stream into frames.

  A framer finds the first frame of a stream; what comes later does not move it.
  `frames` cuts a whole stream, `rest` is the unfinished frame at its end. A stream
  that is cut up to its end is whole, and cutting goes on after it as if the stream
  began there; this is what makes cutting as the bytes come the same as cutting
  them all at once.
-/

namespace OrangeFtpd

variable {α : Type}

/-- A rule that finds the first frame of a stream: `cut` is its length. -/
structure Framer (α : Type) where
  cut : List α → Option Nat
  pos : ∀ {xs n}, cut xs = some n → 0 < n
  le : ∀ {xs n}, cut xs = some n → n ≤ xs.length
  /-- What comes later does not move a frame that is there. -/
  more : ∀ {xs n} ys, cut xs = some n → cut (xs ++ ys) = some n
  /-- A frame is one by itself. -/
  take : ∀ {xs n}, cut xs = some n → cut (xs.take n) = some n

namespace Framer

variable {F : Framer α} {xs ys : List α} {n : Nat}

theorem drop_length_lt (h : F.cut xs = some n) : (xs.drop n).length < xs.length := by
  have := F.pos h
  have := F.le h
  rw [List.length_drop]
  omega

/-- The frames of a stream. -/
def frames (F : Framer α) (xs : List α) : List (List α) :=
  match _h : F.cut xs with
  | none => []
  | some n => xs.take n :: F.frames (xs.drop n)
termination_by xs.length
decreasing_by exact drop_length_lt _h

/-- What is left after the last frame. -/
def rest (F : Framer α) (xs : List α) : List α :=
  match _h : F.cut xs with
  | none => xs
  | some n => F.rest (xs.drop n)
termination_by xs.length
decreasing_by exact drop_length_lt _h

/-- The stream ends with a frame. -/
def Whole (F : Framer α) (xs : List α) : Prop := (F.frames xs).flatten = xs

theorem frames_none (h : F.cut xs = none) : F.frames xs = [] := by
  rw [frames]
  split
  · rfl
  · next h' => cases h.symm.trans h'

theorem frames_cut (h : F.cut xs = some n) : F.frames xs = xs.take n :: F.frames (xs.drop n) := by
  rw [frames]
  split
  · next h' => cases h.symm.trans h'
  · next h' => cases h.symm.trans h'; rfl

theorem rest_none (h : F.cut xs = none) : F.rest xs = xs := by
  rw [rest]
  split
  · rfl
  · next h' => cases h.symm.trans h'

theorem rest_cut (h : F.cut xs = some n) : F.rest xs = F.rest (xs.drop n) := by
  rw [rest]
  split
  · next h' => cases h.symm.trans h'
  · next h' => cases h.symm.trans h'; rfl

/-- **Cutting uses every element once.** -/
theorem flatten_frames (xs : List α) : (F.frames xs).flatten ++ F.rest xs = xs := by
  cases h : F.cut xs with
  | none => rw [frames_none h, rest_none h]; rfl
  | some n =>
    have ih := flatten_frames (xs.drop n)
    rw [frames_cut h, rest_cut h, List.flatten_cons, List.append_assoc, ih, List.take_append_drop]
termination_by xs.length
decreasing_by exact drop_length_lt h

theorem whole_nil (F : Framer α) : F.Whole [] := by
  have h := F.flatten_frames []
  exact (List.append_eq_nil_iff.mp h).1

/-- **After a whole stream the cutting starts afresh.** -/
theorem frames_append {xs : List α} (h : F.Whole xs) (ys : List α) :
    F.frames (xs ++ ys) = F.frames xs ++ F.frames ys := by
  cases hc : F.cut xs with
  | none =>
    have hx : xs = [] := by
      rw [← h, frames_none hc]
      rfl
    rw [frames_none hc, hx, List.nil_append, List.nil_append]
  | some n =>
    have hw : F.Whole (xs.drop n) := by
      have h' := h
      unfold Whole at h' ⊢
      rw [frames_cut hc, List.flatten_cons] at h'
      have e : xs.take n ++ (F.frames (xs.drop n)).flatten = xs.take n ++ xs.drop n :=
        h'.trans (List.take_append_drop n xs).symm
      exact List.append_cancel_left e
    have ih := frames_append hw ys
    rw [frames_cut hc, frames_cut (F.more ys hc), List.take_append_of_le_length (F.le hc),
      List.drop_append_of_le_length (F.le hc), ih]
    rfl
termination_by xs.length
decreasing_by exact drop_length_lt hc

theorem whole_append (hx : F.Whole xs) (hy : F.Whole ys) : F.Whole (xs ++ ys) := by
  unfold Whole
  rw [frames_append hx, List.flatten_append, hx, hy]

/-- Nothing is left of a whole stream. -/
theorem rest_whole (h : F.Whole xs) : F.rest xs = [] := by
  have hf := F.flatten_frames xs
  rw [h] at hf
  exact List.append_right_eq_self.mp hf

/-- The first frame is a whole stream. -/
theorem frames_take (h : F.cut ys = some n) : F.frames (ys.take n) = [ys.take n] := by
  have hl : (ys.take n).length = n := by
    rw [List.length_take]
    exact Nat.min_eq_left (F.le h)
  rw [frames_cut (F.take h), List.take_of_length_le (Nat.le_of_eq hl),
    List.drop_eq_nil_of_le (Nat.le_of_eq hl)]
  have hn : F.cut [] = none := by
    cases hc : F.cut [] with
    | none => rfl
    | some k =>
      have := F.pos hc
      have := F.le hc
      rw [List.length_nil] at this
      omega
  rw [frames_none hn]

/-- A whole stream and the next frame. -/
theorem frames_snoc (hw : F.Whole xs) (h : F.cut ys = some n) :
    F.frames (xs ++ ys.take n) = F.frames xs ++ [ys.take n] := by
  rw [frames_append hw, frames_take h]

theorem whole_snoc (hw : F.Whole xs) (h : F.cut ys = some n) : F.Whole (xs ++ ys.take n) := by
  unfold Whole at hw ⊢
  rw [frames_snoc hw h, List.flatten_append, hw, List.flatten_singleton]

end Framer

end OrangeFtpd
