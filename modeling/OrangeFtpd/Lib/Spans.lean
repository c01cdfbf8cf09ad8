/-
  File:      OrangeFtpd/Lib/Spans.lean
  Subject:   A sequence passed on in pieces.

  A span is a piece of a sequence, given by where it starts and how many elements
  it has. A list of spans, newest first, is `Contiguous` where each starts at the
  end of those before it; then what was passed on is the front of the sequence,
  with nothing left out and nothing twice (`gather_eq`).
-/

namespace OrangeFtpd

variable {α : Type}

/-- A piece of a sequence. -/
structure Span where
  start : Nat
  size : Nat
  deriving DecidableEq, Repr

namespace Span

/-- The elements of all pieces. -/
def total : List Span → Nat
  | [] => 0
  | x :: xs => x.size + total xs

/-- Each piece starts where those before it end. -/
def Contiguous : List Span → Prop
  | [] => True
  | x :: xs => x.start = total xs ∧ Contiguous xs

/-- What was passed on of the sequence `l`, in order. -/
def gather (l : List α) : List Span → List α
  | [] => []
  | x :: xs => gather l xs ++ (l.drop x.start).take x.size

/-- The pieces without an element. -/
def empties (xs : List Span) : List Span := xs.filter (·.size = 0)

@[simp] theorem total_nil : total [] = 0 := rfl

@[simp] theorem total_cons (x : Span) (xs : List Span) : total (x :: xs) = x.size + total xs := rfl

@[simp] theorem total_append (xs ys : List Span) : total (xs ++ ys) = total xs + total ys := by
  induction xs with
  | nil => simp
  | cons x xs ih => simp [ih, Nat.add_assoc]

/-- **What was passed on is the front of the sequence.** -/
theorem gather_eq (l : List α) : ∀ {xs : List Span}, Contiguous xs → gather l xs = l.take (total xs)
  | [], _ => List.take_zero.symm
  | x :: xs, h => by
    rw [gather, gather_eq l h.2, h.1, ← List.take_add, total_cons, Nat.add_comm]

/-- Each piece has an element, or is one of the empty ones. -/
theorem length_le (xs : List Span) : xs.length ≤ total xs + (empties xs).length := by
  induction xs with
  | nil => exact Nat.le_refl 0
  | cons x xs ih =>
    unfold empties at ih ⊢
    rw [List.length_cons, total_cons, List.filter_cons]
    by_cases h : x.size = 0
    · rw [if_pos (by simpa using h), List.length_cons]
      omega
    · rw [if_neg (by simpa using h)]
      omega

theorem empties_le (xs : List Span) : (empties xs).length ≤ xs.length := List.length_filter_le _ _

end Span

end OrangeFtpd
