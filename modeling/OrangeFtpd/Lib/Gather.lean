/-
  File:      OrangeFtpd/Lib/Gather.lean
  Subject:   A stream that is spread over the entries of a log.

  The log has its newest entry first. `gathered f log` is what the entries hold, in
  the order they were logged; `writeAt` is one write into a sequence, and one at its
  end makes the sequence longer by what is written.
-/
import Mathlib.Data.List.Basic

namespace OrangeFtpd

variable {ω α : Type} {f g : ω → List α} {o : ω} {log new old : List ω}

/-- What the entries of a log hold, oldest first. -/
def gathered (f : ω → List α) (log : List ω) : List α := log.reverse.flatMap f

@[simp] theorem gathered_nil : gathered f [] = [] := rfl

@[simp] theorem gathered_append : gathered f (new ++ old) = gathered f old ++ gathered f new := by
  unfold gathered
  rw [List.reverse_append, List.flatMap_append]

theorem gathered_cons : gathered f (o :: log) = gathered f log ++ f o := by
  rw [← List.singleton_append, gathered_append]
  exact congrArg _ (List.append_nil _)

theorem gathered_none (h : ∀ o ∈ log, f o = []) : gathered f log = [] :=
  List.flatMap_eq_nil_iff.mpr fun o ho => h o (List.mem_reverse.mp ho)

theorem gathered_congr (h : ∀ o ∈ log, f o = g o) : gathered f log = gathered g log :=
  List.flatMap_congr fun o ho => h o (List.mem_reverse.mp ho)

/-- Entries that hold nothing can go. -/
theorem gathered_filter {p : ω → Bool} (h : ∀ o, p o = false → f o = []) :
    gathered f (log.filter p) = gathered f log := by
  induction log with
  | nil => rfl
  | cons o log ih =>
    rw [gathered_cons, ← ih]
    cases hp : p o with
    | false => rw [List.filter_cons_of_neg (by simp [hp]), h o hp, List.append_nil]
    | true => rw [List.filter_cons_of_pos hp, gathered_cons]

/-- The elements `xs` are written into a sequence from `offset` on. A gap before them is filled
    with `z`. -/
def writeAt (z : α) (content : List α) (offset : Nat) (xs : List α) : List α :=
  content.take offset ++ List.replicate (offset - content.length) z ++ xs ++
    content.drop (offset + xs.length)

/-- **A write at the end.** -/
theorem writeAt_end (z : α) (content xs : List α) :
    writeAt z content content.length xs = content ++ xs := by
  unfold writeAt
  rw [List.take_length, Nat.sub_self, List.drop_eq_nil_of_le (Nat.le_add_right ..)]
  simp

end OrangeFtpd
