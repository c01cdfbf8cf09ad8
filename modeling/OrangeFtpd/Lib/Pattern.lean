/-
  File:      OrangeFtpd/Lib/Pattern.lean
  Subject:   Searching a text for a simple pattern.

  A pattern is a sequence of literals and of repetitions of a class of symbols
  (one or more, as many as the rest of the pattern leaves). `matchHere` is the
  length of the match at the front of a text, `search` the leftmost match.

  * `matchHere_plus`: a repetition takes all of a run where the next literal is not
    in its class.
  * `search_skip`: what cannot begin a match is passed over.
-/

namespace OrangeFtpd

variable {α : Type} [DecidableEq α]

/-- A part of a pattern. -/
inductive Piece (α : Type) where
  | lit (a : α)
  | plus (p : α → Bool)

namespace Piece

/-- The length of the match at the front; a repetition tries to take more first. -/
def matchHere : List (Piece α) → List α → Option Nat
  | [], _ => some 0
  | _ :: _, [] => none
  | .lit a :: ps, x :: xs => if x = a then (matchHere ps xs).map (· + 1) else none
  | .plus p :: ps, x :: xs =>
    if p x then
      match matchHere (.plus p :: ps) xs with
      | some n => some (n + 1)
      | none => (matchHere ps xs).map (· + 1)
    else none
termination_by structural _ xs => xs

/-- The leftmost match. -/
def search (ps : List (Piece α)) : List α → Option (List α)
  | [] => (matchHere ps []).map fun _ => []
  | x :: xs =>
    match matchHere ps (x :: xs) with
    | some n => some ((x :: xs).take n)
    | none => search ps xs

variable {ps : List (Piece α)} {p : α → Bool} {a x : α} {w xs : List α} {n : Nat}

/-! ## 1. Where the match is -/

theorem matchHere_lit : matchHere (.lit a :: ps) (a :: xs) = (matchHere ps xs).map (· + 1) := by
  rw [matchHere, if_pos rfl]

theorem matchHere_lit_ne (h : x ≠ a) : matchHere (.lit a :: ps) (x :: xs) = none := by
  rw [matchHere, if_neg h]

/-- Nothing is taken from outside of the class. -/
theorem matchHere_plus_ne (h : p x = false) : matchHere (.plus p :: ps) (x :: xs) = none := by
  rw [matchHere, if_neg (by rw [h]; exact Bool.false_ne_true)]

/-- **A repetition takes the whole run** up to a literal that is not in its class. -/
theorem matchHere_plus (hw : ∀ y ∈ w, p y = true) (hne : w ≠ []) (ha : p a = false) :
    matchHere (.plus p :: .lit a :: ps) (w ++ a :: xs) =
      (matchHere ps xs).map (· + (w.length + 1)) := by
  induction w with
  | nil => exact absurd rfl hne
  | cons y w ih =>
    have hy : p y = true := hw y List.mem_cons_self
    rw [List.cons_append, matchHere, if_pos hy]
    cases w with
    | nil =>
      rw [List.nil_append, matchHere_plus_ne ha, matchHere_lit, Option.map_map]
      rfl
    | cons z w =>
      have hz : p z = true := hw z (List.mem_cons_of_mem y List.mem_cons_self)
      have hza : z ≠ a := fun h => by rw [h, ha] at hz; cases hz
      rw [ih (fun u hu => hw u (List.mem_cons_of_mem y hu)) (List.cons_ne_nil z w),
        List.cons_append, matchHere_lit_ne hza]
      cases matchHere ps xs <;> rfl

/-- What is not the first literal is passed over. -/
theorem search_skip (hw : a ∉ w) : search (.lit a :: ps) (w ++ xs) = search (.lit a :: ps) xs := by
  induction w with
  | nil => rfl
  | cons y w ih =>
    have hy : y ≠ a := fun h => hw (h ▸ List.mem_cons_self)
    rw [List.cons_append, search, matchHere_lit_ne hy]
    exact ih fun h => hw (List.mem_cons_of_mem y h)

theorem search_here (h : matchHere ps xs = some n) : search ps xs = some (xs.take n) := by
  cases xs with
  | nil => rw [search, h, List.take_nil]; rfl
  | cons x xs => rw [search, h]

end Piece

end OrangeFtpd
