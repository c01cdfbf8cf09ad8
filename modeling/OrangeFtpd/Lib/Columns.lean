/-
  File:      OrangeFtpd/Lib/Columns.lean
  Subject:   A line of columns: a fixed number of fields that end with a separator,
             and a last one that is all the rest.

  The last column may hold separators, the others may not. What is read is what was
  written as soon as they do not (`columns_joined`).
-/

namespace OrangeFtpd

section

variable {α : Type} [DecidableEq α]

/-! ## 1. Definitions -/

/-- The first column, and what comes after its separator. -/
def column (sep : α) : List α → Option (List α × List α)
  | [] => none
  | x :: xs => if x = sep then some ([], xs) else (column sep xs).map fun r => (x :: r.1, r.2)

/-- The first `n` columns, and the rest. -/
def columns (sep : α) : Nat → List α → Option (List (List α) × List α)
  | 0, xs => some ([], xs)
  | n + 1, xs => do
    let (col, xs) ← column sep xs
    let (cols, xs) ← columns sep n xs
    return (col :: cols, xs)

/-- Columns as they are written: a separator after each. -/
def joinColumns (sep : α) (cols : List (List α)) : List α := cols.flatMap fun col => col ++ [sep]

/-! ## 2. Reading what was written -/

variable {sep : α} {col rest : List α}

theorem column_append (h : sep ∉ col) : column sep (col ++ sep :: rest) = some (col, rest) := by
  induction col with
  | nil => rw [List.nil_append, column, if_pos rfl]
  | cons x col ih =>
    have hx : x ≠ sep := fun he => h (he ▸ List.mem_cons_self)
    rw [List.cons_append, column, if_neg hx, ih fun hm => h (List.mem_cons_of_mem x hm)]
    rfl

omit [DecidableEq α] in
theorem joinColumns_cons (cols : List (List α)) :
    joinColumns sep (col :: cols) ++ rest = col ++ sep :: (joinColumns sep cols ++ rest) := by
  unfold joinColumns
  rw [List.flatMap_cons, List.append_assoc, List.append_assoc, List.singleton_append]

/-- **Columns without separators are read back**, whatever comes after them. -/
theorem columns_joined : ∀ {cols : List (List α)}, (∀ col ∈ cols, sep ∉ col) →
    columns sep cols.length (joinColumns sep cols ++ rest) = some (cols, rest)
  | [], _ => rfl
  | col :: cols, h => by
    have hcol : sep ∉ col := h col List.mem_cons_self
    have ih : columns sep cols.length (joinColumns sep cols ++ rest) = some (cols, rest) :=
      columns_joined fun c hc => h c (List.mem_cons_of_mem col hc)
    rw [joinColumns_cons, List.length_cons, columns, column_append hcol]
    dsimp only [bind, Option.bind]
    rw [ih]
    rfl

end

end OrangeFtpd
