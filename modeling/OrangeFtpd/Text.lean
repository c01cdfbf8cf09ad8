/-
  File:      OrangeFtpd/Text.lean
  Subject:   Strings, request lines and paths.

  A `std::string` is a list of characters. What the server does with strings
  and paths is written out here: reading words with `>>`, upper-casing, decimal
  printing, finding the end of a line in the stream buffer, and the part of
  `std::filesystem::path` it uses.
-/

namespace OrangeFtpd

/-- `std::string`. -/
abbrev Text := List Char

/-- `std::isspace` in the classic locale. -/
def isSpace (c : Char) : Bool :=
  c == ' ' || c == '\t' || c == '\n' || c == '\x0b' || c == '\x0c' || c == '\r'

/-- The line delimiter of the control connection (`Session::delimit`). -/
def delimit : Text := ['\r', '\n']

/-- The index just past the first `delimit`; `none` if there is none. -/
def lineEnd : Text → Option Nat
  | [] => none
  | c :: cs => if c = '\r' ∧ cs.head? = some '\n' then some 2 else (lineEnd cs).map (· + 1)

theorem lineEnd_pos : ∀ {t : Text} {k : Nat}, lineEnd t = some k → 0 < k
  | c :: cs, k, h => by
    unfold lineEnd at h
    split at h
    · cases h
      omega
    · obtain ⟨k', _, rfl⟩ := Option.map_eq_some_iff.mp h
      omega

theorem lineEnd_le : ∀ {t : Text} {k : Nat}, lineEnd t = some k → k ≤ t.length
  | c :: cs, k, h => by
    unfold lineEnd at h
    rw [List.length_cons]
    by_cases hc : c = '\r' ∧ cs.head? = some '\n'
    · rw [if_pos hc] at h
      cases h
      cases cs with
      | nil => cases hc.2
      | cons d ds => rw [List.length_cons]; omega
    · rw [if_neg hc] at h
      obtain ⟨k', hk, rfl⟩ := Option.map_eq_some_iff.mp h
      have ih := lineEnd_le hk
      omega

/-- More bytes do not take a line away. -/
theorem lineEnd_more : ∀ {t : Text} {k : Nat} (u : Text), lineEnd t = some k →
    lineEnd (t ++ u) = some k
  | c :: cs, k, u, h => by
    unfold lineEnd at h
    rw [List.cons_append, lineEnd]
    by_cases hc : c = '\r' ∧ cs.head? = some '\n'
    · rw [if_pos hc] at h
      rw [if_pos ⟨hc.1, by rw [List.head?_append, hc.2]; rfl⟩, ← h]
    · rw [if_neg hc] at h
      obtain ⟨k', hk, rfl⟩ := Option.map_eq_some_iff.mp h
      have hne : ¬ (c = '\r' ∧ (cs ++ u).head? = some '\n') := by
        rintro ⟨h1, h2⟩
        cases cs with
        | nil => cases hk
        | cons d ds => exact hc ⟨h1, h2⟩
      rw [if_neg hne, lineEnd_more u hk]
      rfl

/-- A line is found without what follows it. -/
theorem lineEnd_take : ∀ {t : Text} {k : Nat}, lineEnd t = some k → lineEnd (t.take k) = some k
  | c :: cs, k, h => by
    have h0 := h
    unfold lineEnd at h
    by_cases hc : c = '\r' ∧ cs.head? = some '\n'
    · rw [if_pos hc] at h
      cases h
      cases cs with
      | nil => cases hc.2
      | cons d ds =>
        rw [List.take_succ_cons, List.take_succ_cons, lineEnd, if_pos ⟨hc.1, hc.2⟩]
    · rw [if_neg hc] at h
      obtain ⟨k', hk, rfl⟩ := Option.map_eq_some_iff.mp h
      have hpos := lineEnd_pos hk
      have hne : ¬ (c = '\r' ∧ (cs.take k').head? = some '\n') := by
        rintro ⟨h1, h2⟩
        cases cs with
        | nil => cases hk
        | cons d ds =>
          obtain ⟨j, rfl⟩ := Nat.exists_eq_succ_of_ne_zero (Nat.pos_iff_ne_zero.mp hpos)
          exact hc ⟨h1, h2⟩
      rw [List.take_succ_cons, lineEnd, if_neg hne, lineEnd_take hk]
      rfl

/-- A text without a line is passed over, unless a line goes across the seam. -/
theorem lineEnd_append_none : ∀ {t u : Text}, lineEnd t = none →
    (t.getLast? = some '\r' → u.head? ≠ some '\n') →
    lineEnd (t ++ u) = (lineEnd u).map (· + t.length)
  | [], u, _, _ => by
    rw [List.nil_append]
    cases lineEnd u <;> rfl
  | c :: cs, u, h, hj => by
    unfold lineEnd at h
    by_cases hc : c = '\r' ∧ cs.head? = some '\n'
    · rw [if_pos hc] at h
      cases h
    rw [if_neg hc] at h
    have hcs : lineEnd cs = none := Option.map_eq_none_iff.mp h
    have hne : ¬ (c = '\r' ∧ (cs ++ u).head? = some '\n') := by
      rintro ⟨h1, h2⟩
      cases cs with
      | nil => exact hj (by rw [h1]; rfl) h2
      | cons d ds => exact hc ⟨h1, h2⟩
    have ih : lineEnd (cs ++ u) = (lineEnd u).map (· + cs.length) := by
      refine lineEnd_append_none hcs fun hl => ?_
      cases cs with
      | nil => cases hl
      | cons d ds => exact hj (by rwa [List.getLast?_cons_cons])
    rw [List.cons_append, lineEnd, if_neg hne, ih, Option.map_map, List.length_cons]
    rfl

theorem lineEnd_of_no_cr : ∀ {t : Text}, '\r' ∉ t → lineEnd t = none
  | [], _ => rfl
  | c :: cs, h => by
    have hc : ¬ (c = '\r' ∧ cs.head? = some '\n') := fun h' =>
      h (h'.1 ▸ List.mem_cons_self)
    rw [lineEnd, if_neg hc, lineEnd_of_no_cr fun hm => h (List.mem_cons_of_mem c hm)]
    rfl

theorem getLast_no_cr {t : Text} (h : '\r' ∉ t) : t.getLast? ≠ some '\r' := fun hl =>
  h (List.mem_of_getLast? hl)

/-- **A text without a line, then `delimit`**, is one line. -/
theorem lineEnd_closed {t : Text} (h : lineEnd t = none) : lineEnd (t ++ delimit) = some (t ++ delimit).length := by
  rw [lineEnd_append_none h fun _ => by decide, List.length_append]
  exact congrArg some (Nat.add_comm ..)

/-- A line that is found has its `delimit`. -/
theorem delimit_of_lineEnd : ∀ {t : Text} {k : Nat}, lineEnd t = some k → delimit <:+: t
  | c :: cs, k, h => by
    unfold lineEnd at h
    by_cases hc : c = '\r' ∧ cs.head? = some '\n'
    · cases cs with
      | nil => cases hc.2
      | cons d ds =>
        obtain ⟨rfl, hd⟩ := hc
        cases hd
        exact ⟨[], ds, rfl⟩
    · rw [if_neg hc] at h
      obtain ⟨k', hk, rfl⟩ := Option.map_eq_some_iff.mp h
      exact (delimit_of_lineEnd hk).trans (List.suffix_cons c cs).isInfix

theorem lineEnd_of_no_delimit {t : Text} (h : ¬ delimit <:+: t) : lineEnd t = none := by
  cases hl : lineEnd t with
  | none => rfl
  | some k => exact absurd (delimit_of_lineEnd hl) h

/-- A `delimit` ends a line. -/
theorem lineEnd_of_delimit {t : Text} (h : delimit <:+: t) : lineEnd t ≠ none := by
  obtain ⟨a, b, rfl⟩ := h
  cases ha : lineEnd a with
  | none => rw [lineEnd_more b (lineEnd_closed ha)]; nofun
  | some k => rw [lineEnd_more b (lineEnd_more delimit ha)]; nofun

/-- The words of a text: `cur` is the word being read. -/
def splitWordsFrom : Text → Text → List Text
  | [], cur => if cur.isEmpty then [] else [cur]
  | c :: cs, cur =>
    if isSpace c then
      if cur.isEmpty then splitWordsFrom cs [] else cur :: splitWordsFrom cs []
    else splitWordsFrom cs (cur ++ [c])

/-- `while (is >> line) ret.push_back(line)`. -/
def splitWords (t : Text) : List Text := splitWordsFrom t []

/-- `std::transform` with `std::toupper`. -/
def toUpper (t : Text) : Text := t.map Char.toUpper

/-- `std::transform` with `std::tolower`. -/
def toLower (t : Text) : Text := t.map Char.toLower

/-- `std::to_string` of a number that is not negative. -/
def dec (n : Nat) : Text := (toString n).toList

/-- `std::to_string` of an `int`. -/
def decInt (n : Int) : Text := (toString n).toList

theorem cr_append {t u : Text} (ht : '\r' ∉ t) (hu : '\r' ∉ u) : '\r' ∉ t ++ u := fun h =>
  (List.mem_append.mp h).elim ht hu

/-- Numbers are printed with digits. -/
theorem cr_not_mem_dec (n : Nat) : '\r' ∉ dec n := by
  intro h
  have h' : '\r' ∈ Nat.toDigits 10 n := by simpa [dec] using h
  exact absurd (Nat.isDigit_of_mem_toDigits (by decide) (by decide) h') (by decide)

/-- A number and a text without a line have no line. -/
theorem lineEnd_coded {t : Text} (n : Nat) (h : lineEnd t = none) :
    lineEnd (dec n ++ ' ' :: t) = none := by
  have hd := cr_not_mem_dec n
  have h1 : lineEnd (' ' :: t) = none := by
    rw [lineEnd, if_neg (fun hc => absurd hc.1 (by decide)), h]
    rfl
  rw [lineEnd_append_none (lineEnd_of_no_cr hd) fun hl => absurd hl (getLast_no_cr hd), h1]
  rfl

/-! ## Paths -/

/-- `std::filesystem::path` in its native form. -/
abbrev Path := Text

/-- `path::is_absolute`. -/
def isAbsolute (p : Path) : Bool := p.head? == some '/'

/-- `dir / rel` for a relative `rel`: a separator is put in where `dir` ends in a
    file name. -/
def joinPath (dir rel : Path) : Path :=
  if dir.getLast? == none || dir.getLast? == some '/' then dir ++ rel else dir ++ '/' :: rel

end OrangeFtpd
