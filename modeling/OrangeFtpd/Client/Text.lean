/-
  File:      OrangeFtpd/Client/Text.lean
  Subject:   What the client does with strings (`client/benchmark.cc`): splitting,
             joining, and the number parsing of the standard library.

  `split_string` reads fields with `std::getline`. A field ends at the separator or
  at the end of the text, and a read that finds nothing at all fails: the empty
  field after a separator at the very end is not there.
-/
import OrangeFtpd.Text

namespace OrangeFtpd

/-! ## 1. Definitions -/

/-- The fields of a text: `cur` is the field being read. -/
def splitStringFrom (dim : Char) : Text → Text → List Text
  | [], cur => if cur.isEmpty then [] else [cur]
  | c :: cs, cur =>
    if c = dim then cur :: splitStringFrom dim cs [] else splitStringFrom dim cs (cur ++ [c])

/-- `split_string`. -/
def splitString (dim : Char) (t : Text) : List Text := splitStringFrom dim t []

/-- `join_string`. -/
def joinString (dim : Char) (ws : List Text) : Text := [dim].intercalate ws

/-- `std::invalid_argument` and `std::out_of_range` of `std::stoi` and `std::stol`. -/
inductive StoError where
  | invalidArgument | outOfRange
  deriving DecidableEq, Repr

/-- The optional sign of a number: whether it is a minus, and what comes after. -/
def takeSign : Text → Bool × Text
  | '-' :: t => (true, t)
  | '+' :: t => (false, t)
  | t => (false, t)

/-- Digits as a number, within the limits of the type. -/
def stoDigits (lo hi : Int) (negative : Bool) (digits : Text) : Except StoError Int :=
  let n : Int := Nat.ofDigitChars 10 digits 0
  let n := if negative then -n else n
  if digits.isEmpty then .error .invalidArgument
  else if lo ≤ n ∧ n ≤ hi then .ok n
  else .error .outOfRange

/-- Whitespace, a sign and digits; what follows is not read. -/
def stoNumber (lo hi : Int) (t : Text) : Except StoError Int :=
  let signed := takeSign (t.dropWhile isSpace)
  stoDigits lo hi signed.1 (signed.2.takeWhile Char.isDigit)

/-- `std::stoi`, for an `int` of 32 bits. -/
def stoi (t : Text) : Except StoError Int := stoNumber (-2147483648) 2147483647 t

/-- `std::stol`, for a `long` of 64 bits. -/
def stol (t : Text) : Except StoError Int :=
  stoNumber (-9223372036854775808) 9223372036854775807 t

/-! ## 2. Fields -/

section

variable {dim : Char} {t w cur : Text} {ws : List Text}

/-- A field is read to its end. -/
theorem splitStringFrom_field (hw : dim ∉ w) :
    splitStringFrom dim (w ++ t) cur = splitStringFrom dim t (cur ++ w) := by
  induction w generalizing cur with
  | nil => rw [List.nil_append, List.append_nil]
  | cons c w ih =>
    have hc : c ≠ dim := fun h => hw (h ▸ List.mem_cons_self)
    rw [List.cons_append, splitStringFrom, if_neg hc, ih fun h => hw (List.mem_cons_of_mem c h),
      List.append_assoc, List.singleton_append]

theorem splitString_field (hw : dim ∉ w) :
    splitString dim (w ++ dim :: t) = w :: splitString dim t := by
  unfold splitString
  rw [splitStringFrom_field hw, splitStringFrom, if_pos rfl, List.nil_append]

theorem splitString_last (hw : dim ∉ w) (hne : w ≠ []) : splitString dim w = [w] := by
  have h := @splitStringFrom_field dim [] w [] hw
  rw [List.append_nil] at h
  unfold splitString
  rw [h, splitStringFrom, List.nil_append, if_neg (by simpa using hne)]

theorem splitStringFrom_ne_nil (h : cur ++ t ≠ []) : splitStringFrom dim t cur ≠ [] := by
  induction t generalizing cur with
  | nil =>
    rw [List.append_nil] at h
    rw [splitStringFrom, if_neg (by simpa using h)]
    exact List.cons_ne_nil _ _
  | cons c t ih =>
    rw [splitStringFrom]
    split
    · exact List.cons_ne_nil _ _
    · exact ih (by simp)

theorem splitString_ne_nil (h : t ≠ []) : splitString dim t ≠ [] := splitStringFrom_ne_nil h

theorem joinString_cons (w : Text) (hws : ws ≠ []) :
    joinString dim (w :: ws) = w ++ dim :: joinString dim ws := by
  cases ws with
  | nil => exact absurd rfl hws
  | cons v ws =>
    unfold joinString
    rw [List.intercalate_cons_cons, List.append_assoc, List.singleton_append]

/-- **The fields joined give the text back**, unless it ends with the separator. -/
theorem join_splitFrom (h : cur ++ t ≠ []) (hl : t.getLast? ≠ some dim) :
    joinString dim (splitStringFrom dim t cur) = cur ++ t := by
  induction t generalizing cur with
  | nil =>
    rw [List.append_nil] at h ⊢
    rw [splitStringFrom, if_neg (by simpa using h)]
    exact List.intercalate_singleton
  | cons c t ih =>
    rw [splitStringFrom]
    by_cases hc : c = dim
    · rw [if_pos hc]
      have ht : t ≠ [] := by
        rintro rfl
        exact hl (by rw [hc]; rfl)
      have hl' : t.getLast? ≠ some dim := by
        rwa [List.getLast?_cons_of_ne_nil ht] at hl
      have hne : splitStringFrom dim t [] ≠ [] := splitStringFrom_ne_nil ht
      rw [joinString_cons cur hne, ih (by simpa using ht) hl', List.nil_append, hc]
    · rw [if_neg hc, ih (by simp) ?_, List.append_assoc, List.singleton_append]
      cases t with
      | nil => nofun
      | cons d t => rwa [List.getLast?_cons_cons] at hl

theorem join_split (h : t ≠ []) (hl : t.getLast? ≠ some dim) :
    joinString dim (splitString dim t) = t := join_splitFrom h hl

/-! ## 3. Numbers -/

/-- The digits of a number. -/
theorem isDigit_dec {n : Nat} {c : Char} (h : c ∈ dec n) : c.isDigit = true := by
  have h' : c ∈ Nat.toDigits 10 n := by simpa [dec] using h
  exact Nat.isDigit_of_mem_toDigits (by decide) (by decide) h'

theorem dec_ne_nil (n : Nat) : dec n ≠ [] := by
  have h : dec n = Nat.toDigits 10 n := by simp [dec]
  rw [h]
  exact Nat.toDigits_ne_nil

theorem not_mem_dec {n : Nat} {c : Char} (h : c.isDigit = false) : c ∉ dec n := fun hm => by
  rw [isDigit_dec hm] at h
  cases h

/-- A digit is no whitespace and no sign. -/
theorem digit_plain {c : Char} (h : c.isDigit = true) :
    isSpace c = false ∧ c ≠ '-' ∧ c ≠ '+' := by
  have ne : ∀ d : Char, d.isDigit = false → c ≠ d := fun d hd he => by
    rw [he, hd] at h
    cases h
  have h1 : isSpace c = false := by
    unfold isSpace
    simp only [Bool.or_eq_false_iff, beq_eq_false_iff_ne]
    exact ⟨⟨⟨⟨⟨ne ' ' rfl, ne '\t' rfl⟩, ne '\n' rfl⟩, ne '\x0b' rfl⟩, ne '\x0c' rfl⟩, ne '\r' rfl⟩
  exact ⟨h1, ne '-' rfl, ne '+' rfl⟩

theorem takeSign_plain {c : Char} (hm : c ≠ '-') (hp : c ≠ '+') :
    takeSign (c :: w ++ t) = (false, c :: w ++ t) := by
  rw [List.cons_append]
  unfold takeSign
  split
  · next h => cases h; exact absurd rfl hm
  · next h => cases h; exact absurd rfl hp
  · rfl

/-- **Digits are read up to what is not one.** -/
theorem stoNumber_digits {lo hi : Int} (hw : ∀ c ∈ w, c.isDigit = true) (hne : w ≠ [])
    (ht : ∀ c, t.head? = some c → c.isDigit = false) (hlo : lo ≤ 0) :
    stoNumber lo hi (w ++ t) = if (Nat.ofDigitChars 10 w 0 : Int) ≤ hi then
      .ok (Nat.ofDigitChars 10 w 0 : Int) else .error .outOfRange := by
  have hdigits : (w ++ t).takeWhile Char.isDigit = w := by
    rw [List.takeWhile_append_of_pos hw]
    cases t with
    | nil => rw [List.takeWhile_nil, List.append_nil]
    | cons c t => rw [List.takeWhile_cons, ht c rfl, if_neg Bool.false_ne_true, List.append_nil]
  cases w with
  | nil => exact absurd rfl hne
  | cons c w =>
    obtain ⟨hs, hm, hp⟩ := digit_plain (hw c List.mem_cons_self)
    have hdrop : ((c :: w) ++ t).dropWhile isSpace = (c :: w) ++ t := by
      rw [List.cons_append, List.dropWhile_cons, hs, if_neg Bool.false_ne_true]
    have hle : lo ≤ (Nat.ofDigitChars 10 (c :: w) 0 : Int) :=
      Int.le_trans hlo (Int.natCast_nonneg _)
    unfold stoNumber
    rw [hdrop, takeSign_plain hm hp]
    dsimp only
    rw [hdigits]
    unfold stoDigits
    simp only [List.isEmpty_cons, Bool.false_eq_true, if_false, hle, true_and]

theorem ofDigitChars_dec (n : Nat) : Nat.ofDigitChars 10 (dec n) 0 = n := by
  have h : dec n = Nat.toDigits 10 n := by simp [dec]
  rw [h, Nat.ofDigitChars_ten_toDigits]

/-- **A number that was printed is read back.** -/
theorem stoi_dec {n : Nat} (hn : n ≤ 2147483647) (ht : ∀ c, t.head? = some c → c.isDigit = false) :
    stoi (dec n ++ t) = .ok n := by
  unfold stoi
  rw [stoNumber_digits (fun _ => isDigit_dec) (dec_ne_nil n) ht (by decide), ofDigitChars_dec,
    if_pos (by omega)]

end

end OrangeFtpd
