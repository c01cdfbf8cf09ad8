/-
  File:      OrangeFtpd/Client/Passive.lean
  Subject:   The address of a 227 reply, from `get_pasv_response` to the client that
             takes it out again (the PASV step of `async_session`).

  The server prints the address with commas for dots, and the port as two numbers.
  The client searches the message for six numbers in parentheses, cuts the parentheses
  off and splits at the commas.
-/
import OrangeFtpd.Client.Response
import OrangeFtpd.Lib.Pattern

namespace OrangeFtpd

namespace Client

/-! ## 1. Definitions -/

/-- `\d+` -/
abbrev digits : Piece Char := .plus Char.isDigit

/-- `\(\d+,\d+,\d+,\d+,\d+,\d+\)` -/
def pasvPattern : List (Piece Char) :=
  [.lit '(', digits, .lit ',', digits, .lit ',', digits, .lit ',', digits, .lit ',', digits,
    .lit ',', digits, .lit ')']

/-- The address and the number `p1 * 256 + p2` that the PASV step finds in a message;
    `none` where it says "Invalid pasv resp". An `int` that is too small for the number
    is not modelled. -/
def pasvAddress (msg : Text) : Except StoError (Option (Text × Int)) :=
  match Piece.search pasvPattern msg with
  | none => .ok none
  | some matched => do
    let splitRet := splitString ',' ((matched.drop 1).take (matched.length - 2))
    let p1 ← stoi (splitRet.getD (splitRet.length - 2) [])
    let p2 ← stoi (splitRet.getD (splitRet.length - 1) [])
    pure (some (joinString '.' (splitRet.take 4), p1 * 256 + p2))

/-- `pasv_addr` and `pasv_port`, which is an `uint16_t`. -/
def pasvEndpoint (msg : Text) : Except StoError (Option (Text × UInt16)) :=
  (pasvAddress msg).map fun found => found.map fun (addr, n) => (addr, UInt16.ofNat n.toNat)

/-- An address in dotted-decimal form. -/
def dotted (a b c d : UInt8) : Text :=
  joinString '.' [dec a.toNat, dec b.toNat, dec c.toNat, dec d.toNat]

/-! ## 2. Groups of numbers -/

/-- Numbers with commas between them, up to a closing parenthesis. -/
def numbers : Nat → List (Piece Char)
  | 0 => [digits, .lit ')']
  | n + 1 => digits :: .lit ',' :: numbers n

/-- A number: digits, at least one. -/
def IsNumber (w : Text) : Prop := (∀ c ∈ w, c.isDigit = true) ∧ w ≠ []

section

variable {w : Text} {ws : List Text} {c : Char}

theorem isNumber_dec (n : Nat) : IsNumber (dec n) := ⟨fun _ => isDigit_dec, dec_ne_nil n⟩

theorem IsNumber.not_mem (h : IsNumber w) (hc : c.isDigit = false) : c ∉ w := fun hm => by
  rw [h.1 c hm] at hc
  cases hc

/-- **The group is matched to its end.** -/
theorem matchHere_numbers (hw : IsNumber w) (hws : ∀ v ∈ ws, IsNumber v) (rest : Text) :
    Piece.matchHere (numbers ws.length) (joinString ',' (w :: ws) ++ ')' :: rest) =
      some ((joinString ',' (w :: ws)).length + 1) := by
  induction ws generalizing w with
  | nil =>
    have e : joinString ',' [w] = w := List.intercalate_singleton
    rw [e, List.length_nil, numbers, Piece.matchHere_plus hw.1 hw.2 rfl, Piece.matchHere,
      Option.map_some, Nat.zero_add]
  | cons v ws ih =>
    have hv := hws v List.mem_cons_self
    have ih := ih hv fun u hu => hws u (List.mem_cons_of_mem v hu)
    rw [joinString_cons w (List.cons_ne_nil v ws), List.append_assoc, List.cons_append,
      List.length_cons, numbers, Piece.matchHere_plus hw.1 hw.2 rfl, ih, Option.map_some,
      List.length_append, List.length_cons]
    congr 1
    omega

/-- **Numbers with commas between them are split again.** -/
theorem splitString_numbers (hw : IsNumber w) (hws : ∀ v ∈ ws, IsNumber v) :
    splitString ',' (joinString ',' (w :: ws)) = w :: ws := by
  induction ws generalizing w with
  | nil =>
    have e : joinString ',' [w] = w := List.intercalate_singleton
    rw [e, splitString_last (hw.not_mem rfl) hw.2]
  | cons v ws ih =>
    rw [joinString_cons w (List.cons_ne_nil v ws), splitString_field (hw.not_mem rfl),
      ih (hws v List.mem_cons_self) fun u hu => hws u (List.mem_cons_of_mem v hu)]

/-- What the PASV step makes of a message with a group of six numbers. -/
theorem pasvAddress_group {pre rest : Text} {p1 p2 : Nat} {a b c d : Text} (hpre : '(' ∉ pre)
    (ha : IsNumber a) (hb : IsNumber b) (hc : IsNumber c) (hd : IsNumber d)
    (h1 : p1 ≤ 2147483647) (h2 : p2 ≤ 2147483647) :
    pasvAddress (pre ++ '(' :: (joinString ',' [a, b, c, d, dec p1, dec p2] ++ ')' :: rest)) =
      .ok (some (joinString '.' [a, b, c, d], p1 * 256 + p2)) := by
  have hws : ∀ v ∈ [b, c, d, dec p1, dec p2], IsNumber v := by
    simp [hb, hc, hd, isNumber_dec]
  generalize hg : joinString ',' [a, b, c, d, dec p1, dec p2] = group
  have hmatch : Piece.matchHere pasvPattern ('(' :: (group ++ ')' :: rest)) =
      some (group.length + 2) := by
    have h := matchHere_numbers ha hws rest
    rw [hg] at h
    have e : pasvPattern = .lit '(' :: numbers 5 := rfl
    rw [e, Piece.matchHere_lit]
    exact congrArg (Option.map (· + 1)) h
  have hfound : ('(' :: (group ++ ')' :: rest)).take (group.length + 2) = '(' :: (group ++ [')']) := by
    have e : '(' :: (group ++ ')' :: rest) = '(' :: (group ++ [')']) ++ rest := by simp
    rw [e, List.take_append_of_le_length (by simp), List.take_of_length_le (by simp)]
  have hsearch : Piece.search pasvPattern (pre ++ '(' :: (group ++ ')' :: rest)) =
      some ('(' :: (group ++ [')'])) := by
    have e : pasvPattern = .lit '(' :: numbers 5 := rfl
    rw [e, Piece.search_skip hpre, ← e, Piece.search_here hmatch, hfound]
  have hcut : (('(' :: (group ++ [')'])).drop 1).take (('(' :: (group ++ [')'])).length - 2) = group := by
    simp
  have number (n : Nat) (hn : n ≤ 2147483647) : stoi (dec n) = .ok n := by
    have h := stoi_dec (t := []) hn nofun
    rwa [List.append_nil] at h
  unfold pasvAddress
  rw [hsearch]
  dsimp only
  rw [hcut, ← hg, splitString_numbers ha hws]
  have hp1 : stoi ([a, b, c, d, dec p1, dec p2].getD 4 []) = .ok p1 := number p1 h1
  have hp2 : stoi ([a, b, c, d, dec p1, dec p2].getD 5 []) = .ok p2 := number p2 h2
  simp only [List.length_cons, List.length_nil, Nat.reduceAdd, Nat.reduceSub, hp1, hp2]
  rfl

end

/-! ## 3. The round trip -/

/-- The dots of an address become commas. -/
theorem commas_dotted {a b c d : Text} (ha : IsNumber a) (hb : IsNumber b) (hc : IsNumber c)
    (hd : IsNumber d) : (joinString '.' [a, b, c, d]).map (fun x => if x = '.' then ',' else x) =
      joinString ',' [a, b, c, d] := by
  have same : ∀ {w : Text}, IsNumber w → w.map (fun x => if x = '.' then ',' else x) = w := by
    intro w hw
    refine (List.map_congr_left fun x hx => ?_).trans (List.map_id w)
    exact if_neg fun h => hw.not_mem rfl (h ▸ hx)
  simp [joinString, List.intercalate_cons_cons, same ha, same hb, same hc, same hd]

/-- **The client finds the address and the port that the server announced**, and its
    arithmetic does not wrap: the number it computes is the port. -/
theorem pasv_round_trip (a b c d : UInt8) (port : UInt16) :
    ∃ msg, buildResp (Response.getPasvResponse (dotted a b c d) port).data =
        .ok (some ⟨RetCode.pasvOk.toNat, msg⟩) ∧
      pasvAddress msg = .ok (some (dotted a b c d, port.toNat)) ∧
      pasvEndpoint msg = .ok (some (dotted a b c d, port)) := by
  have hport : port.toNat < 65536 := port.toNat_lt
  have number : ∀ x : UInt8, IsNumber (dec x.toNat) := fun x => isNumber_dec x.toNat
  let group := joinString ',' [dec a.toNat, dec b.toNat, dec c.toNat, dec d.toNat,
    dec (port.toNat / 256), dec (port.toNat % 256)]
  let text := "Entering Passive Mode. ".toList ++ '(' :: (group ++ [')'])
  have hdata : (Response.getPasvResponse (dotted a b c d) port).data =
      dec RetCode.pasvOk.toNat ++ ' ' :: (text ++ delimit) := by
    simp only [Response.getPasvResponse, Response.codeMap, dotted,
      commas_dotted (number a) (number b) (number c) (number d), text, group]
    simp [joinString, List.intercalate_cons_cons]
  have hmsg : text ++ delimit = "Entering Passive Mode. ".toList ++ '(' :: (group ++ ')' :: delimit) := by
    simp [text]
  have haddr : pasvAddress (text ++ delimit) = .ok (some (dotted a b c d, port.toNat)) := by
    rw [hmsg, pasvAddress_group (by simp) (number a) (number b) (number c) (number d)
      (by omega) (by omega)]
    have e : ((port.toNat / 256 : Nat) : Int) * 256 + ((port.toNat % 256 : Nat) : Int) = port.toNat := by
      omega
    rw [e]
    rfl
  refine ⟨text ++ delimit, ?_, haddr, ?_⟩
  · rw [hdata, buildResp_coded (code_lt .pasvOk)]
  · unfold pasvEndpoint
    rw [haddr]
    show Except.ok (some (dotted a b c d, UInt16.ofNat (Int.toNat port.toNat))) = _
    rw [Int.toNat_natCast, UInt16.ofNat_toNat]

end Client

end OrangeFtpd
