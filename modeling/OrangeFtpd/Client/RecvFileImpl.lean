/-
  File:      OrangeFtpd/Client/RecvFileImpl.lean
  Subject:   The client receives a file (`RecvFileImpl` in `client/benchmark.cc`).

  `deal_event` goes as in the server: an outer loop splices from the data socket into
  the pipe, an inner loop from the pipe into the file. It keeps a count of its own,
  `offset_`, for the progress bar.

  * `drain_eq`: the inner loop is that of the server, with the count.
  * `dealEvent_received`: what `deal_event` returns from loses no byte.
  * `receiver_intact`: a receive that completes with true has all bytes of the connection.
-/
import OrangeFtpd.Lib.Run
import OrangeFtpd.Session.Handlers

namespace OrangeFtpd

namespace Client

namespace RecvFileImpl

/-- `RecvFileImpl::Status`. -/
inductive Status where
  | waitingForReadable | doRead | finished | unexpectedTerminate
  deriving DecidableEq, Repr

/-- A transfer: what the socket has received, what the file holds, and `offset_`. -/
structure Transfer where
  inbox : Bytes
  file : Bytes
  offset : Int
  deriving DecidableEq, Repr

/-- The inner loop of `deal_event`. `none`: still looping. -/
def drain : List DrainResult → (bytesInPipe : Int) → (pipe out : Bytes) → (offset : Int) →
    Option (Bytes × Bytes × Int)
  | rs, n, pipe, out, offset =>
    if n ≤ 0 then some (pipe, out, offset)
    else match rs with
      | [] => none
      | .put k :: rs =>
        let m := min k (min n.toNat pipe.length)
        drain rs (n - m) (pipe.drop m) (out ++ pipe.take m) (offset + m)
      | .failed :: rs => drain rs (n + 1) pipe out (offset - 1)

/-- The outer loop of `deal_event`, over the answers of its splices. -/
def spliceLoop : List SpliceResult → Transfer → Option (Status × Transfer)
  | [], _ => none
  | .eof :: _, x => some (.waitingForReadable, x)
  | .wouldBlock :: _, x => some (.waitingForReadable, x)
  | .interrupted :: rs, x => spliceLoop rs x
  | .failed :: _, x => some (.unexpectedTerminate, x)
  | .moved k rs' :: rs, x =>
    let n := min k (min RecvFileOp.spliceLen x.inbox.length)
    if n = 0 then some (.waitingForReadable, x)
    else match drain rs' n (x.inbox.take n) [] x.offset with
      | none => none
      | some (_, out, offset) => spliceLoop rs ⟨x.inbox.drop n, x.file ++ out, offset⟩

/-- `RecvFileImpl::deal_event`. An error of `available` counts as the end of the file. -/
def dealEvent (availableFails : Bool) (rs : List SpliceResult) (x : Transfer) :
    Option (Status × Transfer) :=
  if x.inbox.isEmpty || availableFails then some (.finished, x) else spliceLoop rs x

/-- **The inner loop** is that of the server; what `bytes_in_pipe` loses, `offset_` gains. -/
theorem drain_eq {rs : List DrainResult} {n : Int} {pipe out : Bytes} {offset : Int} (hn : 0 ≤ n) :
    drain rs n pipe out offset =
      (RecvFileOp.drain rs n pipe out).map fun r => (r.1, r.2, offset + n) := by
  induction rs generalizing n pipe out offset with
  | nil =>
    unfold drain RecvFileOp.drain
    by_cases h0 : n ≤ 0
    · rw [if_pos h0, if_pos h0, Int.le_antisymm h0 hn, Int.add_zero]
      rfl
    · rw [if_neg h0, if_neg h0]
      rfl
  | cons r rs ih =>
    unfold drain RecvFileOp.drain
    by_cases h0 : n ≤ 0
    · rw [if_pos h0, if_pos h0, Int.le_antisymm h0 hn, Int.add_zero]
      rfl
    · rw [if_neg h0, if_neg h0]
      cases r with
      | put k =>
        have hm : (min k (min n.toNat pipe.length) : Nat) ≤ n := by omega
        have e : offset + (min k (min n.toNat pipe.length) : Nat) +
            (n - (min k (min n.toNat pipe.length) : Nat)) = offset + n := by omega
        exact (ih (Int.sub_nonneg_of_le hm)).trans (by rw [e])
      | failed =>
        have e : offset - 1 + (n + 1) = offset + n := by omega
        exact (ih (by omega)).trans (by rw [e])

theorem spliceLoop_received : ∀ {rs : List SpliceResult} {x y : Transfer} {st : Status},
    spliceLoop rs x = some (st, y) → y.file ++ y.inbox = x.file ++ x.inbox ∧
      y.offset + x.file.length = x.offset + y.file.length
  | [], _, _, _, h => by cases h
  | .eof :: _, x, y, _, h => by cases h; exact ⟨rfl, rfl⟩
  | .wouldBlock :: _, x, y, _, h => by cases h; exact ⟨rfl, rfl⟩
  | .failed :: _, x, y, _, h => by cases h; exact ⟨rfl, rfl⟩
  | .interrupted :: rs, x, y, st, h => by
    unfold spliceLoop at h
    exact spliceLoop_received h
  | .moved k rs' :: rs, x, y, st, h => by
    unfold spliceLoop at h
    dsimp only at h
    have hle : min k (min RecvFileOp.spliceLen x.inbox.length) ≤ x.inbox.length := by omega
    generalize min k (min RecvFileOp.spliceLen x.inbox.length) = n at h hle
    by_cases h0 : n = 0
    · rw [if_pos h0] at h
      cases h
      exact ⟨rfl, rfl⟩
    · rw [if_neg h0, drain_eq (Int.natCast_nonneg n)] at h
      cases hd : RecvFileOp.drain rs' n (x.inbox.take n) [] with
      | none => rw [hd] at h; cases h
      | some r =>
        have hlen : (x.inbox.take n).length = n := List.length_take_of_le hle
        have hout := @drain_all _ _ _ _ r.1 r.2 hd (Int.le_of_eq (by rw [hlen]))
        rw [hd] at h
        obtain ⟨h1, h2⟩ := spliceLoop_received h
        rw [hout, List.nil_append] at h1 h2
        refine ⟨?_, ?_⟩
        · rw [h1, List.append_assoc, List.take_append_drop]
        · rw [List.length_append, hlen] at h2
          dsimp only at h2
          omega

/-- **No byte is lost**: what is in the file and what is still to be read are what they were
    together, and `offset_` grows with the file. -/
theorem dealEvent_received {fails : Bool} {rs : List SpliceResult} {x y : Transfer} {st : Status}
    (h : dealEvent fails rs x = some (st, y)) : y.file ++ y.inbox = x.file ++ x.inbox ∧
      y.offset + x.file.length = x.offset + y.file.length := by
  unfold dealEvent at h
  split at h
  · cases h
    exact ⟨rfl, rfl⟩
  · exact spliceLoop_received h

/-! ## 2. The composed operation -/

/-- A receive. `arrived` records what came on the data connection so far. -/
structure Receiver where
  status : Status := .waitingForReadable
  transfer : Transfer := ⟨[], [], 0⟩
  arrived : Bytes := []
  /-- The data connection has come to its end. -/
  ended : Bool := false
  /-- What the operation has completed with. -/
  ret : Option Bool := none
  deriving DecidableEq, Repr

/-- What happens to it. -/
inductive Event where
  | arrive (bytes : Bytes)
  | shutdown
  /-- `operator()` is called; `error` is its argument, the rest is what `deal_event` is answered. -/
  | call (error availableFails : Bool) (rs : List SpliceResult)

/-- Why an event cannot happen. -/
inductive Refusal where
  /-- Bytes after the end, or a call of an operation that has completed. -/
  | tooLate
  /-- The loops did not come to an end. -/
  | looping
  deriving DecidableEq, Repr

namespace Receiver

/-- The loop of `operator()`, up to the next `deal_event`. -/
def settle (x : Receiver) : Except Refusal Receiver :=
  match x.status with
  | .waitingForReadable => .ok { x with status := .doRead }
  | .doRead => .error .looping
  | .finished => .ok { x with ret := some true }
  | .unexpectedTerminate => .ok { x with ret := some false }

/-- `RecvFileImpl::operator()`. -/
def call (error availableFails : Bool) (rs : List SpliceResult) (x : Receiver) :
    Except Refusal Receiver :=
  if error then .ok { x with ret := some false }
  else if x.status = .doRead then
    match dealEvent availableFails rs x.transfer with
    | none => .error .looping
    | some (status, transfer) => settle { x with status, transfer }
  else settle x

def step (x : Receiver) : Event → Except Refusal Receiver
  | .arrive bytes =>
    if x.ended then .error .tooLate
    else .ok { x with
      transfer := { x.transfer with inbox := x.transfer.inbox ++ bytes }
      arrived := x.arrived ++ bytes }
  | .shutdown => if x.ended then .error .tooLate else .ok { x with ended := true }
  | .call error availableFails rs =>
    if x.ret.isSome then .error .tooLate else call error availableFails rs x

/-- A socket that is readable has bytes, or is at its end; and `available` works. -/
def Readable (x : Receiver) : Event → Prop
  | .call false availableFails _ =>
    x.status = .doRead → availableFails = false ∧ (x.transfer.inbox = [] → x.ended = true)
  | _ => True

instance {x : Receiver} : ∀ e, Decidable (Readable x e)
  | .call false _ _ => inferInstanceAs (Decidable (_ → _))
  | .call true _ _ | .arrive _ | .shutdown => isTrue trivial

/-- **Nothing is lost**, and `true` is completed with at the end only. -/
structure Intact (x : Receiver) : Prop where
  whole : x.transfer.file ++ x.transfer.inbox = x.arrived
  going : x.ret = none → x.status = .waitingForReadable ∨ x.status = .doRead
  done : x.ret = some true → x.ended = true ∧ x.transfer.inbox = []

section

variable {x y : Receiver} {e : Event}

theorem spliceLoop_status : ∀ {rs : List SpliceResult} {x y : Transfer} {st : Status},
    spliceLoop rs x = some (st, y) → st = .waitingForReadable ∨ st = .unexpectedTerminate
  | [], _, _, _, h => by cases h
  | .eof :: _, _, _, _, h => by cases h; exact Or.inl rfl
  | .wouldBlock :: _, _, _, _, h => by cases h; exact Or.inl rfl
  | .failed :: _, _, _, _, h => by cases h; exact Or.inr rfl
  | .interrupted :: rs, _, _, _, h => by
    unfold spliceLoop at h
    exact spliceLoop_status h
  | .moved k rs' :: rs, x, _, _, h => by
    unfold spliceLoop at h
    dsimp only at h
    split at h
    · cases h
      exact Or.inl rfl
    · split at h
      · cases h
      · exact spliceLoop_status h

/-- What `deal_event` returns: `finished` only without a byte to read. -/
theorem dealEvent_status {fails : Bool} {rs : List SpliceResult} {t u : Transfer} {st : Status}
    (h : dealEvent fails rs t = some (st, u)) : st = .waitingForReadable ∨
      st = .unexpectedTerminate ∨ (st = .finished ∧ u = t ∧ (fails = false → t.inbox = [])) := by
  unfold dealEvent at h
  split at h
  · next hc =>
    cases h
    refine Or.inr (Or.inr ⟨rfl, rfl, fun hf => ?_⟩)
    simpa [hf] using hc
  · exact (spliceLoop_status h).imp_right Or.inl

/-- The end of a call: it completes with true where `deal_event` found the end. -/
theorem Intact.settled (hw : x.transfer.file ++ x.transfer.inbox = x.arrived) (hret : x.ret = none)
    (hf : x.status = .finished → x.ended = true ∧ x.transfer.inbox = [])
    (hs : x.settle = .ok y) : Intact y := by
  unfold settle at hs
  split at hs
  · cases hs
    exact ⟨hw, fun _ => Or.inr rfl, fun hd => absurd (hret.symm.trans hd) nofun⟩
  · cases hs
  · next hst =>
    cases hs
    exact ⟨hw, nofun, fun _ => hf hst⟩
  · cases hs
    exact ⟨hw, nofun, nofun⟩

/-- **One call** of `operator()`. -/
theorem Intact.called {error fails : Bool} {rs : List SpliceResult} (h : Intact x)
    (hret : x.ret = none) (hr : Readable x (.call error fails rs))
    (hs : x.call error fails rs = .ok y) : Intact y := by
  unfold call at hs
  cases error with
  | true =>
    cases hs
    exact ⟨h.whole, nofun, nofun⟩
  | false =>
    rw [if_neg Bool.false_ne_true] at hs
    rcases h.going hret with hst | hst
    · -- the wait is started
      rw [if_neg (by rw [hst]; decide)] at hs
      exact settled h.whole hret (fun hf => absurd (hst.symm.trans hf) nofun) hs
    · rw [if_pos hst] at hs
      obtain ⟨hf, hend⟩ := hr hst
      cases hd : dealEvent fails rs x.transfer with
      | none => rw [hd] at hs; cases hs
      | some r =>
        obtain ⟨st, u⟩ := r
        rw [hd] at hs
        refine @settled { x with status := st, transfer := u } y
          ((dealEvent_received hd).1.trans h.whole) hret (fun hfin => ?_) hs
        obtain rfl : st = .finished := hfin
        obtain ⟨rfl, hin⟩ := (dealEvent_status hd).resolve_left nofun |>.resolve_left nofun |>.2
        exact ⟨hend (hin hf), hin hf⟩

theorem Intact.step (h : Intact x) (hr : Readable x e) (hs : x.step e = .ok y) : Intact y := by
  unfold Receiver.step at hs
  cases e with
  | arrive bytes =>
    dsimp only at hs
    split at hs
    · cases hs
    · next hend =>
      cases hs
      refine ⟨?_, h.going, fun hret => absurd (h.done hret).1 hend⟩
      rw [← List.append_assoc, h.whole]
  | shutdown =>
    dsimp only at hs
    split at hs
    · cases hs
    · cases hs
      exact ⟨h.whole, h.going, fun hret => ⟨rfl, (h.done hret).2⟩⟩
  | call error fails rs =>
    dsimp only at hs
    split at hs
    · cases hs
    · next hret => exact h.called (Option.not_isSome_iff_eq_none.mp hret) hr hs

/-- **A receive that completes with true** has got every byte that came, and the connection was
    at its end. -/
theorem receiver_intact (h : Reach step Readable {} x) :
    x.transfer.file ++ x.transfer.inbox = x.arrived ∧
      (x.ret = some true → x.ended = true ∧ x.transfer.file = x.arrived) := by
  have h0 : Intact {} := ⟨rfl, fun _ => Or.inl rfl, fun hd => by cases hd⟩
  have hI : Intact x := h.invariant h0 fun _ _ _ hI hr hs => hI.step hr hs
  refine ⟨hI.whole, fun hret => ?_⟩
  obtain ⟨hend, hin⟩ := hI.done hret
  have hw := hI.whole
  rw [hin, List.append_nil] at hw
  exact ⟨hend, hw⟩

end

end Receiver

end RecvFileImpl

end Client

end OrangeFtpd
