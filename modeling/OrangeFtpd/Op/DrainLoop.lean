/-
  File:      OrangeFtpd/Op/DrainLoop.lean
  Subject:   When the inner loop of STOR's `deal_event` ends.

  The loop subtracts what `splice` returns from `bytes_in_pipe`, also where that is -1.
  After one failed call the counter is ahead of the pipe, by as much as there were
  failures, and it stays positive.

  * `drain_exact_iff`: the loop is exact and ends if and only if no call fails before all
    bytes are in the file; else it does not end at all. The client has the same loop.
-/
import OrangeFtpd.Lib.Loop
import OrangeFtpd.Client.RecvFileImpl

namespace OrangeFtpd

/-- The inner loop between two turns: `bytes_in_pipe`, what is in the pipe, and what was
    written so far. -/
structure Piping where
  bytesInPipe : Int
  pipe : Bytes
  out : Bytes
  deriving DecidableEq, Repr

namespace Piping

/-- `bytes_in_pipe > 0` -/
def goesOn (p : Piping) : Bool := decide (0 < p.bytesInPipe)

/-- One turn of the loop. -/
def turn : DrainResult → Piping → Piping
  | .put k, p =>
    let m := min k (min p.bytesInPipe.toNat p.pipe.length)
    ⟨p.bytesInPipe - m, p.pipe.drop m, p.out ++ p.pipe.take m⟩
  | .failed, p => ⟨p.bytesInPipe + 1, p.pipe, p.out⟩

/-- The loop begins with the bytes that were spliced from the socket. -/
def start (bytes : Bytes) : Piping := ⟨bytes.length, bytes, []⟩

end Piping

/-- The bytes an answer moves, where the pipe has them. -/
def DrainResult.count : DrainResult → Nat
  | .put k => k
  | .failed => 0

/-- What the first `j` answers move. -/
def taken (answers : Nat → DrainResult) : Nat → Nat
  | 0 => 0
  | j + 1 => taken answers j + (answers j).count

/-- **The loop is exact and ends**: both loops end with all bytes in the file, in order, and
    in every turn `bytes_in_pipe` is what is in the pipe. -/
structure DrainsExactly (answers : Nat → DrainResult) (bytes : Bytes) : Prop where
  ends : ∃ j, RecvFileOp.drain (Loop.script answers j) bytes.length bytes [] = some ([], bytes)
  clientEnds : ∀ offset, ∃ j,
    Client.RecvFileImpl.drain (Loop.script answers j) bytes.length bytes [] offset =
      some ([], bytes, offset + bytes.length)
  counts : ∀ j, Loop.Reaches Piping.goesOn Piping.turn answers (.start bytes) j →
    (Loop.after Piping.turn answers (.start bytes) j).bytesInPipe =
      (Loop.after Piping.turn answers (.start bytes) j).pipe.length

section

variable {answers : Nat → DrainResult} {bytes : Bytes} {j : Nat}

open Piping

/-! ## 1. The loop as a loop -/

theorem drain_eq_run : ∀ {rs : List DrainResult} {n : Int} {pipe out : Bytes},
    RecvFileOp.drain rs n pipe out =
      (Loop.run goesOn turn rs ⟨n, pipe, out⟩).map fun p => (p.pipe, p.out)
  | [], n, pipe, out => by
    unfold RecvFileOp.drain Loop.run goesOn
    by_cases h0 : n ≤ 0
    · rw [if_pos h0, if_neg (by simpa using h0)]
      rfl
    · rw [if_neg h0, if_pos (by simpa using h0)]
      rfl
  | r :: rs, n, pipe, out => by
    unfold RecvFileOp.drain Loop.run goesOn
    by_cases h0 : n ≤ 0
    · rw [if_pos h0, if_neg (by simpa using h0)]
      rfl
    · rw [if_neg h0, if_pos (by simpa using h0)]
      cases r with
      | put k => exact drain_eq_run
      | failed => exact drain_eq_run

theorem drain_ends {i : Nat} (hr : Loop.Reaches goesOn turn answers (.start bytes) i)
    (he : Loop.after turn answers (.start bytes) i = ⟨0, [], bytes⟩) :
    RecvFileOp.drain (Loop.script answers i) bytes.length bytes [] = some ([], bytes) := by
  have h1 := Loop.run_ends hr (by rw [he]; rfl) (Nat.le_refl i)
  rw [he] at h1
  rw [drain_eq_run]
  exact congrArg (Option.map _) h1

/-! ## 2. Without a failure -/

theorem taken_succ (answers : Nat → DrainResult) (j : Nat) :
    taken answers (j + 1) = taken answers j + (answers j).count := rfl

theorem taken_mono (answers : Nat → DrainResult) {i j : Nat} (h : i ≤ j) :
    taken answers i ≤ taken answers j := by
  induction h with
  | refl => exact Nat.le_refl _
  | step _ ih => exact Nat.le_trans ih (Nat.le_add_right ..)

theorem turn_put {k T : Nat} :
    turn (.put k) ⟨(bytes.length - T : Nat), bytes.drop T, bytes.take T⟩ =
      ⟨(bytes.length - (T + k) : Nat), bytes.drop (T + k), bytes.take (T + k)⟩ := by
  have hm : min k (min ((bytes.length - T : Nat) : Int).toNat (bytes.drop T).length) =
      min k (bytes.length - T) := by
    rw [Int.toNat_natCast, List.length_drop, Nat.min_self]
  unfold turn
  dsimp only
  rw [hm, List.drop_drop, ← List.take_add]
  by_cases hk : k ≤ bytes.length - T
  · rw [Nat.min_eq_left hk]
    have e : ((bytes.length - T : Nat) : Int) - k = (bytes.length - (T + k) : Nat) := by omega
    rw [e]
  · rw [Nat.min_eq_right (Nat.le_of_not_le hk)]
    have e : ((bytes.length - T : Nat) : Int) - (bytes.length - T : Nat) =
        (bytes.length - (T + k) : Nat) := by omega
    rw [e, List.drop_eq_nil_of_le (i := T + (bytes.length - T)) (by omega),
      List.drop_eq_nil_of_le (i := T + k) (by omega),
      List.take_of_length_le (i := T + (bytes.length - T)) (by omega),
      List.take_of_length_le (i := T + k) (by omega)]

/-- Where no call failed, the loop has moved what the answers said, as far as it goes. -/
theorem after_exact (h : ∀ i, i < j → answers i ≠ .failed) :
    Loop.after turn answers (.start bytes) j =
      ⟨(bytes.length - taken answers j : Nat), bytes.drop (taken answers j),
        bytes.take (taken answers j)⟩ := by
  induction j with
  | zero => rfl
  | succ j ih =>
    have hj := ih fun i hi => h i (Nat.lt_succ_of_lt hi)
    cases hk : answers j with
    | failed => exact absurd hk (h j (Nat.lt_succ_self j))
    | put k =>
      have ht : taken answers (j + 1) = taken answers j + k := by
        rw [taken_succ, hk]
        rfl
      have ha : Loop.after turn answers (.start bytes) (j + 1) =
          turn (answers j) (Loop.after turn answers (.start bytes) j) := rfl
      rw [ha, hk, hj, turn_put, ht]

theorem goesOn_exact (h : ∀ i, i < j → answers i ≠ .failed) :
    goesOn (Loop.after turn answers (.start bytes) j) = true ↔ taken answers j < bytes.length := by
  rw [after_exact h]
  unfold goesOn
  rw [decide_eq_true_iff]
  dsimp only
  omega

/-- Where no call fails before all bytes are in the file, none fails while the loop runs. -/
theorem reaches_clean (hc : ∀ i, taken answers i < bytes.length → answers i ≠ .failed)
    (hr : Loop.Reaches goesOn turn answers (.start bytes) j) : ∀ i, i < j → answers i ≠ .failed := by
  induction j with
  | zero => exact fun i hi => absurd hi (Nat.not_lt_zero i)
  | succ j ih =>
    have hj := ih (hr.mono (Nat.le_succ j))
    intro i hi
    rcases Nat.lt_succ_iff_lt_or_eq.mp hi with h1 | rfl
    · exact hj i h1
    · exact hc i ((goesOn_exact hj).mp (hr i (Nat.lt_succ_self i)))

/-- Every call moves at least a byte, so the loop ends. -/
theorem le_taken (hs : ∀ i k, answers i = .put k → 0 < k) (h : ∀ i, i < j → answers i ≠ .failed) :
    j ≤ taken answers j := by
  induction j with
  | zero => exact Nat.zero_le _
  | succ j ih =>
    have hj := ih fun i hi => h i (Nat.lt_succ_of_lt hi)
    cases hk : answers j with
    | failed => exact absurd hk (h j (Nat.lt_succ_self j))
    | put k =>
      have hpos := hs j k hk
      rw [taken_succ, hk]
      exact Nat.add_le_add hj hpos

/-! ## 3. After a failure -/

/-- The counter is ahead of the pipe. -/
def Piping.Ahead (p : Piping) : Prop := (p.pipe.length : Int) < p.bytesInPipe

theorem Piping.Ahead.turn {p : Piping} (h : p.Ahead) (r : DrainResult) : (p.turn r).Ahead := by
  unfold Piping.Ahead at h ⊢
  cases r with
  | put k =>
    unfold Piping.turn
    dsimp only
    rw [List.length_drop]
    omega
  | failed =>
    unfold Piping.turn
    dsimp only
    omega

/-- The first of the failures. -/
theorem first_failure (h : answers j = .failed) :
    ∃ i, i ≤ j ∧ answers i = .failed ∧ ∀ m, m < i → answers m ≠ .failed := by
  induction j using Nat.strongRecOn with
  | ind j ih =>
    by_cases hx : ∃ m, m < j ∧ answers m = .failed
    · obtain ⟨m, hm, hf⟩ := hx
      obtain ⟨i, hi, h1⟩ := ih m hm hf
      exact ⟨i, Nat.le_trans hi (Nat.le_of_lt hm), h1⟩
    · exact ⟨j, Nat.le_refl j, h, fun m hm hf => hx ⟨m, hm, hf⟩⟩

/-- **After a failure the loop does not end.** -/
theorem drain_stuck (hj : taken answers j < bytes.length) (h : answers j = .failed) (m : Nat) :
    RecvFileOp.drain (Loop.script answers m) bytes.length bytes [] = none := by
  obtain ⟨i, hi, hf, hfirst⟩ := first_failure h
  have hlt : taken answers i < bytes.length := Nat.lt_of_le_of_lt (taken_mono answers hi) hj
  have before : ∀ n, n ≤ i → goesOn (Loop.after turn answers (.start bytes) n) = true := fun n hn =>
    (goesOn_exact fun k hk => hfirst k (Nat.lt_of_lt_of_le hk hn)).mpr
      (Nat.lt_of_le_of_lt (taken_mono answers hn) hlt)
  have ahead : ∀ n, (Loop.after turn answers (.start bytes) (i + 1 + n)).Ahead := by
    intro n
    induction n with
    | zero =>
      have e : Loop.after turn answers (.start bytes) (i + 1) =
          turn (answers i) (Loop.after turn answers (.start bytes) i) := rfl
      rw [Nat.add_zero, e, hf, after_exact hfirst]
      unfold Piping.Ahead turn
      dsimp only
      rw [List.length_drop]
      omega
    | succ n ih => exact ih.turn (answers (i + 1 + n))
  have reaches : Loop.Reaches goesOn turn answers (.start bytes) (m + 1) := by
    intro n _
    by_cases hn : n ≤ i
    · exact before n hn
    · obtain ⟨d, rfl⟩ := Nat.exists_eq_add_of_le (Nat.lt_of_not_le hn)
      have h1 := ahead d
      unfold Piping.Ahead at h1
      unfold goesOn
      rw [decide_eq_true_iff]
      exact Int.lt_of_le_of_lt (Int.natCast_nonneg _) h1
  rw [drain_eq_run]
  exact congrArg (Option.map _) (Loop.run_goes_on reaches)

/-! ## 4. Exactly when -/

/-- **When the drain loop is exact and ends**: if and only if no call fails before all bytes
    are in the file. Otherwise neither loop ends. -/
theorem drain_exact_iff (answers : Nat → DrainResult) (bytes : Bytes)
    (hs : ∀ i k, answers i = .put k → 0 < k) :
    (DrainsExactly answers bytes ↔ ∀ j, taken answers j < bytes.length → answers j ≠ .failed) ∧
    ((∃ j, taken answers j < bytes.length ∧ answers j = .failed) → ∀ m offset,
      RecvFileOp.drain (Loop.script answers m) bytes.length bytes [] = none ∧
      Client.RecvFileImpl.drain (Loop.script answers m) bytes.length bytes [] offset = none) := by
  have client : ∀ m offset,
      Client.RecvFileImpl.drain (Loop.script answers m) bytes.length bytes [] offset =
        (RecvFileOp.drain (Loop.script answers m) bytes.length bytes []).map
          fun r => (r.1, r.2, offset + bytes.length) :=
    fun m offset => Client.RecvFileImpl.drain_eq (Int.natCast_nonneg _)
  refine ⟨⟨fun h j hj hf => ?_, fun hc => ?_⟩, fun ⟨j, hj, hf⟩ m offset => ?_⟩
  · obtain ⟨m, hm⟩ := h.ends
    rw [drain_stuck hj hf m] at hm
    cases hm
  · have clean := fun {j} => @reaches_clean answers bytes j hc
    -- `bytes.length` turns move everything, if there are so many
    obtain ⟨i, hr, he⟩ : ∃ i, Loop.Reaches goesOn turn answers (.start bytes) i ∧
        goesOn (Loop.after turn answers (.start bytes) i) = false := by
      rcases Loop.reaches_or goesOn turn answers (.start bytes) (bytes.length + 1) with h1 | ⟨i, -, h1⟩
      · have h2 := le_taken hs (clean (h1.mono (Nat.le_succ _)))
        have h3 := h1 bytes.length (Nat.lt_succ_self _)
        rw [goesOn_exact (clean (h1.mono (Nat.le_succ _)))] at h3
        exact absurd h3 (Nat.not_lt.mpr h2)
      · exact ⟨i, h1⟩
    have hle : bytes.length ≤ taken answers i := by
      rw [Bool.eq_false_iff, Ne, goesOn_exact (clean hr)] at he
      exact Nat.le_of_not_lt he
    have hend : Loop.after turn answers (.start bytes) i = ⟨0, [], bytes⟩ := by
      rw [after_exact (clean hr), List.drop_eq_nil_of_le hle, List.take_of_length_le hle,
        Nat.sub_eq_zero_of_le hle]
      rfl
    refine ⟨⟨i, drain_ends hr hend⟩, fun offset => ⟨i, ?_⟩, fun j hj => ?_⟩
    · rw [client, drain_ends hr hend]
      rfl
    · rw [after_exact (clean hj)]
      dsimp only
      rw [List.length_drop]
  · rw [client, drain_stuck hj hf m]
    exact ⟨rfl, rfl⟩

end

/-- Two bytes, one with each call. -/
theorem drain_exact_whole : DrainsExactly (fun _ => .put 1) [7, 8] :=
  (drain_exact_iff (fun _ => .put 1) [7, 8] (by rintro _ _ ⟨⟩; exact Nat.one_pos)).1.mpr
    fun _ _ => nofun

/-- One interrupted call: the byte goes into the file with the next one, and then the empty
    pipe gives nothing more, for ever. -/
def interruptedOnce : Nat → DrainResult
  | 1 => .put 1
  | _ => .failed

theorem drain_interrupted : ¬ ∀ (answers : Nat → DrainResult) (bytes : Bytes), bytes ≠ [] →
    (∀ i k, answers i = .put k → 0 < k) → DrainsExactly answers bytes := by
  intro h
  have hs : ∀ i k, interruptedOnce i = .put k → 0 < k := by
    intro i k hk
    unfold interruptedOnce at hk
    split at hk <;> cases hk
    exact Nat.one_pos
  obtain ⟨m, hm⟩ := (h interruptedOnce [7] (List.cons_ne_nil _ _) hs).ends
  rw [@drain_stuck interruptedOnce [7] 0 Nat.one_pos rfl m] at hm
  cases hm

end OrangeFtpd
