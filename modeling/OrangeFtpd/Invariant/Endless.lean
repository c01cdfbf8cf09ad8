/-
  File:      OrangeFtpd/Invariant/Endless.lean
  Subject:   When a RETR comes to its end.

  `file_size_` is read once, in the constructor. Every call of `sendfile` that passes
  bytes brings `file_offset_` nearer to it; a call that returns 0, since the file was
  truncated in the meantime, does not, and `deal_event` waits and calls again.

  * `sentIn_step`: what one step adds to the calls of a request.
  * `retr_ends_iff`: a RETR makes finitely many calls if and only if `sendfile`
    returns 0 finitely often.
-/
import Mathlib.Order.Monotone.Basic
import OrangeFtpd.Invariant.Sending

namespace OrangeFtpd

/-- This step calls `sendfile` for the request `id`, and the answer is `k`. -/
def Calls (id k : Nat) (s : St) (e : Ev) : Prop :=
  ∃ (i : Nat) (os : Os) (t : Task) (op : Op), e = .run i os ∧
    s.handlers[i]? = some ⟨t, some .ok⟩ ∧ SendWait op t ∧ op.id = id ∧ os.sendfile = .sent k

section

variable {cfg : Config} {home : Path} {c₀ : UInt32} {now : Int} {ok : St → Ev → Prop} {s s' : St}
  {e : Ev} {id k : Nat}

/-! ## 1. One step -/

/-- A call with the answer `k` is one more piece, and it has a byte if `k` is positive and it is
    not the call for an empty file. -/
theorem sentIn_call (h : Reach (step cfg) ok (St.init cfg home c₀ now) s)
    (hs : step cfg s e = .ok s') (hc : Calls id k s e) :
    ∃ x, sentIn id s'.log = x :: sentIn id s.log ∧ (0 < k → 0 < x.size ∨ sentIn id s.log = []) := by
  obtain ⟨i, os, t, op, rfl, hi, hw, rfl, hk⟩ := hc
  obtain ⟨d, s₁, hD, rfl⟩ := step_dealt hs hi hw
  have hp : ∃ ph, t.staged? = some (ph, op) := by
    cases hw <;> exact ⟨_, rfl⟩
  obtain ⟨ph, hp⟩ := hp
  have hx := staged_handler hi hp
  have ht := (armed_reach h).handler hi
  have hin := (streams_reach h).sendsInOrder (endings_reach h) hx (hw.sends ht).1
  refine ⟨_, hD.sentIn.trans (congrArg (· ++ _) (answered_sent hk)), fun hpos => ?_⟩
  by_cases hb : sentIn op.id s.log = []
  · exact Or.inr hb
  · left
    have hu := (streams_reach h).live _ hx (hw.sends ht).1
    exact (hin.advance hu.size rfl rfl).2.2.1 hpos (hin.begun hb)

/-- **One step**: it is a call for the request, or adds nothing to what was sent for it. -/
theorem sentIn_step (id : Nat) (h : Reach (step cfg) ok (St.init cfg home c₀ now) s)
    (hs : step cfg s e = .ok s') : sentIn id s'.log = sentIn id s.log ∨ ∃ k, Calls id k s e := by
  rw [← sentIn_acts, ← sentIn_acts]
  cases step_sends (endings_reach h) (ops_reach h) (armed_reach h) hs with
  | quiet new ha hn hst hc =>
    left
    rw [ha, sentIn_append, hn id, List.nil_append]
  | piece i os t ph op op' n new handed he hi hp hw hx ha hover hst =>
    subst he
    by_cases hid : op.id = id
    · cases hk : os.sendfile with
      | sent k => exact Or.inr ⟨k, i, os, t, op, rfl, hi, hw, hid, hk⟩
      | wouldBlock | failed =>
        obtain ⟨d, s₁, hD, rfl⟩ := step_dealt hs hi hw
        have hsame : sentIn op.id s₁.log = sentIn op.id s.log := by
          rw [hD.sentIn]
          unfold answered
          rw [hk]
          rfl
        rw [sentIn_acts, sentIn_acts, ← hid]
        exact Or.inl hsame
    · left
      rw [ha, sentIn_append, hx.sent, if_neg hid, List.nil_append]

/-! ## 2. Infinite runs -/

theorem calls_monotone (σ : InfiniteRun (step cfg) ok (St.init cfg home c₀ now)) (id : Nat) :
    Monotone fun n => (sentIn id (σ.state n).log).length := by
  refine monotone_nat_of_le_succ fun n => ?_
  rcases sentIn_step id (σ.reach n) (σ.next n) with h1 | ⟨k, hk⟩
  · rw [h1]
  · obtain ⟨x, hx, -⟩ := sentIn_call (σ.reach n) (σ.next n) hk
    rw [hx]
    exact Nat.le_succ _

/-- Where no call returns 0 from step `N` on, no further piece is empty, but the one of an
    empty file. -/
theorem empties_settle (σ : InfiniteRun (step cfg) ok (St.init cfg home c₀ now)) {N : Nat}
    (hN : ∀ n, N ≤ n → ¬ Calls id 0 (σ.state n) (σ.event n)) {n : Nat} (hn : N ≤ n) :
    (Span.empties (sentIn id (σ.state n).log)).length ≤
      max 1 (Span.empties (sentIn id (σ.state N).log)).length := by
  induction n, hn using Nat.le_induction with
  | base => exact Nat.le_max_right ..
  | succ n hn ih =>
    rcases sentIn_step id (σ.reach n) (σ.next n) with h1 | ⟨k, hk⟩
    · rw [h1]
      exact ih
    · obtain ⟨x, hx, hpos⟩ := sentIn_call (σ.reach n) (σ.next n) hk
      have hk0 : 0 < k := Nat.pos_of_ne_zero fun h0 => hN n hn (h0 ▸ hk)
      rw [hx]
      rcases hpos hk0 with h1 | h1
      · have h2 : Span.empties (x :: sentIn id (σ.state n).log) =
            Span.empties (sentIn id (σ.state n).log) :=
          List.filter_cons_of_neg (by simpa using Nat.ne_of_gt h1)
        rw [h2]
        exact ih
      · rw [h1]
        exact Nat.le_trans (Span.empties_le _) (Nat.le_max_left ..)

/-- **A RETR comes to its end** if and only if `sendfile` returns 0 finitely often: then, and
    only then, it makes finitely many calls that succeed. -/
theorem retr_ends_iff (σ : InfiniteRun (step cfg) ok (St.init cfg home c₀ now)) (id : Nat) :
    (∃ B, ∀ n, (sentIn id (σ.state n).log).length ≤ B) ↔
      ∃ N, ∀ n, N ≤ n → ¬ Calls id 0 (σ.state n) (σ.event n) := by
  constructor
  · rintro ⟨B, hB⟩
    obtain ⟨b, N, hN⟩ := converges_of_monotone_of_bounded (calls_monotone σ id) hB
    refine ⟨N, fun n hn hz => ?_⟩
    obtain ⟨x, hx, -⟩ := sentIn_call (σ.reach n) (σ.next n) hz
    have h1 : (sentIn id (σ.state n).log).length = b := hN n hn
    have h2 : (sentIn id (σ.state (n + 1)).log).length = b := hN (n + 1) (Nat.le_succ_of_le hn)
    rw [hx, List.length_cons, h1] at h2
    exact Nat.succ_ne_self b h2
  · rintro ⟨N, hN⟩
    let E := max 1 (Span.empties (sentIn id (σ.state N).log)).length
    refine ⟨2 ^ 64 + E, fun n => ?_⟩
    have late : ∀ m, N ≤ m → (sentIn id (σ.state m).log).length ≤ 2 ^ 64 + E := fun m hm =>
      calc (sentIn id (σ.state m).log).length
        _ ≤ Span.total (sentIn id (σ.state m).log) +
            (Span.empties (sentIn id (σ.state m).log)).length := Span.length_le _
        _ ≤ 2 ^ 64 + E := by
            have hb := (streams_reach (σ.reach m)).bound id
            rw [sentIn_acts] at hb
            exact Nat.add_le_add (Nat.le_of_lt hb) (empties_settle σ hN hm)
    exact Nat.le_trans (calls_monotone σ id (Nat.le_max_left n N)) (late _ (Nat.le_max_right n N))

end

/-- No speed limit is configured. -/
def Config.unlimited : Config := { Config.shipped with downloadSpeedLimitInKbPerS := 0 }

/-- The first half of 20000 bytes is sent. -/
def firstHalf : List Ev :=
  withPort "RETR a\r\n".toList ++ [.run 1 (regularFile 1 20000), .complete 1 (.conn 0),
    .run 1 {}, .complete 2 .ok, .run 2 {}, .complete 2 .ok, .run 2 { sendfile := .sent 10240 }]

/-- Both halves are sent. -/
def bothHalves : List Ev := firstHalf ++ [.complete 2 .ok, .run 2 { sendfile := .sent 9760 }]

/-- Time passes, and nothing else happens. -/
def quiet {cfg : Config} {s : St} (h : s.destroyed = false) :
    InfiniteRun (step cfg) (fun _ _ => True) s where
  state n := { s with now := s.now + n }
  event _ := .tick 1
  start := by
    rw [Int.natCast_zero, Int.add_zero]
  admitted _ := trivial
  next n := by
    have later : s.now + n + (1 : Nat) = s.now + (n + 1 : Nat) := by omega
    have ticks : step cfg { s with now := s.now + n } (.tick 1) =
        .ok { s with now := s.now + n + (1 : Nat) } := if_neg (by rw [h]; exact Bool.false_ne_true)
    rw [ticks, later]

/-- Where both halves were sent, and then nothing happens any more, `sendfile` never returned 0. -/
theorem retr_ends_iff_halves : ∃ σ : InfiniteRun (step .unlimited) (fun _ _ => True)
      (St.init .unlimited "/root".toList 0 0),
    (∃ n, (sentIn 3 (σ.state n).log).length = 2) ∧
      ∃ B, ∀ n, (sentIn 3 (σ.state n).log).length ≤ B := by
  obtain ⟨s, run, hd, htwo⟩ : ∃ s, runAll (step .unlimited) (St.init .unlimited "/root".toList 0 0)
      bothHalves = .ok s ∧ s.destroyed = false ∧ (sentIn 3 s.log).length = 2 :=
    exists_runAll (by decide +kernel)
  obtain ⟨σ, hσ⟩ := (quiet hd).exists_after (allOk_of_forall fun _ _ => trivial) run
  refine ⟨σ, ⟨0 + bothHalves.length, (hσ 0).1 ▸ htwo⟩,
    (retr_ends_iff σ 3).mpr ⟨bothHalves.length, fun n hn => ?_⟩⟩
  rintro ⟨i, os, t, op, he, -⟩
  obtain ⟨k, rfl⟩ := Nat.exists_eq_add_of_le' hn
  exact absurd ((hσ k).2.symm.trans he) nofun

/-! ## 3. A file that is cut off -/

/-- The RETR behind its first half. -/
def halfSent : Op where
  id := 3
  kind := .sendFile
  fd := 8
  fileName := "/root/a".toList
  fileSize := 20000
  fileOffset := 10240
  completionToken := true
  file := 1

/-- The session that waits for its data socket to take the second half. -/
def halfway (log : List Obs) : St where
  idleExpiry := none
  currentPath := "/root".toList
  verified := true
  user := "u".toList
  password := "p".toList
  request := ⟨"RETR".toList, "a".toList⟩
  activeOpNum := 1
  dataSocket := some ⟨0, true⟩
  handlers := [⟨.idleWait, some (.err .operationAborted)⟩, ⟨.read, none⟩,
    ⟨.dataWait halfSent 0, none⟩]
  conns := [{}]
  now := 0
  nextId := 4
  log := log

/-- The log after `k` calls that returned 0. -/
def cutOffLog (log : List Obs) : Nat → List Obs
  | 0 => log
  | k + 1 => .touch 3 (some 0) :: .payload 3 0 (.sent 10240 0) :: .touch 3 (some 0) :: cutOffLog log k

set_option maxRecDepth 4000 in
theorem halfway_round (log : List Obs) :
    step .unlimited (halfway log) (.complete 2 .ok) = .ok ((halfway log).completeAt 2 .ok) ∧
    step .unlimited ((halfway log).completeAt 2 .ok) (.run 2 { sendfile := .sent 0 }) =
      .ok (halfway (cutOffLog log 1)) := ⟨rfl, rfl⟩

/-- The socket is writable and `sendfile` returns 0, for ever. -/
def cutOff (log : List Obs) : InfiniteRun (step .unlimited) (fun _ _ => True) (halfway log) :=
  .alternate (.complete 2 .ok) (.run 2 { sendfile := .sent 0 })
    (fun k => halfway (cutOffLog log k)) (fun k => (halfway (cutOffLog log k)).completeAt 2 .ok)
    (fun _ => trivial) (fun _ => trivial) (fun _ => (halfway_round _).1) fun _ => (halfway_round _).2

set_option maxRecDepth 4000 in
/-- **A RETR that never ends**: the file was truncated to what was sent of it. -/
theorem retr_endless : ¬ ∀ (cfg : Config) (home : Path) (c₀ : UInt32) (now : Int)
    (σ : InfiniteRun (step cfg) (fun _ _ => True) (St.init cfg home c₀ now)) (id : Nat),
    ∃ B, ∀ n, (sentIn id (σ.state n).log).length ≤ B := by
  intro h
  obtain ⟨log, run⟩ : ∃ log, runAll (step .unlimited) (St.init .unlimited "/root".toList 0 0)
      firstHalf = .ok (halfway log) := ⟨_, rfl⟩
  obtain ⟨σ, hσ⟩ := (cutOff log).exists_after (by decide) run
  obtain ⟨B, hB⟩ := h .unlimited "/root".toList 0 0 σ 3
  have grows : ∀ k, k ≤ (sentIn 3 (cutOffLog log k)).length := by
    intro k
    induction k with
    | zero => exact Nat.zero_le _
    | succ k ih => exact Nat.succ_le_succ ih
  have h1 := hB (2 * (B + 1) + firstHalf.length)
  have h2 : (cutOff log).state (2 * (B + 1)) = halfway (cutOffLog log (B + 1)) :=
    InfiniteRun.alternate_even _ _ _ _ (B + 1)
  rw [(hσ _).1, h2] at h1
  exact absurd (Nat.le_trans (grows (B + 1)) h1) (by omega)

end OrangeFtpd
