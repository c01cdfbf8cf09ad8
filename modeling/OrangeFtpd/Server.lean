/-
  File:      OrangeFtpd/Server.lean
  Subject:   The acceptor (`server.cc`): which worker a new connection is given to.

  `do_accept` takes the next worker and waits for a connection on its behalf; the
  completion handler starts a session there and calls `do_accept` again. The
  index of the next worker is an `uint` that only ever grows, so it wraps at
  2^32, and 2^32 is no multiple of most numbers of workers.

  The threads of the workers and the text of the log lines are not modelled.
-/
import OrangeFtpd.Lib.Run
import OrangeFtpd.Lib.RoundRobin
import Mathlib.Algebra.Group.Nat.Defs

namespace OrangeFtpd

/-! ## 1. The server -/

/-- `Server`. The last two members record what `do_accept` and its handler did,
    newest entry first. -/
structure Server where
  /-- `works_.size()`. -/
  works : Nat
  workIndex : UInt32
  stoped : Bool
  /-- The worker of the accept that is outstanding. -/
  accepting : Option Nat
  /-- The worker each call of `do_accept` chose. -/
  chosen : List Nat
  /-- The worker each session was started on. -/
  sessions : List Nat
  deriving DecidableEq, Repr

namespace Server

/-- `Server::Server`: one worker for each of `hardware_concurrency()` threads. -/
def create (hardwareConcurrency : Nat) : Server :=
  ⟨hardwareConcurrency, 0, false, none, [], []⟩

/-- `works_[(work_index_++) % works_.size()]`. -/
def nextWorker (s : Server) : Nat := s.workIndex.toNat % s.works

/-- `Server::do_accept`. -/
def doAccept (s : Server) : Server :=
  { s with
    workIndex := s.workIndex + 1
    accepting := some s.nextWorker
    chosen := s.nextWorker :: s.chosen }

/-- `Server::start`, up to the run of the event loop. -/
def start (s : Server) : Server := s.doAccept

/-- The outstanding accept completes. -/
inductive Accepted where
  | connection
  | failed
  deriving DecidableEq, Repr

/-- No accept is outstanding. -/
inductive Refused where
  | notAccepting
  deriving DecidableEq, Repr

/-- The completion handler of `async_accept`. -/
def step (s : Server) (ec : Accepted) : Except Refused Server :=
  match s.accepting with
  | none => .error .notAccepting
  | some worker =>
    let s := { s with accepting := none }
    let s := match ec with
      | .connection => { s with sessions := worker :: s.sessions }
      | .failed => s
    .ok (if s.stoped then s else s.doAccept)

/-! ## 2. What every run keeps -/

/-- The calls of `do_accept` so far took the workers in turn, by a counter that
    wraps at 2^32. -/
structure InTurn (W : Nat) (s : Server) : Prop where
  works : s.works = W
  index : s.workIndex.toNat = s.chosen.length % 2 ^ 32
  valid : ∀ w ∈ s.chosen, w < W
  count : ∀ w, s.chosen.count w = RoundRobin.turns (2 ^ 32) W s.chosen.length w
  running : s.stoped = false

/-- **One call of `do_accept` is one turn.** -/
theorem InTurn.doAccept {W : Nat} (hW : 0 < W) {s : Server} (h : s.InTurn W) :
    s.doAccept.InTurn W where
  works := h.works
  index := by
    have e : (s.workIndex + 1).toNat = (s.workIndex.toNat + 1) % 2 ^ 32 := UInt32.toNat_add _ _
    rw [Server.doAccept, e, h.index, List.length_cons]
    exact Nat.mod_add_mod _ _ _
  valid := by
    rintro w (_ | ⟨_, hw⟩)
    · rw [nextWorker, h.works]
      exact Nat.mod_lt _ hW
    · exact h.valid w hw
  count w := by
    have e : s.nextWorker = RoundRobin.slot (2 ^ 32) W s.chosen.length := by
      rw [nextWorker, h.works, h.index, RoundRobin.slot]
    have hc : s.doAccept.chosen = s.nextWorker :: s.chosen := rfl
    rw [hc, List.length_cons, RoundRobin.turns_succ, List.count_cons, h.count w, e]
    simp only [beq_iff_eq]
  running := h.running

theorem inTurn_create (W : Nat) : (create W).InTurn W where
  works := rfl
  index := rfl
  valid := fun _ hw => by cases hw
  count := fun w => (RoundRobin.turns_zero _ _ w).symm
  running := rfl

theorem InTurn.step {W : Nat} (hW : 0 < W) {s s' : Server} {ec : Accepted} (h : s.InTurn W)
    (hs : s.step ec = .ok s') : s'.InTurn W := by
  unfold Server.step at hs
  cases ha : s.accepting with
  | none => rw [ha] at hs; cases hs
  | some worker =>
    rw [ha] at hs
    cases ec with
    | connection =>
      have e : s' = ({ s with accepting := none, sessions := worker :: s.sessions }).doAccept := by
        simpa [h.running] using hs.symm
      rw [e]
      exact InTurn.doAccept hW ⟨h.works, h.index, h.valid, h.count, h.running⟩
    | failed =>
      have e : s' = ({ s with accepting := none }).doAccept := by
        simpa [h.running] using hs.symm
      rw [e]
      exact InTurn.doAccept hW ⟨h.works, h.index, h.valid, h.count, h.running⟩

/-- The states a server with `W` workers reaches, whatever the accepts report. -/
def Reached (W : Nat) : Server → Prop := Reach step (fun _ _ => True) (create W).start

theorem Reached.inTurn {W : Nat} (hW : 0 < W) {s : Server} (h : Reached W s) : s.InTurn W :=
  h.invariant ((inTurn_create W).doAccept hW) fun _ _ _ hi _ hs => hi.step hW hs

/-- **The server never stops accepting**: every number of calls is reached. -/
theorem reached_calls {W : Nat} (hW : 0 < W) (n : Nat) :
    ∃ s, Reached W s ∧ s.chosen.length = n + 1 ∧ s.accepting ≠ none := by
  induction n with
  | zero => exact ⟨_, .start, rfl, fun h => by cases h⟩
  | succ n ih =>
    obtain ⟨s, hr, hn, ha⟩ := ih
    have hi := Reached.inTurn hW hr
    obtain ⟨worker, hw⟩ := Option.ne_none_iff_exists'.mp ha
    have hs : s.step .failed = .ok ({ s with accepting := none } : Server).doAccept := by
      simp [step, hw, hi.running]
    refine ⟨_, .step .failed hr trivial hs, ?_, fun h => by cases h⟩
    exact congrArg (· + 1) hn

/-! ## 3. How evenly the connections are spread -/

/-- No worker was chosen more than once more often than another. -/
def Even (s : Server) : Prop :=
  ∀ v < s.works, ∀ w < s.works, s.chosen.count v ≤ s.chosen.count w + 1

theorem InTurn.even_iff {W : Nat} {s : Server} (h : s.InTurn W) :
    s.Even ↔ RoundRobin.Fair (2 ^ 32) W s.chosen.length := by
  unfold Even RoundRobin.Fair
  simp only [h.works, h.count]

/-- **The connections are spread evenly as long as the wrap of `work_index_` does not
    show**: the number of workers divides 2^32, or fewer than 2^32 calls were made,
    or the calls of the second lap are whole rounds. The chosen worker is always one
    of the workers. -/
theorem workers_even {W : Nat} (hW : 0 < W) {s : Server} (h : Reached W s) :
    (∀ w ∈ s.chosen, w < W) ∧
      (s.Even ↔ W ∣ 2 ^ 32 ∨ s.chosen.length < 2 ^ 32 ∨
        (s.chosen.length / 2 ^ 32 = 1 ∧ W ∣ s.chosen.length % 2 ^ 32)) := by
  have hi := h.inTurn hW
  exact ⟨hi.valid, hi.even_iff.trans (RoundRobin.fair_iff (by decide) hW)⟩

/-- Two calls on three workers. -/
theorem workers_even_two :
    ∃ s, Reached 3 s ∧ s.chosen = [1, 0] ∧ (∀ w ∈ s.chosen, w < 3) ∧ s.Even := by
  have run : runAll step (create 3).start [.connection] =
      .ok ⟨3, 2, false, some 1, [1, 0], [0]⟩ := rfl
  have hr : Reached 3 _ := reach_runAll [.connection] .start ⟨trivial, trivial⟩ run
  have h := workers_even (by decide) hr
  exact ⟨_, hr, rfl, h.1, h.2.mpr (Or.inr (Or.inl (by decide)))⟩

/-- **Three workers drift apart**: after 2^32 + 1 calls one worker was chosen twice
    more often than another. -/
theorem workers_drift :
    ∃ s, Reached 3 s ∧ s.chosen.length = 2 ^ 32 + 1 ∧ ¬ s.Even := by
  obtain ⟨s, hr, hn, _⟩ := reached_calls (by decide : 0 < 3) (2 ^ 32)
  have hi := Reached.inTurn (by decide) hr
  refine ⟨s, hr, hn, fun he => ?_⟩
  have hf := (RoundRobin.fair_iff (by decide) (by decide)).mp (hi.even_iff.mp he)
  rw [hn] at hf
  revert hf
  decide

end Server

end OrangeFtpd
