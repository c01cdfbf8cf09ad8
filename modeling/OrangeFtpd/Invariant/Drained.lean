/-
  File:      OrangeFtpd/Invariant/Drained.lean
  Subject:   A session with nothing left to do is reaped.

  Where no operation is alive and no reply is queued, the session is either
  watched by its idle timer or, once stoped, no outstanding wait holds it. Four
  places drain a session last; the error path of a control write is the one that
  does not look at the timer.
-/
import OrangeFtpd.Invariant.Idle

namespace OrangeFtpd

/-- **A drained session** has a deadline, or nothing outstanding keeps it. -/
def Drained (s : St) : Prop :=
  s.liveOps = [] → s.messageQueue = [] →
    (s.stoped = false ∧ s.idleExpiry ≠ none) ∨
      (s.stoped = true ∧ ⟨.keepAlive, none⟩ ∉ s.handlers)

section

variable {cfg : Config} {os : Os} {id n i : Nat} {s s₁ s' : St} {op : Op} {t : Task} {r : Result}

/-! ## 1. What leaves a session drained -/

theorem Drained.of_alive (h : s.liveOps ≠ []) : Drained s := fun hl => absurd hl h

theorem Drained.of_queued (h : s.messageQueue ≠ []) : Drained s := fun _ hq => absurd hq h

theorem Drained.congr (h : Drained s) (hl : s'.liveOps = s.liveOps)
    (hq : s'.messageQueue = s.messageQueue) (hs : s'.stoped = s.stoped)
    (hx : s'.idleExpiry = s.idleExpiry)
    (hk : ⟨.keepAlive, none⟩ ∈ s'.handlers → ⟨.keepAlive, none⟩ ∈ s.handlers) : Drained s' := by
  unfold Drained
  rw [hl, hq, hs, hx]
  intro h1 h2
  rcases h h1 h2 with h3 | ⟨h3, h4⟩
  · exact Or.inl h3
  · exact Or.inr ⟨h3, fun hm => h4 (hk hm)⟩

/-- Moving the deadline, or cancelling the timer, ends the wait that holds the session. -/
theorem no_keepAlive_of_cancel {p : Pool Task Result} {ec : Result} :
    ⟨.keepAlive, none⟩ ∉ p.cancel Task.isTimerWait ec := fun hm => Pool.cancel_done hm rfl rfl

/-- A finite deadline is set. -/
theorem drained_updateIdleTimer : Drained (s.updateIdleTimer cfg) := by
  intro _ _
  cases hs : s.stoped with
  | false => exact Or.inl ⟨hs, nofun⟩
  | true => exact Or.inr ⟨hs, no_keepAlive_of_cancel⟩

/-- The counter is right: looking at it finds a drained session. -/
theorem drained_restartIdleTimer (ha : s.liveOps = [] → s.activeOpNum = 0) :
    Drained (s.restartIdleTimer cfg) := by
  intro hl hq
  rw [St.liveOps_restartIdleTimer] at hl
  rw [St.restartIdleTimer_messageQueue] at hq
  have hp : s.existsPendingOperator = false := pending_eq_false.mpr ⟨ha hl, hq⟩
  rw [St.restartIdleTimer_stoped, St.restartIdleTimer_idleExpiry, St.restartIdleTimer_handlers, hp,
    Bool.false_or, if_neg (c := false = true) Bool.false_ne_true]
  cases hs : s.stoped with
  | false => exact Or.inl ⟨rfl, nofun⟩
  | true => exact Or.inr ⟨rfl, no_keepAlive_of_cancel⟩

theorem Ops.counter_eq (h : Ops 0 [] s) (hl : s.liveOps = []) : s.activeOpNum = 0 := by
  have hc := h.count
  rw [St.liveIds, hl] at hc
  exact hc

theorem drained_destroyOp (h : Ops 0 [op.id] s) : Drained (s.destroyOp cfg op) := by
  have h1 : Ops 0 [] (s.destroyOp cfg op) := h.destroyOp
  rw [St.destroyOp_eq] at h1 ⊢
  refine drained_restartIdleTimer fun hl => ?_
  rw [← @St.liveOps_restartIdleTimer cfg] at hl
  have h2 := h1.counter_eq hl
  rwa [St.restartIdleTimer_activeOpNum] at h2

/-- **The code of an operation** ends with a handler or message that keeps the operation,
    or with its destructor. -/
theorem drained_opRun (hr : OpRun cfg id s s') (ho : Ops 0 [id] s) : Drained s' := by
  induction hr with
  | quiet hq hr ih => exact ih (ho.quiet hq)
  | reply b hr ih => exact ih (ho.push (ho.fresh id List.mem_cons_self) (by simp))
  | ended op hop => exact drained_destroyOp (hop ▸ ho)
  | queued b tok hop => exact .of_queued (by simp)
  | @started s t op r ht hop =>
    refine .of_alive fun hl => ?_
    have hp : (s.startWith t r).liveOps.Perm (t.op?.toList ++ s.liveOps) :=
      St.liveOps_of_tasks (by simp) rfl
    rw [hl, ht] at hp
    cases hp.symm.eq_nil

/-- A dropped queue: the operation that dies last looks at the timer. Where no token was
    queued, nobody does. -/
theorem drained_dropQueue (ho : Ops 0 [] s) (hw : s.liveOps ≠ [] ∨
    (s.stoped = true ∧ ⟨.keepAlive, none⟩ ∉ s.handlers)) : Drained (s.dropQueue cfg) := by
  have fold : ∀ (ops : List Op) (s : St), Ops 0 (ops.map (·.id)) s → ops ≠ [] →
      Drained (ops.foldl (fun t op => t.destroyOp cfg op) s) := by
    intro ops
    induction ops with
    | nil => exact fun s _ h => absurd rfl h
    | cons op ops ih =>
      intro s ho _
      by_cases hn : ops = []
      · subst hn
        exact drained_destroyOp ho
      · exact ih _ ho.destroyOp hn
  by_cases hq : s.queuedOps = []
  · unfold St.dropQueue
    rw [hq]
    have hl : (s.withQueue []).liveOps = s.liveOps := by
      unfold St.liveOps
      rw [hq]
      rfl
    intro h1 _
    rcases hw with hw | ⟨hs, hk⟩
    · exact absurd (hl.symm.trans h1) hw
    · exact Or.inr ⟨hs, hk⟩
  · exact fold _ _ (ho.congr liveIds_queue rfl rfl fun _ ho => Or.inl ho) hq

/-! ## 2. Preservation by a step -/

/-- The runs in which nothing drained is forgotten: a failed control write is noticed while
    an operation is alive, or when the session is stoped and no outstanding wait holds it. -/
def failureSeen (s : St) (_ : Os) (t : Task) (r : Result) : Prop :=
  t = .ctlWrite → r ≠ .ok →
    s.liveOps ≠ [] ∨ (s.stoped = true ∧ ⟨.keepAlive, none⟩ ∉ s.handlers)

instance (s : St) (os : Os) (t : Task) (r : Result) : Decidable (failureSeen s os t r) :=
  inferInstanceAs (Decidable (t = .ctlWrite → r ≠ .ok →
    s.liveOps ≠ [] ∨ (s.stoped = true ∧ ⟨.keepAlive, none⟩ ∉ s.handlers)))

theorem Ops.pending_of_alive (h : Ops 0 [] s) (hp : s.existsPendingOperator = true)
    (hl : s.liveOps = []) : s.messageQueue ≠ [] := by
  intro hq
  rw [pending_eq_false.mpr ⟨h.counter_eq hl, hq⟩] at hp
  cases hp

/-- `handle_read`. -/
theorem drained_line (hl : Line cfg os n s s') (ho : Ops 0 [] s) : Drained s' := by
  cases hl with
  | blank hw =>
    have ho' : Ops 0 [] (s.takeLine n {}) := ho.takeLine {}
    unfold St.rearmIdle
    split
    · next hp => exact fun h1 h2 => absurd h2 (ho'.pending_of_alive hp h1)
    · exact drained_updateIdleTimer
  | refused req b hw hv hc hf =>
    unfold St.rearmIdle
    split
    · exact .of_queued (by simp)
    · exact drained_updateIdleTimer
  | began req kind _ hw hk hs => exact drained_opRun hs.opRun ((ho.takeLine req).create rfl)

theorem drained_close : Drained s.close := by
  refine fun _ _ => Or.inr ⟨rfl, fun hm => ?_⟩
  rw [St.close_handlers] at hm
  exact no_keepAlive_of_cancel hm

/-- A handler of the session. -/
theorem Drained.session (h : Drained s) (hm : Machinery s) (ho : Ops 0 [] s)
    (hi : s.handlers[i]? = some ⟨t, some r⟩) (ht : t.op? = none) (hg : failureSeen s os t r)
    (hh : SessionHandled cfg os t r (s.takeHandler i) s₁) : Drained s₁ := by
  have hp : (s.takeHandler i).liveOps.Perm s.liveOps := by
    have h1 := St.liveOps_erase hi
    rwa [ht] at h1
  have hk : Drained (s.takeHandler i) := by
    intro h1 h2
    rw [h1] at hp
    rcases h hp.symm.eq_nil h2 with h3 | ⟨h3, h4⟩
    · exact Or.inl h3
    · exact Or.inr ⟨h3, fun hm => h4 (Pool.mem_of_eraseIdx hm)⟩
  have hk' : Ops 0 [] (s.takeHandler i) := by
    have h1 := ho.take hi
    rwa [ht] at h1
  cases hh with
  | banner _ =>
    have hbn : s.has .banner ≠ 0 := has_pos (Pool.mem_tasks_of (List.mem_of_getElem? hi))
    obtain ⟨-, -, hs, -⟩ := hm.banner hbn
    exact fun _ _ => Or.inl ⟨hs, nofun⟩
  | bannerFailed _ _ hr => exact hk
  | readEof _ h0 => exact drained_close
  | readEofBusy _ h0 =>
    refine .of_alive fun hl => h0 (hk'.counter_eq ?_)
    rwa [St.liveOps_of_control (St.tasks_start (t := .keepAlive)) rfl rfl, St.liveOps_neverExpire,
      St.liveOps_close] at hl
  | readFailed _ _ hr hr' => exact hk
  | readLine _ s₂ hl =>
    have h1 : Ops 0 [] (s.takeHandler i).neverExpire := hk'.control (by simp) rfl rfl [] rfl nofun
    refine (drained_line hl h1).congr (by simp) rfl rfl rfl fun hm => ?_
    rcases List.mem_append.mp hm with hm | hm
    · exact hm
    · cases List.mem_singleton.mp hm
  | idleStoped _ _ h0 => exact hk
  | idleAgain _ _ h0 hx =>
    refine hk.congr (by simp) rfl rfl rfl fun hm => ?_
    rcases List.mem_append.mp hm with hm | hm
    · exact hm
    · cases List.mem_singleton.mp hm
  | idleClose _ _ h0 hx => exact drained_close
  | keepAlive _ _ => exact hk
  | writeFailed _ _ hr =>
    have h1 : Ops 0 [] ((s.takeHandler i).emit (.ctlDone false)) :=
      hk'.control rfl rfl rfl [.ctlDone false] rfl (List.forall_mem_singleton.mpr rfl)
    refine drained_dropQueue h1 ?_
    rcases hg rfl hr with hl | ⟨hs, hn⟩
    · left
      intro h2
      have h3 : (s.takeHandler i).liveOps = [] := h2
      rw [h3] at hp
      exact hl hp.symm.eq_nil
    · exact Or.inr ⟨hs, fun hm => hn (Pool.mem_of_eraseIdx hm)⟩
  | written _ s₂ m rest hq ht =>
    have h1 : Ops 0 [] ((s.takeHandler i).emit (.ctlDone true)) :=
      hk'.control rfl rfl rfl [.ctlDone true] rfl (List.forall_mem_singleton.mpr rfl)
    cases rest with
    | nil =>
      have h2 : Ops 0 [] (s₂.withQueue []) := Ops.tokenRun (s := (s.takeHandler i).emit (.ctlDone true)) cfg hq h1 ht
      exact drained_restartIdleTimer fun hl => h2.counter_eq hl
    | cons m' rest =>
      refine .of_queued fun hn => ?_
      cases hn

/-- **A step** leaves the session drained properly. -/
theorem Drained.step {e : Ev} (hs : Stepped cfg s e s') (hm : Machinery s) (ho : Ops 0 [] s)
    (hg : WhenRun failureSeen s e) (h : Drained s) : Drained s' := by
  cases hs with
  | clientSend chunk hr =>
    refine h.congr (St.liveOps_congr (St.tasks_receive chunk) rfl) rfl rfl rfl fun hm => ?_
    rw [St.receive_handlers] at hm
    split at hm
    · rcases Pool.mem_cancel hm with ⟨h1, _⟩ | ⟨h1, _⟩
      · exact h1
      · cases h1
    · exact hm
  | clientGone => exact h
  | peerSend c bytes hc hp => exact h
  | peerShutdown c hc hp => exact h
  | peerReset c hc => exact h
  | tick ms => exact h
  | complete i r t hi hc =>
    refine h.congr (St.liveOps_congr (St.tasks_completeAt i r) rfl) rfl rfl rfl fun hm => ?_
    rcases Pool.mem_complete hm with h1 | ⟨h1, _⟩
    · exact h1
    · cases h1
  | run i os t r s₁ hi hh =>
    have h1 : Drained s₁ := by
      cases hh with
      | session hs =>
        have ht : t.op? = none := by cases hs <;> rfl
        exact h.session hm ho hi ht (hg.at hi) hs
      | operation op ht hop =>
        have ho' := ho.take hi
        rw [ht] at ho'
        exact drained_opRun hop.opRun ho'
    exact h1

/-! ## 3. Runs -/

/-- The handler of the wait that holds the session is the last of it. -/
theorem keepAlive_run (hm : Machinery s) (hd : s.destroyed = false)
    (hi : s.handlers[i]? = some ⟨.keepAlive, some r⟩) :
    ∃ s', OrangeFtpd.step cfg s (.run i os) = .ok s' ∧ s'.destroyed = true := by
  have ha := hm.alone hd hi rfl
  have hn : (s.takeHandler i).handlers.tasks.any Task.isStrong = false := by
    by_contra hn
    have h1 := any_strong.mp (eq_true_of_ne_false hn)
    rw [ha.banner, ha.read, ha.keepAlive] at h1
    exact h1 rfl
  refine ⟨(s.takeHandler i).releaseSession .keepAlive, step_ok.mpr ⟨hd, ?_⟩, ?_⟩
  · exact runHandler_eq hi
  · rw [St.releaseSession_destroyed, hn]
    exact Bool.or_true _

/-- **A drained session is reaped**, in every run whose failed control writes are seen:
    it has a deadline, or it is stoped and the wait that held it was cancelled. The handler
    of that wait then destroys it. -/
theorem drained_session_is_reaped {home : Path} {now : Int}
    (h : Reach (OrangeFtpd.step cfg) (WhenRun failureSeen) (St.init cfg home 0 now) s)
    (hl : s.liveOps = []) (hq : s.messageQueue = []) :
    (s.stoped = false ∧ s.idleExpiry ≠ none) ∨
      (s.stoped = true ∧ ⟨.keepAlive, none⟩ ∉ s.handlers ∧
        ∀ (i : Nat) (r : Result) (os : Os), s.destroyed = false →
          s.handlers[i]? = some ⟨.keepAlive, some r⟩ →
          ∃ s', OrangeFtpd.step cfg s (.run i os) = .ok s' ∧ s'.destroyed = true) := by
  have hd : Drained s := by
    refine h.invariant_of (J := fun s => Machinery s ∧ Ops 0 [] s)
      (fun s hs => ⟨machinery_reach hs, ops_reach hs⟩) (fun _ _ => Or.inl ⟨rfl, nofun⟩) ?_
    exact fun s e s' hJ hI hok hs => hI.step (step_cases hs) hJ.1 hJ.2 hok
  rcases hd hl hq with h1 | ⟨h1, h2⟩
  · exact Or.inl h1
  · exact Or.inr ⟨h1, h2, fun i r os hnd hi => keepAlive_run (machinery_reach h) hnd hi⟩

end

/-- A client sends one line; `r` is how the write of the reply ends. -/
def oneLine (r : Result) : List Ev :=
  [.complete 0 .ok, .run 0 {}, .clientSend "NOOP\r\n".toList, .run 0 {}, .complete 1 r, .run 1 {}]

/-- The reply was written: the session has a deadline again. -/
theorem drained_oneLine : ∃ s : St,
    runAll (OrangeFtpd.step .shipped) .fresh (oneLine .ok) = .ok s ∧
    ((s.stoped = false ∧ s.idleExpiry ≠ none) ∨
      (s.stoped = true ∧ ⟨.keepAlive, none⟩ ∉ s.handlers ∧
        ∀ (i : Nat) (r : Result) (os : Os), s.destroyed = false →
          s.handlers[i]? = some ⟨.keepAlive, some r⟩ →
          ∃ s', OrangeFtpd.step .shipped s (.run i os) = .ok s' ∧ s'.destroyed = true)) := by
  have reached : ∀ s : St, runAll (OrangeFtpd.step .shipped) .fresh (oneLine .ok) = .ok s →
      Reach (OrangeFtpd.step .shipped) (WhenRun failureSeen) .fresh s := fun s =>
    reach_runAll (oneLine .ok) .start (by decide)
  exact ⟨_, rfl, drained_session_is_reaped (reached _ rfl) rfl rfl⟩

/-- **The error path of a control write forgets the timer**: after a failed write nothing is
    alive or queued, the session is not stoped, and it has no deadline. -/
theorem failed_write_forgets_timer : ¬ ∀ (cfg : Config) (home : Path) (now : Int) (s : St),
    Reach (OrangeFtpd.step cfg) (fun _ _ => True) (St.init cfg home 0 now) s →
    s.liveOps = [] → s.messageQueue = [] →
    (s.stoped = false ∧ s.idleExpiry ≠ none) ∨
      (s.stoped = true ∧ ⟨.keepAlive, none⟩ ∉ s.handlers) := by
  intro h
  have reached : ∀ s : St,
      runAll (OrangeFtpd.step .shipped) .fresh (oneLine (.err .connectionReset)) = .ok s →
      Reach (OrangeFtpd.step .shipped) (fun _ _ => True) .fresh s := fun s =>
    reach_runAll (oneLine (.err .connectionReset)) .start (by decide)
  rcases h _ _ _ _ (reached _ rfl) rfl rfl with ⟨_, hx⟩ | ⟨hs, _⟩
  · exact hx rfl
  · cases hs

end OrangeFtpd
