/-
  File:      OrangeFtpd/Invariant/Idle.lean
  Subject:   The idle timer spares work in progress.

  The deadline of the timer is finite only where no operation is alive and no
  reply is queued, and only there does the wait end that holds the session after
  end of file. A read sets the deadline to "never"; the timer is let loose again
  only where the session looks at its counter and its queue
  (`existsPendingOperator`), and a counter that started at zero is zero only
  where nothing is alive.
-/
import OrangeFtpd.Invariant.Machinery

namespace OrangeFtpd

/-- The timer may end the session: its deadline is finite, or the wait that holds the
    session is over. -/
def St.TimerFree (s : St) : Prop :=
  s.idleExpiry ≠ none ∨ ∃ r, ⟨.keepAlive, some r⟩ ∈ s.handlers

/-- **Where the timer may end the session** nothing is alive and nothing is queued. `hand`
    are the requests whose operations the running handler holds. -/
def Idle (hand : List Nat) (s : St) : Prop :=
  s.TimerFree → hand ++ s.liveIds = [] ∧ s.messageQueue = []

section

variable {cfg : Config} {os : Os} {hand : List Nat} {id n i : Nat} {s s₁ s' : St} {op : Op}
  {t : Task} {r : Result}

/-! ## 1. What `exists_pending_operator` says -/

theorem pending_eq_false : s.existsPendingOperator = false ↔
    s.activeOpNum = 0 ∧ s.messageQueue = [] := by
  unfold St.existsPendingOperator
  simp

/-- The counter of fewer than `2 ^ 32` operations does not wrap. -/
theorem Ops.eq_zero (h : Ops 0 hand s) (hb : (hand ++ s.liveIds).length < 2 ^ 32)
    (ha : s.activeOpNum = 0) : hand ++ s.liveIds = [] := by
  have hc := congrArg UInt32.toNat (h.count.symm.trans ha)
  rw [UInt32.zero_add, UInt32.toNat_ofNat_of_lt' hb] at hc
  exact List.eq_nil_of_length_eq_zero hc

theorem Ops.idle (h : Ops 0 hand s) (hb : (hand ++ s.liveIds).length < 2 ^ 32)
    (hp : s.existsPendingOperator = false) : Idle hand s := by
  obtain ⟨ha, hq⟩ := pending_eq_false.mp hp
  exact fun _ => ⟨h.eq_zero hb ha, hq⟩

theorem Idle.of_not (h : ¬ s.TimerFree) : Idle hand s := fun hx => absurd hx h

theorem Idle.congr (h : Idle hand s) (hx : s'.TimerFree → s.TimerFree)
    (hl : s'.liveIds.Perm s.liveIds) (hq : s'.messageQueue = s.messageQueue) : Idle hand s' := by
  intro hf
  obtain ⟨h1, h2⟩ := h (hx hf)
  have hp := hl.append_left hand
  rw [h1] at hp
  exact ⟨hp.eq_nil, hq.trans h2⟩

theorem timerFree_of (h : s'.TimerFree) (hx : s'.idleExpiry = s.idleExpiry)
    (hk : ∀ r, ⟨.keepAlive, some r⟩ ∈ s'.handlers → ⟨.keepAlive, some r⟩ ∈ s.handlers) :
    s.TimerFree := by
  rcases h with h | ⟨r, h⟩
  · exact Or.inl (hx ▸ h)
  · exact Or.inr ⟨r, hk r h⟩

/-- Another handler is started. -/
theorem timerFree_append {u : Task} {q : Option Result} (h : s'.TimerFree)
    (hx : s'.idleExpiry = s.idleExpiry) (hh : s'.handlers = s.handlers ++ [⟨u, q⟩])
    (hu : u ≠ .keepAlive) : s.TimerFree := by
  refine timerFree_of h hx fun r hm => ?_
  rw [hh] at hm
  rcases List.mem_append.mp hm with hm | hm
  · exact hm
  · cases List.mem_singleton.mp hm
    exact absurd rfl hu

theorem Quiet.timerFree (hq : Quiet id s s₁) : s₁.TimerFree → s.TimerFree :=
  fun h => timerFree_of h hq.idleExpiry fun r => (hq.control ⟨.keepAlive, some r⟩ rfl).mp

theorem timerFree_push {m : Message} (h : (s.pushMessage id m).TimerFree) : s.TimerFree := by
  refine timerFree_of h rfl fun r hm => ?_
  rw [St.pushMessage_handlers] at hm
  rcases List.mem_append.mp hm with hm | hm
  · exact hm
  · split at hm <;> cases hm
    contradiction

/-! ## 2. Preservation by the parts of a handler -/

theorem liveIds_destroyOp : (s.destroyOp cfg op).liveIds = s.liveIds := by
  unfold St.liveIds
  rw [St.liveOps_destroyOp]

theorem restartIdleTimer_pending :
    (s.restartIdleTimer cfg).existsPendingOperator = s.existsPendingOperator := by
  unfold St.existsPendingOperator
  rw [St.restartIdleTimer_activeOpNum, St.restartIdleTimer_messageQueue]

theorem restartIdleTimer_of_pending (hp : s.existsPendingOperator = true) :
    s.restartIdleTimer cfg = s := if_pos hp

theorem timerFree_destroyOp (hp : (s.destroyOp cfg op).existsPendingOperator = true)
    (h : (s.destroyOp cfg op).TimerFree) : s.TimerFree := by
  rw [St.destroyOp_eq] at hp h
  rw [restartIdleTimer_pending] at hp
  rw [restartIdleTimer_of_pending hp] at h
  refine timerFree_of h rfl fun r hm => ?_
  split at hm
  · exact ((@Quiet.closeDataSocket 0 s).control ⟨.keepAlive, some r⟩ rfl).mp hm
  · exact hm

/-- `~BasicOp` lets the timer loose only where it was the last operation. -/
theorem Idle.destroyOp (ho : Ops 0 (op.id :: hand) s)
    (hb : (op.id :: (hand ++ s.liveIds)).length ≤ 2 ^ 32) (hx : ¬ s.TimerFree) :
    Idle hand (s.destroyOp cfg op) := by
  by_cases hp : (s.destroyOp cfg op).existsPendingOperator = true
  · exact .of_not fun h => hx (timerFree_destroyOp hp h)
  · have ho' : Ops 0 hand (s.destroyOp cfg op) := ho.destroyOp
    refine ho'.idle ?_ (eq_false_of_ne_true hp)
    rw [liveIds_destroyOp]
    exact hb

theorem Idle.restartIdleTimer (ho : Ops 0 hand s) (hb : (hand ++ s.liveIds).length < 2 ^ 32)
    (hx : ¬ s.TimerFree) : Idle hand (s.restartIdleTimer cfg) := by
  by_cases hp : s.existsPendingOperator = true
  · rw [restartIdleTimer_of_pending hp]
    exact .of_not hx
  · obtain ⟨hl, hq⟩ := pending_eq_false.mp (eq_false_of_ne_true hp)
    intro _
    rw [St.restartIdleTimer_messageQueue]
    refine ⟨?_, hq⟩
    have e : (s.restartIdleTimer cfg).liveIds = s.liveIds := by
      unfold St.liveIds
      rw [St.liveOps_restartIdleTimer]
    rw [e]
    exact ho.eq_zero hb hl

/-- **The code of an operation** leaves the timer alone, or is the last. -/
theorem Idle.opRun (hr : OpRun cfg id s s') (ho : Ops 0 (id :: hand) s)
    (hb : (id :: (hand ++ s.liveIds)).length ≤ 2 ^ 32) (hx : ¬ s.TimerFree) :
    Idle hand s' := by
  induction hr with
  | quiet hq hr ih =>
    refine ih (ho.quiet hq) ?_ fun h => hx (hq.timerFree h)
    unfold St.liveIds
    rw [St.liveOps_congr hq.tasks hq.messageQueue]
    exact hb
  | reply b hr ih =>
    refine ih (ho.push (ho.fresh id List.mem_cons_self) (by simp)) ?_ fun h => hx (timerFree_push h)
    unfold St.liveIds at hb ⊢
    rw [St.liveOps_pushMessage, Option.map_none, Option.toList_none, List.append_nil]
    exact hb
  | ended op hop => exact Idle.destroyOp (hop ▸ ho) (hop ▸ hb) hx
  | queued b tok hop => exact .of_not fun h => hx (timerFree_push h)
  | started t op r ht hop =>
    refine .of_not fun h => hx (timerFree_append h rfl rfl fun e => ?_)
    rw [e] at ht
    cases ht

/-- The operations of a dropped queue die one after the other. -/
theorem Idle.dropQueue (ho : Ops 0 [] s) (hb : s.liveIds.length < 2 ^ 32)
    (hx : ¬ s.TimerFree) : Idle [] (s.dropQueue cfg) := by
  have fold : ∀ (ops : List Op) (s : St), Ops 0 (ops.map (·.id)) s →
      (ops.map (·.id) ++ s.liveIds).length < 2 ^ 32 → s.messageQueue = [] →
      Idle (ops.map (·.id)) s → Idle [] (ops.foldl (fun t op => t.destroyOp cfg op) s) := by
    intro ops
    induction ops with
    | nil => exact fun s _ _ _ h => h
    | cons op ops ih =>
      intro s ho hb hq hi
      have hx : ¬ s.TimerFree := fun hx => by cases (hi hx).1
      refine ih _ ho.destroyOp ?_ (by simpa using hq) (Idle.destroyOp ho (Nat.le_of_lt hb) hx)
      rw [liveIds_destroyOp]
      exact Nat.lt_of_succ_lt hb
  refine fold _ _ (ho.congr liveIds_queue rfl rfl fun o ho => Or.inl ho) ?_ rfl (.of_not hx)
  rw [liveIds_queue.length_eq]
  exact hb

/-- `handle_read`, after the read set the deadline to "never". -/
theorem Idle.line (hl : Line cfg os n s s') (ho : Ops 0 [] s) (hb : s.liveIds.length < 2 ^ 32)
    (hx : ¬ s.TimerFree) : Idle [] s' := by
  cases hl with
  | blank hw =>
    have ho' := ho.takeLine (n := n) {}
    unfold St.rearmIdle
    split
    · exact .of_not hx
    · next hp =>
      obtain ⟨ha, hq⟩ := pending_eq_false.mp (eq_false_of_ne_true hp)
      exact fun _ => ⟨by simpa [St.liveIds] using ho'.eq_zero hb ha, hq⟩
  | refused req b hw hv hc hf =>
    have hp : ((((s.takeLine n req).newRequest).pushMessage s.nextId ⟨b, none⟩).emit
        (.over s.nextId)).existsPendingOperator = true := by
      by_contra hp
      obtain ⟨_, hq⟩ := pending_eq_false.mp (eq_false_of_ne_true hp)
      exact absurd hq (by simp)
    unfold St.rearmIdle
    rw [if_pos hp]
    exact .of_not fun h => hx (@timerFree_push s.nextId s ⟨b, none⟩ h)
  | began req kind _ hw hk hs => exact Idle.opRun hs.opRun ((ho.takeLine req).create rfl) hb hx

theorem timerFree_tokenRun {tok : Option Token} (ht : TokenRun s tok s₁) (h : s₁.TimerFree) :
    s.TimerFree := by
  cases ht with
  | none => exact h
  | some tok d hd =>
    cases tok with
    | doSendFile op => exact timerFree_append h rfl rfl nofun
    | doRecvFile op => exact timerFree_append h rfl rfl nofun
    | writeListing op resp => exact timerFree_append h rfl rfl nofun

/-- After the message at the front was written. -/
theorem Idle.writeNext {m : Message} {rest : List Message} (hq : s.messageQueue = m :: rest)
    (ho : Ops 0 [] s) (hb : s.liveIds.length < 2 ^ 32) (hx : ¬ s.TimerFree)
    (ht : TokenRun s m.token s₁) : Idle [] (s₁.writeNext cfg rest) := by
  have hx₁ : ¬ s₁.TimerFree := fun h => hx (timerFree_tokenRun ht h)
  cases rest with
  | cons m rest => exact .of_not fun h => hx₁ (timerFree_append h rfl rfl nofun)
  | nil =>
    refine Idle.restartIdleTimer (ho.tokenRun cfg hq ht) ?_ hx₁
    rw [List.nil_append, (liveIds_tokenRun hq ht).length_eq]
    exact hb

/-! ## 3. Preservation by a step -/

/-- A reply is being written: the timer is not free. -/
theorem Idle.not_of_queued (h : Idle hand s) (hq : s.messageQueue ≠ []) : ¬ s.TimerFree :=
  fun hx => hq (h hx).2

theorem timerFree_of_none (hx : s.idleExpiry = none) (hk : s.has .keepAlive = 0) :
    ¬ s.TimerFree := by
  intro h
  rcases h with h | ⟨r, h⟩
  · exact h hx
  · exact has_pos (Pool.mem_tasks_of h) hk

theorem timerFree_of_some (h : s'.TimerFree) (hx : s'.idleExpiry = s.idleExpiry)
    (hk : s'.has .keepAlive = 0) : s.TimerFree :=
  timerFree_of h hx fun _ hm => absurd hk (has_pos (Pool.mem_tasks_of hm))

theorem timerFree_take (h : (s.takeHandler i).TimerFree) : s.TimerFree :=
  timerFree_of h rfl fun _ hm => Pool.mem_of_eraseIdx hm

/-- A handler of the session. -/
theorem Idle.session (h : Idle [] s) (hm : Machinery s) (hd : s.destroyed = false) (ho : Ops 0 [] s)
    (hb : s.liveIds.length < 2 ^ 32) (hi : s.handlers[i]? = some ⟨t, some r⟩) (ht : t.op? = none)
    (hh : SessionHandled cfg os t r (s.takeHandler i) s₁) : Idle [] s₁ := by
  have hp : (s.takeHandler i).liveIds.Perm s.liveIds := by
    have h1 := liveIds_take hi
    rwa [ht] at h1
  have hk : Idle [] (s.takeHandler i) :=
    h.congr timerFree_take hp rfl
  have hk' : Ops 0 [] (s.takeHandler i) := ho.congr hp rfl rfl fun o ho => Or.inl ho
  have hb' : (s.takeHandler i).liveIds.length < 2 ^ 32 := by rwa [hp.length_eq]
  cases hh with
  | banner _ =>
    have hbn : s.has .banner ≠ 0 := has_pos (Pool.mem_tasks_of (List.mem_of_getElem? hi))
    obtain ⟨-, hw, -, hl⟩ := hm.banner hbn
    have hq : s.messageQueue = [] := by
      have hw' := hm.writes
      rw [hw] at hw'
      by_contra hq
      rw [if_neg hq] at hw'
      cases hw'
    refine fun _ => ⟨?_, hq⟩
    have hl' : s.liveIds = [] := by rw [St.liveIds, hl]; rfl
    rw [hl'] at hp
    simpa [St.liveIds] using hp.eq_nil
  | bannerFailed _ _ hr => exact hk
  | readEof _ h0 =>
    have ha := (hm.alone hd hi rfl).close
    exact hk.congr (fun hf => timerFree_of_some hf rfl ha.keepAlive) (by simp [St.liveIds]) rfl
  | readEofBusy _ h0 =>
    have ha := (hm.alone hd hi rfl).close
    refine .of_not fun hf => ?_
    have h1 : ¬ (s.takeHandler i).close.neverExpire.TimerFree :=
      timerFree_of_none rfl (has_neverExpire.trans ha.keepAlive)
    refine h1 (timerFree_of hf rfl fun r hm => ?_)
    rcases List.mem_append.mp hm with hm | hm
    · exact hm
    · cases List.mem_singleton.mp hm
  | readFailed _ _ hr hr' => exact hk
  | readLine _ s₂ hl =>
    have h1 : Ops 0 [] (s.takeHandler i).neverExpire := hk'.control (by simp) rfl rfl [] rfl nofun
    have h3 : ¬ (s.takeHandler i).neverExpire.TimerFree :=
      timerFree_of_none rfl (has_neverExpire.trans (hm.alone hd hi rfl).keepAlive)
    have h2 : Idle [] s₂ := Idle.line hl h1 (by simpa [St.liveIds] using hb') h3
    exact h2.congr (fun hf => timerFree_append hf rfl rfl nofun) (by simp [St.liveIds]) rfl
  | idleStoped _ _ h0 => exact hk
  | idleAgain _ _ h0 hx =>
    exact hk.congr (fun hf => timerFree_append hf rfl rfl nofun) (by simp [St.liveIds]) rfl
  | idleClose _ _ h0 hx =>
    have hka : (s.takeHandler i).has .keepAlive = 0 := by
      by_contra hka
      cases h0.symm.trans ((hm.held hd hi (Or.inl rfl)).keepAlive hka).1
    refine hk.congr (fun hf => timerFree_of_some hf rfl (has_close.trans hka)) ?_ rfl
    unfold St.liveIds
    rw [St.liveOps_close]
    rfl
  | keepAlive _ _ => exact hk
  | writeFailed _ _ hr =>
    have hw : s.has .ctlWrite ≠ 0 := has_pos (Pool.mem_tasks_of (List.mem_of_getElem? hi))
    rw [hm.writes] at hw
    have hq : s.messageQueue ≠ [] := fun hq => hw (if_pos hq)
    have h1 : Ops 0 [] ((s.takeHandler i).emit (.ctlDone false)) :=
      hk'.control rfl rfl rfl [.ctlDone false] rfl (List.forall_mem_singleton.mpr rfl)
    exact Idle.dropQueue h1 hb' fun hf => h.not_of_queued hq (timerFree_take hf)
  | written _ s₂ m rest hq ht =>
    have hq' : s.messageQueue ≠ [] := fun hn => by
      rw [St.takeHandler_messageQueue, hn] at hq
      cases hq
    have h1 : Ops 0 [] ((s.takeHandler i).emit (.ctlDone true)) :=
      hk'.control rfl rfl rfl [.ctlDone true] rfl (List.forall_mem_singleton.mpr rfl)
    exact Idle.writeNext (s := (s.takeHandler i).emit (.ctlDone true)) hq h1 hb'
      (fun hf => h.not_of_queued hq' (timerFree_take hf)) ht

theorem expiry_of_complete (hc : canComplete s .keepAlive r = true) : s.idleExpiry ≠ none := by
  intro hx
  have ht : s.timerExpired = false := by
    unfold St.timerExpired
    rw [hx]
  cases r with
  | ok => rw [canComplete, ht] at hc; cases hc
  | conn c => cases hc
  | err ec => cases ec <;> cases hc

/-- **A step** keeps the timer bound while anything is alive or queued. -/
theorem Idle.step {e : Ev} (hs : Stepped cfg s e s') (hm : Machinery s)
    (hd : s.destroyed = false) (ho : Ops 0 [] s) (hb : s.liveIds.length < 2 ^ 32) (h : Idle [] s) : Idle [] s' := by
  cases hs with
  | clientSend chunk hr =>
    refine h.congr (fun hf => timerFree_of hf rfl fun r hm => ?_) ?_ rfl
    · rw [St.receive_handlers] at hm
      split at hm
      · rcases Pool.mem_cancel hm with ⟨h1, _⟩ | ⟨_, h1, _⟩
        · exact h1
        · cases h1
      · exact hm
    unfold St.liveIds
    rw [St.liveOps_congr (St.tasks_receive chunk) rfl]
  | clientGone => exact h
  | peerSend c bytes hc hp => exact h
  | peerShutdown c hc hp => exact h
  | peerReset c hc => exact h
  | tick ms => exact h
  | complete i r t hi hc =>
    refine h.congr (fun hf => ?_) ?_ rfl
    · rcases hf with hf | ⟨q, hm⟩
      · exact Or.inl hf
      · rcases Pool.mem_complete hm with h1 | ⟨h1, h2⟩
        · exact Or.inr ⟨q, h1⟩
        · -- the wait itself ends only where the deadline is finite
          cases h1
          cases hi.symm.trans h2
          exact Or.inl (expiry_of_complete hc)
    unfold St.liveIds
    rw [St.liveOps_congr (St.tasks_completeAt i r) rfl]
  | run i os t r s₁ hi hh =>
    have h1 : Idle [] s₁ := by
      cases hh with
      | session hs =>
        have ht : t.op? = none := by cases hs <;> rfl
        exact h.session hm hd ho hb hi ht hs
      | operation op ht hop =>
        have hp := liveIds_take hi
        have ho' := ho.take hi
        rw [ht] at hp ho'
        -- something is alive: the operation of this handler
        have hx : ¬ s.TimerFree := by
          intro hx
          have hl : s.liveIds = [] := (h hx).1
          rw [hl] at hp
          cases hp.eq_nil
        refine Idle.opRun hop.opRun ho' ?_ fun hf => hx (timerFree_take hf)
        exact Nat.le_of_lt (hp.length_eq ▸ hb)
    exact h1

/-! ## 4. Runs -/

/-- The runs with fewer than `2 ^ 32` operations at a time. -/
def fewOps (s : St) (_ : Ev) : Prop := s.liveOps.length < 2 ^ 32

instance (s : St) (e : Ev) : Decidable (fewOps s e) := Nat.decLt ..

theorem idle_reach {home : Path} {now : Int}
    (h : Reach (OrangeFtpd.step cfg) fewOps (St.init cfg home 0 now) s) : Idle [] s := by
  refine h.invariant_of (J := fun s => Machinery s ∧ Ops 0 [] s)
    (fun s hs => ⟨machinery_reach hs, ops_reach hs⟩) (fun _ => ⟨rfl, rfl⟩) ?_
  intro s e s' hJ hI hok hs
  refine hI.step (step_cases hs) hJ.1 (step_ok.mp hs).1 hJ.2 ?_
  unfold St.liveIds
  rw [List.length_map]
  exact hok

theorem Machinery.not_writing (h : Machinery s) (hq : s.messageQueue = []) :
    .ctlWrite ∉ s.handlers.tasks := by
  intro hm
  have hw := h.writes
  rw [if_pos hq] at hw
  exact has_pos hm hw

/-- **The idle timeout never kills work in progress**: the deadline is finite only where
    no operation is alive and no reply queued, and so is every state in which the handler
    of `start_idle_timer` goes on to `close`. -/
theorem idle_timeout_spares_work {home : Path} {now : Int}
    (h : Reach (OrangeFtpd.step cfg) fewOps (St.init cfg home 0 now) s) :
    (s.idleExpiry ≠ none → s.activeOpNum = 0 ∧ s.liveOps = [] ∧ s.messageQueue = []) ∧
      ∀ (i : Nat) (r : Result) (os : Os) (s' : St),
        s.handlers[i]? = some ⟨.idleWait, some r⟩ → OrangeFtpd.step cfg s (.run i os) = .ok s' →
        s'.log = .closed :: .idleClose :: s.log →
        s.activeOpNum = 0 ∧ s.liveOps = [] ∧ s.messageQueue = [] ∧
          .ctlWrite ∉ s.handlers.tasks := by
  have hI := idle_reach h
  have hm := machinery_reach h
  have quiet : s.idleExpiry ≠ none → s.activeOpNum = 0 ∧ s.liveOps = [] ∧ s.messageQueue = [] := by
    intro hx
    obtain ⟨hl, hq⟩ := hI (Or.inl hx)
    have hc := (ops_reach h).count
    rw [hl] at hc
    exact ⟨hc, List.map_eq_nil_iff.mp hl, hq⟩
  refine ⟨quiet, fun i r os s' hi hs hlog => ?_⟩
  have hx : s.idleExpiry ≠ none := by
    intro hx
    have hexp : (s.takeHandler i).timerExpired = false := by
      unfold St.timerExpired
      rw [St.takeHandler_idleExpiry, hx]
    have hlen : s'.log.length = s.log.length + 2 := by rw [hlog]; rfl
    obtain ⟨s₁, hh, rfl⟩ := step_run hs hi
    cases hh with
    | operation op ht hop => cases ht
    | session hh =>
      cases hh with
      | idleStoped _ _ h0 =>
        have hl : s.log.length = s.log.length + 2 := hlen
        omega
      | idleAgain _ _ h0 hx' =>
        have hl : s.log.length = s.log.length + 2 := hlen
        omega
      | idleClose _ _ h0 hx' => rw [hexp] at hx'; cases hx'
  obtain ⟨ha, hl, hq⟩ := quiet hx
  exact ⟨ha, hl, hq, hm.not_writing hq⟩

/-- A client that never sends anything. -/
def silentClient : List Ev := [.complete 0 .ok, .run 0 {}, .tick 60000, .complete 1 .ok]

/-- After a minute the session of a silent client is closed, and nothing was at work. -/
theorem idle_timeout_silentClient : ∃ s s' : St,
    runAll (OrangeFtpd.step .shipped) .fresh silentClient = .ok s ∧
    OrangeFtpd.step .shipped s (.run 1 {}) = .ok s' ∧ s'.log = .closed :: .idleClose :: s.log ∧
    s.activeOpNum = 0 ∧ s.liveOps = [] ∧ s.messageQueue = [] ∧ .ctlWrite ∉ s.handlers.tasks := by
  have reached : ∀ s : St, runAll (OrangeFtpd.step .shipped) .fresh silentClient = .ok s →
      Reach (OrangeFtpd.step .shipped) fewOps .fresh s := fun s =>
    reach_runAll silentClient .start (by decide)
  refine ⟨_, _, rfl, rfl, rfl, ?_⟩
  exact (idle_timeout_spares_work (reached _ rfl)).2 1 .ok {} _ rfl rfl rfl

end

end OrangeFtpd
