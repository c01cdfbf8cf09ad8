/-
  File:      OrangeFtpd/Invariant/Operations.lean
  Subject:   The operations of a session, their numbers and their counter.

  `Ops c₀ hand s`: `hand` are the requests whose operations the running handler
  holds. Every operation belongs to another request, requests are numbered
  upwards, nothing is logged for a request before it came, and
  `active_op_num_` counts the operations from whatever it held at the start
  (`c₀`; nothing initialises it).
-/
import OrangeFtpd.Session.OpRun

namespace OrangeFtpd

/-- The requests of the live operations. -/
def St.liveIds (s : St) : List Nat := s.liveOps.map (·.id)

/-- **The bookkeeping of operations.** -/
structure Ops (c₀ : UInt32) (hand : List Nat) (s : St) : Prop where
  count : s.activeOpNum = c₀ + UInt32.ofNat (hand ++ s.liveIds).length
  nodup : (hand ++ s.liveIds).Nodup
  fresh : ∀ i ∈ hand ++ s.liveIds, i < s.nextId
  log : ∀ o ∈ s.log, ∀ i, o.id? = some i → i < s.nextId

section

variable {cfg : Config} {os : Os} {c₀ : UInt32} {hand : List Nat} {id n : Nat} {s s₁ s' : St}
  {op : Op} {t : Task} {r : Result}

/-! ## 1. Preservation by the parts of a handler -/

/-- The operations, as a bag, and the counter decide. -/
theorem Ops.congr {hand' : List Nat} (h : Ops c₀ hand s)
    (hp : (hand' ++ s'.liveIds).Perm (hand ++ s.liveIds))
    (ha : s'.activeOpNum = s.activeOpNum) (hn : s'.nextId = s.nextId)
    (hl : ∀ o ∈ s'.log, o ∈ s.log ∨ ∀ i, o.id? = some i → i < s.nextId) : Ops c₀ hand' s' where
  count := by rw [ha, hp.length_eq, h.count]
  nodup := hp.nodup_iff.mpr h.nodup
  fresh i hi := by
    rw [hn]
    exact h.fresh i (hp.mem_iff.mp hi)
  log o ho i hi := by
    rw [hn]
    rcases hl o ho with h1 | h1
    · exact h.log o h1 i hi
    · exact h1 i hi

/-- A change of the session's own state. -/
theorem Ops.control (h : Ops c₀ hand s) (hl : s'.liveOps = s.liveOps)
    (ha : s'.activeOpNum = s.activeOpNum) (hn : s'.nextId = s.nextId)
    (new : List Obs) (hlog : s'.log = new ++ s.log) (hnew : ∀ o ∈ new, o.id? = none) :
    Ops c₀ hand s' := by
  refine h.congr ?_ ha hn fun o ho => ?_
  · unfold St.liveIds
    rw [hl]
  · rw [hlog] at ho
    rcases List.mem_append.mp ho with h1 | h1
    · exact Or.inr fun i hi => by rw [hnew o h1] at hi; cases hi
    · exact Or.inl h1

theorem Ops.quiet (h : Ops c₀ (id :: hand) s) (hq : Quiet id s s₁) : Ops c₀ (id :: hand) s₁ := by
  have hl : s₁.liveIds = s.liveIds := by
    unfold St.liveIds
    rw [St.liveOps_congr hq.tasks hq.messageQueue]
  refine h.congr (by rw [hl]) hq.activeOpNum hq.nextId fun o ho => ?_
  obtain ⟨new, hlog, hnew⟩ := hq.log
  rw [hlog] at ho
  rcases List.mem_append.mp ho with h1 | h1
  · right
    intro i hi
    rw [hnew o h1 i hi]
    exact h.fresh id List.mem_cons_self
  · exact Or.inl h1

theorem log_push {b : SharedConstBuffer} {tok : Option Token} {o : Obs}
    (ho : o ∈ (s.pushMessage id ⟨b, tok⟩).log) : o ∈ s.log ∨ o.id? = none ∨ o = .reply id b := by
  rw [St.pushMessage_log] at ho
  rcases List.mem_append.mp ho with h1 | h1
  · split at h1
    · rw [List.mem_singleton.mp h1]
      exact Or.inr (Or.inl rfl)
    · cases h1
  · rcases List.mem_cons.mp h1 with h2 | h2
    · exact Or.inr (Or.inr h2)
    · exact Or.inl h2

/-- A queued reply; its token, where it has one, takes its operation out of the hand. -/
theorem Ops.push {b : SharedConstBuffer} {tok : Option Token} (h : Ops c₀ hand s)
    (hid : id < s.nextId) {hand' : List Nat}
    (hp : (hand' ++ (s.liveIds ++ (tok.map fun t => t.op.id).toList)).Perm (hand ++ s.liveIds)) :
    Ops c₀ hand' (s.pushMessage id ⟨b, tok⟩) := by
  refine h.congr ?_ rfl rfl fun o ho => ?_
  · unfold St.liveIds at hp ⊢
    rw [St.liveOps_pushMessage, List.map_append]
    have e : (tok.map Token.op).toList.map (·.id) = (tok.map fun t => t.op.id).toList := by
      cases tok <;> rfl
    rw [e]
    exact hp
  · rcases log_push ho with h1 | h1 | rfl
    · exact Or.inl h1
    · exact Or.inr fun i hi => by rw [h1] at hi; cases hi
    · exact Or.inr fun i hi => Option.some.inj hi ▸ hid

/-- `~BasicOp` gives the operation's place in the counter back. -/
theorem Ops.destroyOp (h : Ops c₀ (op.id :: hand) s) : Ops c₀ hand (s.destroyOp cfg op) where
  count := by
    unfold St.liveIds
    rw [St.liveOps_destroyOp, St.destroyOp_activeOpNum, h.count, List.cons_append, List.length_cons, UInt32.ofNat_add, ← UInt32.add_assoc]
    exact UInt32.add_sub_cancel _ _
  nodup := by
    unfold St.liveIds
    rw [St.liveOps_destroyOp]
    exact (List.nodup_cons.mp h.nodup).2
  fresh i hi := by
    unfold St.liveIds at hi
    rw [St.liveOps_destroyOp] at hi
    rw [St.destroyOp_nextId]
    exact h.fresh i (List.mem_cons_of_mem _ hi)
  log o ho i hi := by
    rw [St.destroyOp_nextId]
    rw [St.destroyOp_log] at ho
    rcases List.mem_cons.mp ho with rfl | h1
    · rw [← Option.some.inj hi]
      exact h.fresh op.id List.mem_cons_self
    · exact h.log o h1 i hi

/-- **The code of an operation** keeps the bookkeeping; at its end the operation is
    out of the hand. -/
theorem Ops.opRun (hr : OpRun cfg id s s') (h : Ops c₀ (id :: hand) s) : Ops c₀ hand s' := by
  induction hr with
  | quiet hq hr ih => exact ih (h.quiet hq)
  | reply b hr ih =>
    refine ih (h.push (h.fresh id List.mem_cons_self) ?_)
    simp
  | ended op hop => exact Ops.destroyOp (hop ▸ h)
  | queued b tok hop =>
    refine h.push (h.fresh id List.mem_cons_self) ?_
    rw [Option.map_some, hop, Option.toList_some, ← List.append_assoc]
    exact List.perm_append_singleton id _
  | @started s t op r ht hop =>
    refine h.congr ?_ rfl rfl fun o ho => Or.inl ho
    have hl : (s.startWith t r).liveIds.Perm (id :: s.liveIds) := by
      have h1 : (s.startWith t r).liveOps.Perm (t.op?.toList ++ s.liveOps) :=
        St.liveOps_of_tasks (by simp) rfl
      have h2 := h1.map (·.id)
      rwa [ht, Option.toList_some, List.singleton_append, List.map_cons, hop] at h2
    exact (hl.append_left hand).trans List.perm_middle

/-- A request is numbered and its operation constructed. -/
theorem Ops.create (h : Ops c₀ hand s) (hid : id = s.nextId) :
    Ops c₀ (id :: hand) s.newRequest.basicOp := by
  subst hid
  have hl : s.newRequest.basicOp.liveIds = s.liveIds := rfl
  refine ⟨?_, ?_, ?_, ?_⟩
  · show s.activeOpNum + 1 = _
    rw [hl, h.count, List.cons_append, List.length_cons, UInt32.ofNat_add, UInt32.add_assoc]
    rfl
  · rw [hl, List.cons_append, List.nodup_cons]
    refine ⟨fun hm => ?_, h.nodup⟩
    exact Nat.lt_irrefl _ (h.fresh _ hm)
  · intro i hi
    show i < s.nextId + 1
    rw [hl, List.cons_append, List.mem_cons] at hi
    rcases hi with rfl | hi
    · exact Nat.lt_succ_self _
    · exact Nat.lt_succ_of_lt (h.fresh i hi)
  · intro o ho i hi
    show i < s.nextId + 1
    rcases List.mem_cons.mp ho with rfl | h1
    · rw [← Option.some.inj hi]
      exact Nat.lt_succ_self _
    · exact Nat.lt_succ_of_lt (h.log o h1 i hi)

/-! ## 2. Preservation by a step -/

theorem Ops.takeLine (h : Ops c₀ hand s) (req : FtpRequest) : Ops c₀ hand (s.takeLine n req) :=
  h.control rfl rfl rfl [] rfl nofun

theorem Ops.restartIdleTimer (h : Ops c₀ hand s) : Ops c₀ hand (s.restartIdleTimer cfg) :=
  h.control (by simp) (by simp) (by simp) [] (by simp) nofun

theorem Ops.rearmIdle (h : Ops c₀ hand s) : Ops c₀ hand (s.rearmIdle cfg) := by
  unfold St.rearmIdle
  split
  · exact h
  · exact h.control (by simp) rfl rfl [] rfl nofun

/-- `handle_read`. -/
theorem Ops.line (hl : Line cfg os n s s') (h : Ops c₀ [] s) : Ops c₀ [] s' := by
  cases hl with
  | blank hb => exact Ops.rearmIdle (h.takeLine {})
  | refused req b hb hv hc hf =>
    have h1 : Ops c₀ [] (s.takeLine n req).newRequest := by
      refine ⟨h.count, h.nodup, fun i hi => ?_, fun o ho i hi => ?_⟩
      · exact Nat.lt_succ_of_lt (h.fresh i hi)
      · show i < s.nextId + 1
        rcases List.mem_cons.mp ho with rfl | h1
        · rw [← Option.some.inj hi]
          exact Nat.lt_succ_self _
        · exact Nat.lt_succ_of_lt (h.log o h1 i hi)
    have h2 : Ops c₀ [] ((s.takeLine n req).newRequest.pushMessage s.nextId ⟨b, none⟩) :=
      h1.push (Nat.lt_succ_self _) (by simp)
    refine Ops.rearmIdle (h2.congr (List.Perm.refl _) rfl rfl fun o ho => ?_)
    rcases List.mem_cons.mp ho with rfl | h1
    · exact Or.inr fun i hi => Option.some.inj hi ▸ Nat.lt_succ_self _
    · exact Or.inl h1
  | began req kind _ hb hk hs =>
    exact Ops.opRun hs.opRun ((h.takeLine req).create rfl)

/-- Running a handler takes the operation it captures into the hand. -/
theorem liveIds_take {i : Nat} {r : Option Result} (hi : s.handlers[i]? = some ⟨t, r⟩) :
    (t.op?.toList.map (·.id) ++ (s.takeHandler i).liveIds).Perm s.liveIds := by
  have h := (St.liveOps_erase hi).map (·.id)
  rwa [List.map_append] at h

theorem Ops.take {i : Nat} {r : Option Result} (h : Ops c₀ [] s)
    (hi : s.handlers[i]? = some ⟨t, r⟩) :
    Ops c₀ (t.op?.toList.map (·.id)) (s.takeHandler i) :=
  h.congr (liveIds_take hi) rfl rfl fun _ ho => Or.inl ho

/-- The queue is dropped: its tokens release their operations. -/
theorem liveIds_queue :
    (s.queuedOps.map (·.id) ++ (s.withQueue []).liveIds).Perm s.liveIds := by
  unfold St.liveIds St.liveOps
  rw [← List.map_append]
  refine List.Perm.map _ ?_
  show (s.queuedOps ++ (s.handlers.tasks.filterMap Task.op? ++ [])).Perm _
  rw [List.append_nil]
  exact List.perm_append_comm

theorem Ops.dropQueue (h : Ops c₀ [] s) : Ops c₀ [] (s.dropQueue cfg) := by
  have fold : ∀ (ops : List Op) (s : St), Ops c₀ (ops.map (·.id)) s →
      Ops c₀ [] (ops.foldl (fun t op => t.destroyOp cfg op) s) := by
    intro ops
    induction ops with
    | nil => exact fun s h => h
    | cons op ops ih => exact fun s h => ih _ (Ops.destroyOp h)
  exact fold _ _ (h.congr liveIds_queue rfl rfl fun _ ho => Or.inl ho)

/-- The message at the front goes, and its token with it. -/
theorem liveIds_pop {m : Message} {rest : List Message} (hq : s.messageQueue = m :: rest) :
    ((m.token.map fun t => t.op.id).toList ++ (s.withQueue rest).liveIds).Perm s.liveIds := by
  have e : s.queuedOps = (m.token.map Token.op).toList ++ (s.withQueue rest).queuedOps := by
    unfold St.queuedOps
    rw [hq]
    show List.filterMap _ (m :: rest) = _
    cases hm : m.token <;> simp [hm]
  have e' : (m.token.map fun t => t.op.id).toList = (m.token.map Token.op).toList.map (·.id) := by
    cases m.token <;> rfl
  unfold St.liveIds St.liveOps
  rw [e, e', ← List.map_append]
  exact (List.perm_append_comm_assoc ..).map _

theorem startToken_withQueue {tok : Token} {d : DataSocket} {q : List Message} :
    (s.startToken d tok).withQueue q = (s.withQueue q).startToken d tok := by cases tok <;> rfl

theorem liveIds_startToken {tok : Token} {d : DataSocket} :
    (s.startToken d tok).liveIds.Perm (tok.op.id :: s.liveIds) := by
  cases tok with
  | doSendFile op => exact (St.liveOps_startOn d.isOpen).map (·.id)
  | doRecvFile op => exact (St.liveOps_startOn d.isOpen).map (·.id)
  | writeListing op response => exact (St.liveOps_startOn d.isOpen).map (·.id)

/-- The token of the written message hands its operation on. -/
theorem liveIds_tokenRun {m : Message} {rest : List Message} (hq : s.messageQueue = m :: rest)
    (ht : TokenRun s m.token s₁) : (s₁.withQueue rest).liveIds.Perm s.liveIds := by
  have hpop := liveIds_pop hq
  generalize m.token = tok at ht hpop
  cases ht with
  | none => exact hpop
  | some tok d hd =>
    rw [startToken_withQueue]
    exact liveIds_startToken.trans hpop

theorem Ops.tokenRun (cfg : Config) {m : Message} {rest : List Message} (hq : s.messageQueue = m :: rest)
    (h : Ops c₀ [] s) (ht : TokenRun s m.token s₁) : Ops c₀ [] (s₁.withQueue rest) := by
  have hpop : Ops c₀ (m.token.map fun t => t.op.id).toList (s.withQueue rest) :=
    h.congr (liveIds_pop hq) rfl rfl fun o ho => Or.inl ho
  generalize m.token = tok at ht hpop
  cases ht with
  | none => exact hpop
  | some tok d hd =>
    rw [startToken_withQueue]
    exact Ops.opRun (startToken_opRun : OpRun cfg _ _ _) (hpop.quiet (.own rfl))

/-- After the message at the front was written. -/
theorem Ops.writeNext {m : Message} {rest : List Message} (hq : s.messageQueue = m :: rest)
    (h : Ops c₀ [] s) (ht : TokenRun s m.token s₁) : Ops c₀ [] (s₁.writeNext cfg rest) := by
  have h1 : Ops c₀ [] (s₁.withQueue rest) := h.tokenRun cfg hq ht
  cases rest with
  | nil => exact h1.restartIdleTimer
  | cons m rest =>
    exact h1.control (St.liveOps_startWrite m.buffer) rfl rfl [.ctlStarted m.buffer] rfl
      (List.forall_mem_singleton.mpr rfl)

/-- **A handler of the session** keeps the bookkeeping. -/
theorem Ops.session (hh : SessionHandled cfg os t r s s') (h : Ops c₀ [] s) : Ops c₀ [] s' := by
  cases hh with
  | banner _ => exact h.control (by simp) rfl rfl [] rfl nofun
  | bannerFailed _ _ hr => exact h
  | readEof _ h0 =>
    exact h.control (by simp) rfl rfl [.closed] rfl (List.forall_mem_singleton.mpr rfl)
  | readEofBusy _ h0 =>
    refine h.control ?_ rfl rfl [.closed] rfl (List.forall_mem_singleton.mpr rfl)
    rw [St.liveOps_of_control (St.tasks_start (t := .keepAlive)) rfl rfl]
    simp
  | readFailed _ _ hr hr' => exact h
  | readLine _ s₁ hl =>
    have h1 : Ops c₀ [] s.neverExpire := h.control (by simp) rfl rfl [] rfl nofun
    exact (Ops.line hl h1).control (by simp) rfl rfl [] rfl nofun
  | idleStoped _ _ h0 => exact h
  | idleAgain _ _ h0 hx => exact h.control (by simp) rfl rfl [] rfl nofun
  | idleClose _ _ h0 hx =>
    refine h.control ?_ rfl rfl [.closed, .idleClose] rfl ?_
    · exact St.liveOps_close
    · simp [Obs.id?]
  | keepAlive _ _ => exact h
  | writeFailed _ _ hr =>
    refine Ops.dropQueue (h.control rfl rfl rfl [.ctlDone false] rfl ?_)
    exact List.forall_mem_singleton.mpr rfl
  | written _ s₁ m rest hq ht =>
    have h1 : Ops c₀ [] (s.emit (.ctlDone true)) :=
      h.control rfl rfl rfl [.ctlDone true] rfl (List.forall_mem_singleton.mpr rfl)
    exact Ops.writeNext (s := s.emit (.ctlDone true)) hq h1 ht

/-- **A step** keeps the bookkeeping. -/
theorem Ops.step {e : Ev} (hs : Stepped cfg s e s') (h : Ops c₀ [] s) : Ops c₀ [] s' := by
  cases hs with
  | clientSend chunk hr =>
    exact h.control (St.liveOps_congr (St.tasks_receive chunk) rfl) rfl rfl [] rfl nofun
  | clientGone => exact h.control rfl rfl rfl [] rfl nofun
  | peerSend c bytes hc hp =>
    exact h.control rfl rfl rfl [.peerSent c bytes] rfl (List.forall_mem_singleton.mpr rfl)
  | peerShutdown c hc hp =>
    exact h.control rfl rfl rfl [.peerShutdown c] rfl (List.forall_mem_singleton.mpr rfl)
  | peerReset c hc =>
    exact h.control rfl rfl rfl [.peerReset c] rfl (List.forall_mem_singleton.mpr rfl)
  | tick ms => exact h.control rfl rfl rfl [] rfl nofun
  | complete i r t hi hc =>
    exact h.control (St.liveOps_congr (St.tasks_completeAt i r) rfl) rfl rfl [] rfl nofun
  | run i os t r s₁ hi hh =>
    have h1 := h.take hi
    have h2 : Ops c₀ [] s₁ := by
      cases hh with
      | session hs =>
        have ht : t.op? = none := by cases hs <;> rfl
        rw [ht] at h1
        exact h1.session hs
      | operation op ht ho =>
        rw [ht] at h1
        exact Ops.opRun ho.opRun h1
    exact h2.control rfl rfl rfl [] rfl nofun

/-- **The bookkeeping of a run** that starts with `active_op_num_ = c₀`. -/
theorem ops_reach {home : Path} {now : Int} {ok : St → Ev → Prop}
    (h : Reach (step cfg) ok (St.init cfg home c₀ now) s) : Ops c₀ [] s := by
  refine h.invariant ?_ fun s e s' hI _ hs => hI.step (step_cases hs)
  refine ⟨?_, List.nodup_nil, nofun, ?_⟩
  · exact (UInt32.add_zero c₀).symm
  · exact List.forall_mem_singleton.mpr nofun

end

end OrangeFtpd
