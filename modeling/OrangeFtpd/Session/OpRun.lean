/-
  File:      OrangeFtpd/Session/OpRun.lean
  Subject:   What any operation does to the session around it.

  Seen from the timer, the reply queue and the pool, an operation whose code runs
  does little: it changes parts of the state that are its own business (`Quiet`),
  it queues replies, and in the end it is destroyed or handed to one new handler
  or message (`OpRun`). Every handler of an operation, and every request that
  creates one, runs so; the invariants of the session's own machinery are proved
  from this alone.
-/
import OrangeFtpd.Session.Steps

namespace OrangeFtpd

/-- The request an entry of the log belongs to. -/
def Obs.id? : Obs → Option Nat
  | .request id _ _ | .reply id _ | .over id | .target id _ | .fs id _ | .stored id _
  | .touch id _ | .payload id _ _ | .listed id _ _ | .tokenRun id => some id
  | .complete op => some op.id
  | .announced _ | .peerSent _ _ | .peerShutdown _ | .peerReset _ | .ctlStarted _ | .ctlDone _
  | .idleClose | .closed => none

/-- Entries logged on behalf of the request `id`, or of none. -/
def LoggedFor (id : Nat) (s s₁ : St) : Prop :=
  ∃ new, s₁.log = new ++ s.log ∧ ∀ o ∈ new, ∀ i, o.id? = some i → i = id

/-- **A change that is the operation's own business.** -/
structure Quiet (id : Nat) (s s₁ : St) : Prop where
  idleExpiry : s₁.idleExpiry = s.idleExpiry
  stoped : s₁.stoped = s.stoped
  destroyed : s₁.destroyed = s.destroyed
  messageQueue : s₁.messageQueue = s.messageQueue
  activeOpNum : s₁.activeOpNum = s.activeOpNum
  controlOpen : s₁.controlOpen = s.controlOpen
  nextId : s₁.nextId = s.nextId
  now : s₁.now = s.now
  tasks : s₁.handlers.tasks = s.handlers.tasks
  /-- The session's own handlers stay as they are. -/
  control : ∀ h : Pending Task Result, h.task.op? = none → (h ∈ s₁.handlers ↔ h ∈ s.handlers)
  log : LoggedFor id s s₁

/-- **The code of an operation runs**, for the request `id`, from `s` until the
    operation is destroyed or handed on. -/
inductive OpRun (cfg : Config) (id : Nat) : St → St → Prop where
  | quiet {s s₁ s' : St} (h : Quiet id s s₁) (hr : OpRun cfg id s₁ s') : OpRun cfg id s s'
  | reply {s s' : St} (b : SharedConstBuffer)
      (hr : OpRun cfg id (s.pushMessage id ⟨b, none⟩) s') : OpRun cfg id s s'
  | ended {s : St} (op : Op) (hop : op.id = id) : OpRun cfg id s (s.destroyOp cfg op)
  | queued {s : St} (b : SharedConstBuffer) (tok : Token) (hop : tok.op.id = id) :
      OpRun cfg id s (s.pushMessage id ⟨b, some tok⟩)
  | started {s : St} (t : Task) (op : Op) (r : Option Result) (ht : t.op? = some op)
      (hop : op.id = id) : OpRun cfg id s (s.startWith t r)

section

variable {cfg : Config} {os : Os} {id : Nat} {s s₁ s₂ s' : St} {op op' : Op} {t : Task} {r : Result}

/-! ## 1. Quiet changes -/

theorem LoggedFor.refl : LoggedFor id s s := ⟨[], rfl, by simp⟩

theorem LoggedFor.emit {o : Obs} (ho : ∀ i, o.id? = some i → i = id) (h : LoggedFor id s s₁) :
    LoggedFor id s (s₁.emit o) := by
  obtain ⟨new, hl, hn⟩ := h
  refine ⟨o :: new, ?_, ?_⟩
  · rw [St.emit_log, hl]
    rfl
  · intro x hx
    rcases List.mem_cons.mp hx with rfl | hx
    · exact ho
    · exact hn x hx

theorem LoggedFor.trans (h : LoggedFor id s s₁) (h' : LoggedFor id s₁ s₂) : LoggedFor id s s₂ := by
  obtain ⟨new, hl, hn⟩ := h
  obtain ⟨new', hl', hn'⟩ := h'
  refine ⟨new' ++ new, by rw [hl', hl, List.append_assoc], fun o ho => ?_⟩
  rcases List.mem_append.mp ho with ho | ho
  · exact hn' o ho
  · exact hn o ho

theorem Quiet.refl : Quiet id s s :=
  ⟨rfl, rfl, rfl, rfl, rfl, rfl, rfl, rfl, rfl, fun _ _ => Iff.rfl, .refl⟩

theorem Quiet.trans (h : Quiet id s s₁) (h' : Quiet id s₁ s₂) : Quiet id s s₂ where
  idleExpiry := h'.idleExpiry.trans h.idleExpiry
  stoped := h'.stoped.trans h.stoped
  destroyed := h'.destroyed.trans h.destroyed
  messageQueue := h'.messageQueue.trans h.messageQueue
  activeOpNum := h'.activeOpNum.trans h.activeOpNum
  controlOpen := h'.controlOpen.trans h.controlOpen
  nextId := h'.nextId.trans h.nextId
  now := h'.now.trans h.now
  tasks := h'.tasks.trans h.tasks
  control x hx := (h'.control x hx).trans (h.control x hx)
  log := h.log.trans h'.log

theorem Quiet.emit {o : Obs} (ho : ∀ i, o.id? = some i → i = id) : Quiet id s (s.emit o) :=
  ⟨rfl, rfl, rfl, rfl, rfl, rfl, rfl, rfl, rfl, fun _ _ => Iff.rfl, LoggedFor.refl.emit ho⟩

theorem Quiet.own {o : Obs} (ho : o.id? = some id) : Quiet id s (s.emit o) :=
  .emit fun _ hi => Option.some.inj (hi.symm.trans ho)

/-- Cancelling the asynchronous work of operations leaves the session's handlers alone. -/
theorem control_cancel {sel : Task → Bool} {ec : Result} {p : Pool Task Result}
    (hs : ∀ t : Task, t.op? = none → sel t = false) (h : Pending Task Result)
    (hop : h.task.op? = none) : h ∈ p.cancel sel ec ↔ h ∈ p := by
  have same : ∀ g : Pending Task Result, g.task.op? = none →
      (if g.result.isNone && sel g.task then { g with result := some ec } else g) = g := by
    intro g hg
    rw [hs g.task hg, Bool.and_false]
    rfl
  constructor
  · intro hm
    rcases Pool.mem_cancel hm with ⟨h1, _⟩ | ⟨_, h1, _⟩
    · exact h1
    · rw [hs h.task hop] at h1; cases h1
  · intro hm
    refine List.mem_map.mpr ⟨h, hm, same h hop⟩

theorem isAccept_op (t : Task) (h : t.op? = none) : t.isAccept = false := by
  cases t <;> first | rfl | cases h

theorem onDataSocket_op (t : Task) (h : t.op? = none) : s.onDataSocket t = false := by
  unfold St.onDataSocket
  cases s.dataSocket with
  | none => rfl
  | some d => cases t <;> first | exact Bool.and_false _ | cases h

theorem Quiet.closeAcceptor : Quiet id s s.closeAcceptor :=
  ⟨rfl, rfl, rfl, rfl, rfl, rfl, rfl, rfl, Pool.tasks_cancel .., control_cancel isAccept_op, .refl⟩

theorem Quiet.closeDataSocket : Quiet id s s.closeDataSocket :=
  ⟨rfl, rfl, rfl, rfl, rfl, rfl, rfl, rfl, Pool.tasks_cancel .., control_cancel onDataSocket_op, .refl⟩

theorem Quiet.clearDataSocket : Quiet id s s.clearDataSocket :=
  ⟨rfl, rfl, rfl, rfl, rfl, rfl, rfl, rfl, Pool.tasks_cancel .., control_cancel onDataSocket_op, .refl⟩

theorem Quiet.setDataSocket (c : ConnId) : Quiet id s (s.setDataSocket c) :=
  ⟨rfl, rfl, rfl, rfl, rfl, rfl, rfl, rfl, Pool.tasks_cancel .., control_cancel onDataSocket_op, .refl⟩

theorem Quiet.storeConn (op : Op) (c : ConnId) : Quiet op.id s (s.storeConn op c) :=
  (Quiet.closeAcceptor.trans (.setDataSocket c)).trans (.own rfl)

theorem Quiet.touchSlot (op : Op) (d : DataSocket) : Quiet op.id s (s.touchSlot op d) :=
  .own rfl

theorem Note.id_eq {o : Obs} (h : Note cfg id o) : ∀ i, o.id? = some i → i = id := by
  cases h with
  | target p => exact fun i hi => (Option.some.inj hi).symm
  | announced port => nofun
  | madeDirectory p h => exact fun i hi => (Option.some.inj hi).symm

theorem Prelude.quiet (h : Prelude cfg id s s₁) : Quiet id s s₁ := by
  have hl : LoggedFor id s s₁ := by
    obtain ⟨new, hl, hn⟩ := h.log
    exact ⟨new, hl, fun o ho => (hn o ho).id_eq⟩
  refine ⟨h.idleExpiry, h.stoped, h.destroyed, h.messageQueue, h.activeOpNum, h.controlOpen,
    h.nextId, h.now, ?_, ?_, hl⟩
  · rcases h.handlers with e | e
    · rw [e]
    · rw [e, Pool.tasks_cancel]
  · rcases h.handlers with e | e
    · exact fun x _ => by rw [e]
    · rw [e]
      exact control_cancel isAccept_op

theorem Spliced.quiet {d : DataSocket} (h : Spliced d s op s' op') :
    Quiet op.id s s' ∧ op'.id = op.id := by
  induction h with
  | stop s op => exact ⟨.refl, rfl⟩
  | turn s s' op op' n bytes hb h ih =>
    have h1 : Quiet op.id s (RecvFileOp.takeInbox d.conn n s) :=
      ⟨rfl, rfl, rfl, rfl, rfl, rfl, rfl, rfl, rfl, fun _ _ => Iff.rfl, .refl⟩
    exact ⟨((h1.trans (.own rfl)).trans (.own rfl)).trans ih.1, ih.2⟩

/-! ## 2. Runs of operations -/

theorem waitData_opRun {d : DataSocket} (hop : op.id = id) : OpRun cfg id s (s.waitData op d) := by
  subst hop
  exact .quiet (.touchSlot op d) (.started _ op _ rfl rfl)

theorem runCompletion_opRun (hop : op.id = id) :
    OpRun cfg id s ((s.runCompletion op).destroyOp cfg op) := by
  subst hop
  unfold St.runCompletion
  split
  · exact .quiet (.own rfl) (.reply _ (.quiet .clearDataSocket (.ended op rfl)))
  · exact .ended op rfl

theorem startToken_opRun {d : DataSocket} {tok : Token} :
    OpRun cfg tok.op.id s (s.startToken d tok) := by
  cases tok with
  | doSendFile op => exact waitData_opRun rfl
  | doRecvFile op => exact waitData_opRun rfl
  | writeListing op response =>
    exact .quiet ((Quiet.touchSlot op d).trans (.own rfl))
      (.started _ op _ rfl rfl)

/-- **A handler of an operation** runs the code of that operation. -/
theorem OpHandled.opRun (h : OpHandled cfg os op t r s s') : OpRun cfg op.id s s' := by
  cases h with
  | acceptAborted _ ha => exact .ended op rfl
  | acceptFailed _ _ hr hr' => exact .quiet .closeAcceptor (.ended op rfl)
  | accepted c _ tok htok =>
    refine .quiet (.storeConn op c) (.queued _ tok ?_)
    rcases htok with ⟨_, rfl⟩ | ⟨_, rfl⟩ <;> rfl
  | listAccepted c _ response hl hs hr =>
    exact .quiet ((Quiet.storeConn op c).trans (.own rfl))
      (.queued _ (.writeListing op response) rfl)
  | waitFailed _ _ _ hr hw => exact .ended op rfl
  | sendFailed _ _ d hw hd ho hf => exact .quiet (.touchSlot op d) (.ended op rfl)
  | sendAgain _ _ d hw hd ho => exact .quiet (.touchSlot op d) (waitData_opRun rfl)
  | sentMore op' _ _ d n hw hd ho hn hop hl =>
    subst hop
    exact .quiet ((Quiet.touchSlot op d).trans (.own rfl)) (waitData_opRun rfl)
  | sentSlice op' _ _ d n hw hd ho hn hop hl =>
    subst hop
    exact .quiet ((Quiet.touchSlot op d).trans (.own rfl)) (.started (.limiter _) _ none rfl rfl)
  | sentAll op' _ _ d n hw hd ho hn hop hl =>
    subst hop
    exact .quiet ((Quiet.touchSlot op d).trans (.own rfl)) (runCompletion_opRun rfl)
  | receivedAll c _ d hk hd ho hi => exact .quiet (.touchSlot op d) (runCompletion_opRun rfl)
  | receiveFailed op' c _ s₁ d hk hd ho hf hl =>
    exact .quiet ((Quiet.touchSlot op d).trans hl.quiet.1) (.ended op' hl.quiet.2)
  | receiveAgain op' c _ s₁ d hk hd ho hl =>
    exact .quiet ((Quiet.touchSlot op d).trans hl.quiet.1) (waitData_opRun hl.quiet.2)
  | listed c _ _ =>
    exact .quiet ((Quiet.own rfl).trans (.own rfl))
      (.reply _ (.quiet .clearDataSocket (.ended op rfl)))

theorem Uploaded.opRun (hu : Uploaded os id s op s₂) (hs : OpRun cfg id s₂ s') :
    OpRun cfg id s.basicOp s' := by
  obtain ⟨p, path, created, rfl⟩ := hu.state
  refine .quiet ((Quiet.own (o := .target id p) rfl).trans
    (.own (o := .fs id (.opened op.file path created)) rfl)) ?_
  dsimp only at hs
  split at hs
  · exact hs
  · exact .reply _ hs

/-- **A request that creates an operation** runs the code of that operation. -/
theorem Began.opRun {kind : OpKind} (h : Began cfg os id kind s s') :
    OpRun cfg id s.basicOp s' := by
  cases h with
  | answered op s₁ b hf hp hb => exact .quiet hp.quiet (.reply b (.ended op hf.id))
  | silent op s₁ file hk hf hp ho => exact .quiet hp.quiet (.ended op hf.id)
  | waiting op s₁ hk hf ht hp ha => exact .quiet hp.quiet (.started (.accept op) op none rfl hf.id)
  | uploadNull op s₂ hk hu hfd => exact hu.opRun (.ended op hu.fresh.id)
  | uploadRefused op s₂ hk hu hfd ha => exact hu.opRun (.reply _ (.ended op hu.fresh.id))
  | uploadWaiting op s₂ hk hu hfd ha =>
    exact hu.opRun (.started (.accept _) _ none rfl hu.fresh.id)

end

end OrangeFtpd
