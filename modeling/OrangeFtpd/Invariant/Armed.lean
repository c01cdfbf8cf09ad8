/-
  File:      OrangeFtpd/Invariant/Armed.lean
  Subject:   The operations that handlers and tokens hold.

  A wait for the data connection or for the limiter holds a RETR or a STOR whose completion
  token is set, a write of a listing holds a LIST. So the handler that finds a transfer
  complete always has something to run.
-/
import OrangeFtpd.Session.OpRun

namespace OrangeFtpd

/-- The operation moves a file and has its completion token. -/
def Op.Armed (op : Op) : Prop :=
  (op.kind = .sendFile ∨ op.kind = .recvFile) ∧ op.completionToken = true

/-- The operation of a handler is of the handler's class. -/
def Task.Armed : Task → Prop
  | .accept op => op.kind = .list ∨ op.Armed
  | .dataWait op _ => op.Armed
  | .limiter op => op.kind = .sendFile ∧ op.completionToken = true
  | .listWrite op _ => op.kind = .list
  | .banner | .read | .idleWait | .keepAlive | .ctlWrite => True

/-- The same for the token of a message. -/
def Token.Armed : Token → Prop
  | .doSendFile op | .doRecvFile op => op.Armed
  | .writeListing op _ => op.kind = .list

/-- **Every handler and every queued token** holds an operation of its class. -/
structure St.Armed (s : St) : Prop where
  tasks : ∀ t ∈ s.handlers.tasks, t.Armed
  tokens : ∀ m ∈ s.messageQueue, ∀ tok ∈ m.token, tok.Armed

section

variable {cfg : Config} {os : Os} {id n i : Nat} {s s₁ s₂ s' : St} {op op' : Op} {t : Task}
  {r : Result} {d : DataSocket} {m : Message} {e : Ev} {kind : OpKind}

/-! ## 1. What keeps it -/

namespace St.Armed

theorem same (h : s.Armed) (ht : s'.handlers.tasks = s.handlers.tasks)
    (hq : s'.messageQueue = s.messageQueue) : s'.Armed :=
  ⟨ht ▸ h.tasks, hq ▸ h.tokens⟩

theorem emit (h : s.Armed) (o : Obs) : (s.emit o).Armed := ⟨h.tasks, h.tokens⟩

theorem start (h : s.Armed) (q : Option Result) (ht : t.Armed) : (s.startWith t q).Armed where
  tasks u hu := by
    rw [tasks_startWith] at hu
    rcases List.mem_append.mp hu with hu | hu
    · exact h.tasks u hu
    · exact List.mem_singleton.mp hu ▸ ht
  tokens := h.tokens

theorem push (h : s.Armed) (hm : ∀ tok ∈ m.token, tok.Armed) : (s.pushMessage id m).Armed where
  tasks u hu := by
    rw [tasks_pushMessage] at hu
    rcases List.mem_append.mp hu with hu | hu
    · exact h.tasks u hu
    · split at hu
      · exact List.mem_singleton.mp hu ▸ trivial
      · cases hu
  tokens m' hm' := by
    rw [pushMessage_messageQueue] at hm'
    rcases List.mem_append.mp hm' with h1 | h1
    · exact h.tokens m' h1
    · exact List.mem_singleton.mp h1 ▸ hm

theorem reply (h : s.Armed) (b : SharedConstBuffer) : (s.pushMessage id ⟨b, none⟩).Armed :=
  h.push nofun

theorem destroyOp (h : s.Armed) : (s.destroyOp cfg op).Armed :=
  h.same tasks_destroyOp (destroyOp_messageQueue ..)

theorem take (h : s.Armed) (i : Nat) : (s.takeHandler i).Armed where
  tasks t ht := by
    obtain ⟨g, hg, rfl⟩ := Pool.mem_tasks.mp ht
    exact h.tasks _ (Pool.mem_tasks_of (Pool.mem_of_eraseIdx hg))
  tokens := h.tokens

theorem handler {q : Option Result} (h : s.Armed) (hi : s.handlers[i]? = some ⟨t, q⟩) : t.Armed :=
  h.tasks t (Pool.mem_tasks_of (List.mem_of_getElem? hi))

theorem withQueue {q : List Message} (h : s.Armed) (hq : ∀ m ∈ q, m ∈ s.messageQueue) :
    (s.withQueue q).Armed :=
  ⟨h.tasks, fun m hm => h.tokens m (hq m hm)⟩

theorem rearmIdle (h : s.Armed) : (s.rearmIdle cfg).Armed := by
  unfold St.rearmIdle
  split
  · exact h
  · exact h.same tasks_updateIdleTimer rfl

theorem storeConn (h : s.Armed) (op : Op) (c : ConnId) : (s.storeConn op c).Armed :=
  h.same (by simp [St.storeConn]) (by simp [St.storeConn])

theorem waitData (h : s.Armed) (ho : op.Armed) : (s.waitData op d).Armed :=
  (h.emit _).start _ ho

theorem writeNext {q : List Message} (h : (s.withQueue q).Armed) : (s.writeNext cfg q).Armed := by
  cases q with
  | nil => exact h.same St.tasks_restartIdleTimer (St.restartIdleTimer_messageQueue ..)
  | cons m q => exact (h.emit _).start _ trivial

theorem dropQueue (h : s.Armed) : (s.dropQueue cfg).Armed := by
  have fold : ∀ (ops : List Op) (s : St), s.Armed →
      (ops.foldl (fun t op => t.destroyOp cfg op) s).Armed := by
    intro ops
    induction ops with
    | nil => exact fun _ h => h
    | cons op ops ih => exact fun s h => ih _ h.destroyOp
  exact fold _ _ (h.withQueue fun m hm => by cases hm)

end St.Armed

theorem Spliced.armed (h : Spliced d s op s' op') (hs : s.Armed) (ho : op.Armed) :
    s'.Armed ∧ op'.Armed := by
  induction h with
  | stop s op => exact ⟨hs, ho⟩
  | turn s s' op op' n bytes hb h ih => exact ih ⟨hs.tasks, hs.tokens⟩ ho

theorem TokenRun.armed {tok : Option Token} (h : TokenRun s tok s') (hs : s.Armed)
    (ht : ∀ x ∈ tok, x.Armed) : s'.Armed := by
  cases h with
  | none => exact hs
  | some tok d hd =>
    have h0 := hs.emit (.tokenRun tok.op.id)
    cases tok with
    | doSendFile op => exact h0.waitData (ht _ rfl)
    | doRecvFile op => exact h0.waitData (ht _ rfl)
    | writeListing op response => exact ((h0.emit _).emit _).start _ (ht (.writeListing op response) rfl)

/-- A handler that calls `SendFileOp::deal_event` holds a RETR. -/
theorem SendWait.armed (h : SendWait op t) (ht : t.Armed) :
    op.kind = .sendFile ∧ op.completionToken = true := by
  cases h with
  | ready c hk => exact ⟨ht.1.resolve_right hk, ht.2⟩
  | limiter => exact ht

/-! ## 2. The steps -/

theorem OpHandled.armed (h : OpHandled cfg os op t r s s') (hs : s.Armed) (ht : t.Armed) :
    s'.Armed := by
  have touched : ∀ {d : DataSocket}, (s.touchSlot op d).Armed := hs.emit _
  have completed : ∀ {s : St} {op' : Op}, s.Armed → (s.runCompletion op').Armed := by
    intro s op' hs
    unfold St.runCompletion
    split
    · exact ((hs.emit _).reply _).same St.tasks_clearDataSocket rfl
    · exact hs
  cases h with
  | acceptAborted _ ha => exact hs.destroyOp
  | acceptFailed _ _ hr hr' => exact (hs.same St.tasks_closeAcceptor rfl).destroyOp
  | accepted c _ tok htok =>
    refine (hs.storeConn op c).push fun tok' he => ?_
    cases he
    rcases htok with ⟨hk, rfl⟩ | ⟨hk, rfl⟩
    · exact ht.resolve_left (hk ▸ nofun)
    · exact ht.resolve_left (hk ▸ nofun)
  | listAccepted c _ response hl hk hk' =>
    have hlist : op.kind = .list := ht.resolve_right fun h1 => h1.1.elim hk hk'
    exact ((hs.storeConn op c).emit _).push fun tok' he => by cases he; exact hlist
  | waitFailed _ _ _ hr hw => exact hs.destroyOp
  | sendFailed _ _ d hw hd ho hf => exact touched.destroyOp
  | sendAgain _ _ d hw hd ho => exact touched.waitData ⟨Or.inl (hw.armed ht).1, (hw.armed ht).2⟩
  | sentMore op' _ _ d n hw hd ho hn hop hl =>
    subst hop
    exact (touched.emit _).waitData ⟨Or.inl (hw.armed ht).1, (hw.armed ht).2⟩
  | sentSlice op' _ _ d n hw hd ho hn hop hl =>
    subst hop
    exact (touched.emit _).start none (hw.armed ht)
  | sentAll op' _ _ d n hw hd ho hn hop hl => exact (completed (touched.emit _)).destroyOp
  | receivedAll c _ d hk hd ho hi => exact (completed touched).destroyOp
  | receiveFailed op' c _ s₁ d hk hd ho hf hl =>
    exact (hl.armed touched ht).1.destroyOp
  | receiveAgain op' c _ s₁ d hk hd ho hl =>
    obtain ⟨h1, h2⟩ := hl.armed touched ht
    exact h1.waitData h2
  | listed c _ _ =>
    exact ((((hs.emit _).emit _).reply _).same St.tasks_clearDataSocket rfl).destroyOp

theorem Prelude.armed (h : Prelude cfg id s.basicOp s₁) (hs : s.Armed) : s₁.Armed := by
  refine hs.same ?_ h.messageQueue
  rcases h.handlers with e | e
  · rw [e]
    rfl
  · rw [e, Pool.tasks_cancel]
    rfl

theorem Uploaded.armed (h : Uploaded os id s op s₂) (hs : s.Armed) : s₂.Armed := by
  obtain ⟨p, path, created, rfl⟩ := h.state
  have h0 : s.basicOp.Armed := ⟨hs.tasks, hs.tokens⟩
  dsimp only
  split
  · exact (h0.emit _).emit _
  · exact ((h0.emit _).emit _).reply _

theorem Began.armed (h : Began cfg os id kind s s') (hs : s.Armed) : s'.Armed := by
  cases h with
  | answered op s₁ b hf hp hb => exact ((hp.armed hs).reply b).destroyOp
  | silent op s₁ file hk hf hp ho => exact (hp.armed hs).destroyOp
  | waiting op s₁ hk hf ht hp ha =>
    refine (hp.armed hs).start none ?_
    rcases hk with rfl | rfl
    · exact Or.inr ⟨Or.inl hf.kind, ht rfl⟩
    · exact Or.inl hf.kind
  | uploadNull op s₂ hk hu hfd => exact (hu.armed hs).destroyOp
  | uploadRefused op s₂ hk hu hfd ha => exact ((hu.armed hs).reply _).destroyOp
  | uploadWaiting op s₂ hk hu hfd ha =>
    exact (hu.armed hs).start none (Or.inr ⟨Or.inr hu.fresh.kind, rfl⟩)

theorem Line.armed (h : Line cfg os n s s') (hs : s.Armed) : s'.Armed := by
  cases h with
  | blank hb => exact St.Armed.rearmIdle ⟨hs.tasks, hs.tokens⟩
  | refused req b hb hv hc hf =>
    have h1 : ((s.takeLine n req).newRequest).Armed := ⟨hs.tasks, hs.tokens⟩
    exact ((h1.reply b).emit _).rearmIdle
  | began req kind _ hb hk h1 => exact h1.armed ⟨hs.tasks, hs.tokens⟩

theorem SessionHandled.armed (h : SessionHandled cfg os t r s s') (hs : s.Armed) : s'.Armed := by
  have closed : ∀ {s : St}, s.Armed → s.close.Armed := fun h => h.same St.tasks_close rfl
  have awake : ∀ {s : St}, s.Armed → s.neverExpire.Armed := fun h => h.same St.tasks_neverExpire rfl
  cases h with
  | banner _ =>
    have h1 : ((s.updateIdleTimer cfg).doRead).Armed :=
      (hs.same St.tasks_updateIdleTimer rfl).start _ trivial
    exact h1.start _ trivial
  | bannerFailed _ _ hr => exact hs
  | readEof _ h0 => exact closed hs
  | readEofBusy _ h0 => exact (awake (closed hs)).start _ trivial
  | readFailed _ _ hr hr' => exact hs
  | readLine _ s₂ hline => exact (hline.armed (awake hs)).start _ trivial
  | idleStoped _ _ h0 => exact hs
  | idleAgain _ _ h0 hx => exact hs.start _ trivial
  | idleClose _ _ h0 hx => exact closed (hs.emit _)
  | keepAlive _ _ => exact hs
  | writeFailed _ _ hr => exact (hs.emit _).dropQueue
  | written _ s₂ m rest hq htok =>
    have h1 : s₂.Armed := htok.armed (hs.emit _) (hs.tokens m (hq ▸ List.mem_cons_self))
    have h2 : (s₂.withQueue rest).Armed := h1.withQueue fun m' hm' => by
      rw [messageQueue_tokenRun htok]
      exact hq.symm ▸ List.mem_cons_of_mem _ hm'
    exact h2.writeNext

theorem St.Armed.step (hs : s.Armed) (h : Stepped cfg s e s') : s'.Armed := by
  cases h with
  | clientSend chunk hr => exact hs.same (tasks_receive chunk) rfl
  | clientGone => exact ⟨hs.tasks, hs.tokens⟩
  | peerSend c bytes hc hp => exact ⟨hs.tasks, hs.tokens⟩
  | peerShutdown c hc hp => exact ⟨hs.tasks, hs.tokens⟩
  | peerReset c hc => exact ⟨hs.tasks, hs.tokens⟩
  | tick ms => exact ⟨hs.tasks, hs.tokens⟩
  | complete i r t hi hc =>
    have h1 := @St.tasks_completeAt s i r
    cases r with
    | ok => exact hs.same h1 rfl
    | conn c => exact hs.same h1 rfl
    | err ec => exact hs.same h1 rfl
  | run i os t r s₁ hi hh =>
    have h0 : (s.takeHandler i).Armed := hs.take i
    have h1 : s₁.Armed := by
      cases hh with
      | operation op hop hh => exact hh.armed h0 (hs.handler hi)
      | session hh => exact hh.armed h0
    exact h1.same rfl rfl

end

/-- **In every reached state** the operations are with handlers of their class. -/
theorem armed_reach {ok : St → Ev → Prop} {cfg : Config} {home : Path} {c₀ : UInt32} {now : Int}
    {s : St} (h : Reach (step cfg) ok (St.init cfg home c₀ now) s) : s.Armed :=
  h.invariant ⟨fun t ht => by cases List.mem_singleton.mp ht; trivial, fun m hm => by cases hm⟩
    fun _ _ _ hI _ hs => hI.step (step_cases hs)

end OrangeFtpd
