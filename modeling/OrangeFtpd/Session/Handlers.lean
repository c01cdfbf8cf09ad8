/-
  File:      OrangeFtpd/Session/Handlers.lean
  Subject:   What one handler does, from its start to its end.

  `Handled cfg os t r s s'` has one constructor for each way the handler `t`,
  called with the result `r`, takes the state `s` (the handler is out of the
  pool already) to `s'`. `runTask_handled` says that there is no other way; it is
  the only place where the code of the handlers is walked through.
-/
import OrangeFtpd.Session.Requests

namespace OrangeFtpd

open BasicOp Act

/-! ## 1. State changes of the handlers -/

namespace St

/-- The line is taken out of the buffer and becomes the stored request. -/
@[simps] def takeLine (n : Nat) (req : FtpRequest) (s : St) : St :=
  { s with buf := s.buf.drop n, request := req }

/-- The end of `handle_read` where `dispatch_task` created no operation. -/
def rearmIdle (cfg : Config) (s : St) : St :=
  if s.existsPendingOperator then s else s.updateIdleTimer cfg

/-- The accept handler stores its connection. -/
def storeConn (op : Op) (c : ConnId) (s : St) : St :=
  (s.closeAcceptor.setDataSocket c).emit (.stored op.id c)

/-- The transfer code uses the data socket `d`. -/
def touchSlot (op : Op) (d : DataSocket) (s : St) : St := s.emit (.touch op.id (some d.conn))

/-- `do_send_file` and `do_recv_file`, where the data socket is `d`. -/
def waitData (op : Op) (d : DataSocket) (s : St) : St :=
  (s.touchSlot op d).startOn d.isOpen (.dataWait op d.conn)

/-- A token, where the data socket is `d`. -/
def startToken (d : DataSocket) : Token → St → St
  | .doSendFile op, s | .doRecvFile op, s => s.waitData op d
  | .writeListing op response, s =>
    ((s.touchSlot op d).emit (.payload op.id d.conn (.listing response))).startOn d.isOpen
      (.listWrite op d.conn)

@[simps] def withQueue (q : List Message) (s : St) : St := { s with messageQueue := q }

/-- The next write of the queue, or the end of `do_write_message` without one. -/
def writeNext (cfg : Config) (rest : List Message) (s : St) : St :=
  match rest with
  | m :: _ => (s.withQueue rest).startWrite m.buffer
  | [] => (s.withQueue rest).restartIdleTimer cfg

/-- The queue is dropped, and with it the operations its tokens hold. -/
def dropQueue (cfg : Config) (s : St) : St :=
  s.queuedOps.foldl (fun t op => t.destroyOp cfg op) (s.withQueue [])

/-- `completion_token_`, where it is set. -/
def runCompletion (op : Op) (s : St) : St :=
  if op.completionToken then
    ((s.emit (.complete op)).pushMessage op.id
      ⟨Response.getCodeString .transferComplete, none⟩).clearDataSocket
  else s

end St

/-! ## 2. Lines -/

/-- **What `handle_read` does with a line of `n` characters.** -/
inductive Line (cfg : Config) (os : Os) (n : Nat) (s : St) : St → Prop where
  /-- A line without words. -/
  | blank (h : buildRequest (splitWords (s.buf.take n)) = none) :
      Line cfg os n s ((s.takeLine n {}).rearmIdle cfg)
  /-- `dispatch_task` answers itself. -/
  | refused (req : FtpRequest) (b : SharedConstBuffer)
      (h : buildRequest (splitWords (s.buf.take n)) = some req) (hv : s.verified = true)
      (hc : createKind req.command = none) (hb : b.code.isFinal = true) :
      Line cfg os n s (((((s.takeLine n req).newRequest).pushMessage s.nextId ⟨b, none⟩).emit
        (.over s.nextId)).rearmIdle cfg)
  | began (req : FtpRequest) (kind : OpKind) (s' : St)
      (h : buildRequest (splitWords (s.buf.take n)) = some req)
      (hk : (s.verified = false ∧ kind = .auth) ∨
        (s.verified = true ∧ createKind req.command = some kind))
      (hs : Began cfg os s.nextId kind (s.takeLine n req).newRequest s') :
      Line cfg os n s s'

section

variable {cfg : Config} {os : Os} {n : Nat} {s : St} {req : FtpRequest}

/-- What `dispatch_task` returns decides whether `handle_read` looks at the timer. -/
theorem dispatchTask_line (h : buildRequest (splitWords (s.buf.take n)) = some req) :
    Triple (· = s.takeLine n req) (dispatchTask cfg os)
      (fun dispatched s' => Line cfg os n s (if dispatched then s' else s'.rearmIdle cfg))
      Fault.ofCall := by
  have refuse : ∀ {b : SharedConstBuffer}, s.verified = true → createKind req.command = none →
      b.code.isFinal = true → Triple (· = (s.takeLine n req).newRequest) (replyOnly cfg s.nextId b)
        (fun dispatched s' => Line cfg os n s (if dispatched then s' else s'.rearmIdle cfg))
        Fault.ofCall := by
    intro b hv hc hb
    exact .bind writeReply_triple fun _ => .modify_bind_at (.pure_at (.refused req b h hv hc hb))
  have create : ∀ {kind : OpKind}, ((s.verified = false ∧ kind = .auth) ∨
      (s.verified = true ∧ createKind req.command = some kind)) →
      Triple (· = (s.takeLine n req).newRequest)
        (do runOp cfg os { id := s.nextId, kind := kind }; pure true)
        (fun dispatched s' => Line cfg os n s (if dispatched then s' else s'.rearmIdle cfg))
        Fault.ofCall := by
    intro kind hk
    refine .bind (runOp_began fun hp => ?_) fun _ => .pure fun s' hs => .began req kind s' h hk hs
    rcases hk with ⟨_, ha⟩ | ⟨_, hc⟩
    · rw [ha] at hp; cases hp
    · exact createKind_property (hp ▸ hc)
  unfold dispatchTask
  refine .get_at (.modify_bind_at (g := St.newRequest) ?_)
  refine .ite (fun (hv : (!s.verified) = true) => ?_) fun (hv : ¬ (!s.verified) = true) => ?_
  · exact create (Or.inl ⟨by simpa using hv, rfl⟩)
  have hv' : s.verified = true := by simpa using hv
  -- neither USER nor PASS is in the registry
  refine .ite (fun hu => refuse hv' (hu ▸ by decide) rfl) fun _ =>
    .ite (fun hp => refuse hv' (hp ▸ by decide) rfl) fun _ => ?_
  have hr : (s.takeLine n req).request.command = req.command := rfl
  rw [hr]
  cases hc : createKind req.command with
  | none => exact refuse hv' hc rfl
  | some kind => exact create (Or.inr ⟨hv', hc⟩)

theorem handleRead_line : Triple (· = s) (handleRead cfg os n) (fun _ => Line cfg os n s)
    Fault.ofCall := by
  unfold handleRead
  refine .get_at (.modify_bind_at (g := St.takeLine n {}) ?_)
  refine .bind (Q := fun dispatched s' =>
    Line cfg os n s (if dispatched then s' else s'.rearmIdle cfg)) ?_ fun dispatched => ?_
  · cases h : buildRequest (splitWords (s.buf.take n)) with
    | none => exact .pure_at (.blank h)
    | some req => exact .modify_bind_at (dispatchTask_line h)
  · refine .ite (fun hd => .pure fun _ hs => ?_) fun hd => .get_bind fun s' hs => ?_
    · rwa [if_pos hd] at hs
    · rw [if_neg hd] at hs
      unfold St.rearmIdle at hs
      refine .ite (fun hp => .pure fun _ e => ?_) fun hp => .modify fun _ e => ?_
      · rw [if_pos hp] at hs
        exact e ▸ hs
      · rw [if_neg hp] at hs
        exact e ▸ hs

end

/-! ## 3. Handlers -/

/-- A handler that calls `SendFileOp::deal_event`. -/
inductive SendWait (op : Op) : Task → Prop where
  | ready (c : ConnId) (hk : op.kind ≠ .recvFile) : SendWait op (.dataWait op c)
  | limiter : SendWait op (.limiter op)

/-- **The splice loop** of `RecvFileOp::deal_event`, as far as it came: every turn
    moves bytes from the data connection into the file. -/
inductive Spliced (d : DataSocket) : St → Op → St → Op → Prop where
  | stop (s : St) (op : Op) : Spliced d s op s op
  | turn (s s' : St) (op op' : Op) (n : Nat) (bytes : Bytes)
      (hb : bytes = (RecvFileOp.inboxOf d.conn s).take n)
      (h : Spliced d (((RecvFileOp.takeInbox d.conn n s).emit
          (.payload op.id d.conn (.received bytes))).emit
          (.fs op.id (.wrote op.file op.fdOffset bytes)))
        { op with fdOffset := op.fdOffset + bytes.length } s' op') :
      Spliced d s op s' op'

/-- What the message written last starts; `d` is the data socket its token uses. -/
inductive TokenRun (s : St) : Option Token → St → Prop where
  | none : TokenRun s none s
  | some (tok : Token) (d : DataSocket) (hd : s.dataSocket = some d) :
      TokenRun s (some tok) ((s.emit (.tokenRun tok.op.id)).startToken d tok)

/-- **The ways a handler of the session itself can go.** -/
inductive SessionHandled (cfg : Config) (os : Os) : Task → Result → St → St → Prop where
  | banner (s : St) :
      SessionHandled cfg os .banner .ok s ((s.updateIdleTimer cfg).doRead.startIdleTimer)
  | bannerFailed (r : Result) (s : St) (hr : r ≠ .ok) : SessionHandled cfg os .banner r s s
  | readEof (s : St) (h : s.activeOpNum = 0) :
      SessionHandled cfg os .read (.err .eof) s s.close
  | readEofBusy (s : St) (h : s.activeOpNum ≠ 0) :
      SessionHandled cfg os .read (.err .eof) s (s.close.neverExpire.start .keepAlive)
  | readFailed (r : Result) (s : St) (hr : r ≠ .ok) (hr' : r ≠ .err .eof) :
      SessionHandled cfg os .read r s s
  | readLine (s s' : St) (h : Line cfg os ((lineEnd s.buf).getD 0) s.neverExpire s') :
      SessionHandled cfg os .read .ok s s'.doRead
  | idleStoped (r : Result) (s : St) (h : s.stoped = true) : SessionHandled cfg os .idleWait r s s
  | idleAgain (r : Result) (s : St) (h : s.stoped = false) (hx : s.timerExpired = false) :
      SessionHandled cfg os .idleWait r s s.startIdleTimer
  | idleClose (r : Result) (s : St) (h : s.stoped = false) (hx : s.timerExpired = true) :
      SessionHandled cfg os .idleWait r s (s.emit .idleClose).close
  | keepAlive (r : Result) (s : St) : SessionHandled cfg os .keepAlive r s s
  | writeFailed (r : Result) (s : St) (hr : r ≠ .ok) :
      SessionHandled cfg os .ctlWrite r s ((s.emit (.ctlDone false)).dropQueue cfg)
  | written (s s₁ : St) (m : Message) (rest : List Message) (hq : s.messageQueue = m :: rest)
      (ht : TokenRun (s.emit (.ctlDone true)) m.token s₁) :
      SessionHandled cfg os .ctlWrite .ok s (s₁.writeNext cfg rest)

/-- **What `SendFileOp::deal_event` does** after its wait succeeded, on the data socket `d`;
    `n` are the bytes that `sendfile` passed. -/
inductive Dealt (cfg : Config) (os : Os) (op : Op) (slice : Nat) (s : St) (d : DataSocket) :
    St → Prop where
  | failed (hf : os.sendfile = .failed) :
      Dealt cfg os op slice s d ((s.touchSlot op d).destroyOp cfg op)
  | again (hw : os.sendfile = .wouldBlock) :
      Dealt cfg os op slice s d ((s.touchSlot op d).waitData op d)
  | more (op' : Op) (k n : Nat) (hk : os.sendfile = .sent k)
      (hn : n = min k (SendFileOp.sendCount op slice))
      (hop : op' = { op with fileOffset := op.fileOffset + n })
      (hl : 0 < SendFileOp.fileLeft op') (h0 : slice = 0) :
      Dealt cfg os op slice s d (((s.touchSlot op d).emit
        (.payload op.id d.conn (.sent op.fileOffset n))).waitData op' d)
  | slice (op' : Op) (k n : Nat) (hk : os.sendfile = .sent k)
      (hn : n = min k (SendFileOp.sendCount op slice))
      (hop : op' = { op with fileOffset := op.fileOffset + n })
      (hl : 0 < SendFileOp.fileLeft op') (h0 : slice ≠ 0) :
      Dealt cfg os op slice s d (((s.touchSlot op d).emit
        (.payload op.id d.conn (.sent op.fileOffset n))).start (.limiter op'))
  | all (op' : Op) (k n : Nat) (hk : os.sendfile = .sent k)
      (hn : n = min k (SendFileOp.sendCount op slice))
      (hop : op' = { op with fileOffset := op.fileOffset + n })
      (hl : SendFileOp.fileLeft op' = 0) :
      Dealt cfg os op slice s d ((((s.touchSlot op d).emit
        (.payload op.id d.conn (.sent op.fileOffset n))).runCompletion op').destroyOp cfg op')

/-- **The ways a handler of the operation `op` can go.** -/
inductive OpHandled (cfg : Config) (os : Os) (op : Op) : Task → Result → St → St → Prop where
  | acceptAborted (s : St) (ha : s.acceptor.isOpen = true) :
      OpHandled cfg os op (.accept op) (.err .operationAborted) s (s.destroyOp cfg op)
  | acceptFailed (r : Result) (s : St) (hr : r ≠ .err .operationAborted)
      (hr' : ∀ c, r ≠ .conn c) :
      OpHandled cfg os op (.accept op) r s (s.closeAcceptor.destroyOp cfg op)
  /-- RETR and STOR queue the 150 at once. -/
  | accepted (c : ConnId) (s : St) (tok : Token)
      (ht : (op.kind = .sendFile ∧ tok = .doSendFile op) ∨
        (op.kind = .recvFile ∧ tok = .doRecvFile op)) :
      OpHandled cfg os op (.accept op) (.conn c) s
        ((s.storeConn op c).pushMessage op.id ⟨Response.getCodeString .dataConn, some tok⟩)
  /-- LIST makes the listing first. -/
  | listAccepted (c : ConnId) (s : St) (response : Text)
      (hl : listFile cfg os.listing = .ok response) (hs : op.kind ≠ .sendFile)
      (hr : op.kind ≠ .recvFile) :
      OpHandled cfg os op (.accept op) (.conn c) s
        (((s.storeConn op c).emit (.target op.id s.currentPath)).pushMessage op.id
          ⟨Response.getCodeString .dataConn, some (.writeListing op response)⟩)
  | waitFailed (t : Task) (r : Result) (s : St) (hr : r ≠ .ok)
      (ht : t = .limiter op ∨ ∃ c, t = .dataWait op c) : OpHandled cfg os op t r s (s.destroyOp cfg op)
  | sendFailed (t : Task) (s : St) (d : DataSocket) (ht : SendWait op t)
      (hd : s.dataSocket = some d) (ho : d.isOpen = true) (hf : os.sendfile = .failed) :
      OpHandled cfg os op t .ok s ((s.touchSlot op d).destroyOp cfg op)
  | sendAgain (t : Task) (s : St) (d : DataSocket) (ht : SendWait op t)
      (hd : s.dataSocket = some d) (ho : d.isOpen = true) :
      OpHandled cfg os op t .ok s ((s.touchSlot op d).waitData op d)
  | sentMore (op' : Op) (t : Task) (s : St) (d : DataSocket) (n : Nat) (ht : SendWait op t)
      (hd : s.dataSocket = some d) (ho : d.isOpen = true) (hn : n ≤ SendFileOp.fileLeft op)
      (hop : op' = { op with fileOffset := op.fileOffset + n })
      (hl : 0 < SendFileOp.fileLeft op') :
      OpHandled cfg os op t .ok s (((s.touchSlot op d).emit
        (.payload op.id d.conn (.sent op.fileOffset n))).waitData op' d)
  | sentSlice (op' : Op) (t : Task) (s : St) (d : DataSocket) (n : Nat) (ht : SendWait op t)
      (hd : s.dataSocket = some d) (ho : d.isOpen = true) (hn : n ≤ SendFileOp.fileLeft op)
      (hop : op' = { op with fileOffset := op.fileOffset + n })
      (hl : 0 < SendFileOp.fileLeft op') :
      OpHandled cfg os op t .ok s (((s.touchSlot op d).emit
        (.payload op.id d.conn (.sent op.fileOffset n))).start (.limiter op'))
  | sentAll (op' : Op) (t : Task) (s : St) (d : DataSocket) (n : Nat) (ht : SendWait op t)
      (hd : s.dataSocket = some d) (ho : d.isOpen = true) (hn : n ≤ SendFileOp.fileLeft op)
      (hop : op' = { op with fileOffset := op.fileOffset + n })
      (hl : SendFileOp.fileLeft op' = 0) :
      OpHandled cfg os op t .ok s ((((s.touchSlot op d).emit
        (.payload op.id d.conn (.sent op.fileOffset n))).runCompletion op').destroyOp cfg op')
  | receivedAll (c : ConnId) (s : St) (d : DataSocket) (hk : op.kind = .recvFile)
      (hd : s.dataSocket = some d) (ho : d.isOpen = true)
      (hi : RecvFileOp.inboxOf d.conn s = []) :
      OpHandled cfg os op (.dataWait op c) .ok s
        (((s.touchSlot op d).runCompletion op).destroyOp cfg op)
  | receiveFailed (op' : Op) (c : ConnId) (s s₁ : St) (d : DataSocket)
      (hk : op.kind = .recvFile) (hd : s.dataSocket = some d) (ho : d.isOpen = true)
      (hf : op.pipeFd = none ∨ .failed ∈ os.splices)
      (hl : Spliced d (s.touchSlot op d) op s₁ op') :
      OpHandled cfg os op (.dataWait op c) .ok s (s₁.destroyOp cfg op')
  | receiveAgain (op' : Op) (c : ConnId) (s s₁ : St) (d : DataSocket)
      (hk : op.kind = .recvFile) (hd : s.dataSocket = some d) (ho : d.isOpen = true)
      (hl : Spliced d (s.touchSlot op d) op s₁ op') :
      OpHandled cfg os op (.dataWait op c) .ok s (s₁.waitData op' d)
  | listed (c : ConnId) (r : Result) (s : St) :
      OpHandled cfg os op (.listWrite op c) r s
        (((((s.emit (.listed op.id c (r == .ok))).emit (.complete op)).pushMessage op.id
          ⟨Response.getCodeString .transferComplete, none⟩).clearDataSocket).destroyOp cfg op)

/-- **The ways a handler can go.** -/
inductive Handled (cfg : Config) (os : Os) (t : Task) (r : Result) (s s' : St) : Prop where
  | session (h : SessionHandled cfg os t r s s')
  | operation (op : Op) (ht : t.op? = some op) (h : OpHandled cfg os op t r s s')

/-- The handlers that use the data socket. -/
inductive UsesSlot (s : St) : Task → Result → Prop where
  | ready (op : Op) (c : ConnId) : UsesSlot s (.dataWait op c) .ok
  | limiter (op : Op) : UsesSlot s (.limiter op) .ok
  | token (m : Message) (rest : List Message) (tok : Token) (hq : s.messageQueue = m :: rest)
      (ht : m.token = some tok) : UsesSlot s .ctlWrite .ok

/-- The errors a handler may stop with: a null data socket only where it uses the
    data socket and there is none. -/
def Allowed (s : St) (t : Task) (r : Result) (e : Fault) : Prop :=
  e = .nullDataSocket → s.dataSocket = none ∧ UsesSlot s t r

section

variable {cfg : Config} {os : Os} {s : St} {op : Op} {t : Task} {r : Result} {E : Fault → Prop}

theorem Allowed.of_ne {e : Fault} (h : e ≠ .nullDataSocket) : Allowed s t r e :=
  fun he => absurd he h

theorem Allowed.of_call {e : Fault} (h : e.ofCall) : Allowed s t r e := by
  intro he
  rw [he] at h
  exact h.elim

/-! ## 4. The session's own handlers -/

theorem onBanner_handled : Triple (· = s) (onBanner cfg r)
    (fun _ => SessionHandled cfg os .banner r s) E := by
  unfold onBanner
  refine .ite (fun h => .modify_at ?_) fun h => .pure_at (.bannerFailed r s h)
  rw [h]
  exact .banner s

theorem onRead_handled : Triple (· = s) (onRead cfg os r)
    (fun _ => SessionHandled cfg os .read r s) Fault.ofCall := by
  unfold onRead
  cases r with
  | ok =>
    refine .modify_bind_at (.get_at (.bind handleRead_line fun _ => .modify fun s' hs => ?_))
    exact .readLine s s' hs
  | conn c => exact .pure_at (.readFailed _ s nofun nofun)
  | err ec =>
    cases ec with
    | eof =>
      refine .modify_bind_at (.get_at (.ite (fun h => ?_) fun h => ?_))
      · exact .pure_at (.readEof s h)
      · exact .modify_at (.readEofBusy s h)
    | operationAborted => exact .pure_at (.readFailed _ s nofun nofun)
    | badDescriptor => exact .pure_at (.readFailed _ s nofun nofun)
    | connectionReset => exact .pure_at (.readFailed _ s nofun nofun)
    | other n => exact .pure_at (.readFailed _ s nofun nofun)

theorem onIdleTimer_handled : Triple (· = s) onIdleTimer
    (fun _ => SessionHandled cfg os .idleWait r s) E := by
  unfold onIdleTimer
  refine .get_at (.ite (fun h => .pure_at (.idleStoped r s h)) fun h => ?_)
  have hs : s.stoped = false := eq_false_of_ne_true h
  refine .ite (fun hx => .modify_at (.idleClose r s hs hx)) fun hx => .modify_at ?_
  exact .idleAgain r s hs (eq_false_of_ne_true hx)

/-! ## 5. The queue of replies -/

theorem useDataSocket_triple {id : Nat} (hE : s.dataSocket = none → E .nullDataSocket) :
    Triple (· = s) (useDataSocket id) (fun d s' => s.dataSocket = some d ∧
      s' = s.emit (.touch id (some d.conn))) E := by
  unfold useDataSocket
  refine .get_at ?_
  cases hd : s.dataSocket with
  | none => exact .throw (hE hd)
  | some d => exact .modify_bind_at (.pure_at ⟨rfl, rfl⟩)

/-- The rest of a handler after it looked up the data socket. -/
theorem useSlot_bind {β : Type} {f : DataSocket → Ftp β} {R : β → St → Prop}
    (hE : s.dataSocket = none → E .nullDataSocket)
    (hf : ∀ d, s.dataSocket = some d → Triple (· = s.touchSlot op d) (f d) R E) :
    Triple (· = s) (useDataSocket op.id >>= f) R E := by
  refine .bind (useDataSocket_triple hE) fun d => ?_
  rintro _ ⟨hd, rfl⟩
  exact hf d hd _ rfl

/-- `do_send_file` and `do_recv_file`. -/
theorem waitData_triple (hE : s.dataSocket = none → E .nullDataSocket) :
    Triple (· = s) (SendFileOp.doSendFile op)
      (fun _ s' => ∃ d, s.dataSocket = some d ∧ s' = s.waitData op d) E :=
  useSlot_bind hE fun d hd => .modify_at ⟨d, hd, rfl⟩

theorem runToken_triple {tok : Token} (hE : s.dataSocket = none → E .nullDataSocket) :
    Triple (· = s) (runToken tok)
      (fun _ s' => ∃ d, s.dataSocket = some d ∧ s' = s.startToken d tok) E := by
  cases tok with
  | doSendFile op => exact waitData_triple hE
  | doRecvFile op => exact waitData_triple hE
  | writeListing op response =>
    exact useSlot_bind hE fun d hd => .modify_bind_at (.modify_at ⟨d, hd, rfl⟩)

/-- After the message at the front was popped. -/
theorem doWriteMessage_next {m : Message} {rest : List Message}
    (hq : s.messageQueue = m :: rest) :
    Triple (· = s.popMessage) (doWriteMessage cfg)
      (fun _ s' => s' = s.writeNext cfg rest) Fault.ofCall := by
  have e : s.popMessage = s.withQueue rest := by
    unfold St.popMessage
    rw [hq]
    rfl
  rw [e]
  unfold doWriteMessage
  refine .get_at ?_
  cases rest with
  | cons m rest => exact .modify_at rfl
  | nil =>
    unfold St.writeNext St.restartIdleTimer
    refine .ite (fun h => .pure_at ?_) fun h => .ite (fun h' => .modify_at ?_) fun h' => ?_
    · rw [if_pos h]
    · rw [if_neg h, if_pos h']
    · rw [if_neg h, if_neg h']
      refine .bind (Q := fun _ s' => s' = s.withQueue []) ?_ fun _ => .modify_at rfl
      exact .get_at (.ite (fun _ => .pure_at rfl) fun _ => .throw trivial)

theorem messageQueue_startToken {tok : Token} {d : DataSocket} :
    (s.startToken d tok).messageQueue = s.messageQueue := by cases tok <;> rfl

theorem messageQueue_tokenRun {tok : Option Token} {s₁ : St} (h : TokenRun s tok s₁) :
    s₁.messageQueue = s.messageQueue := by
  cases h with
  | none => rfl
  | some tok d hd => exact messageQueue_startToken

theorem runFront_triple {tok : Option Token}
    (hE : s.dataSocket = none → tok ≠ none → E .nullDataSocket) :
    Triple (· = s) (runFront tok) (fun _ => TokenRun s tok) E := by
  cases tok with
  | none => exact .pure_at .none
  | some tok =>
    refine .modify_bind_at ((runToken_triple (s := s.emit (.tokenRun tok.op.id))
      fun hn => hE hn nofun).post ?_)
    rintro _ s' ⟨d, hd, rfl⟩
    exact .some tok d hd

theorem onWritten_handled : Triple (· = s) (onWritten cfg r)
    (fun _ => SessionHandled cfg os .ctlWrite r s) (Allowed s .ctlWrite r) := by
  unfold onWritten
  refine .modify_bind_at (.get_at (.ite (fun hr => ?_) fun hr => ?_))
  · refine .modify_bind_at (.modify_at ?_)
    have hb : (r == Result.ok) = false := by simpa using hr
    have h := @SessionHandled.writeFailed cfg os r s hr
    unfold St.dropQueue St.queuedOps at h
    rw [← List.map_filterMap, List.foldl_map] at h
    rw [hb]
    exact h
  · have hr' : r = .ok := not_not.mp hr
    subst hr'
    rw [St.emit_messageQueue]
    cases hq : s.messageQueue with
    | nil => exact .throw (.of_ne nofun)
    | cons m rest =>
      refine .bind (runFront_triple fun hn ht => ?_) fun _ => ?_
      · obtain ⟨tok, ht⟩ := Option.ne_none_iff_exists'.mp ht
        exact fun _ => ⟨hn, .token m rest tok hq ht⟩
      · intro s₁ ht
        have hq' : s₁.messageQueue = m :: rest := (messageQueue_tokenRun ht).trans hq
        refine (Triple.modify_bind_at (g := St.popMessage) (doWriteMessage_next hq')).conseq
          (fun _ e => e) ?_ (fun _ he => .of_call he) s₁ rfl
        rintro _ _ rfl
        exact .written s s₁ m rest hq ht

/-! ## 6. The handlers of transfers -/

theorem listConnection_handled {c : ConnId} (hs : op.kind ≠ .sendFile) (hr : op.kind ≠ .recvFile) :
    Triple (· = s.storeConn op c) (ListOp.handleDataConnection cfg os op)
      (Ended cfg (OpHandled cfg os op (.accept op) (.conn c) s)) Fault.ofCall := by
  unfold ListOp.handleDataConnection
  refine .get_at (.modify_bind_at (liftFs_bind fun response hl => ?_))
  have hp : (s.storeConn op c).currentPath = s.currentPath := by simp [St.storeConn]
  refine .bind writeMessage_triple fun _ => .pure fun _ e => Or.inl ⟨rfl, ?_⟩
  rw [e, hp]
  exact .listAccepted c s response hl hs hr

theorem onConnection_handled {c : ConnId} :
    Triple (· = s.storeConn op c) (onConnection cfg os op)
      (Ended cfg (OpHandled cfg os op (.accept op) (.conn c) s)) Fault.ofCall := by
  unfold onConnection
  split
  · next hk =>
    refine .ite (fun _ => ?_) fun _ => .throw trivial
    refine .bind writeMessage_triple fun _ => .pure fun _ e => Or.inl ⟨rfl, ?_⟩
    rw [e]
    exact .accepted c s _ (Or.inl ⟨hk, rfl⟩)
  · next hk =>
    refine .bind writeMessage_triple fun _ => .pure fun _ e => Or.inl ⟨rfl, ?_⟩
    rw [e]
    exact .accepted c s _ (Or.inr ⟨hk, rfl⟩)
  · next hs hr => exact listConnection_handled hs hr

theorem onAccept_handled : Triple (· = s) (onAccept cfg os op r)
    (Ended cfg (OpHandled cfg os op (.accept op) r s)) Fault.ofCall := by
  have failed : r ≠ .err .operationAborted → (∀ c, r ≠ .conn c) →
      Triple (· = s) (do .modify St.closeAcceptor; pure (some op))
        (Ended cfg (OpHandled cfg os op (.accept op) r s)) Fault.ofCall := fun h h' =>
    .modify_bind_at (.pure_at (Or.inr ⟨op, rfl, .acceptFailed r s h h'⟩))
  cases r with
  | ok => exact failed nofun nofun
  | conn c => exact .modify_bind_at (.modify_bind_at onConnection_handled)
  | err ec =>
    cases ec with
    | operationAborted =>
      unfold onAccept acceptorLocalEndpoint
      refine .bind (Q := fun _ s' => s.acceptor.isOpen = true ∧ s' = s) ?_ fun _ => .pure ?_
      · exact .get_at (.ite (fun h => .pure_at ⟨h, rfl⟩) fun _ => .throw trivial)
      · rintro _ ⟨ha, rfl⟩
        exact Or.inr ⟨op, rfl, .acceptAborted _ ha⟩
    | eof => exact failed nofun nofun
    | badDescriptor => exact failed nofun nofun
    | connectionReset => exact failed nofun nofun
    | other n => exact failed nofun nofun

theorem runCompletionToken_triple : Triple (· = s) (SendFileOp.runCompletionToken cfg op)
    (fun _ s' => s' = s.runCompletion op) E := by
  unfold SendFileOp.runCompletionToken St.runCompletion
  refine .ite (fun h => ?_) fun h => .pure_at ?_
  · rw [if_pos h]
    refine .modify_bind_at (.bind writeReply_triple fun _ => .modify fun _ e => ?_)
    rw [e]
  · rw [if_neg h]

/-- The data socket is there: the next wait, and the operation is handed on. -/
theorem wait_ended {B : St → Prop} {d : DataSocket} (hd : s.dataSocket = some d)
    (hB : B (s.waitData op d)) :
    Triple (· = s) (do SendFileOp.doSendFile op; pure none) (Ended cfg B) E := by
  refine .bind (waitData_triple fun hn => ?_) fun _ => .pure ?_
  · rw [hd] at hn; cases hn
  · rintro _ ⟨d', hd', rfl⟩
    rw [hd] at hd'
    cases hd'
    exact Or.inl ⟨rfl, hB⟩

/-- What comes after `data_socket()` and the look at `native_non_blocking`. -/
theorem openSlot_bind {β : Type} {f : DataSocket → Ftp β} {R : β → St → Prop}
    (hu : UsesSlot s t r)
    (hf : ∀ d, s.dataSocket = some d → d.isOpen = true →
      Triple (· = s.touchSlot op d) (f d) R (Allowed s t r)) :
    Triple (· = s) (do let d ← useDataSocket op.id; ensureNonBlocking d; f d) R
      (Allowed s t r) := by
  refine useSlot_bind (fun hn _ => ⟨hn, hu⟩) fun d hd => ?_
  refine .bind (Q := fun _ s' => d.isOpen = true ∧ s' = s.touchSlot op d) ?_ fun _ => ?_
  · exact .ite (fun ho => .pure_at ⟨ho, rfl⟩) fun _ => .throw (.of_ne nofun)
  · rintro _ ⟨ho, rfl⟩
    exact hf d hd ho _ rfl

theorem sendCount_le (slice : Nat) : SendFileOp.sendCount op slice ≤ SendFileOp.fileLeft op := by
  unfold SendFileOp.sendCount
  split
  · exact Nat.le_refl _
  · exact Nat.min_le_left ..

/-- **`deal_event`**, step by step. -/
theorem dealEvent_dealt (slice : Nat) (hu : UsesSlot s t .ok) :
    Triple (· = s) (SendFileOp.dealEvent cfg os op .ok slice)
      (Ended cfg fun s' => ∃ d, s.dataSocket = some d ∧ d.isOpen = true ∧
        Dealt cfg os op slice s d s') (Allowed s t .ok) := by
  unfold SendFileOp.dealEvent
  refine .ite (fun hr => absurd rfl hr) fun _ => openSlot_bind hu fun d hd ho => ?_
  cases hsend : os.sendfile with
  | failed => exact .pure_at (Or.inr ⟨op, rfl, d, hd, ho, .failed hsend⟩)
  | wouldBlock => exact wait_ended hd ⟨d, hd, ho, .again hsend⟩
  | sent k =>
    refine .modify_bind_at (.ite (fun hl => .ite (fun h0 => ?_) fun h0 => ?_) fun hl => ?_)
    · exact wait_ended hd ⟨d, hd, ho, .more _ k _ hsend rfl rfl hl h0⟩
    · exact .modify_bind_at (.pure_at (Or.inl ⟨rfl, d, hd, ho, .slice _ k _ hsend rfl rfl hl h0⟩))
    · refine .bind runCompletionToken_triple fun _ => .pure fun _ e => Or.inr ⟨_, rfl, d, hd, ho, ?_⟩
      rw [e]
      exact .all _ k _ hsend rfl rfl (by omega)

theorem Dealt.handled {d : DataSocket} {slice : Nat} {s' : St} (ht : SendWait op t)
    (hd : s.dataSocket = some d) (ho : d.isOpen = true) (h : Dealt cfg os op slice s d s') :
    OpHandled cfg os op t .ok s s' := by
  have hle : ∀ {k n : Nat}, n = min k (SendFileOp.sendCount op slice) → n ≤ SendFileOp.fileLeft op :=
    fun hn => hn ▸ Nat.le_trans (Nat.min_le_right ..) (sendCount_le slice)
  cases h with
  | failed hf => exact .sendFailed t s d ht hd ho hf
  | again hw => exact .sendAgain t s d ht hd ho
  | more op' k n hk hn hop hl h0 => exact .sentMore op' t s d n ht hd ho (hle hn) hop hl
  | slice op' k n hk hn hop hl h0 => exact .sentSlice op' t s d n ht hd ho (hle hn) hop hl
  | all op' k n hk hn hop hl => exact .sentAll op' t s d n ht hd ho (hle hn) hop hl

theorem sendFileOp_dealEvent (slice : Nat) (ht : SendWait op t) :
    Triple (· = s) (SendFileOp.dealEvent cfg os op r slice)
      (Ended cfg (OpHandled cfg os op t r s)) (Allowed s t r) := by
  by_cases hr : r = .ok
  · subst hr
    have hu : UsesSlot s t .ok := by
      cases ht with
      | ready c hk => exact .ready op c
      | limiter => exact .limiter op
    refine (dealEvent_dealt slice hu).post ?_
    rintro rest s' (⟨rfl, d, hd, ho, h⟩ | ⟨op', rfl, d, hd, ho, h⟩)
    · exact Or.inl ⟨rfl, h.handled ht hd ho⟩
    · exact Or.inr ⟨op', rfl, h.handled ht hd ho⟩
  · unfold SendFileOp.dealEvent
    refine .ite (fun _ => .pure_at (Or.inr ⟨op, rfl, .waitFailed t r s hr ?_⟩)) fun h => absurd hr h
    cases ht with
    | ready c hk => exact Or.inr ⟨c, rfl⟩
    | limiter => exact Or.inl rfl

/-- The inner loop ends only when it has put everything it was to put. -/
theorem drain_all : ∀ {rs : List DrainResult} {n : Int} {pipe out pipe' out' : Bytes},
    RecvFileOp.drain rs n pipe out = some (pipe', out') → (pipe.length : Int) ≤ n →
      out' = out ++ pipe
  | rs, n, pipe, out, pipe', out', h, hn => by
    unfold RecvFileOp.drain at h
    split at h
    · next h0 =>
      have hp : pipe = [] := List.eq_nil_of_length_eq_zero (by omega)
      simp only [Option.some.injEq, Prod.mk.injEq] at h
      rw [hp, List.append_nil, h.2]
    · match rs with
      | [] => cases h
      | .put k :: rs =>
        have hlen : ((pipe.drop (min k (min n.toNat pipe.length))).length : Int) ≤
            n - (min k (min n.toNat pipe.length) : Nat) := by
          rw [List.length_drop]
          omega
        rw [drain_all h hlen, List.append_assoc, List.take_append_drop]
      | .failed :: rs => exact drain_all h (by omega)

/-- The outer loop, by induction on the answers of its splices. -/
theorem spliceLoop_triple {d : DataSocket} : ∀ {rs : List SpliceResult} {op : Op} {s : St},
    Triple (· = s) (RecvFileOp.spliceLoop d rs op)
      (fun r s' => Spliced d s op s' r.2 ∧ (r.1 = .failed → .failed ∈ rs))
      (fun e => e ≠ .nullDataSocket)
  | [], op, s => .throw nofun
  | .eof :: rs, op, s => .pure_at ⟨.stop s op, nofun⟩
  | .wouldBlock :: rs, op, s => .pure_at ⟨.stop s op, nofun⟩
  | .failed :: rs, op, s => .pure_at ⟨.stop s op, fun _ => List.mem_cons_self⟩
  | .interrupted :: rs, op, s => by
    have ih : Triple (· = s) (RecvFileOp.spliceLoop d rs op) _ _ := spliceLoop_triple
    exact ih.post fun _ _ h => ⟨h.1, fun he => List.mem_cons_of_mem _ (h.2 he)⟩
  | .moved k rs' :: rs, op, s => by
    unfold RecvFileOp.spliceLoop
    refine .get_at (.ite (fun _ => .pure_at ⟨.stop s op, nofun⟩) fun _ => ?_)
    refine .modify_bind_at ?_
    cases hdr : RecvFileOp.drain rs' (min k (min RecvFileOp.spliceLen
      (RecvFileOp.inboxOf d.conn s).length) : Nat) ((RecvFileOp.inboxOf d.conn s).take
        (min k (min RecvFileOp.spliceLen (RecvFileOp.inboxOf d.conn s).length))) [] with
    | none => exact .throw nofun
    | some r =>
      have hout := drain_all hdr (by rw [List.length_take]; omega)
      rw [List.nil_append] at hout
      refine .modify_bind_at (spliceLoop_triple.post fun r' s' h => ?_)
      rw [hout] at h
      exact ⟨.turn s s' op r'.2 _ _ rfl h.1, fun he => List.mem_cons_of_mem _ (h.2 he)⟩

theorem dataSocket_spliced {d : DataSocket} {s s' : St} {op op' : Op}
    (h : Spliced d s op s' op') : s'.dataSocket = s.dataSocket := by
  induction h with
  | stop s op => rfl
  | turn s s' op op' n bytes hb h ih => exact ih

theorem recvFileOp_dealEvent {c : ConnId} (hk : op.kind = .recvFile) :
    Triple (· = s) (RecvFileOp.dealEvent cfg os op r)
      (Ended cfg (OpHandled cfg os op (.dataWait op c) r s)) (Allowed s (.dataWait op c) r) := by
  unfold RecvFileOp.dealEvent
  refine .ite (fun hr => .pure_at (Or.inr ⟨op, rfl, .waitFailed _ r s hr ?_⟩)) fun hr => ?_
  · exact Or.inr ⟨c, rfl⟩
  have hr' : r = .ok := not_not.mp hr
  subst hr'
  refine openSlot_bind (.ready op c) fun d hd ho => .get_at (.ite (fun hi => ?_) fun _ => ?_)
  · refine .bind runCompletionToken_triple fun _ => .pure fun _ e => Or.inr ⟨op, rfl, ?_⟩
    rw [e]
    exact .receivedAll c s d hk hd ho (List.isEmpty_iff.mp hi)
  refine .bind (Q := fun r s₁ => Spliced d (s.touchSlot op d) op s₁ r.2 ∧
    (r.1 = .failed → op.pipeFd = none ∨ .failed ∈ os.splices)) ?_ fun r => ?_
  · refine .ite (fun hp => .pure_at ⟨.stop _ op, fun _ => Or.inl (by simpa using hp)⟩) fun _ => ?_
    exact spliceLoop_triple.conseq (fun _ e => e) (fun _ _ h => ⟨h.1, fun he => Or.inr (h.2 he)⟩)
      fun _ he => .of_ne he
  rintro s₁ ⟨hl, hf⟩
  obtain ⟨e, op'⟩ := r
  cases e with
  | failed => exact Or.inr ⟨op', rfl, .receiveFailed op' c s s₁ d hk hd ho (hf rfl) hl⟩
  | waitAgain =>
    have hd' : s₁.dataSocket = some d := (dataSocket_spliced hl).trans hd
    exact wait_ended hd' (.receiveAgain op' c s s₁ d hk hd ho hl) s₁ rfl

theorem listOnWritten_handled {c : ConnId} : Triple (· = s) (ListOp.onWritten cfg op c r)
    (Ended cfg (OpHandled cfg os op (.listWrite op c) r s)) E := by
  unfold ListOp.onWritten
  refine .modify_bind_at (.modify_bind_at (.bind writeReply_triple fun _ => ?_))
  exact .modify_bind_at (.pure_at (Or.inr ⟨op, rfl, .listed c r s⟩))

/-! ## 7. Any handler -/

/-- **What a handler does** is one of the ways of `Handled`; it stops with a null data
    socket only where it uses the data socket. -/
theorem runTask_handled : Triple (· = s) (runTask cfg os t r)
    (fun _ => Handled cfg os t r s) (Allowed s t r) := by
  have call : ∀ {α : Type} {x : Ftp α} {Q : α → St → Prop}, Triple (· = s) x Q Fault.ofCall →
      Triple (· = s) x Q (Allowed s t r) := fun h =>
    h.conseq (fun _ e => e) (fun _ _ h => h) fun _ he => .of_call he
  have session : ∀ {x : Ftp Unit} {E : Fault → Prop},
      Triple (· = s) x (fun _ => SessionHandled cfg os t r s) E →
      Triple (· = s) x (fun _ => Handled cfg os t r s) E := fun h => h.post fun _ _ => .session
  have operation : ∀ {x : Ftp Unit} {E : Fault → Prop} (op : Op), t.op? = some op →
      Triple (· = s) x (fun _ => OpHandled cfg os op t r s) E →
      Triple (· = s) x (fun _ => Handled cfg os t r s) E :=
    fun op ht h => h.post fun _ _ => .operation op ht
  cases t with
  | banner => exact session onBanner_handled
  | read => exact call (session onRead_handled)
  | idleWait => exact session onIdleTimer_handled
  | keepAlive => exact session (.pure_at (.keepAlive r s))
  | ctlWrite => exact session onWritten_handled
  | accept op => exact call (operation op rfl (release_ended onAccept_handled))
  | limiter op => exact operation op rfl (release_ended (sendFileOp_dealEvent _ .limiter))
  | listWrite op c => exact operation op rfl (release_ended listOnWritten_handled)
  | dataWait op c =>
    refine operation op rfl (release_ended ?_)
    unfold onReady
    split
    · next hk => exact recvFileOp_dealEvent hk
    · next hk => exact sendFileOp_dealEvent _ (.ready c hk)

end

end OrangeFtpd
