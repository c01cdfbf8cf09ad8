/-
  File:      OrangeFtpd/Session/Context.lean
  Subject:   What `Session` and `SessionContext` do to the state: the timer, the
             message queue, the data socket, the acceptor.

  Each function is a change of the state under the source's name. Closing a
  socket, or moving the expiry of the timer, completes the outstanding
  operations on it with `operation_aborted`; handlers already queued stay as
  they are. Only `doWriteMessage` and the endpoint queries can throw.
-/
import Mathlib.Tactic.Simps.Basic
import OrangeFtpd.Session.State

namespace OrangeFtpd

namespace St

@[simps] def emit (o : Obs) (s : St) : St := { s with log := o :: s.log }

/-! ## 1. Asynchronous operations -/

/-- An operation is started; `r` is there where it completes at once. -/
@[simps] def startWith (t : Task) (r : Option Result) (s : St) : St :=
  { s with handlers := s.handlers ++ [⟨t, r⟩] }

/-- An operation is started. -/
@[simps!] def start (t : Task) (s : St) : St := s.startWith t none

/-- An operation is started on a socket; on a closed one it completes at once. -/
@[simps!] def startOn (isOpen : Bool) (t : Task) (s : St) : St :=
  s.startWith t (if isOpen then none else some (.err .badDescriptor))

/-- The outstanding operations selected by `sel` are cancelled. -/
@[simps] def cancel (sel : Task → Bool) (s : St) : St :=
  { s with handlers := s.handlers.cancel sel (.err .operationAborted) }

/-! ## 2. The idle timer -/

/-- `Session::update_idle_timer(max_idle_timeout)`. -/
@[simps] def updateIdleTimer (cfg : Config) (s : St) : St :=
  { s with
    idleExpiry := some (s.now + 1000 * cfg.maxIdleTimeout)
    handlers := s.handlers.cancel Task.isTimerWait (.err .operationAborted) }

/-- `check_idle_timer_.expires_at(time_point::max())`. -/
@[simps] def neverExpire (s : St) : St :=
  { s with
    idleExpiry := none
    handlers := s.handlers.cancel Task.isTimerWait (.err .operationAborted) }

/-- `Session::cancel_idle_timer`. -/
def cancelIdleTimer (s : St) : St := s.cancel Task.isTimerWait

/-- `Session::start_idle_timer`: only the wait; its handler is in Session.lean. -/
@[simps!] def startIdleTimer (s : St) : St := s.start .idleWait

/-- `check_idle_timer_.expiry() <= now`. -/
def timerExpired (s : St) : Bool :=
  match s.idleExpiry with
  | some t => decide (t ≤ s.now)
  | none => false

/-! ## 3. The control connection -/

/-- `SessionContext::exists_pending_operator`. -/
def existsPendingOperator (s : St) : Bool := !(s.activeOpNum == 0 && s.messageQueue.isEmpty)

/-- The write that `do_write_message` starts. -/
@[simps!] def startWrite (b : SharedConstBuffer) (s : St) : St :=
  (s.emit (.ctlStarted b)).startOn s.controlOpen .ctlWrite

/-- `mutable_message_queue()->pop()`. -/
@[simps] def popMessage (s : St) : St := { s with messageQueue := s.messageQueue.tail }

/-- `Session::do_read`. With a whole line in the buffer the read asks for no bytes and
    completes at once; on a closed socket it fails all the same. -/
@[simps!] def doRead (s : St) : St :=
  s.startWith .read (if s.controlOpen then if (lineEnd s.buf).isSome then some .ok else none
    else some (.err .badDescriptor))

/-- `Session::close`. -/
@[simps] def close (s : St) : St :=
  { s with
    stoped := true
    controlOpen := false
    handlers := (s.handlers.cancel Task.isControl (.err .operationAborted)).cancel
      Task.isTimerWait (.err .operationAborted)
    log := .closed :: s.log }

/-! ## 4. The data connection -/

/-- The operations on the data socket, where that is open. -/
def onDataSocket (s : St) (t : Task) : Bool :=
  match s.dataSocket with
  | some d => d.isOpen && t.onConn d.conn
  | none => false

/-- `data_socket()->close()`, where there is a data socket. -/
@[simps] def closeDataSocket (s : St) : St :=
  { s with
    handlers := s.handlers.cancel s.onDataSocket (.err .operationAborted)
    dataSocket := s.dataSocket.map fun d => { d with isOpen := false } }

/-- `SessionContext::clear_data_socket`. -/
@[simps] def clearDataSocket (s : St) : St :=
  { s with
    handlers := s.handlers.cancel s.onDataSocket (.err .operationAborted)
    dataSocket := none }

/-- `SessionContext::set_data_socket`: the socket that was there is destroyed. -/
@[simps] def setDataSocket (c : ConnId) (s : St) : St :=
  { s with
    handlers := s.handlers.cancel s.onDataSocket (.err .operationAborted)
    dataSocket := some ⟨c, true⟩ }

/-- `acceptor()->close()`. -/
@[simps] def closeAcceptor (s : St) : St :=
  { s with
    handlers := s.handlers.cancel Task.isAccept (.err .operationAborted)
    acceptor := ⟨false, none⟩ }

/-- `SessionContext::get_target_path`. -/
def getTargetPath (s : St) (path : Path) : Path :=
  if isAbsolute path then path else joinPath s.currentPath path

/-! ## 5. Construction and destruction of operations -/

/-- `BasicOp::BasicOp`. -/
@[simps] def basicOp (s : St) : St := { s with activeOpNum := s.activeOpNum + 1 }

/-- What `~BasicOp` and `do_write_message` do where nothing is pending. -/
def restartIdleTimer (cfg : Config) (s : St) : St :=
  if s.existsPendingOperator then s
  else if s.stoped then s.cancelIdleTimer
  else s.updateIdleTimer cfg

/-- `BasicOp::~BasicOp`. -/
def basicOpDestructor (cfg : Config) (s : St) : St :=
  ({ s with activeOpNum := s.activeOpNum - 1 }).restartIdleTimer cfg

/-- The destructor of an operation: `~SendFileOp`, `~RecvFileOp` and `~ListOp`
    close the session's data socket if it is there and open. -/
def destroyOp (cfg : Config) (op : Op) (s : St) : St :=
  ((if op.kind.isTransfer then s.closeDataSocket else s).emit (.over op.id)).basicOpDestructor cfg

end St

/-! ## 6. The message queue -/

/-- `control_socket()->remote_endpoint()`. -/
def remoteEndpoint : Ftp Unit := do
  let s ← .get
  if s.controlOpen && s.peerAlive then pure () else .throw .endpointError

/-- `control_socket()->local_endpoint()`. -/
def controlLocalEndpoint : Ftp Unit := do
  let s ← .get
  if s.controlOpen then pure () else .throw .endpointError

/-- `acceptor()->local_endpoint()`. -/
def acceptorLocalEndpoint : Ftp Unit := do
  let s ← .get
  if s.acceptor.isOpen then pure () else .throw .endpointError

/-- `SessionContext::do_write_message`. -/
def doWriteMessage (cfg : Config) : Ftp Unit := do
  let s ← .get
  match s.messageQueue with
  | m :: _ => .modify (St.startWrite m.buffer)
  | [] =>
    if s.existsPendingOperator then pure ()
    else if s.stoped then .modify St.cancelIdleTimer
    else do
      remoteEndpoint
      .modify (St.updateIdleTimer cfg)

/-- `SessionContext::write_message`, called for request `id`. -/
def writeMessage (cfg : Config) (id : Nat) (m : Message) : Ftp Unit := do
  let s ← .get
  let isWriting := !s.messageQueue.isEmpty
  .modify fun s => { s with messageQueue := s.messageQueue ++ [m], log := .reply id m.buffer :: s.log }
  if isWriting then pure () else doWriteMessage cfg

/-- What `write_message` does: the message is queued, and its write started where
    no other message waits. -/
@[simps] def St.pushMessage (id : Nat) (m : Message) (s : St) : St :=
  { s with
    messageQueue := s.messageQueue ++ [m]
    handlers := s.handlers ++ if s.messageQueue.isEmpty then
      [⟨.ctlWrite, if s.controlOpen then none else some (.err .badDescriptor)⟩] else []
    log := (if s.messageQueue.isEmpty then [.ctlStarted m.buffer] else []) ++
      .reply id m.buffer :: s.log }

/-- **`write_message` never throws.** -/
theorem writeMessage_run (cfg : Config) (id : Nat) (m : Message) (s : St) :
    writeMessage cfg id m s = .ok ((), s.pushMessage id m) := by
  unfold writeMessage
  rw [Act.get_bind, Act.modify_bind, Act.ite_run]
  cases hq : s.messageQueue with
  | nil =>
    unfold doWriteMessage
    simp only [List.isEmpty_nil, Bool.not_true, Bool.false_eq_true, if_false, List.nil_append,
      Act.get_bind, St.pushMessage, hq, if_true]
    rfl
  | cons x xs =>
    simp only [List.isEmpty_cons, Bool.not_false, if_true, St.pushMessage, hq, Bool.false_eq_true,
      if_false, List.append_nil, List.nil_append]
    rfl

@[simp] theorem writeMessage_ok {cfg : Config} {id : Nat} {m : Message} {s s' : St} {u : Unit} :
    writeMessage cfg id m s = .ok (u, s') ↔ s' = s.pushMessage id m := by
  rw [writeMessage_run]
  simp only [Except.ok.injEq, Prod.mk.injEq, true_and]
  exact eq_comm

end OrangeFtpd
