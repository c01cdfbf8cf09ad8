/-
  File:      OrangeFtpd/Session/Session.lean
  Subject:   The session as a machine: dispatch of requests, the handlers, and one
             step of the event loop (`session/session.cc`, `utils/regist_*`).

  An event is either something the outside does (bytes arrive, a peer closes, the
  clock advances, an operation completes) or the run of a queued handler. Any
  handler that is queued may run next.
-/
import OrangeFtpd.Op.ControlOps
import OrangeFtpd.Op.RecvFileOp
import OrangeFtpd.Op.ListOp

namespace OrangeFtpd

open BasicOp

/-! ## 1. The registry of operations -/

/-- `regist_all_operation`. -/
def operationMap : List (Text × OpKind) :=
  [("NOOP".toList, .ack), ("AUTH".toList, .auth), ("MKD".toList, .createDir),
   ("XMKD".toList, .createDir), ("RETR".toList, .sendFile), ("STOR".toList, .recvFile),
   ("STAT".toList, .stat), ("SYST".toList, .syst), ("PWD".toList, .printWorkingDir),
   ("XPWD".toList, .printWorkingDir), ("CWD".toList, .changeWorkingDir),
   ("XCWD".toList, .changeWorkingDir), ("OPTS".toList, .property), ("TYPE".toList, .property),
   ("PASV".toList, .passiveMode), ("LIST".toList, .list), ("SIZE".toList, .size),
   ("CDUP".toList, .cdToParent), ("XCUP".toList, .cdToParent)]

/-- `PluginRegistry::create`, up to the construction: the class of a command. -/
def createKind (command : Text) : Option OpKind := operationMap.lookup command

/-- The constructor of each class. Those not named do nothing but `BasicOp`'s. -/
def construct (cfg : Config) (os : Os) (op : Op) : Ftp Op :=
  match op.kind with
  | .sendFile => SendFileOp.construct cfg os op
  | .recvFile => RecvFileOp.construct cfg os op
  | _ => do
    .modify St.basicOp
    pure op

/-- `do_operation` of each class. -/
def doOperation (cfg : Config) (os : Os) (op : Op) : Ftp (Option Op) :=
  match op.kind with
  | .sendFile => SendFileOp.doOperation cfg op
  | .recvFile => RecvFileOp.doOperation cfg op
  | .list => ListOp.doOperation cfg op
  | .ack => do AckOp.doOperation cfg op.id; pure (some op)
  | .auth => do AuthOp.doOperation cfg op.id; pure (some op)
  | .createDir => do CreateDirOp.doOperation cfg os op.id; pure (some op)
  | .stat => do StatOp.doOperation cfg os op.id; pure (some op)
  | .syst => do SystOp.doOperation cfg op.id; pure (some op)
  | .printWorkingDir => do PrintWorkingDirOp.doOperation cfg op.id; pure (some op)
  | .changeWorkingDir => do ChangeWorkingDirOp.doOperation cfg os op.id; pure (some op)
  | .property => do PropertyOp.doOperation cfg op.id; pure (some op)
  | .passiveMode => do PassiveModeOp.doOperation cfg os op.id; pure (some op)
  | .size => do SizeOp.doOperation cfg os op.id; pure (some op)
  | .cdToParent => do CdToParentOp.doOperation cfg os op.id; pure (some op)

/-- The last reference to an operation goes, unless the operation was handed on. -/
def release (cfg : Config) : Option Op → Ftp Unit
  | some op => .modify (St.destroyOp cfg op)
  | none => pure ()

/-- An operation from its creation in `dispatch_task` to the end of `do_operation`. -/
def runOp (cfg : Config) (os : Os) (op : Op) : Ftp Unit := do
  let op ← construct cfg os op
  let rest ← doOperation cfg os op
  release cfg rest

/-! ## 2. Requests -/

/-- A request gets its number. -/
@[simps] def St.newRequest (s : St) : St :=
  { s with nextId := s.nextId + 1, log := .request s.nextId s.request s.currentPath :: s.log }

/-- A reply of `dispatch_task` itself: no operation is created. -/
def replyOnly (cfg : Config) (id : Nat) (b : SharedConstBuffer) : Ftp Bool := do
  writeReply cfg id b
  .modify (St.emit (.over id))
  pure false

/-- `Session::dispatch_task`. -/
def dispatchTask (cfg : Config) (os : Os) : Ftp Bool := do
  let s ← .get
  let id := s.nextId
  .modify St.newRequest
  if !s.verified then do
    runOp cfg os { id := id, kind := .auth }
    pure true
  else if s.request.command = "USER".toList then
    replyOnly cfg id
      (Response.getCodeStringInfo .notAllowed "Can't change to another user.".toList)
  else if s.request.command = "PASS".toList then
    replyOnly cfg id (Response.getCodeStringInfo .loggedOn "Already logged in.".toList)
  else match createKind s.request.command with
    | none => replyOnly cfg id (Response.getCodeString .syntaxError)
    | some kind => do
      runOp cfg os { id := id, kind := kind }
      pure true

/-- `build_request`: the words are joined with single spaces. -/
def buildRequest : List Text → Option FtpRequest
  | [] => none
  | c :: ws => some ⟨toUpper c, [' '].intercalate ws⟩

/-- `Session::handle_read`. -/
def handleRead (cfg : Config) (os : Os) (n : Nat) : Ftp Unit := do
  let s ← .get
  let words := splitWords (s.buf.take n)
  .modify fun s => { s with buf := s.buf.drop n, request := {} }
  let dispatched ← (match buildRequest words with
    | none => pure false
    | some req => do
      .modify fun s => { s with request := req }
      dispatchTask cfg os)
  if dispatched then pure ()
  else do
    let s ← .get
    if s.existsPendingOperator then pure () else .modify (St.updateIdleTimer cfg)

/-! ## 3. Handlers -/

/-- The handler of the banner's write in `Session::start`. -/
def onBanner (cfg : Config) (r : Result) : Ftp Unit :=
  if r = .ok then .modify (St.startIdleTimer ∘ St.doRead ∘ St.updateIdleTimer cfg) else pure ()

/-- The handler of `do_read`. -/
def onRead (cfg : Config) (os : Os) (r : Result) : Ftp Unit :=
  match r with
  | .err .eof => do
    .modify St.close
    let s ← .get
    if s.activeOpNum = 0 then pure () else .modify (St.start .keepAlive ∘ St.neverExpire)
  | .ok => do
    .modify St.neverExpire
    let s ← .get
    handleRead cfg os ((lineEnd s.buf).getD 0)
    .modify St.doRead
  | _ => pure ()

/-- The handler of `start_idle_timer`. It does not look at its error code. -/
def onIdleTimer : Ftp Unit := do
  let s ← .get
  if s.stoped then pure ()
  else if s.timerExpired then .modify (St.close ∘ St.emit .idleClose)
  else .modify St.startIdleTimer

/-- The token of a message. -/
def runToken : Token → Ftp Unit
  | .doSendFile op => SendFileOp.doSendFile op
  | .doRecvFile op => RecvFileOp.doRecvFile op
  | .writeListing op response => ListOp.writeListing op response

/-- The token of the message just written, where it has one. -/
def runFront : Option Token → Ftp Unit
  | some tok => do
    .modify (St.emit (.tokenRun tok.op.id))
    runToken tok
  | none => pure ()

/-- The handler of the write of `do_write_message`. -/
def onWritten (cfg : Config) (r : Result) : Ftp Unit := do
  .modify (St.emit (.ctlDone (r == .ok)))
  let s ← .get
  if r ≠ .ok then do
    .modify fun s => { s with messageQueue := [] }
    -- the swapped-out queue dies at the end: its tokens release their operations
    .modify fun s' => (s.messageQueue.filterMap (·.token)).foldl
      (fun t tok => t.destroyOp cfg tok.op) s'
  else match s.messageQueue with
    | [] => .throw .emptyQueue
    | m :: _ => do
      runFront m.token
      .modify St.popMessage
      doWriteMessage cfg

/-- What runs once the data connection is stored (`f` of `fetch_passive_connection`). -/
def onConnection (cfg : Config) (os : Os) (op : Op) : Ftp (Option Op) :=
  match op.kind with
  | .sendFile => SendFileOp.onConnection cfg os op
  | .recvFile => RecvFileOp.onConnection cfg op
  | _ => ListOp.handleDataConnection cfg os op

/-- The handler of `async_accept` in `fetch_passive_connection`. -/
def onAccept (cfg : Config) (os : Os) (op : Op) (r : Result) : Ftp (Option Op) :=
  match r with
  | .err .operationAborted => do
    acceptorLocalEndpoint
    pure (some op)
  | .conn c => do
    .modify St.closeAcceptor
    .modify (St.emit (.stored op.id c) ∘ St.setDataSocket c)
    onConnection cfg os op
  | _ => do
    .modify St.closeAcceptor
    pure (some op)

/-- The handler of a readiness wait on the data socket. -/
def onReady (cfg : Config) (os : Os) (op : Op) (r : Result) : Ftp (Option Op) :=
  match op.kind with
  | .recvFile => RecvFileOp.dealEvent cfg os op r
  | _ => SendFileOp.dealEvent cfg os op r (SendFileOp.sliceSize cfg)

/-- A handler runs to its end; the operation it captured goes with it, unless it was
    handed on. -/
def runTask (cfg : Config) (os : Os) (t : Task) (r : Result) : Ftp Unit :=
  match t with
  | .banner => onBanner cfg r
  | .read => onRead cfg os r
  | .idleWait => onIdleTimer
  | .keepAlive => pure ()
  | .ctlWrite => onWritten cfg r
  | .accept op => do release cfg (← onAccept cfg os op r)
  | .dataWait op _ => do release cfg (← onReady cfg os op r)
  | .limiter op => do
    release cfg (← SendFileOp.dealEvent cfg os op r (SendFileOp.sliceSize cfg))
  | .listWrite op c => do release cfg (← ListOp.onWritten cfg op c r)

/-! ## 4. One step of the event loop -/

inductive Ev where
  /-- Bytes arrive on the control connection while a read is outstanding. -/
  | clientSend (chunk : Text)
  /-- The peer of the control connection is gone. -/
  | clientGone
  | peerSend (c : ConnId) (bytes : Bytes)
  | peerShutdown (c : ConnId)
  /-- The connection is reset. Bytes that came before it and are read after it count as read
      before it: the event stands behind their reads. -/
  | peerReset (c : ConnId)
  | tick (ms : Nat)
  /-- The operation at index `i` of the pool completes. -/
  | complete (i : Nat) (r : Result)
  /-- The queued handler at index `i` of the pool runs. -/
  | run (i : Nat) (os : Os)

def peerOf (c : ConnId) (s : St) : PeerState := (s.conns.getD c {}).peer

/-- How the outstanding operation `t` can complete by itself. `operation_aborted`
    comes from cancelling only. -/
def canComplete (s : St) (t : Task) (r : Result) : Bool :=
  match t, r with
  | _, .err .operationAborted => false
  | .read, .ok => false
  | .read, .err _ => true
  | .idleWait, .ok | .keepAlive, .ok => s.timerExpired
  | .accept _, .conn c => s.acceptor.listening.isSome && c == s.conns.length
  | .accept _, .err _ => true
  | .dataWait op c, .ok =>
    op.kind != .recvFile || !(RecvFileOp.inboxOf c s).isEmpty || peerOf c s != .connected
  | .dataWait _ _, .err _ => true
  | .banner, .ok | .ctlWrite, .ok | .listWrite _ _, .ok | .limiter _, .ok => true
  | .banner, .err _ | .ctlWrite, .err _ | .listWrite _ _, .err _ => true
  | _, _ => false

/-- The completion of an operation. An accept that hands over a connection makes it. -/
@[simps] def St.completeAt (i : Nat) (r : Result) (s : St) : St :=
  { s with
    handlers := s.handlers.complete i r
    conns := match r with
      | .conn _ => s.conns ++ [{}]
      | _ => s.conns }

/-- Bytes join the buffer; with a whole line there, the outstanding read completes. -/
@[simps] def St.receive (chunk : Text) (s : St) : St :=
  { s with
    buf := s.buf ++ chunk
    handlers := if (lineEnd (s.buf ++ chunk)).isSome then s.handlers.cancel (· == .read) .ok
      else s.handlers }

/-- The handler at `i` is taken out of the pool to be run. -/
@[simps] def St.takeHandler (i : Nat) (s : St) : St := { s with handlers := s.handlers.eraseIdx i }

@[simps] def St.updateConn (c : ConnId) (f : Conn → Conn) (s : St) : St :=
  { s with conns := s.conns.modify c f }

/-- The end of a handler: `~Session` where it was the last that held the session. -/
@[simps] def St.releaseSession (t : Task) (s : St) : St :=
  { s with destroyed := s.destroyed || (t.isStrong && !(s.handlers.tasks.any Task.isStrong)) }

/-- The operation at `i` completes, if it is outstanding and can complete so. -/
def completeHandler (s : St) (i : Nat) (r : Result) : Except Fault St :=
  match s.handlers[i]? with
  | some ⟨t, none⟩ => if canComplete s t r then .ok (s.completeAt i r) else .error .disabled
  | _ => .error .disabled

/-- The handler at `i` runs, if it is queued. -/
def runHandler (cfg : Config) (s : St) (i : Nat) (os : Os) : Except Fault St :=
  match s.handlers[i]? with
  | some ⟨t, some r⟩ =>
    match runTask cfg os t r (s.takeHandler i) with
    | .ok (_, s') => .ok (s'.releaseSession t)
    | .error f => .error f
  | _ => .error .disabled

/-- What the event `e` does to a session that is there. -/
def happen (cfg : Config) (s : St) : Ev → Except Fault St
  | .clientSend chunk =>
    if s.handlers.any (fun h => h.task == .read && h.result == none) then .ok (s.receive chunk)
    else .error .disabled
  | .clientGone => .ok { s with peerAlive := false }
  | .peerSend c bytes =>
    if c < s.conns.length ∧ peerOf c s = .connected then
      .ok ((s.updateConn c fun k => { k with inbox := k.inbox ++ bytes }).emit (.peerSent c bytes))
    else .error .disabled
  | .peerShutdown c =>
    if c < s.conns.length ∧ peerOf c s = .connected then
      .ok ((s.updateConn c fun k => { k with peer := .shutdown }).emit (.peerShutdown c))
    else .error .disabled
  | .peerReset c =>
    if c < s.conns.length ∧ peerOf c s ≠ .reset then
      .ok ((s.updateConn c fun _ => { inbox := [], peer := .reset }).emit (.peerReset c))
    else .error .disabled
  | .tick ms => .ok { s with now := s.now + ms }
  | .complete i r => completeHandler s i r
  | .run i os => runHandler cfg s i os

/-- **One step.** Nothing happens any more once the session is gone. -/
def step (cfg : Config) (s : St) (e : Ev) : Except Fault St :=
  if s.destroyed then .error .disabled else happen cfg s e

/-- The state `Session::Session` and `Session::start` leave. `SessionContext` does not
    initialise `active_op_num_`; the timer's expiry is the epoch until it is set. -/
def St.init (cfg : Config) (home : Path) (activeOpNum : UInt32) (now : Int) : St :=
  { idleExpiry := some 0, currentPath := home, activeOpNum := activeOpNum, now := now,
    handlers := [⟨.banner, none⟩],
    log := [.ctlStarted (Response.getCodeStringInfo .welcome
      (if cfg.ftpdBanner.isEmpty then "Welcome to ftpd.".toList else cfg.ftpdBanner))] }

/-- The accept handler of the server makes and starts a session: before all else the
    constructor asks for the address of the peer, which may be gone. -/
def startSession (cfg : Config) (home : Path) (activeOpNum : UInt32) (now : Int)
    (peerAlive : Bool) : Except Fault St :=
  match remoteEndpoint { St.init cfg home activeOpNum now with peerAlive := peerAlive } with
  | .ok (_, s) => .ok s
  | .error f => .error f

end OrangeFtpd
