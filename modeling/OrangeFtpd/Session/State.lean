/-
  File:      OrangeFtpd/Session/State.lean
  Subject:   The state of one session and of the event loop it runs in.

  A session is served by one worker thread: its handlers run one after the
  other, each to its end. The state `St` holds the members of `Session` and
  `SessionContext`, the pool of started asynchronous operations with their
  handlers (`handlers`), the data connections, and a log of what was done.

  Operations (`BasicOp`) are shared objects, but at every time between two
  handlers exactly one capture holds one: the handler of its pending accept,
  wait, timer or write, or the token of its queued message. The model keeps the
  operation in that capture (`Task`, `Token`); a capture dropped without being
  passed on destroys it.
-/
import OrangeFtpd.Lib.Act
import OrangeFtpd.Lib.Pool
import OrangeFtpd.Config
import OrangeFtpd.Filesystem
import OrangeFtpd.Session.Code

namespace OrangeFtpd

/-! ## 1. Data -/

/-- `transport_type`. -/
inductive TransportType where
  | ascii | binary
  deriving DecidableEq, Repr

/-- `FtpRequest`. -/
structure FtpRequest where
  command : Text := []
  body : Text := []
  deriving DecidableEq, Repr

/-- The classes derived from `BasicOp`. -/
inductive OpKind where
  | ack | auth | createDir | sendFile | recvFile | stat | syst | printWorkingDir
  | changeWorkingDir | property | passiveMode | list | size | cdToParent
  deriving DecidableEq, Repr

/-- The operations that use a data connection. -/
def OpKind.isTransfer : OpKind → Bool
  | .sendFile | .recvFile | .list => true
  | _ => false

abbrev ConnId := Nat
abbrev Bytes := List UInt8

/-- A live operation. `id` is the number of the request it was created for;
    `file` is the file behind `fd` and `fdOffset` the kernel's write offset of it
    (no members of the class: they say what the descriptor refers to). -/
structure Op where
  id : Nat
  kind : OpKind
  fd : Int := 0
  fileName : Path := []
  fileSize : Nat := 0
  fileOffset : Nat := 0
  /-- `pipe_fd_`; `none` while it still holds the zeros it starts with. -/
  pipeFd : Option (Nat × Nat) := none
  /-- `completion_token_` is set. -/
  completionToken : Bool := false
  file : FileId := 0
  fdOffset : Nat := 0
  deriving DecidableEq, Repr

/-- The token of a message: what runs after the message was written. -/
inductive Token where
  | doSendFile (op : Op)
  | doRecvFile (op : Op)
  | writeListing (op : Op) (response : Text)
  deriving DecidableEq, Repr

def Token.op : Token → Op
  | .doSendFile op | .doRecvFile op | .writeListing op _ => op

/-- `Message`. -/
structure Message where
  buffer : SharedConstBuffer
  token : Option Token := none
  deriving DecidableEq, Repr

/-- The handlers of the session's asynchronous operations, with what they capture. -/
inductive Task where
  /-- The write of the banner (`Session::start`); holds the session. -/
  | banner
  /-- `async_read_until` of `do_read`; holds the session. -/
  | read
  /-- The wait of `start_idle_timer`; a raw pointer to the session. -/
  | idleWait
  /-- The wait `do_read` installs at end of file; holds the session. -/
  | keepAlive
  /-- The write of `do_write_message`; a raw pointer to the context. -/
  | ctlWrite
  /-- `async_accept` of `fetch_passive_connection`. -/
  | accept (op : Op)
  /-- The readiness wait of `do_send_file` / `do_recv_file` on a connection. -/
  | dataWait (op : Op) (c : ConnId)
  /-- The wait on `limiter_timer_`. -/
  | limiter (op : Op)
  /-- The write of a listing on a connection. -/
  | listWrite (op : Op) (c : ConnId)
  deriving DecidableEq, Repr

/-- The operation a handler captures. -/
def Task.op? : Task → Option Op
  | .accept op | .dataWait op _ | .limiter op | .listWrite op _ => some op
  | .banner | .read | .idleWait | .keepAlive | .ctlWrite => none

/-- The handler holds a strong reference to the session. -/
def Task.isStrong : Task → Bool
  | .banner | .read | .keepAlive => true
  | _ => false

/-- A wait on `check_idle_timer_`. -/
def Task.isTimerWait : Task → Bool
  | .idleWait | .keepAlive => true
  | _ => false

/-- An operation on the control socket. -/
def Task.isControl : Task → Bool
  | .banner | .read | .ctlWrite => true
  | _ => false

def Task.isAccept : Task → Bool
  | .accept _ => true
  | _ => false

/-- An operation on the data connection `c`. -/
def Task.onConn (c : ConnId) : Task → Bool
  | .dataWait _ c' | .listWrite _ c' => c' == c
  | _ => false

/-- The error codes the handlers tell apart. -/
inductive ErrorCode where
  | eof | operationAborted | badDescriptor | connectionReset | other (n : Nat)
  deriving DecidableEq, Repr

/-- How an asynchronous operation completed. -/
inductive Result where
  | ok
  /-- An accept that handed over a connection. -/
  | conn (c : ConnId)
  | err (ec : ErrorCode)
  deriving DecidableEq, Repr

/-- What stops a handler, or makes the model refuse an event. -/
inductive Fault where
  /-- The event cannot happen in this state. -/
  | disabled
  /-- `fs::filesystem_error` leaves the handler. -/
  | filesystemError (e : Errno)
  /-- `std::system_error` of an endpoint query on a socket where it is undefined. -/
  | endpointError
  /-- `std::system_error` of another throwing socket call. -/
  | socketError
  /-- `context_->data_socket()` is null and is dereferenced. -/
  | nullDataSocket
  /-- `front()` of the empty message queue. -/
  | emptyQueue
  /-- The handler is still in a loop (the script of system-call results is used
      up before the loop ends). -/
  | running
  deriving DecidableEq, Repr

/-! ## 2. The log -/

/-- A change made to the file system by the server. -/
inductive FsEffect where
  /-- `open` with `O_CREAT | O_TRUNC` succeeded. -/
  | opened (file : FileId) (path : Path) (created : Bool)
  | madeDirectory (path : Path)
  | wrote (file : FileId) (offset : Nat) (bytes : Bytes)
  deriving DecidableEq, Repr

/-- Payload on a data connection. -/
inductive Payload where
  /-- `sendfile` passed `n` bytes of the file, from `offset` on. -/
  | sent (offset n : Nat)
  | received (bytes : Bytes)
  | listing (text : Text)
  deriving DecidableEq, Repr

/-- What is logged. `id` is the request on whose behalf it is done. -/
inductive Obs where
  /-- A request was dispatched while `cwd` was the working directory. -/
  | request (id : Nat) (req : FtpRequest) (cwd : Path)
  /-- `write_message` was called. -/
  | reply (id : Nat) (buffer : SharedConstBuffer)
  /-- The operation of the request was destroyed, or `dispatch_task` returned
      without having created one. -/
  | over (id : Nat)
  /-- The operation names the file or directory it acts on. -/
  | target (id : Nat) (path : Path)
  | fs (id : Nat) (e : FsEffect)
  /-- PASV announced a port. -/
  | announced (port : UInt16)
  /-- The accept handler of the operation stored a data connection. -/
  | stored (id : Nat) (c : ConnId)
  /-- The transfer code uses `context_->data_socket()`; `none`: it is null. -/
  | touch (id : Nat) (slot : Option ConnId)
  | payload (id : Nat) (c : ConnId) (p : Payload)
  /-- The write of the listing ended, without error or with one. -/
  | listed (id : Nat) (c : ConnId) (ok : Bool)
  /-- The transfer queues its 226. -/
  | complete (op : Op)
  | peerSent (c : ConnId) (bytes : Bytes)
  | peerShutdown (c : ConnId)
  | peerReset (c : ConnId)
  /-- `do_write_message` starts a write on the control socket. -/
  | ctlStarted (buffer : SharedConstBuffer)
  /-- A control write ended, without error or with one. -/
  | ctlDone (ok : Bool)
  /-- The token of the message just written runs. -/
  | tokenRun (id : Nat)
  /-- The handler of `start_idle_timer` closes the session. -/
  | idleClose
  | closed
  deriving DecidableEq, Repr

/-! ## 3. The state -/

/-- `data_socket_` where it is not null. -/
structure DataSocket where
  conn : ConnId
  isOpen : Bool
  deriving DecidableEq, Repr

/-- `acceptor_`. -/
structure Acceptor where
  isOpen : Bool
  /-- The port it is bound to and listens on. -/
  listening : Option UInt16
  deriving DecidableEq, Repr

inductive PeerState where
  | connected | shutdown | reset
  deriving DecidableEq, Repr

/-- A data connection: the bytes the peer sent that are not read yet. -/
structure Conn where
  inbox : Bytes := []
  peer : PeerState := .connected
  deriving DecidableEq, Repr

structure St where
  /-- `asio::streambuf buf`. -/
  buf : Text := []
  /-- The expiry of `check_idle_timer_`; `none` is `time_point::max()`. -/
  idleExpiry : Option Int
  stoped : Bool := false
  /-- `~Session` has run. -/
  destroyed : Bool := false
  currentPath : Path
  verified : Bool := false
  user : Text := []
  password : Text := []
  request : FtpRequest := {}
  isAnonymous : Bool := false
  type : TransportType := .binary
  messageQueue : List Message := []
  activeOpNum : UInt32
  dataSocket : Option DataSocket := none
  acceptor : Acceptor := ⟨false, none⟩
  /-- `control_socket_` is open. -/
  controlOpen : Bool := true
  /-- The peer of the control connection is still there. -/
  peerAlive : Bool := true
  handlers : Pool Task Result
  conns : List Conn := []
  /-- The clock, in milliseconds. -/
  now : Int
  /-- The number of the next request. -/
  nextId : Nat := 0
  /-- Newest first. -/
  log : List Obs := []
  deriving DecidableEq, Repr

/-- The operations that the tokens of queued messages hold. -/
def St.queuedOps (s : St) : List Op := s.messageQueue.filterMap (·.token.map Token.op)

/-- The operations that are alive between two handlers. -/
def St.liveOps (s : St) : List Op := s.handlers.tasks.filterMap Task.op? ++ s.queuedOps

/-! ## 4. The answers of the operating system in one handler -/

/-- The answer of `::sendfile`: `sent k` passes `k` bytes, or as many as were
    asked for if these are fewer. -/
inductive SendfileResult where
  | sent (k : Nat)
  | wouldBlock
  | failed
  deriving DecidableEq, Repr

/-- The answer of the splice from the pipe to the file. -/
inductive DrainResult where
  | put (k : Nat)
  | failed
  deriving DecidableEq, Repr

/-- The answer of the splice from the data socket to the pipe. After one that
    moved bytes come the answers of the inner loop. -/
inductive SpliceResult where
  | moved (k : Nat) (drain : List DrainResult)
  | eof
  | interrupted
  | wouldBlock
  | failed
  deriving DecidableEq, Repr

/-- The answers to the system calls of one handler; `stat k` is the `k`th status
    query of a path. -/
structure Os where
  stat : Nat → StatResult := fun _ => .error .noent
  canonical : Except Errno Path := .error .noent
  mkdir : MkdirResult := .failed .acces
  openFile : OpenResult := .error .noent
  /-- The file did not exist before `openFile`. -/
  created : Bool := false
  /-- The two descriptors, or `none` where `::pipe` fails. -/
  pipe : Option (Nat × Nat) := none
  listing : DirListing := ⟨[], none⟩
  /-- `acceptor.open` without error. -/
  acceptorOpen : Bool := true
  /-- `set_option(reuse_address)` does not throw. -/
  reuseAddress : Bool := true
  /-- The port `acceptor.bind` got, or `none` on error. -/
  bind : Option UInt16 := none
  /-- `acceptor.listen` does not throw. -/
  listen : Bool := true
  /-- `set_option(no_delay)` does not throw. -/
  noDelay : Bool := true
  /-- The local address of the control socket. -/
  localAddress : Text := []
  /-- `Config::client_num`. -/
  clientNum : Int := 1
  sendfile : SendfileResult := .wouldBlock
  splices : List SpliceResult := []

/-- A handler of the session, run with the answers of the operating system. -/
abbrev Ftp := Act St Fault

/-- Call a throwing file-system function. -/
def liftFs {α : Type} (r : Except Errno α) : Ftp α := .lift (r.mapError .filesystemError)

@[simp] theorem liftFs_ok {α : Type} {r : Except Errno α} {a : α} {s s' : St} :
    (liftFs r : Ftp α) s = .ok (a, s') ↔ r = .ok a ∧ s' = s := by
  unfold liftFs
  rw [Act.lift_ok]
  cases r <;> simp [Except.mapError]

end OrangeFtpd
