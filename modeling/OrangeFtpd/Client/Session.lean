/-
  File:      OrangeFtpd/Client/Session.lean
  Subject:   The chain of requests of a client that downloads a file (`async_session`
             and the operations of `Client` that it is made of).

  Every continuation of the chain runs, whatever happened before: a failure is a value
  that it is given, and it then asks for nothing. But what it asks for is built before it
  is chosen, and `do_recv_op` opens the local file when it is built.

  * `requestFile_returns`: the chain comes to the RETR reply exactly if no stage throws.
  * `failed_download_iff`: where RETR is not accepted, the local file is left alone and
    the session ends with false exactly if that file cannot be opened and nothing throws.
-/
import OrangeFtpd.Lib.Returns
import OrangeFtpd.Filesystem
import OrangeFtpd.Request.Codec
import OrangeFtpd.Client.Passive

namespace OrangeFtpd

namespace Client

/-! ## 1. The client and its world -/

/-- How the wait for a reply ends. -/
inductive Wait where
  /-- The timer is first; so much has come. -/
  | timeout (bytes : Text)
  /-- So much comes; without a line in it the read ends with an error. -/
  | arrives (bytes : Text)

/-- `control_socket_`. -/
inductive ControlSocket where
  | closed | unconnected | connected
  deriving DecidableEq

/-- What the client is started with, as far as the chain uses it. -/
structure Arguments where
  file : Text
  dummy : Bool

/-- What the other side and the operating system answer in one session. -/
structure World where
  /-- The host name is resolved. -/
  resolve : Bool
  /-- How `async_connect` leaves the control socket. -/
  connect : ControlSocket
  welcome : Wait
  user : Wait
  pass : Wait
  size : Wait
  pasv : Wait
  /-- The address of the 227 reply is resolved and connected. -/
  dataConnect : Bool
  retr : Wait
  openFile : OpenResult
  pipe : Option Errno
  /-- Bytes come on the data connection, and the update hook is called with each piece. -/
  progress : Bool
  /-- What `do_recv_file` completes with. -/
  recvFile : Bool
  complete : Wait

/-- What the chain changes. -/
structure State where
  controlSocket : ControlSocket := .closed
  buf : Text := []
  /-- What was given to `async_write`. -/
  sent : Text := []
  /-- The files that were opened with `O_CREAT` and `O_TRUNC`. -/
  opened : List Path := []
  /-- `*file_size`. -/
  fileSize : Int := 0

/-- The exceptions that the chain can throw, and the division that kills the client. -/
inductive ClientError where
  | badDescriptor
  | number (e : StoError)
  | divisionByZero
  deriving DecidableEq

/-- A deferred operation. -/
abbrev Deferred (α : Type) : Type := Act State ClientError α

open Act

/-- `asio::deferred.when(c).then(op).otherwise(other)`; both are built already. -/
def deferredWhen {α : Type} (c : Bool) (op other : Deferred α) : Deferred α :=
  if c then op else other

/-- `control_socket_.local_endpoint()`: throws where the socket is not open. -/
def localEndpoint : Deferred Unit := do
  if (← get).controlSocket = .closed then throw .badDescriptor

/-- A number that is parsed. -/
def number {α : Type} (r : Except StoError α) : Deferred α := lift (r.mapError .number)

/-- `Client::get_read_with_timeout_op`. -/
def getReadWithTimeoutOp (wait : Wait) : Deferred (Option FtpResponse) := do
  let s ← get
  if s.controlSocket ≠ .connected then
    -- a read from such a socket ends at once, with an error
    localEndpoint
    return none
  else
    match wait with
    | .timeout bytes =>
      modify fun s => { s with buf := s.buf ++ bytes }
      localEndpoint
      return none
    | .arrives bytes =>
      match readReply (s.buf ++ bytes) with
      | none =>
        modify fun s => { s with buf := s.buf ++ bytes }
        localEndpoint
        return none
      | some (resp, rest) =>
        modify fun s => { s with buf := rest }
        number resp

/-- The reply is there and has the code. -/
def hasCode (code : RetCode) (resp : Option FtpResponse) : Bool :=
  resp.any fun r => r.code == (code.toNat : Int)

/-- `resp.value().msg`. -/
def message (resp : Option FtpResponse) : Text := (resp.map FtpResponse.msg).getD []

/-- `Client::async_init`. -/
def asyncInit (w : World) : Deferred Bool := do
  let socket := if w.resolve then w.connect else .closed
  modify fun s => { s with controlSocket := socket }
  if socket = .connected then localEndpoint
  let resp ← getReadWithTimeoutOp w.welcome
  return hasCode .welcome resp

/-- `Client::async_call`; the error of the write is not looked at. -/
def asyncCall (req : FtpRequest) (wait : Wait) : Deferred (Option FtpResponse) := do
  modify fun s => { s with sent := s.sent ++ buildReq req }
  getReadWithTimeoutOp wait

/-- `Client::async_establish_data_connection`: the port of the endpoint, if there is one. -/
def asyncEstablishDataConnection (w : World) (port : UInt16) : Deferred (Option UInt16) :=
  return if w.dataConnect then some port else none

/-- `RecvFileImpl::do_recv_file`, with its update hook. -/
def doRecvFile (w : World) (hook : Deferred Unit) : Deferred Bool := do
  -- the hook changes nothing, so that its first call decides
  if w.progress then hook
  return w.recvFile

/-- `Client::do_recv_op`: the file is opened when the operation is built. -/
def doRecvOp (args : Arguments) (w : World) (hook : Deferred Unit) : Deferred (Deferred Bool) := do
  let path := if args.dummy then "/dev/null".toList else args.file
  let cond ← match w.openFile with
    | .ok _ => do
      modify fun s => { s with opened := path :: s.opened }
      pure w.pipe.isNone
    | .error _ => pure false
  localEndpoint
  return deferredWhen cond (doRecvFile w hook) (return false)

/-! ## 2. The continuations of `async_session` -/

section

variable (args : Arguments) (w : World)

def onInit (initRet : Bool) : Deferred (Option FtpResponse) :=
  deferredWhen initRet (asyncCall ⟨"user".toList, "anonymous".toList⟩ w.user) (return none)

def onUser (resp : Option FtpResponse) : Deferred (Option FtpResponse) :=
  deferredWhen (hasCode .passwordRequired resp) (asyncCall ⟨"pass".toList, []⟩ w.pass) (return none)

def onPass (resp : Option FtpResponse) : Deferred (Option FtpResponse) :=
  deferredWhen (hasCode .loggedOn resp) (asyncCall ⟨"size".toList, args.file⟩ w.size) (return none)

def onSize (resp : Option FtpResponse) : Deferred (Option FtpResponse) := do
  let cond := hasCode .sizeOrMdtmOk resp
  if cond then
    let fileSize ← number (stol (message resp))
    modify fun s => { s with fileSize }
  deferredWhen cond (asyncCall ⟨"pasv".toList, []⟩ w.pasv) (return none)

def onPasv (resp : Option FtpResponse) : Deferred (Option UInt16) := do
  let found ← if hasCode .pasvOk resp then number (pasvEndpoint (message resp)) else pure none
  match found with
  | some (_, port) => asyncEstablishDataConnection w port
  | none => return none

def onDataConnection (port : Option UInt16) : Deferred (Option FtpResponse) :=
  deferredWhen (port.any fun p => 0 < p) (asyncCall ⟨"retr".toList, args.file⟩ w.retr) (return none)

/-- `bar.set_progress(size * 100 / *file_size)`, without the bar. -/
def updateHook : Deferred Unit := do
  if args.dummy = false then
    if (← get).fileSize = 0 then throw .divisionByZero

def onRetr (resp : Option FtpResponse) : Deferred Bool := do
  let recv ← doRecvOp args w (updateHook args)
  deferredWhen (hasCode .dataConn resp) recv (return false)

def onReceived (recvRet : Bool) : Deferred (Option FtpResponse) :=
  deferredWhen recvRet (getReadWithTimeoutOp w.complete) (return none)

def onComplete (resp : Option FtpResponse) : Deferred Bool :=
  deferredWhen (hasCode .transferComplete resp) (return true) (return false)

/-- The chain up to the reply to RETR. -/
def requestFile : Deferred (Option FtpResponse) := do
  let initRet ← asyncInit w
  let resp ← onInit w initRet
  let resp ← onUser w resp
  let resp ← onPass args w resp
  let resp ← onSize w resp
  let port ← onPasv w resp
  onDataConnection args w port

/-- `async_session`. -/
def asyncSession : Deferred Bool := do
  let resp ← requestFile args w
  let recvRet ← onRetr args w resp
  let resp ← onReceived w recvRet
  onComplete resp

/-- RETR is answered with 150. -/
def Accepted : Prop :=
  ∃ resp s, requestFile args w {} = .ok (resp, s) ∧ hasCode .dataConn resp = true

/-- **The session fails and leaves the local file alone**: its result is false, and the file
    was neither created nor truncated. -/
def FailsCleanly : Prop := ∃ s, asyncSession args w {} = .ok (false, s) ∧ args.file ∉ s.opened

end

/-! ## 3. Stages -/

section

variable {ε σ : Type}

/-- A stage stops, goes on with a new state, or throws. -/
abbrev Stage (ε σ : Type) : Type := σ → Except ε (Option σ)

/-- No stage that is come to throws. -/
def Survives : List (Stage ε σ) → σ → Prop
  | [], _ => True
  | f :: fs, s =>
    match f s with
    | .error _ => False
    | .ok none => True
    | .ok (some s') => Survives fs s'

end

/-- What a wait makes of a reply, on the bytes that were left over: it stops without one and
    with another code; `check` is what the chain does with its text. -/
def replyStage (wait : Wait) (code : RetCode) (check : Text → Except StoError Bool) :
    Stage StoError Text := fun buf =>
  match wait with
  | .timeout _ => .ok none
  | .arrives bytes =>
    match readReply (buf ++ bytes) with
    | none => .ok none
    | some (.error e, _) => .error e
    | some (.ok resp, rest) =>
      if hasCode code resp then
        (check (message resp)).map fun goesOn => if goesOn then some rest else none
      else .ok none

/-- A text that nothing is done with. -/
def noCheck (_ : Text) : Except StoError Bool := .ok true

/-- The six replies up to the one to RETR. -/
def World.stages (w : World) : List (Stage StoError Text) :=
  [replyStage w.welcome .welcome noCheck,
   replyStage w.user .passwordRequired noCheck,
   replyStage w.pass .loggedOn noCheck,
   replyStage w.size .sizeOrMdtmOk fun msg => (stol msg).map fun _ => true,
   replyStage w.pasv .pasvOk fun msg => (pasvEndpoint msg).map fun found =>
     w.dataConnect && found.any fun et => 0 < et.2,
   replyStage w.retr .dataConn noCheck]

/-- **Nothing throws**: there is a socket for the control connection, and up to the reply
    that ends the chain every number can be read. -/
def World.Harmless (w : World) : Prop :=
  w.resolve = true ∧ w.connect ≠ .closed ∧ (w.connect = .connected → Survives w.stages [])

/-- The control socket can be asked, and the local file was not touched. -/
structure Ready (s : State) : Prop where
  asks : s.controlSocket ≠ .closed
  opened : s.opened = []

/-- The client waits for replies. -/
structure Online (s : State) : Prop extends Ready s where
  connected : s.controlSocket = .connected

/-- What comes after a reply: without it and with another code the chain ends well; else the
    remaining stages decide. -/
structure Tail (code : RetCode) (check : Text → Except StoError Bool)
    (fs : List (Stage StoError Text)) (Q : Option FtpResponse → State → Prop) : Prop where
  stopped : ∀ resp s, Ready s → hasCode code resp = false → Q resp s
  answered : ∀ resp s, Online s → hasCode code resp = true →
    (Q resp s ↔ ∃ goesOn, check (message resp) = .ok goesOn ∧ (goesOn = true → Survives fs s.buf))

section

variable {args : Arguments} {w : World} {s : State} {wait : Wait} {code : RetCode}
  {check : Text → Except StoError Bool} {fs : List (Stage StoError Text)}
  {Q : Option FtpResponse → State → Prop}

theorem exists_ok {ε α : Type} {a : α} {R : α → Prop} :
    (∃ b, (Except.ok a : Except ε α) = .ok b ∧ R b) ↔ R a :=
  ⟨fun ⟨_, hb, hr⟩ => Except.ok.inj hb ▸ hr, fun hr => ⟨a, rfl, hr⟩⟩

theorem localEndpoint_returns {Q : Unit → State → Prop} (h : s.controlSocket ≠ .closed) :
    Returns localEndpoint s Q ↔ Q () s := by
  unfold localEndpoint
  rw [Returns.bind, Returns.get, if_neg h, Returns.pure]

/-- Where the control socket is not connected, a read gives no reply. -/
theorem read_unconnected (h : s.controlSocket = .unconnected) :
    Returns (getReadWithTimeoutOp wait) s Q ↔ Q none s := by
  unfold getReadWithTimeoutOp
  rw [Returns.bind, Returns.get, if_pos (by rw [h]; decide), Returns.bind,
    localEndpoint_returns (by rw [h]; decide), Returns.pure]

/-- Where there is no socket, it throws. -/
theorem read_closed (h : s.controlSocket = .closed) : ¬ Returns (getReadWithTimeoutOp wait) s Q := by
  unfold getReadWithTimeoutOp localEndpoint
  rw [Returns.bind, Returns.get, if_pos (by rw [h]; decide), Returns.bind, Returns.bind, Returns.get,
    if_pos h]
  exact Returns.throw

theorem number_returns {α : Type} {r : Except StoError α} {Q : α → State → Prop} :
    Returns (number r) s Q ↔ ∃ a, r = .ok a ∧ Q a s := by
  have same : ∀ a, r.mapError ClientError.number = .ok a ↔ r = .ok a := by
    intro a
    cases r with
    | ok b =>
      constructor
      · exact fun h => congrArg _ (Except.ok.inj h)
      · exact fun h => congrArg _ (Except.ok.inj h)
    | error e => exact iff_of_false (fun h => by cases h) (fun h => by cases h)
  unfold number
  rw [Returns.lift]
  exact exists_congr fun a => and_congr_left fun _ => same a

/-- **One wait** is one stage. -/
theorem read_returns (h : Tail code check fs Q) (hs : Online s) :
    Returns (getReadWithTimeoutOp wait) s Q ↔ Survives (replyStage wait code check :: fs) s.buf := by
  have none_stops : hasCode code none = false := rfl
  have ready : ∀ buf, Ready { s with buf := buf } := fun _ => ⟨hs.asks, hs.opened⟩
  unfold getReadWithTimeoutOp Survives replyStage
  rw [Returns.bind, Returns.get, if_neg (not_not.mpr hs.connected)]
  cases wait with
  | timeout bytes =>
    dsimp only
    rw [Returns.bind, Returns.modify, Returns.bind, localEndpoint_returns (ready _).asks, Returns.pure]
    exact iff_of_true (h.stopped _ _ (ready _) none_stops) trivial
  | arrives bytes =>
    dsimp only
    cases hr : readReply (s.buf ++ bytes) with
    | none =>
      dsimp only
      rw [Returns.bind, Returns.modify, Returns.bind, localEndpoint_returns (ready _).asks, Returns.pure]
      exact iff_of_true (h.stopped _ _ (ready _) none_stops) trivial
    | some r =>
      obtain ⟨resp, rest⟩ := r
      dsimp only
      rw [Returns.bind, Returns.modify, number_returns]
      cases resp with
      | error e => exact iff_of_false (fun ⟨_, ha, _⟩ => by cases ha) id
      | ok resp =>
        have ready : Ready { s with buf := rest } := ⟨hs.asks, hs.opened⟩
        have online : Online { s with buf := rest } := { ready with connected := hs.connected }
        dsimp only
        rw [exists_ok]
        cases hc : hasCode code resp with
        | false =>
          rw [if_neg Bool.false_ne_true]
          exact iff_of_true (h.stopped _ _ ready hc) trivial
        | true =>
          rw [if_pos rfl, h.answered _ _ online hc]
          cases check (message resp) with
          | error e => exact iff_of_false (fun ⟨_, ha, _⟩ => by cases ha) id
          | ok goesOn =>
            rw [exists_ok]
            cases goesOn with
            | false => exact iff_of_true nofun trivial
            | true => exact forall_prop_of_true rfl

theorem deferredWhen_returns {α : Type} {c : Bool} {op other : Deferred α} {Q : α → State → Prop} :
    Returns (deferredWhen c op other) s Q ↔
      (c = true → Returns op s Q) ∧ (c = false → Returns other s Q) := by
  unfold deferredWhen
  rw [Returns.ite, Bool.not_eq_true]

theorem call_returns {req : FtpRequest} (h : Tail code check fs Q) (hs : Online s) :
    Returns (asyncCall req wait) s Q ↔ Survives (replyStage wait code check :: fs) s.buf := by
  unfold asyncCall
  rw [Returns.bind, Returns.modify]
  exact read_returns h { hs with }

theorem noCheck_iff {t : Text} {P : Prop} :
    (∃ goesOn, noCheck t = .ok goesOn ∧ (goesOn = true → P)) ↔ P :=
  exists_ok.trans (forall_prop_of_true rfl)

/-- **A continuation that makes a request** if the reply has its code: one more stage. -/
theorem Tail.call {req : FtpRequest} {c : RetCode} (h : Tail code check fs Q) :
    Tail c noCheck (replyStage wait code check :: fs) fun resp s =>
      Returns (deferredWhen (hasCode c resp) (asyncCall req wait) (return none)) s Q where
  stopped resp s hs hc := by
    rw [deferredWhen, if_neg (by rw [hc]; exact Bool.false_ne_true), Returns.pure]
    exact h.stopped none s hs rfl
  answered resp s hs hc := by
    rw [deferredWhen, if_pos hc, call_returns h hs, noCheck_iff]

theorem retr_tail {P : State → Prop} (hP : ∀ s, Ready s → P s) :
    Tail .dataConn noCheck [] fun _ s => P s where
  stopped _ s hs _ := hP s hs
  answered _ s hs _ := iff_of_true (hP s hs.toReady) (noCheck_iff.mpr trivial)

theorem onDataConnection_none (h : Tail code check fs Q) (hs : Ready s) :
    Returns (onDataConnection args w none) s Q := by
  unfold onDataConnection
  rw [deferredWhen, if_neg (by exact Bool.false_ne_true), Returns.pure]
  exact h.stopped none s hs rfl

theorem onDataConnection_some {port : UInt16} (h : Tail code check fs Q) (hs : Online s) :
    Returns (onDataConnection args w (some port)) s Q ↔
      (decide (0 < port) = true → Survives (replyStage w.retr code check :: fs) s.buf) := by
  unfold onDataConnection
  rw [deferredWhen_returns, call_returns h hs, Returns.pure]
  exact and_iff_left fun _ => h.stopped none s hs.toReady rfl

/-- The data connection is a part of the stage of the 227 reply. -/
theorem pasv_tail (h : Tail .dataConn noCheck [] Q) :
    Tail .pasvOk
      (fun msg => (pasvEndpoint msg).map fun found => w.dataConnect && found.any fun et => 0 < et.2)
      [replyStage w.retr .dataConn noCheck] fun resp s =>
        Returns (onPasv w resp) s fun port s => Returns (onDataConnection args w port) s Q where
  stopped resp s hs hc := by
    unfold onPasv
    rw [hc, if_neg Bool.false_ne_true, Returns.bind, Returns.pure]
    dsimp only
    rw [Returns.pure]
    exact onDataConnection_none h hs
  answered resp s hs hc := by
    unfold onPasv
    rw [hc, if_pos rfl, Returns.bind, number_returns]
    cases pasvEndpoint (message resp) with
    | error e => exact iff_of_false (fun ⟨_, hf, _⟩ => by cases hf) (fun ⟨_, hf, _⟩ => by cases hf)
    | ok found =>
      rw [exists_ok, Except.map, exists_ok]
      cases found with
      | none =>
        dsimp only
        rw [Returns.pure, Option.any_none, Bool.and_false]
        exact iff_of_true (onDataConnection_none h hs.toReady) nofun
      | some et =>
        obtain ⟨addr, port⟩ := et
        dsimp only
        rw [asyncEstablishDataConnection, Returns.pure, Option.any_some]
        cases w.dataConnect with
        | false => exact iff_of_true (onDataConnection_none h hs.toReady) nofun
        | true => exact onDataConnection_some h hs

/-- The number of a 213 reply is read before PASV is asked for. -/
theorem size_tail (h : Tail code check fs Q) :
    Tail .sizeOrMdtmOk (fun msg => (stol msg).map fun _ => true)
      (replyStage w.pasv code check :: fs) fun resp s => Returns (onSize w resp) s Q where
  stopped resp s hs hc := by
    unfold onSize
    dsimp only
    rw [hc, if_neg Bool.false_ne_true, deferredWhen, if_neg Bool.false_ne_true, Returns.pure]
    exact h.stopped none s hs rfl
  answered resp s hs hc := by
    unfold onSize
    dsimp only
    rw [hc, if_pos rfl, Returns.bind, number_returns]
    cases stol (message resp) with
    | error e => exact iff_of_false (fun ⟨_, hf, _⟩ => by cases hf) (fun ⟨_, hf, _⟩ => by cases hf)
    | ok n =>
      have online : Online { s with fileSize := n } := { hs with }
      rw [exists_ok, Except.map, exists_ok, Returns.bind, Returns.modify, deferredWhen, if_pos rfl,
        call_returns h online]
      exact ⟨fun h1 _ => h1, fun h1 => h1 rfl⟩

/-! ## 4. The whole chain -/

/-- The socket that `async_connect` leaves. -/
theorem init_returns {R : Bool → State → Prop}
    (h : Tail .welcome noCheck fs fun resp s => R (hasCode .welcome resp) s) :
    Returns (asyncInit w) {} R ↔ w.resolve = true ∧ w.connect ≠ .closed ∧
      (w.connect = .connected → Survives (replyStage w.welcome .welcome noCheck :: fs) []) := by
  unfold asyncInit
  dsimp only
  rw [Returns.bind, Returns.modify]
  cases hr : w.resolve with
  | false =>
    rw [if_neg Bool.false_ne_true, if_neg (by decide), Returns.bind]
    exact iff_of_false (read_closed rfl) fun h' => Bool.false_ne_true h'.1
  | true =>
    rw [if_pos rfl, eq_self_iff_true, true_and]
    cases hc : w.connect with
    | closed =>
      rw [if_neg (by decide), Returns.bind]
      exact iff_of_false (read_closed rfl) fun h' => h'.1 rfl
    | unconnected =>
      rw [if_neg (by decide), Returns.bind, read_unconnected rfl, Returns.pure]
      exact iff_of_true (h.stopped none _ ⟨by decide, rfl⟩ rfl) ⟨by decide, fun h1 => by cases h1⟩
    | connected =>
      rw [if_pos rfl, Returns.bind, localEndpoint_returns (by decide), Returns.bind]
      have online : Online { controlSocket := .connected } := ⟨⟨by decide, rfl⟩, rfl⟩
      simp only [Returns.pure]
      rw [read_returns h online]
      exact ⟨fun h1 => ⟨by decide, fun _ => h1⟩, fun h1 => h1.2 trivial⟩

/-- **The chain comes to the RETR reply** exactly if nothing throws, and then the local file
    was not touched. -/
theorem requestFile_returns {P : State → Prop} (hP : ∀ s, Ready s → P s) :
    Returns (requestFile args w) {} (fun _ s => P s) ↔ w.Harmless := by
  unfold requestFile World.Harmless
  simp only [Returns.bind]
  exact init_returns (size_tail (pasv_tail (retr_tail hP))).call.call.call

/-- The file that `do_recv_op` opens, if it can. -/
def openedFile (args : Arguments) (w : World) : List Path :=
  match w.openFile with
  | .ok _ => [if args.dummy then "/dev/null".toList else args.file]
  | .error _ => []

/-- **What the chain does after another reply to RETR**, or none: it ends with false, but the
    file is opened, if it can be. -/
theorem refused_returns {resp : Option FtpResponse} {R : Bool → State → Prop} (hs : Ready s)
    (hc : hasCode .dataConn resp = false) :
    (Returns (onRetr args w resp) s fun recvRet s => Returns (onReceived w recvRet) s fun resp s =>
      Returns (onComplete resp) s R) ↔ R false { s with opened := openedFile args w } := by
  have ends : ∀ s, (Returns (onReceived w false) s fun resp s => Returns (onComplete resp) s R) ↔
      R false s := by
    intro s
    rw [onReceived, deferredWhen, if_neg Bool.false_ne_true, Returns.pure, onComplete, deferredWhen,
      if_neg (by exact Bool.false_ne_true), Returns.pure]
  have skips : ∀ recv : Deferred Bool, deferredWhen (hasCode .dataConn resp) recv (return false) =
      (return false : Deferred Bool) := fun recv => by rw [hc]; rfl
  unfold onRetr doRecvOp openedFile
  simp only [skips]
  cases w.openFile with
  | ok fd =>
    have ready : ({ s with opened := [if args.dummy then "/dev/null".toList else args.file] } :
        State).controlSocket ≠ .closed := hs.asks
    simp only [Returns.bind, Returns.modify, Returns.pure, hs.opened]
    rw [localEndpoint_returns ready]
    exact ends _
  | error e =>
    have same : { s with opened := [] } = s := by rw [← hs.opened]
    simp only [Returns.bind, Returns.pure]
    rw [localEndpoint_returns hs.asks, same]
    exact ends _

/-- **A failed download leaves the local file alone** exactly if the file cannot be opened and
    nothing throws. -/
theorem failed_download_iff (hd : args.dummy = false) (hr : ¬ Accepted args w) :
    FailsCleanly args w ↔ (∃ e, w.openFile = .error e) ∧ w.Harmless := by
  -- the chain, cut before the continuation that is given the reply to RETR
  have cut : FailsCleanly args w ↔ Returns (requestFile args w) {} fun resp s =>
      Returns (onRetr args w resp) s fun recvRet s => Returns (onReceived w recvRet) s fun resp s =>
        Returns (onComplete resp) s fun ret s => ret = false ∧ args.file ∉ s.opened := by
    have run : FailsCleanly args w ↔ Returns (asyncSession args w) {} fun ret s =>
        ret = false ∧ args.file ∉ s.opened := by
      constructor
      · rintro ⟨s, h, hf⟩
        exact ⟨false, s, h, rfl, hf⟩
      · rintro ⟨_, s, h, rfl, hf⟩
        exact ⟨s, h, hf⟩
    rw [run]
    unfold asyncSession
    simp only [Returns.bind]
  have refused : ∀ resp s, requestFile args w {} = .ok (resp, s) → hasCode .dataConn resp = false :=
    fun resp s h => Bool.eq_false_iff.mpr fun hc => hr ⟨resp, s, h, hc⟩
  have untouched : args.file ∉ openedFile args w ↔ ∃ e, w.openFile = .error e := by
    unfold openedFile
    rw [hd]
    cases w.openFile with
    | ok fd =>
      refine iff_of_false (fun h => h List.mem_cons_self) ?_
      rintro ⟨e, he⟩
      cases he
    | error e => exact iff_of_true List.not_mem_nil ⟨e, rfl⟩
  have ready : w.Harmless → Returns (requestFile args w) {} fun _ s => Ready s :=
    (requestFile_returns fun _ h => h).mpr
  rw [cut, ← untouched]
  constructor
  · rintro ⟨resp, s, hreq, hrest⟩
    have harmless : w.Harmless :=
      (requestFile_returns fun _ _ => trivial).mp ⟨resp, s, hreq, trivial⟩
    have hs : Ready s := (Returns.of_run hreq).mp (ready harmless)
    exact ⟨((refused_returns hs (refused resp s hreq)).mp hrest).2, harmless⟩
  · rintro ⟨hopen, harmless⟩
    obtain ⟨resp, s, hreq, hs⟩ := ready harmless
    exact ⟨resp, s, hreq, (refused_returns hs (refused resp s hreq)).mpr ⟨rfl, hopen⟩⟩

end

/-- A line of a reply. -/
def line (t : String) : Wait := .arrives (t.toList ++ delimit)

/-- The server has the file, and then it has not. -/
def vanished (openFile : OpenResult) : World :=
  { resolve := true, connect := .connected, welcome := line "220 Welcome to ftpd.",
    user := line "331 Please specify the password.", pass := line "230 Logged on.",
    size := line "213 5", pasv := line "227 Entering Passive Mode (127,0,0,1,4,1)",
    dataConnect := true, retr := line "550 Failed to open file.", openFile, pipe := none,
    progress := false, recvFile := false, complete := .timeout [] }

/-- A file that is downloaded to the file of the same name. -/
def aFile : Arguments := ⟨"a.bin".toList, false⟩

theorem not_accepted {args : Arguments} {w : World} {resp : Option FtpResponse} {s : State}
    (h : requestFile args w {} = .ok (resp, s)) (hc : hasCode .dataConn resp = false) :
    ¬ Accepted args w := by
  rintro ⟨resp', s', h', hc'⟩
  rw [h] at h'
  cases h'
  exact Bool.false_ne_true (hc.symm.trans hc')

/-- With a local file that may not be written, the session ends with false and touches nothing. -/
theorem failed_download_intact : FailsCleanly aFile (vanished (.error .acces)) := by
  obtain ⟨resp, s, h, hc⟩ : ∃ resp s, requestFile aFile (vanished (.error .acces)) {} = .ok (resp, s) ∧
      hasCode .dataConn resp = false := ⟨_, _, rfl, rfl⟩
  refine (failed_download_iff rfl (not_accepted h hc)).mpr ⟨⟨.acces, rfl⟩, rfl, by decide, ?_⟩
  intro _
  exact trivial

/-- With one that may be, the session ends with false and the file was emptied. -/
theorem failed_download_creates : ¬ Accepted aFile (vanished (.ok (3, 1))) ∧
    ¬ FailsCleanly aFile (vanished (.ok (3, 1))) ∧
    ∃ s, asyncSession aFile (vanished (.ok (3, 1))) {} = .ok (false, s) ∧ aFile.file ∈ s.opened := by
  obtain ⟨resp, s, h, hc⟩ : ∃ resp s, requestFile aFile (vanished (.ok (3, 1))) {} = .ok (resp, s) ∧
      hasCode .dataConn resp = false := ⟨_, _, rfl, rfl⟩
  obtain ⟨s', h', hopen⟩ : ∃ s, asyncSession aFile (vanished (.ok (3, 1))) {} = .ok (false, s) ∧
      s.opened = [aFile.file] := ⟨_, rfl, rfl⟩
  have hmem : aFile.file ∈ s'.opened := hopen ▸ List.mem_cons_self
  refine ⟨not_accepted h hc, ?_, s', h', hmem⟩
  rintro ⟨s₁, h₁, hno⟩
  rw [h'] at h₁
  cases h₁
  exact hno hmem

end Client

end OrangeFtpd
