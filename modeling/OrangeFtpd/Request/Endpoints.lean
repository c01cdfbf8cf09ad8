/-
  File:      OrangeFtpd/Request/Endpoints.lean
  Subject:   Where the server asks a socket for its endpoint.

  `remote_endpoint()` and `local_endpoint()` throw on a socket that is closed, and the first
  on one whose peer is gone. Four places ask: the constructor of the session, the aborted
  accept, the drained reply queue, and PASV and STAT. All other code is passed by: `step_error`
  says which steps end in an undefined query, Invariant/Queries.lean which runs have none.
-/
import OrangeFtpd.Lib.Stops
import OrangeFtpd.Lib.Returns
import OrangeFtpd.Session.Members

namespace OrangeFtpd

open BasicOp Act

/-! ## 1. Where the queries are defined -/

/-- PASV and STAT ask for the local address of the control socket. -/
def queriesDefined (s : St) (os : Os) : OpKind → Prop
  | .stat => s.controlOpen = true
  | .passiveMode => os.acceptorOpen = true → os.reuseAddress = true → os.bind.isSome = true →
      os.listen = true → s.controlOpen = true
  | _ => True

/-- The last message was written and no operation is left: the log line asks for the peer. -/
def drainDefined (s : St) : Prop :=
  match s.messageQueue with
  | [m] => (m.token = none ∨ s.dataSocket.isSome = true) → s.activeOpNum = 0 → s.stoped = false →
      (s.controlOpen && s.peerAlive) = true
  | _ => True

/-- The endpoint queries of the handler are defined. -/
def endpointsDefined (s : St) (os : Os) (t : Task) (r : Result) : Prop :=
  match t, r with
  | .accept _, .err .operationAborted => s.acceptor.isOpen = true
  | .ctlWrite, .ok => drainDefined s
  | .read, .ok => s.verified = true → ∀ kind ∈ s.nextKind, queriesDefined s os kind
  | _, _ => True

instance {s : St} {os : Os} {kind : OpKind} : Decidable (queriesDefined s os kind) := by
  unfold queriesDefined
  split <;> infer_instance

instance {s : St} : Decidable (drainDefined s) := by
  unfold drainDefined
  split <;> infer_instance

instance {s : St} {os : Os} {t : Task} {r : Result} : Decidable (endpointsDefined s os t r) := by
  unfold endpointsDefined
  split <;> infer_instance

section

variable {cfg : Config} {os : Os} {id n i : Nat} {s s₁ s' : St} {op : Op} {kind : OpKind}
  {m : Message} {b : SharedConstBuffer} {t : Task} {r : Result} {d : DataSocket} {f : Fault}
  {e : Ev}

/-! ## 2. Code that asks for no endpoint -/

theorem writeMessage_avoids : Avoids f (writeMessage cfg id m) := by
  intro s h
  rw [writeMessage_run] at h
  cases h

theorem writeReply_avoids : Avoids f (writeReply cfg id b) := writeMessage_avoids

theorem liftFs_avoids {α : Type} {r : Except Errno α} :
    Avoids .endpointError (liftFs r) := by
  refine .lift fun h => ?_
  cases r <;> cases h

theorem replyAnd_avoids {α : Type} {a : α} :
    Avoids f (do writeReply cfg id b; pure a : Ftp α) := .bind writeReply_avoids fun _ => .pure

theorem existsAndIsDirectory_avoids {k : Nat} :
    Avoids .endpointError (existsAndIsDirectory os k) :=
  .bind liftFs_avoids fun _ => .ite (fun _ => liftFs_avoids) fun _ => .pure

theorem changeDirectory_avoids : Avoids .endpointError (changeDirectory cfg os id) :=
  .bind existsAndIsDirectory_avoids fun _ => .ite
    (fun _ => .bind liftFs_avoids fun _ => .modify_bind writeReply_avoids) fun _ => writeReply_avoids

theorem createDirectory_avoids {path : Path} :
    Avoids .endpointError (CreateDirOp.createDirectory os id path) := by
  unfold CreateDirOp.createDirectory
  cases os.mkdir with
  | created => exact .modify
  | alreadyThere => exact .pure
  | failed e => exact .throw nofun

theorem createDirOp_avoids : Avoids .endpointError (CreateDirOp.doOperation cfg os id) := by
  refine .get_bind fun s => .ite (fun _ => writeReply_avoids) fun _ =>
    .ite (fun _ => writeReply_avoids) fun _ => .modify_bind (.bind liftFs_avoids fun _ =>
      .ite (fun _ => writeReply_avoids) fun _ => .bind createDirectory_avoids fun _ => ?_)
  exact .bind existsAndIsDirectory_avoids fun _ => .ite
    (fun _ => .bind liftFs_avoids fun _ => writeReply_avoids) fun _ => writeReply_avoids

theorem sizeOp_avoids : Avoids .endpointError (SizeOp.doOperation cfg os id) := by
  refine .get_bind fun s => .modify_bind (.bind ?_ fun _ => .ite (fun _ => writeReply_avoids)
    fun _ => .bind liftFs_avoids fun _ => writeReply_avoids)
  exact .bind liftFs_avoids fun _ => .ite (fun _ => liftFs_avoids) fun _ => .pure

theorem authOp_avoids : Avoids .endpointError (AuthOp.doOperation cfg id) := by
  refine .get_bind fun s => .ite (fun _ => .modify_bind writeReply_avoids) fun _ =>
    .ite (fun _ => .modify_bind (.bind ?_ fun _ => .ite (fun _ => writeReply_avoids) fun _ => .pure))
      fun _ => writeReply_avoids
  refine .get_bind fun s => .ite (fun _ => ?_) fun _ => .ite (fun _ => .modify_bind .pure) fun _ =>
    .modify_bind .pure
  exact .bind writeReply_avoids fun _ => .modify_bind .pure

theorem propertyOp_avoids : Avoids .endpointError (PropertyOp.doOperation cfg id) := by
  refine .modify_bind (.get_bind fun s => .ite (fun _ => .ite (fun _ => ?_) fun _ =>
    .ite (fun _ => ?_) fun _ => writeReply_avoids) fun _ => .ite (fun _ => ?_) fun _ => .pure)
  · exact .modify_bind writeReply_avoids
  · exact .modify_bind writeReply_avoids
  · exact .ite (fun _ => writeReply_avoids) fun _ => writeReply_avoids

theorem fetchPassiveConnection_avoids :
    Avoids .endpointError (fetchPassiveConnection cfg op) := by
  refine .bind ?_ fun _ => .ite (fun _ => .modify_bind .pure) fun _ => .pure
  exact .get_bind fun s => .ite (fun _ => .pure) fun _ => replyAnd_avoids

theorem release_avoids {rest : Option Op} : Avoids f (release cfg rest) := by
  cases rest with
  | none => exact .pure
  | some op => exact .modify

theorem sendFileOp_avoids : Avoids .endpointError (SendFileOp.construct cfg os op) := by
  refine .modify_bind (.get_bind fun s => .ite (fun _ => replyAnd_avoids) fun _ =>
    .modify_bind (.bind liftFs_avoids fun _ => .ite (fun _ => replyAnd_avoids) fun _ =>
      .bind liftFs_avoids fun _ => ?_))
  cases os.openFile with
  | error e => exact replyAnd_avoids
  | ok x => exact .pure

theorem recvFileOp_avoids : Avoids .endpointError (RecvFileOp.construct cfg os op) := by
  refine .modify_bind (.get_bind fun s => .ite (fun _ => replyAnd_avoids) fun _ =>
    .modify_bind (.bind (.ite (fun _ => liftFs_avoids) fun _ => .pure) fun _ =>
      .ite (fun _ => replyAnd_avoids) fun _ => ?_))
  unfold RecvFileOp.openAndPipe
  cases os.openFile with
  | error e => exact replyAnd_avoids
  | ok x =>
    refine .modify_bind ?_
    cases os.pipe with
    | none => exact replyAnd_avoids
    | some p => exact .pure

/-- The data socket is used. -/
theorem useDataSocket_avoids : Avoids .endpointError (useDataSocket id) := by
  refine .get_bind fun s => ?_
  cases s.dataSocket with
  | none => exact .throw nofun
  | some d => exact .modify_bind .pure

theorem ensureNonBlocking_avoids : Avoids .endpointError (ensureNonBlocking d) :=
  .ite (fun _ => .pure) fun _ => .throw nofun

theorem doSendFile_avoids : Avoids .endpointError (SendFileOp.doSendFile op) :=
  .bind useDataSocket_avoids fun _ => .modify

theorem runCompletionToken_avoids : Avoids .endpointError (SendFileOp.runCompletionToken cfg op) :=
  .ite (fun _ => .modify_bind (.bind writeReply_avoids fun _ => .modify)) fun _ => .pure

theorem sendFile_dealEvent_avoids {slice : Nat} :
    Avoids .endpointError (SendFileOp.dealEvent cfg os op r slice) := by
  refine .ite (fun _ => .pure) fun _ => .bind useDataSocket_avoids fun d =>
    .bind ensureNonBlocking_avoids fun _ => ?_
  cases os.sendfile with
  | failed => exact .pure
  | wouldBlock => exact .bind doSendFile_avoids fun _ => .pure
  | sent k =>
    refine .modify_bind (.ite (fun _ => .ite (fun _ => ?_) fun _ => .modify_bind .pure) fun _ => ?_)
    · exact .bind doSendFile_avoids fun _ => .pure
    · exact .bind runCompletionToken_avoids fun _ => .pure

theorem spliceLoop_avoids : ∀ {rs : List SpliceResult} {op : Op},
    Avoids .endpointError (RecvFileOp.spliceLoop d rs op)
  | [], op => .throw nofun
  | .eof :: rs, op => .pure
  | .wouldBlock :: rs, op => .pure
  | .failed :: rs, op => .pure
  | .interrupted :: rs, op => by
    have ih : Avoids .endpointError (RecvFileOp.spliceLoop d rs op) := spliceLoop_avoids
    exact ih
  | .moved k rs' :: rs, op => by
    refine .get_bind fun s => .ite (fun _ => .pure) fun _ => .modify_bind ?_
    split
    · exact .throw nofun
    · exact .modify_bind spliceLoop_avoids

theorem recvFile_dealEvent_avoids :
    Avoids .endpointError (RecvFileOp.dealEvent cfg os op r) := by
  refine .ite (fun _ => .pure) fun _ => .bind useDataSocket_avoids fun d =>
    .bind ensureNonBlocking_avoids fun _ => .get_bind fun s => .ite (fun _ => ?_) fun _ => ?_
  · exact .bind runCompletionToken_avoids fun _ => .pure
  · refine .bind (.ite (fun _ => .pure) fun _ => spliceLoop_avoids) fun x => ?_
    obtain ⟨e, op'⟩ := x
    cases e with
    | failed => exact .pure
    | waitAgain => exact .bind doSendFile_avoids fun _ => .pure

theorem listOp_onWritten_avoids {c : ConnId} :
    Avoids .endpointError (ListOp.onWritten cfg op c r) :=
  .modify_bind (.modify_bind (.bind writeReply_avoids fun _ => .modify_bind .pure))

theorem onConnection_avoids : Avoids .endpointError (onConnection cfg os op) := by
  unfold onConnection
  split
  · exact .ite (fun _ => .bind writeMessage_avoids fun _ => .pure) fun _ => .throw nofun
  · exact .bind writeMessage_avoids fun _ => .pure
  · exact .get_bind fun s => .modify_bind (.bind liftFs_avoids fun _ =>
      .bind writeMessage_avoids fun _ => .pure)

/-! ## 3. Code that asks -/

theorem controlLocalEndpoint_error :
    controlLocalEndpoint s = .error .endpointError ↔ ¬ s.controlOpen = true := by
  unfold controlLocalEndpoint
  rw [Act.get_bind, Act.ite_run]
  split
  · next h => exact iff_of_false nofun (not_not.mpr h)
  · next h => exact iff_of_true rfl h

theorem statOp_error :
    StatOp.doOperation cfg os id s = .error .endpointError ↔ ¬ s.controlOpen = true := by
  unfold StatOp.doOperation
  rw [bind_error_of_avoids fun _ => .get_bind fun _ => writeReply_avoids]
  exact controlLocalEndpoint_error

theorem require_bind_error {x : Ftp Unit} {c : Bool} :
    (PassiveModeOp.require c >>= fun _ => x) s = .error .endpointError ↔
      c = true ∧ x s = .error .endpointError := by
  cases c with
  | true => exact (bind_error_of_ok rfl).trans (and_iff_right rfl).symm
  | false => exact iff_of_false nofun nofun

/-- PASV gets as far as its query where all its calls before succeed. -/
theorem passiveModeOp_error : PassiveModeOp.doOperation cfg os id s = .error .endpointError ↔
    ¬ (os.acceptorOpen = true → os.reuseAddress = true → os.bind.isSome = true →
      os.listen = true → s.controlOpen = true) := by
  unfold PassiveModeOp.doOperation
  rw [Act.modify_bind, Act.ite_run]
  cases ha : os.acceptorOpen with
  | false => exact iff_of_false (writeReply_avoids _) fun h => h nofun
  | true =>
    have hc : (if s.acceptor.isOpen = true then s.closeAcceptor else s).controlOpen =
        s.controlOpen := by
      split <;> rfl
    rw [if_neg nofun, Act.modify_bind, require_bind_error]
    cases hb : os.bind with
    | none =>
      exact iff_of_false (fun h => writeReply_avoids _ h.2) fun h => h nofun
    | some port =>
      rw [require_bind_error, Act.modify_bind, bind_error_of_avoids fun _ =>
        .modify_bind writeReply_avoids, controlLocalEndpoint_error]
      simp only [hc, Option.isSome_some, forall_const]
      tauto

/-- RETR and STOR, once they are constructed. -/
theorem fetchOrLeave_avoids :
    Avoids .endpointError (if op.fd ≤ 0 then pure (some op)
      else fetchPassiveConnection cfg { op with completionToken := true }) :=
  .ite (fun _ => .pure) fun _ => fetchPassiveConnection_avoids

/-- The classes with a constructor of their own ask for nothing. -/
theorem transfer_avoids (hk : kind = .sendFile ∨ kind = .recvFile) :
    runOp cfg os { id := id, kind := kind } s ≠ .error .endpointError := by
  intro h
  unfold runOp at h
  rcases bind_error.mp h with h1 | ⟨op, s₁, h1, h2⟩
  · rcases hk with rfl | rfl
    · exact sendFileOp_avoids _ h1
    · exact recvFileOp_avoids _ h1
  · rw [bind_error_of_avoids fun _ => release_avoids] at h2
    rcases hk with rfl | rfl
    · have hop := (sendFileOp_makes.ok rfl h1).1.2
      unfold doOperation at h2
      rw [hop] at h2
      exact fetchOrLeave_avoids _ h2
    · have hop := (recvFileOp_makes.ok rfl h1).1.2
      unfold doOperation at h2
      rw [hop] at h2
      exact fetchOrLeave_avoids _ h2

/-- The classes without one do what `do_operation` does. -/
theorem control_error {y : Op → Ftp (Option Op)} :
    (do
        let op ← (do .modify St.basicOp; pure { id := id, kind := kind } : Ftp Op)
        let rest ← y op
        release cfg rest) s = .error f ↔ y { id := id, kind := kind } s.basicOp = .error f := by
  rw [bind_error_of_ok (show (do .modify St.basicOp; pure { id := id, kind := kind } : Ftp Op) s =
    .ok ({ id := id, kind := kind }, s.basicOp) from rfl)]
  exact bind_error_of_avoids fun _ => release_avoids

theorem then_some_error {x : Ftp Unit} : (do x; pure (some op)) s = .error f ↔ x s = .error f :=
  bind_error_of_avoids fun _ => .pure

/-- An operation that is over when its code is. -/
theorem control_avoids {x : Ftp Unit} (hx : Avoids .endpointError x) :
    (do
        let op ← (do .modify St.basicOp; pure { id := id, kind := kind } : Ftp Op)
        let rest ← (do x; pure (some op))
        release cfg rest) s ≠ .error .endpointError :=
  fun h => hx _ (then_some_error.mp (control_error.mp h))

/-- **The code of an operation** asks where its class says so. -/
theorem runOp_error : runOp cfg os { id := id, kind := kind } s = .error .endpointError ↔
    ¬ queriesDefined s os kind := by
  have none_asked : ∀ {p : Prop}, ¬ p → (p ↔ ¬ True) := fun h => iff_of_false h fun h' => h' trivial
  cases kind with
  | sendFile => exact none_asked (transfer_avoids (Or.inl rfl))
  | recvFile => exact none_asked (transfer_avoids (Or.inr rfl))
  | list => exact none_asked fun h => fetchPassiveConnection_avoids _ (control_error.mp h)
  | ack => exact none_asked (control_avoids writeReply_avoids)
  | syst => exact none_asked (control_avoids writeReply_avoids)
  | printWorkingDir =>
    exact none_asked (control_avoids (.get_bind fun _ => writeReply_avoids))
  | auth => exact none_asked (control_avoids authOp_avoids)
  | createDir => exact none_asked (control_avoids createDirOp_avoids)
  | changeWorkingDir =>
    exact none_asked (control_avoids (.get_bind fun _ => .ite (fun _ => writeReply_avoids) fun _ =>
      .modify_bind changeDirectory_avoids))
  | cdToParent =>
    exact none_asked (control_avoids (.get_bind fun _ => .modify_bind changeDirectory_avoids))
  | size => exact none_asked (control_avoids sizeOp_avoids)
  | property => exact none_asked (control_avoids propertyOp_avoids)
  | stat => exact control_error.trans (then_some_error.trans statOp_error)
  | passiveMode => exact control_error.trans (then_some_error.trans passiveModeOp_error)

theorem replyOnly_avoids : Avoids f (replyOnly cfg id b) :=
  .bind writeReply_avoids fun _ => .modify_bind .pure

/-- `dispatch_task` with a request stored. -/
theorem dispatchTask_error : dispatchTask cfg os s = .error .endpointError ↔
    s.verified = true ∧ ∃ kind, createKind s.request.command = some kind ∧
      ¬ queriesDefined s os kind := by
  unfold dispatchTask
  rw [Act.get_bind, Act.modify_bind, Act.ite_run, Act.ite_run, Act.ite_run]
  cases hv : s.verified with
  | false =>
    refine iff_of_false (fun h => ?_) fun h => by cases h.1
    have h1 := (bind_error_of_avoids fun _ => .pure).mp h
    exact runOp_error.mp h1 trivial
  | true =>
    rw [if_neg nofun]
    by_cases hu : s.request.command = "USER".toList
    · rw [if_pos hu]
      refine iff_of_false (replyOnly_avoids _) ?_
      rintro ⟨-, kind, hk, -⟩
      have hn : createKind "USER".toList = none := by decide
      rw [hu, hn] at hk
      cases hk
    by_cases hp : s.request.command = "PASS".toList
    · rw [if_neg hu, if_pos hp]
      refine iff_of_false (replyOnly_avoids _) ?_
      rintro ⟨-, kind, hk, -⟩
      have hn : createKind "PASS".toList = none := by decide
      rw [hp, hn] at hk
      cases hk
    rw [if_neg hu, if_neg hp]
    cases hc : createKind s.request.command with
    | none => exact iff_of_false (replyOnly_avoids _) fun ⟨_, kind, hk, _⟩ => by cases hk
    | some kind =>
      refine ((bind_error_of_avoids fun _ => .pure).trans runOp_error).trans ⟨fun h => ?_, ?_⟩
      · exact ⟨rfl, kind, rfl, h⟩
      · rintro ⟨-, _, hk, h⟩
        cases hk
        exact h

/-- `handle_read`, for the line that is first in the buffer. -/
theorem handleRead_error :
    handleRead cfg os ((lineEnd s.buf).getD 0) s = .error .endpointError ↔
      ¬ (s.verified = true → ∀ kind ∈ s.nextKind, queriesDefined s os kind) := by
  unfold handleRead
  rw [Act.get_bind, Act.modify_bind, bind_error_of_avoids fun _ => .ite (fun _ => .pure) fun _ =>
    .get_bind fun _ => .ite (fun _ => .pure) fun _ => .modify]
  unfold St.nextKind St.nextRequest
  cases buildRequest (splitWords (s.buf.take ((lineEnd s.buf).getD 0))) with
  | none => exact iff_of_false nofun fun h => h fun _ => nofun
  | some req =>
    refine (show _ ↔ dispatchTask cfg os (s.takeLine _ req) = _ from Iff.rfl).trans ?_
    rw [dispatchTask_error]
    simp only [Option.bind_some, Option.mem_def, Classical.not_imp, not_forall]
    rfl

/-- The handler of `do_read`. -/
theorem onRead_error (hr : r = .ok) : onRead cfg os r s = .error .endpointError ↔
    ¬ (s.verified = true → ∀ kind ∈ s.nextKind, queriesDefined s os kind) := by
  subst hr
  refine (show _ ↔ (handleRead cfg os ((lineEnd s.neverExpire.buf).getD 0) >>= fun _ =>
    .modify St.doRead) s.neverExpire = _ from Iff.rfl).trans ?_
  rw [bind_error_of_avoids fun _ => .modify, handleRead_error]
  rfl

theorem onRead_avoids (hr : r ≠ .ok) : Avoids .endpointError (onRead cfg os r) := by
  cases r with
  | ok => exact absurd rfl hr
  | conn c => exact .pure
  | err ec =>
    cases ec with
    | eof => exact .modify_bind (.get_bind fun _ => .ite (fun _ => .pure) fun _ => .modify)
    | _ => exact .pure

/-- The handler of `async_accept`. -/
theorem onAccept_error : onAccept cfg os op r s = .error .endpointError ↔
    ¬ (r = .err .operationAborted → s.acceptor.isOpen = true) := by
  have closes : Avoids .endpointError (do .modify St.closeAcceptor; pure (some op) : Ftp (Option Op)) :=
    .modify_bind .pure
  have stored : ∀ c, Avoids .endpointError (onAccept cfg os op (.conn c)) := fun c =>
    .modify_bind (.modify_bind onConnection_avoids)
  have closed : ∀ {r : Result}, r ≠ .err .operationAborted →
      ((do .modify St.closeAcceptor; pure (some op) : Ftp (Option Op)) s = .error .endpointError ↔
        ¬ (r = .err .operationAborted → s.acceptor.isOpen = true)) := fun h =>
    iff_of_false (closes s) fun h' => h' fun he => absurd he h
  cases r with
  | ok => exact closed nofun
  | conn c => exact iff_of_false (stored c s) fun h => h nofun
  | err ec =>
    cases ec with
    | operationAborted =>
      unfold onAccept acceptorLocalEndpoint
      rw [bind_error_of_avoids fun _ => .pure, Act.get_bind, Act.ite_run]
      simp only [forall_const]
      split
      · next h => exact iff_of_false nofun (not_not.mpr h)
      · next h => exact iff_of_true rfl h
    | eof => exact closed nofun
    | badDescriptor => exact closed nofun
    | connectionReset => exact closed nofun
    | other n => exact closed nofun

/-- `do_write_message`. -/
theorem doWriteMessage_error : doWriteMessage cfg s = .error .endpointError ↔
    s.messageQueue = [] ∧ s.activeOpNum = 0 ∧ s.stoped = false ∧
      ¬ (s.controlOpen && s.peerAlive) = true := by
  unfold doWriteMessage
  rw [Act.get_bind]
  cases hq : s.messageQueue with
  | cons m rest => exact iff_of_false nofun nofun
  | nil =>
    have hp : s.existsPendingOperator = true ↔ ¬ s.activeOpNum = 0 := by
      unfold St.existsPendingOperator
      simp [hq]
    dsimp only
    rw [Act.ite_run, Act.ite_run]
    by_cases ha : s.activeOpNum = 0
    · rw [if_neg (fun h => hp.mp h ha)]
      cases hs : s.stoped with
      | true => exact iff_of_false nofun nofun
      | false =>
        rw [if_neg nofun, bind_error_of_avoids fun _ => .modify]
        unfold remoteEndpoint
        rw [Act.get_bind, Act.ite_run]
        simp only [ha, true_and]
        split
        · next h => exact iff_of_false nofun (not_not.mpr h)
        · next h => exact iff_of_true rfl h
    · rw [if_pos (hp.mpr ha)]
      exact iff_of_false nofun fun h => ha h.2.1

theorem runFront_avoids {tok : Option Token} : Avoids .endpointError (runFront tok) := by
  cases tok with
  | none => exact .pure
  | some tok =>
    refine .modify_bind ?_
    cases tok with
    | doSendFile op => exact doSendFile_avoids
    | doRecvFile op => exact doSendFile_avoids
    | writeListing op response => exact .bind useDataSocket_avoids fun _ => .modify_bind .modify

theorem TokenRun.same {tok : Option Token} (h : TokenRun s tok s₁) :
    s₁.activeOpNum = s.activeOpNum ∧ s₁.stoped = s.stoped ∧ s₁.controlOpen = s.controlOpen ∧
      s₁.peerAlive = s.peerAlive := by
  cases h with
  | none => exact ⟨rfl, rfl, rfl, rfl⟩
  | some tok d hd => cases tok <;> simp [St.startToken, St.waitData, St.touchSlot]

/-- The token of a message runs to its end where it has its data socket. -/
theorem runFront_returns {tok : Option Token} (h : tok = none ∨ s.dataSocket.isSome = true) :
    ∃ s₁, runFront tok s = .ok ((), s₁) ∧ TokenRun s tok s₁ := by
  have hE : s.dataSocket = none → tok ≠ none → False := by
    intro hn ht
    rw [hn] at h
    exact h.elim ht nofun
  obtain ⟨_, s₁, hr, hq⟩ := Returns.of_triple (runFront_triple (E := fun _ => False) hE) rfl
  exact ⟨s₁, hr, hq⟩

theorem runFront_run {tok : Option Token} {u : Unit} (h : runFront tok s = .ok (u, s₁)) :
    TokenRun s tok s₁ ∧ (tok = none ∨ s.dataSocket.isSome = true) := by
  have hT := (runFront_triple (E := fun _ => True) fun _ _ => trivial).ok rfl h
  refine ⟨hT, ?_⟩
  cases hT with
  | none => exact Or.inl rfl
  | some tok d hd => exact Or.inr (hd ▸ rfl)

/-- The handler of a control write without error. -/
theorem onWritten_error : onWritten cfg .ok s = .error .endpointError ↔ ¬ drainDefined s := by
  unfold onWritten
  rw [Act.modify_bind, Act.get_bind, Act.ite_run, if_neg (not_not.mpr rfl)]
  unfold drainDefined
  rw [St.emit_messageQueue]
  cases hq : s.messageQueue with
  | nil => exact iff_of_false nofun fun h => h trivial
  | cons m rest =>
    have written : ∀ {s₁ : St}, TokenRun (s.emit (.ctlDone true)) m.token s₁ →
        (doWriteMessage cfg s₁.popMessage = .error .endpointError ↔ rest = [] ∧
          s.activeOpNum = 0 ∧ s.stoped = false ∧ ¬ (s.controlOpen && s.peerAlive) = true) := by
      intro s₁ hT
      obtain ⟨ha, hs, hc, hp⟩ := hT.same
      have hm : s₁.popMessage.messageQueue = rest := by
        show s₁.messageQueue.tail = rest
        rw [messageQueue_tokenRun hT, show (s.emit (.ctlDone true)).messageQueue = m :: rest from hq]
        rfl
      rw [doWriteMessage_error, hm]
      show rest = [] ∧ s₁.activeOpNum = 0 ∧ s₁.stoped = false ∧
        ¬ (s₁.controlOpen && s₁.peerAlive) = true ↔ _
      rw [ha, hs, hc, hp]
      rfl
    have hd : (s.emit (.ctlDone true)).dataSocket = s.dataSocket := rfl
    refine bind_error.trans ⟨fun h => ?_, fun h => Or.inr ?_⟩
    · obtain ⟨_, s₁, hr, hw⟩ := h.resolve_left (runFront_avoids _)
      obtain ⟨hT, htok⟩ := runFront_run hr
      obtain ⟨rfl, ha, hs, hc⟩ := (written hT).mp hw
      exact fun h' => hc (h' htok ha hs)
    · cases rest with
      | cons m' rest => exact absurd trivial h
      | nil =>
        simp only [Classical.not_imp] at h
        obtain ⟨htok, ha, hs, hc⟩ := h
        obtain ⟨s₁, hr, hT⟩ := @runFront_returns (s.emit (.ctlDone true)) _ htok
        exact ⟨(), s₁, hr, (written hT).mpr ⟨rfl, ha, hs, hc⟩⟩

theorem onWritten_avoids (hr : r ≠ .ok) : Avoids .endpointError (onWritten cfg r) := by
  refine .modify_bind (.get_bind fun s => .ite (fun _ => ?_) fun h => absurd (not_not.mp h) hr)
  exact .modify_bind .modify

/-- **A handler** asks for an undefined endpoint where `endpointsDefined` fails. -/
theorem runTask_error : runTask cfg os t r s = .error .endpointError ↔
    ¬ endpointsDefined s os t r := by
  have none_asked : ∀ {x : Ftp Unit}, Avoids .endpointError x →
      (x s = .error .endpointError ↔ ¬ True) := fun h => iff_of_false (h s) fun h' => h' trivial
  cases t with
  | banner => exact none_asked (.ite (fun _ => .modify) fun _ => .pure)
  | idleWait =>
    exact none_asked (.get_bind fun _ => .ite (fun _ => .pure) fun _ =>
      .ite (fun _ => .modify) fun _ => .modify)
  | keepAlive => exact none_asked .pure
  | limiter op => exact none_asked (.bind sendFile_dealEvent_avoids fun _ => release_avoids)
  | listWrite op c => exact none_asked (.bind listOp_onWritten_avoids fun _ => release_avoids)
  | dataWait op c =>
    refine none_asked (.bind ?_ fun _ => release_avoids)
    unfold onReady
    split
    · exact recvFile_dealEvent_avoids
    · exact sendFile_dealEvent_avoids
  | read =>
    by_cases hr : r = .ok
    · subst hr
      exact onRead_error rfl
    · have h1 : endpointsDefined s os .read r := by
        cases r with
        | ok => exact absurd rfl hr
        | _ => exact trivial
      exact iff_of_false (onRead_avoids hr s) (not_not.mpr h1)
  | ctlWrite =>
    by_cases hr : r = .ok
    · subst hr
      exact onWritten_error
    · have h1 : endpointsDefined s os .ctlWrite r := by
        cases r with
        | ok => exact absurd rfl hr
        | _ => exact trivial
      exact iff_of_false (onWritten_avoids hr s) (not_not.mpr h1)
  | accept op =>
    refine (bind_error_of_avoids fun _ => release_avoids).trans (onAccept_error.trans ?_)
    refine not_congr ?_
    cases r with
    | err ec =>
      cases ec with
      | operationAborted => exact ⟨fun h => h rfl, fun h _ => h⟩
      | _ => exact iff_of_true nofun trivial
    | _ => exact iff_of_true nofun trivial

/-! ## 4. Every step -/

theorem runHandler_error : runHandler cfg s i os = .error .endpointError ↔
    ¬ WhenRun endpointsDefined s (.run i os) := by
  by_cases h : ∃ t r, s.handlers[i]? = some ⟨t, some r⟩
  · obtain ⟨t, r, hi⟩ := h
    have hw : WhenRun endpointsDefined s (.run i os) ↔ endpointsDefined s os t r := by
      simp only [WhenRun, hi]
    have h1 : runTask cfg os t r (s.takeHandler i) = .error .endpointError ↔
        ¬ endpointsDefined s os t r := runTask_error
    rw [hw, ← h1, runHandler_eq hi]
    cases runTask cfg os t r (s.takeHandler i) with
    | ok x => exact iff_of_false nofun nofun
    | error f => simp
  · have hw : WhenRun endpointsDefined s (.run i os) := by
      rcases hi : s.handlers[i]? with _ | ⟨t, _ | r⟩
      · simp [WhenRun, hi]
      · simp [WhenRun, hi]
      · exact absurd ⟨t, r, hi⟩ h
    refine iff_of_false (fun he => h ?_) (not_not.mpr hw)
    exact runHandler_entry (by rw [he]; nofun)

/-- **A step** ends in an undefined query where its handler makes one. -/
theorem step_error : step cfg s e = .error .endpointError ↔
    s.destroyed = false ∧ ¬ WhenRun endpointsDefined s e := by
  unfold step
  cases hd : s.destroyed with
  | true => exact iff_of_false nofun nofun
  | false =>
    have refused : ∀ {c : Prop} [Decidable c] {s₁ : St}, (if c then .ok s₁ else .error .disabled :
        Except Fault St) ≠ .error .endpointError := fun h => by cases guarded_error h
    rw [if_neg nofun, and_iff_right rfl]
    cases e with
    | run i os => exact runHandler_error
    | complete i r =>
      refine iff_of_false (fun h => ?_) fun h => h trivial
      have h' : completeHandler s i r = .error .endpointError := h
      unfold completeHandler at h'
      split at h'
      · exact refused h'
      · cases h'
    | clientSend chunk => exact iff_of_false refused fun h => h trivial
    | peerSend c bytes => exact iff_of_false refused fun h => h trivial
    | peerShutdown c => exact iff_of_false refused fun h => h trivial
    | peerReset c => exact iff_of_false refused fun h => h trivial
    | clientGone => exact iff_of_false nofun fun h => h trivial
    | tick ms => exact iff_of_false nofun fun h => h trivial

theorem startSession_error {home : Path} {c₀ : UInt32} {now : Int} {peerAlive : Bool} :
    startSession cfg home c₀ now peerAlive = .error .endpointError ↔ peerAlive = false := by
  cases peerAlive with
  | true => exact iff_of_false nofun nofun
  | false => exact iff_of_true rfl rfl

end

end OrangeFtpd
