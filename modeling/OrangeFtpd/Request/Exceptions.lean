/-
  File:      OrangeFtpd/Request/Exceptions.lean
  Subject:   Which requests end in an exception.

  The file-system functions of the server throw on every error. `Answerable` says for
  each class of operations which answers of the operating system its chain of calls
  survives; `Listable` says it for the listing that LIST makes when its connection
  comes. Both are exact: with any other answers the handler throws, or ends without a
  reply and without an operation that could give one later.
-/
import OrangeFtpd.Lib.Returns
import OrangeFtpd.Session.Steps

namespace OrangeFtpd

open BasicOp Act

/-! ## 1. Definitions -/

/-- The call does not throw. -/
def Succeeds {α : Type} (r : Except Errno α) : Prop := ∃ a, r = .ok a

/-- `exists && is_directory`, the `k`th and the next status query, and `canonical` where
    both hold. -/
def EntersDirectory (os : Os) (k : Nat) : Prop :=
  fsExists (os.stat k) = .ok false ∨
    (fsExists (os.stat k) = .ok true ∧ (fsIsDirectory (os.stat (k + 1)) = .ok false ∨
      (fsIsDirectory (os.stat (k + 1)) = .ok true ∧ Succeeds os.canonical)))

/-- **The answers that an operation of a verified session survives**, by its class; `s` is
    the state before the request. -/
def Answerable (cfg : Config) (s : St) (req : FtpRequest) (os : Os) : OpKind → Prop
  | .changeWorkingDir => req.body = [] ∨ EntersDirectory os 0
  | .cdToParent => EntersDirectory os 0
  | .createDir => cfg.writeEnable = false ∨ req.body = [] ∨ fsExists (os.stat 0) = .ok true ∨
    (fsExists (os.stat 0) = .ok false ∧ (∀ e, os.mkdir ≠ .failed e) ∧ EntersDirectory os 1)
  | .size => fsExists (os.stat 0) = .ok false ∨
    (fsExists (os.stat 0) = .ok true ∧ (fsIsRegularFile (os.stat 1) = .ok false ∨
      (fsIsRegularFile (os.stat 1) = .ok true ∧ Succeeds (fsFileSize (os.stat 2)))))
  | .sendFile => req.body = [] ∨ fsExists (os.stat 0) = .ok false ∨
    (fsExists (os.stat 0) = .ok true ∧ Succeeds (fsFileSize (os.stat 1)) ∧
      ∀ file, os.openFile ≠ .ok (0, file))
  | .recvFile => req.body = [] ∨ (s.isAnonymous = true ∧ fsExists (os.stat 0) = .ok true) ∨
    ((s.isAnonymous = true → fsExists (os.stat 0) = .ok false) ∧
      (os.pipe = none ∨ ∀ file, os.openFile ≠ .ok (0, file)))
  | .stat => s.controlOpen = true
  | .passiveMode => os.acceptorOpen = false ∨
    (os.reuseAddress = true ∧ (os.bind = none ∨ (os.listen = true ∧ s.controlOpen = true)))
  | .ack | .auth | .syst | .printWorkingDir | .property | .list => True

/-- The calls made on an entry of a directory succeed. -/
def DirEntry.Listable (it : DirEntry) : Prop :=
  Succeeds (fsStatus (it.stat 0)) ∧ Succeeds (fsPermissions (it.stat 1)) ∧
    Succeeds it.hardLinkCount ∧ (fsIsRegularFile (it.stat 2) = .ok false ∨
      (fsIsRegularFile (it.stat 2) = .ok true ∧ Succeeds (fsFileSize (it.stat 3))))

/-- A reply was queued, or an operation is alive that was not before. -/
def St.Settled (s s' : St) : Prop :=
  s.messageQueue.length < s'.messageQueue.length ∨ s.liveOps.length < s'.liveOps.length

section

variable {cfg : Config} {os : Os} {id n i : Nat} {s s₀ s' : St} {op : Op} {kind : OpKind}
  {b : SharedConstBuffer} {m : Message} {req : FtpRequest}

/-! ## 2. What the parts of an operation contribute -/

theorem settled_push (h : s.messageQueue = s₀.messageQueue) :
    s₀.Settled (s.pushMessage id m) := by
  left
  rw [St.pushMessage_messageQueue, h, List.length_append]
  exact Nat.lt_succ_self _

theorem settled_destroyOp : s₀.Settled (s.destroyOp cfg op) ↔ s₀.Settled s := by
  unfold St.Settled
  rw [St.destroyOp_messageQueue, St.liveOps_destroyOp]

theorem settled_congr (hq : s'.messageQueue.length = s.messageQueue.length)
    (hl : s'.liveOps.length = s.liveOps.length) : s₀.Settled s' ↔ s₀.Settled s := by
  unfold St.Settled
  rw [hq, hl]

theorem not_settled (hq : s.messageQueue = s₀.messageQueue)
    (hl : s.liveOps.length = s₀.liveOps.length) :
    ¬ s₀.Settled s := by
  unfold St.Settled
  rw [hq, hl]
  omega

@[simp] theorem writeReply_returns {Q : Unit → St → Prop} :
    Returns (writeReply cfg id b) s Q ↔ Q () (s.pushMessage id ⟨b, none⟩) :=
  Returns.of_run (writeMessage_run ..)

@[simp] theorem liftFs_returns {α : Type} {r : Except Errno α} {Q : α → St → Prop} :
    Returns (liftFs r) s Q ↔ ∃ a, r = .ok a ∧ Q a s := by
  unfold liftFs
  rw [Returns.lift]
  cases r <;> simp [Except.mapError]

/-- A check, and what comes after each of its outcomes. -/
theorem check_returns {α : Type} {r : Except Errno Bool} {x y : Ftp α} {Q : α → St → Prop} :
    Returns (do if ← liftFs r then x else y) s Q ↔
      (r = .ok false ∧ Returns y s Q) ∨ (r = .ok true ∧ Returns x s Q) := by
  simp

theorem existsAndIsDirectory_returns {k : Nat} {Q : Bool → St → Prop} :
    Returns (existsAndIsDirectory os k) s Q ↔ (fsExists (os.stat k) = .ok false ∧ Q false s) ∨
      (fsExists (os.stat k) = .ok true ∧ ((fsIsDirectory (os.stat (k + 1)) = .ok false ∧ Q false s) ∨
        (fsIsDirectory (os.stat (k + 1)) = .ok true ∧ Q true s))) := by
  unfold existsAndIsDirectory
  rw [check_returns]
  simp

/-- Entering a directory, or answering that there is none. -/
theorem entersDirectory_returns {k : Nat} {x : Path → Ftp Unit} {y : Ftp Unit}
    {Q : Unit → St → Prop} (hx : ∀ path, Returns (x path) s Q) (hy : Returns y s Q) :
    Returns (do
      if ← existsAndIsDirectory os k then do
        let path ← liftFs os.canonical
        x path
      else y) s Q ↔ EntersDirectory os k := by
  unfold EntersDirectory Succeeds
  simp [existsAndIsDirectory_returns, hx, hy]

theorem reply_settles (h : s.messageQueue = s₀.messageQueue) :
    Returns (writeReply cfg id b) s (fun _ s' => s₀.Settled s') :=
  writeReply_returns.mpr (settled_push h)

/-- `CWD` and `CDUP` after their path is known. -/
theorem changeDirectory_returns (h : s.messageQueue = s₀.messageQueue) :
    Returns (changeDirectory cfg os id) s (fun _ s' => s₀.Settled s') ↔ EntersDirectory os 0 := by
  refine entersDirectory_returns (fun path => ?_) (reply_settles h)
  rw [Returns.bind, Returns.modify]
  exact reply_settles h

theorem createDirectory_returns {target : Path} {Q : Unit → St → Prop}
    (hQ : Q () (s.emit (.fs id (.madeDirectory target))) ↔ Q () s) :
    Returns (CreateDirOp.createDirectory os id target) s Q ↔
      (∀ e, os.mkdir ≠ .failed e) ∧ Q () s := by
  unfold CreateDirOp.createDirectory
  cases os.mkdir with
  | created => simp [hQ]
  | alreadyThere => simp
  | failed e => simp

/-- The end of MKD, from the making of the directory on. -/
theorem madeDirectory_returns {target : Path} {created : Path → SharedConstBuffer}
    (h : s.messageQueue = s₀.messageQueue) :
    Returns (do
      CreateDirOp.createDirectory os id target
      if ← existsAndIsDirectory os 1 then do
        let path ← liftFs os.canonical
        writeReply cfg id (created path)
      else writeReply cfg id b) s (fun _ s' => s₀.Settled s') ↔
      (∀ e, os.mkdir ≠ .failed e) ∧ EntersDirectory os 1 := by
  have enters : ∀ s₁ : St, s₁.messageQueue = s₀.messageQueue → (Returns (do
      if ← existsAndIsDirectory os 1 then do
        let path ← liftFs os.canonical
        writeReply cfg id (created path)
      else writeReply cfg id b) s₁ (fun _ s' => s₀.Settled s') ↔ EntersDirectory os 1) := fun _ h₁ =>
    entersDirectory_returns (fun _ => reply_settles h₁) (reply_settles h₁)
  rw [Returns.bind, createDirectory_returns]
  · rw [enters s h]
  · rw [enters s h, enters (s.emit _) h]

theorem createDirOp_returns (h : s.messageQueue = s₀.messageQueue) :
    Returns (CreateDirOp.doOperation cfg os id) s (fun _ s' => s₀.Settled s') ↔
      Answerable cfg s s.request os .createDir := by
  unfold CreateDirOp.doOperation
  rw [Returns.bind, Returns.get]
  unfold Answerable
  cases hw : cfg.writeEnable with
  | false =>
    rw [if_pos (c := (!false) = true) rfl]
    exact ⟨fun _ => Or.inl rfl, fun _ => reply_settles h⟩
  | true =>
    rw [if_neg (c := (!true) = true) Bool.false_ne_true]
    by_cases hb : s.request.body = []
    · rw [if_pos (by rw [hb]; rfl)]
      exact ⟨fun _ => Or.inr (Or.inl hb), fun _ => reply_settles h⟩
    · rw [if_neg (by simpa using hb), Returns.bind, Returns.modify, check_returns,
        madeDirectory_returns (s := s.emit _) h]
      have hreply := @reply_settles cfg id (s.emit (.target id (s.getTargetPath s.request.body))) s₀
        CreateDirOp.failedReply h
      simp only [hreply, and_true, hb, false_or, Bool.true_eq_false]
      exact or_comm

theorem changeWorkingDirOp_returns (h : s.messageQueue = s₀.messageQueue) :
    Returns (ChangeWorkingDirOp.doOperation cfg os id) s (fun _ s' => s₀.Settled s') ↔
      Answerable cfg s s.request os .changeWorkingDir := by
  unfold ChangeWorkingDirOp.doOperation
  rw [Returns.bind, Returns.get]
  show _ ↔ s.request.body = [] ∨ EntersDirectory os 0
  by_cases hb : s.request.body = []
  · rw [if_pos (by rw [hb]; rfl)]
    exact ⟨fun _ => Or.inl hb, fun _ => reply_settles h⟩
  · rw [if_neg (by simpa using hb), Returns.bind, Returns.modify,
      changeDirectory_returns (s := s.emit _) h]
    exact (or_iff_right hb).symm

theorem cdToParentOp_returns (h : s.messageQueue = s₀.messageQueue) :
    Returns (CdToParentOp.doOperation cfg os id) s (fun _ s' => s₀.Settled s') ↔
      EntersDirectory os 0 := by
  unfold CdToParentOp.doOperation
  rw [Returns.bind, Returns.get, Returns.bind, Returns.modify]
  exact changeDirectory_returns (s := s.emit _) h

theorem sizeOp_returns (h : s.messageQueue = s₀.messageQueue) :
    Returns (SizeOp.doOperation cfg os id) s (fun _ s' => s₀.Settled s') ↔
      Answerable cfg s s.request os .size := by
  unfold SizeOp.doOperation
  have hreply : ∀ {s₁ : St} {b}, s₁.messageQueue = s₀.messageQueue →
      Returns (writeReply cfg id b) s₁ (fun _ s' => s₀.Settled s') := reply_settles
  have hs : (s.emit (.target id (s.getTargetPath s.request.body))).messageQueue =
      s₀.messageQueue := h
  rw [Returns.bind, Returns.get, Returns.bind, Returns.modify, Returns.bind, check_returns]
  show _ ↔ fsExists (os.stat 0) = .ok false ∨ (fsExists (os.stat 0) = .ok true ∧
    (fsIsRegularFile (os.stat 1) = .ok false ∨
      (fsIsRegularFile (os.stat 1) = .ok true ∧ Succeeds (fsFileSize (os.stat 2)))))
  have size : ∀ found : Bool, Returns (if (!found) = true then writeReply cfg id
      (Response.getCodeStringInfo .nopermFilefatal "Could not get file size.".toList)
      else do
        let n ← liftFs (fsFileSize (os.stat 2))
        writeReply cfg id (Response.getCodeStringInfo .sizeOrMdtmOk (dec n.toNat)))
      (s.emit (.target id (s.getTargetPath s.request.body))) (fun _ s' => s₀.Settled s') ↔
        found = false ∨ Succeeds (fsFileSize (os.stat 2)) := by
    intro found
    cases found with
    | false =>
      rw [if_pos (c := (!false) = true) rfl]
      exact ⟨fun _ => Or.inl rfl, fun _ => hreply hs⟩
    | true =>
      rw [if_neg (c := (!true) = true) Bool.false_ne_true, Returns.bind, liftFs_returns]
      simp only [hreply hs, and_true, Bool.true_eq_false, false_or, Succeeds]
  rw [Returns.pure, size, liftFs_returns]
  simp only [size, true_or, and_true, Bool.exists_bool, Bool.true_eq_false, false_or]

/-- An operation without a call that can throw. -/
theorem answered_returns {x : Ftp Unit} (h : s.messageQueue = s₀.messageQueue)
    (hx : Triple (· = s) x (fun _ => Answered cfg id s) fun _ => False) :
    Returns x s (fun _ s' => s₀.Settled s') := by
  obtain ⟨u, s', hr, s₁, b, hp, _, rfl⟩ := Returns.of_triple hx rfl
  exact ⟨u, _, hr, settled_push (hp.messageQueue.trans h)⟩

theorem statOp_returns (h : s.messageQueue = s₀.messageQueue) :
    Returns (StatOp.doOperation cfg os id) s (fun _ s' => s₀.Settled s') ↔
      s.controlOpen = true := by
  unfold StatOp.doOperation controlLocalEndpoint
  rw [Returns.bind, Returns.bind, Returns.get, Returns.ite]
  simp only [Returns.throw, Returns.pure, imp_false, not_not, Returns.bind, Returns.get]
  exact ⟨fun hs => hs.2, fun hc => ⟨fun _ => reply_settles h, hc⟩⟩

theorem passiveModeOp_returns (h : s.messageQueue = s₀.messageQueue) :
    Returns (PassiveModeOp.doOperation cfg os id) s (fun _ s' => s₀.Settled s') ↔
      Answerable cfg s s.request os .passiveMode := by
  unfold PassiveModeOp.doOperation PassiveModeOp.require controlLocalEndpoint
  have hm : (if s.acceptor.isOpen then s.closeAcceptor else s).messageQueue = s₀.messageQueue ∧
      (if s.acceptor.isOpen then s.closeAcceptor else s).controlOpen = s.controlOpen := by
    split
    · exact ⟨h, rfl⟩
    · exact ⟨h, rfl⟩
  rw [Returns.bind, Returns.modify]
  generalize (if s.acceptor.isOpen then s.closeAcceptor else s) = s₁ at hm
  obtain ⟨h₁, hc⟩ := hm
  show _ ↔ os.acceptorOpen = false ∨ (os.reuseAddress = true ∧
    (os.bind = none ∨ (os.listen = true ∧ s.controlOpen = true)))
  cases ha : os.acceptorOpen with
  | false => exact ⟨fun _ => Or.inl rfl, fun _ => reply_settles h₁⟩
  | true =>
    rw [if_neg (c := (!true) = true) Bool.false_ne_true, Returns.bind, Returns.modify]
    cases hr : os.reuseAddress with
    | false => simp
    | true =>
      cases hb : os.bind with
      | none =>
        rw [Returns.bind, if_pos rfl, Returns.pure]
        exact ⟨fun _ => Or.inr ⟨rfl, Or.inl rfl⟩, fun _ => reply_settles h₁⟩
      | some port =>
        cases hl : os.listen with
        | false => simp
        | true =>
          simp only [Returns.bind, Returns.get, Returns.modify, Returns.pure, Returns.ite,
            Returns.throw, writeReply_returns, if_true, hc, imp_false, not_not, reduceCtorEq, false_or,
            true_and]
          exact ⟨fun hs => hs.2, fun ho => ⟨fun _ => settled_push h₁, ho⟩⟩

/-! ## 3. Any operation -/

/-- The operations without a data connection. -/
theorem control_returns {x : Ftp Unit}
    (hc : construct cfg os { id := id, kind := kind } =
      (do .modify St.basicOp; pure { id := id, kind := kind }))
    (hd : doOperation cfg os { id := id, kind := kind } =
      (do x; pure (some { id := id, kind := kind }))) :
    Returns (runOp cfg os { id := id, kind := kind }) s (fun _ s' => s₀.Settled s') ↔
      Returns x s.basicOp (fun _ s' => s₀.Settled s') := by
  unfold runOp
  rw [Returns.bind, hc, Returns.bind, Returns.modify, Returns.pure, hd, Returns.bind, Returns.bind]
  refine Returns.congr fun _ s' _ => ?_
  rw [Returns.pure]
  exact Returns.modify.trans settled_destroyOp

/-- A transfer whose constructor left no descriptor ends at once. -/
theorem ended_returns (hk : op.kind = .sendFile ∨ op.kind = .recvFile) (hfd : op.fd ≤ 0) :
    Returns (doOperation cfg os op >>= release cfg) s (fun _ s' => s₀.Settled s') ↔
      s₀.Settled s := by
  have e : doOperation cfg os op = pure (some op) := by
    rcases hk with hk | hk
    · unfold doOperation SendFileOp.doOperation
      rw [hk]
      exact if_pos hfd
    · unfold doOperation RecvFileOp.doOperation
      rw [hk]
      exact if_pos hfd
  rw [e, Returns.bind, Returns.pure]
  exact Returns.modify.trans settled_destroyOp

/-- A transfer that gets to `fetch_passive_connection` waits, or is refused with 503. -/
theorem fetched_returns (hq : s₀.messageQueue.length ≤ s.messageQueue.length)
    (hl : s₀.liveOps.length ≤ s.liveOps.length) :
    Returns (fetchPassiveConnection cfg op >>= release cfg) s (fun _ s' => s₀.Settled s') := by
  refine Returns.of_triple (release_ended (fetch_began rfl (fun _ => ?_) fun _ => ?_)) rfl
  · right
    rw [(St.liveOps_start (t := .accept op)).length_eq]
    exact Nat.lt_succ_of_le hl
  · rw [settled_destroyOp]
    left
    rw [St.pushMessage_messageQueue, List.length_append]
    exact Nat.lt_succ_of_le hq

theorem opened_returns (hk : op.kind = .sendFile ∨ op.kind = .recvFile) (hfd : 0 < op.fd)
    (hq : s₀.messageQueue.length ≤ s.messageQueue.length)
    (hl : s₀.liveOps.length ≤ s.liveOps.length) :
    Returns (doOperation cfg os op >>= release cfg) s (fun _ s' => s₀.Settled s') := by
  have e : doOperation cfg os op = fetchPassiveConnection cfg { op with completionToken := true } := by
    rcases hk with hk | hk
    · unfold doOperation SendFileOp.doOperation
      rw [hk]
      exact if_neg (Int.not_le.mpr hfd)
    · unfold doOperation RecvFileOp.doOperation
      rw [hk]
      exact if_neg (Int.not_le.mpr hfd)
  rw [e]
  exact fetched_returns hq hl

/-- A constructor that answers itself leaves no descriptor. -/
theorem refused_returns (hk : op.kind = .sendFile ∨ op.kind = .recvFile) (hfd : op.fd ≤ 0)
    (h : s.messageQueue = s₀.messageQueue) :
    Returns (do writeReply cfg id b; pure op) s (fun op s' =>
      Returns (doOperation cfg os op >>= release cfg) s' fun _ s' => s₀.Settled s') := by
  rw [Returns.bind, writeReply_returns, Returns.pure]
  exact (ended_returns hk hfd).mpr (settled_push h)

/-- What an open that succeeded comes to: descriptor 0 counts as none. -/
theorem descriptor_returns (hk : op.kind = .sendFile ∨ op.kind = .recvFile) {fd : Nat}
    (hfd : op.fd = fd) (hq : s.messageQueue = s₀.messageQueue)
    (hl : s.liveOps.length = s₀.liveOps.length) :
    Returns (doOperation cfg os op >>= release cfg) s (fun _ s' => s₀.Settled s') ↔ fd ≠ 0 := by
  by_cases h0 : fd = 0
  · rw [ended_returns hk (by omega)]
    exact ⟨fun hs => absurd hs (not_settled hq hl), fun h => absurd h0 h⟩
  · exact ⟨fun _ => h0, fun _ => opened_returns hk (by omega) (hq ▸ Nat.le_refl _)
      (Nat.le_of_eq hl.symm)⟩

theorem sendFileOp_returns (hq : s.messageQueue = s₀.messageQueue)
    (hl : s.liveOps.length = s₀.liveOps.length) :
    Returns (runOp cfg os { id := id, kind := .sendFile }) s (fun _ s' => s₀.Settled s') ↔
      Answerable cfg s s.request os .sendFile := by
  unfold runOp
  rw [Returns.bind]
  show Returns (SendFileOp.construct cfg os { id := id, kind := .sendFile }) s _ ↔ _
  unfold SendFileOp.construct
  rw [Returns.bind, Returns.modify, Returns.bind, Returns.get]
  show _ ↔ s.request.body = [] ∨ fsExists (os.stat 0) = .ok false ∨
    (fsExists (os.stat 0) = .ok true ∧ Succeeds (fsFileSize (os.stat 1)) ∧
      ∀ file, os.openFile ≠ .ok (0, file))
  by_cases hb : s.request.body = []
  · rw [if_pos (by rw [St.basicOp_request, hb]; rfl)]
    exact ⟨fun _ => Or.inl hb, fun _ => refused_returns (Or.inl rfl) (Int.le_refl 0) hq⟩
  rw [if_neg (by simpa using hb), Returns.bind, Returns.modify, Returns.bind, liftFs_returns,
    Bool.exists_bool]
  refine (or_congr (and_iff_left ?_) (and_congr_right fun _ => ?_)).trans (or_iff_right hb).symm
  · exact refused_returns (Or.inl rfl) (Int.le_refl 0) hq
  rw [if_neg (c := (!true) = true) Bool.false_ne_true, Returns.bind, liftFs_returns]
  refine (exists_congr fun size => and_congr_right fun _ => ?_).trans exists_and_right
  cases os.openFile with
  | error e =>
    refine ⟨fun _ _ => nofun, fun _ => ?_⟩
    exact refused_returns (Or.inl rfl) (show (-1 : Int) ≤ 0 by decide) hq
  | ok r =>
    refine Returns.pure.trans ((descriptor_returns (s := s.basicOp.emit _) (Or.inl rfl) rfl hq
      hl).trans ?_)
    exact ⟨fun h0 file he => h0 (by cases he; rfl), fun h h0 => h r.2 (by rw [← h0])⟩

theorem openAndPipe_returns (hk : op.kind = .recvFile) (hq : s.messageQueue = s₀.messageQueue)
    (hl : s.liveOps.length = s₀.liveOps.length) :
    Returns (RecvFileOp.openAndPipe cfg os op) s (fun op s' =>
      Returns (doOperation cfg os op >>= release cfg) s' fun _ s' => s₀.Settled s') ↔
      (os.pipe = none ∨ ∀ file, os.openFile ≠ .ok (0, file)) := by
  unfold RecvFileOp.openAndPipe
  cases os.openFile with
  | error e =>
    have hk' : ({ op with fd := -1 } : Op).kind = .recvFile := hk
    exact ⟨fun _ => Or.inr nofun, fun _ =>
      refused_returns (Or.inr hk') (show (-1 : Int) ≤ 0 by decide) hq⟩
  | ok r =>
    obtain ⟨fd, file⟩ := r
    have hzero : fd ≠ 0 ↔ ∀ file', (Except.ok (fd, file) : OpenResult) ≠ .ok (0, file') :=
      ⟨fun h0 file' he => h0 (by cases he; rfl), fun h h0 => h file (by rw [← h0])⟩
    refine Returns.bind.trans (Returns.modify.trans ?_)
    cases os.pipe with
    | none =>
      -- the 553 is queued, whatever the descriptor
      refine ⟨fun _ => Or.inl rfl, fun _ => ?_⟩
      have hs : s₀.Settled ((s.emit (.fs op.id (.opened file op.fileName os.created))).pushMessage
        op.id ⟨RecvFileOp.failedReply, none⟩) := settled_push hq
      refine Returns.bind.mpr (writeReply_returns.mpr (Returns.pure.mpr ?_))
      have hk' : ({ op with fd := fd, file := file } : Op).kind = .recvFile := hk
      by_cases h0 : fd = 0
      · exact (ended_returns (Or.inr hk') (by show (fd : Int) ≤ 0; omega)).mpr hs
      · refine opened_returns (Or.inr hk') (by show (0 : Int) < fd; omega) ?_ ?_
        · rw [St.pushMessage_messageQueue, List.length_append, St.emit_messageQueue, hq]
          exact Nat.le_add_right ..
        · rw [St.liveOps_pushMessage, List.length_append]
          exact Nat.le_trans (Nat.le_of_eq hl.symm) (Nat.le_add_right ..)
    | some p =>
      rw [or_iff_right (show ¬ some p = none from nofun), ← hzero]
      have hk' : ({ op with fd := fd, file := file, pipeFd := some p } : Op).kind = .recvFile := hk
      exact Returns.pure.trans (descriptor_returns (s := s.emit _) (Or.inr hk') rfl hq hl)

theorem recvFileOp_returns (hq : s.messageQueue = s₀.messageQueue)
    (hl : s.liveOps.length = s₀.liveOps.length) :
    Returns (runOp cfg os { id := id, kind := .recvFile }) s (fun _ s' => s₀.Settled s') ↔
      Answerable cfg s s.request os .recvFile := by
  unfold runOp
  rw [Returns.bind]
  show Returns (RecvFileOp.construct cfg os { id := id, kind := .recvFile }) s _ ↔ _
  unfold RecvFileOp.construct
  rw [Returns.bind, Returns.modify, Returns.bind, Returns.get]
  show _ ↔ s.request.body = [] ∨ (s.isAnonymous = true ∧ fsExists (os.stat 0) = .ok true) ∨
    ((s.isAnonymous = true → fsExists (os.stat 0) = .ok false) ∧
      (os.pipe = none ∨ ∀ file, os.openFile ≠ .ok (0, file)))
  by_cases hb : s.request.body = []
  · rw [if_pos (by rw [St.basicOp_request, hb]; rfl)]
    exact ⟨fun _ => Or.inl hb, fun _ => refused_returns (Or.inr rfl) (Int.le_refl 0) hq⟩
  rw [if_neg (by simpa using hb), or_iff_right hb, Returns.bind, Returns.modify, Returns.bind]
  have hopen : ∀ target : Path, Returns (RecvFileOp.openAndPipe cfg os
      { id := id, kind := .recvFile, fileName := target }) (s.basicOp.emit (.target id target))
      (fun op s' => Returns (doOperation cfg os op >>= release cfg) s' fun _ s' => s₀.Settled s') ↔
      (os.pipe = none ∨ ∀ file, os.openFile ≠ .ok (0, file)) := fun target =>
    openAndPipe_returns (s := s.basicOp.emit _) rfl hq hl
  have hrefuse : ∀ target : Path, Returns (do
      writeReply cfg id RecvFileOp.failedReply
      pure { id := id, kind := .recvFile }) (s.basicOp.emit (.target id target))
      (fun op s' => Returns (doOperation cfg os op >>= release cfg) s' fun _ s' => s₀.Settled s') :=
    fun target => refused_returns (s := s.basicOp.emit _) (Or.inr rfl) (Int.le_refl 0) hq
  cases ha : s.isAnonymous with
  | false =>
    rw [if_neg (by rw [St.basicOp_isAnonymous, ha]; exact Bool.false_ne_true), Returns.pure,
      if_neg Bool.false_ne_true]
    simp only [Bool.false_eq_true, false_and, false_implies, true_and, false_or]
    exact hopen _
  | true =>
    rw [if_pos (by rw [St.basicOp_isAnonymous, ha]), liftFs_returns, Bool.exists_bool, if_pos rfl,
      if_neg Bool.false_ne_true]
    simp only [true_and, true_implies]
    refine (or_congr (and_congr_right fun _ => hopen _) (and_iff_left (hrefuse _))).trans or_comm

/-- **Every operation**: it answers or waits exactly where its calls are answered so. -/
theorem runOp_returns (hq : s.messageQueue = s₀.messageQueue)
    (hl : s.liveOps.length = s₀.liveOps.length)
    (hk : createKind s.request.command = some kind) :
    Returns (runOp cfg os { id := id, kind := kind }) s (fun _ s' => s₀.Settled s') ↔
      Answerable cfg s s.request os kind := by
  have hb : s.basicOp.messageQueue = s₀.messageQueue := hq
  have always : ∀ {x : Ftp Unit} {p : Prop}, Triple (· = s.basicOp) x
      (fun _ => Answered cfg id s.basicOp) (fun _ => False) → p →
      (Returns x s.basicOp (fun _ s' => s₀.Settled s') ↔ p) := fun hx hp =>
    ⟨fun _ => hp, fun _ => answered_returns hb hx⟩
  have hrefl : ∀ x, x = s.basicOp → Prelude cfg id s.basicOp x := fun _ h => h ▸ .refl
  cases kind with
  | sendFile => exact sendFileOp_returns hq hl
  | recvFile => exact recvFileOp_returns hq hl
  | list =>
    refine ⟨fun _ => trivial, fun _ => ?_⟩
    unfold runOp
    rw [Returns.bind]
    refine Returns.bind.mpr (Returns.modify.mpr (Returns.pure.mpr ?_))
    exact fetched_returns (hq ▸ Nat.le_refl _) (Nat.le_of_eq hl.symm)
  | ack => exact (control_returns rfl rfl).trans (always ((reply_answers rfl).pre hrefl) trivial)
  | syst => exact (control_returns rfl rfl).trans (always ((reply_answers rfl).pre hrefl) trivial)
  | auth => exact (control_returns rfl rfl).trans (always (authOp_answers.pre hrefl) trivial)
  | printWorkingDir =>
    refine (control_returns rfl rfl).trans (always ?_ trivial)
    exact .get_at (reply_answers_at .refl rfl)
  | property =>
    exact (control_returns rfl rfl).trans
      (always (propertyOp_answers (createKind_property hk)) trivial)
  | stat => exact (control_returns rfl rfl).trans (statOp_returns hb)
  | createDir => exact (control_returns rfl rfl).trans (createDirOp_returns hb)
  | changeWorkingDir => exact (control_returns rfl rfl).trans (changeWorkingDirOp_returns hb)
  | cdToParent => exact (control_returns rfl rfl).trans (cdToParentOp_returns hb)
  | size => exact (control_returns rfl rfl).trans (sizeOp_returns hb)
  | passiveMode => exact (control_returns rfl rfl).trans (passiveModeOp_returns hb)

/-! ## 4. A request, from its line to the end of the handler -/

/-- `dispatch_task`: the requests without an operation are always answered. -/
theorem dispatchTask_returns (hv : s.verified = true) (hq : s.messageQueue = s₀.messageQueue)
    (hl : s.liveOps.length = s₀.liveOps.length) :
    Returns (dispatchTask cfg os) s (fun _ s' => s₀.Settled s') ↔
      ∀ kind, createKind s.request.command = some kind → Answerable cfg s s.request os kind := by
  have refuse : ∀ {b : SharedConstBuffer} {c : Option OpKind}, c = none →
      (Returns (replyOnly cfg s.nextId b) s.newRequest (fun _ s' => s₀.Settled s') ↔
        ∀ kind, c = some kind → Answerable cfg s s.request os kind) := by
    intro b c hc
    refine ⟨fun _ kind hk => ?_, fun _ => ?_⟩
    · rw [hc] at hk
      cases hk
    · refine Returns.bind.mpr (writeReply_returns.mpr (Returns.bind.mpr (Returns.modify.mpr ?_)))
      have hs : s₀.Settled (s.newRequest.pushMessage s.nextId ⟨b, none⟩) := settled_push hq
      exact Returns.pure.mpr hs
  unfold dispatchTask
  rw [Returns.bind, Returns.get, Returns.bind, Returns.modify, if_neg (by rw [hv]; exact nofun)]
  by_cases hu : s.request.command = "USER".toList
  · rw [if_pos hu]
    exact refuse (hu ▸ by decide)
  rw [if_neg hu]
  by_cases hp : s.request.command = "PASS".toList
  · rw [if_pos hp]
    exact refuse (hp ▸ by decide)
  rw [if_neg hp]
  cases hc : createKind s.request.command with
  | none => exact refuse rfl
  | some kind =>
    refine Returns.bind.trans ((Returns.congr fun _ _ _ => Returns.pure).trans ?_)
    refine (runOp_returns (s := s.newRequest) hq hl hc).trans ⟨fun h k hk => ?_, fun h => h kind rfl⟩
    cases hk
    exact h

theorem handleRead_returns (hv : s.verified = true) (hq : s.messageQueue = s₀.messageQueue)
    (hl : s.liveOps.length = s₀.liveOps.length)
    (hreq : buildRequest (splitWords (s.buf.take n)) = some req) :
    Returns (handleRead cfg os n) s (fun _ s' => s₀.Settled s') ↔
      ∀ kind, createKind req.command = some kind → Answerable cfg s req os kind := by
  unfold handleRead
  refine Returns.bind.trans (Returns.get.trans (Returns.bind.trans (Returns.modify.trans ?_)))
  rw [Returns.bind, hreq]
  refine Returns.bind.trans (Returns.modify.trans ?_)
  refine Iff.trans (Returns.congr fun dispatched s' _ => ?_)
    (dispatchTask_returns (s := s.takeLine n req) hv hq hl)
  cases dispatched with
  | true => exact Returns.pure
  | false =>
    refine Returns.bind.trans (Returns.get.trans ?_)
    by_cases hp : s'.existsPendingOperator = true
    · rw [if_pos hp]
      exact Returns.pure
    · rw [if_neg hp]
      exact Returns.modify.trans (settled_congr rfl (by rw [St.liveOps_updateIdleTimer]))

/-- The run of a queued handler, as a program. -/
theorem step_returns {t : Task} {r : Result} {P : St → Prop} (hd : s.destroyed = false)
    (hi : s.handlers[i]? = some ⟨t, some r⟩) :
    (∃ s', step cfg s (.run i os) = .ok s' ∧ P s') ↔
      Returns (runTask cfg os t r) (s.takeHandler i) (fun _ s' => P (s'.releaseSession t)) := by
  have e : step cfg s (.run i os) = runHandler cfg s i os := by
    unfold step
    rw [hd]
    rfl
  rw [e, runHandler_eq hi]
  cases hr : runTask cfg os t r (s.takeHandler i) with
  | ok x =>
    rw [Returns.of_run hr]
    constructor
    · intro ⟨s', h1, hp⟩
      cases h1
      exact hp
    · exact fun hp => ⟨_, rfl, hp⟩
  | error f =>
    constructor
    · intro ⟨s', h1, _⟩
      cases h1
    · intro ⟨a, s', h1, _⟩
      rw [hr] at h1
      cases h1

theorem read_returns (hd : s.destroyed = false) (hi : s.handlers[i]? = some ⟨.read, some .ok⟩)
    (hv : s.verified = true)
    (hreq : buildRequest (splitWords (s.buf.take ((lineEnd s.buf).getD 0))) = some req) :
    (∃ s', step cfg s (.run i os) = .ok s' ∧ s.Settled s') ↔
      ∀ kind, createKind req.command = some kind → Answerable cfg s req os kind := by
  have hl : (s.takeHandler i).liveOps.length = s.liveOps.length :=
    (St.liveOps_erase hi).length_eq
  have hl' : (s.takeHandler i).neverExpire.liveOps.length = s.liveOps.length := by
    rw [St.liveOps_neverExpire, hl]
  have hread : Returns (handleRead cfg os ((lineEnd s.buf).getD 0)) (s.takeHandler i).neverExpire
      (fun _ s' => s.Settled s') ↔
      ∀ kind, createKind req.command = some kind → Answerable cfg s req os kind :=
    handleRead_returns (s := (s.takeHandler i).neverExpire) hv rfl hl' hreq
  rw [step_returns hd hi]
  refine Returns.bind.trans (Returns.modify.trans (Returns.bind.trans (Returns.get.trans ?_)))
  refine Returns.bind.trans (Iff.trans (Returns.congr fun _ s' _ => ?_) hread)
  exact Returns.modify.trans (settled_congr rfl (congrArg _ (St.liveOps_doRead (s := s'))))

/-! ## 5. The listing of LIST -/

theorem succeeds_bind {α β : Type} {r : Except Errno α} {f : α → Except Errno β} :
    Succeeds (r >>= f) ↔ ∃ a, r = .ok a ∧ Succeeds (f a) := by
  cases r with
  | error e =>
    constructor
    · intro ⟨_, h⟩
      cases h
    · intro ⟨_, h, _⟩
      cases h
  | ok a =>
    constructor
    · exact fun h => ⟨a, rfl, h⟩
    · intro ⟨_, h, hf⟩
      cases h
      exact hf

/-- What is made of the answer cannot fail. -/
theorem succeeds_bind_total {α β : Type} {r : Except Errno α} {f : α → Except Errno β} {P : Prop}
    (hf : ∀ a, Succeeds (f a) ↔ P) : Succeeds (r >>= f) ↔ Succeeds r ∧ P := by
  rw [succeeds_bind]
  unfold Succeeds at hf ⊢
  simp only [hf, exists_and_right]

theorem succeeds_pure {α : Type} (a : α) : Succeeds (pure a : Except Errno α) := ⟨a, rfl⟩

theorem succeeds_map {α β : Type} {r : Except Errno α} {g : α → β} :
    Succeeds (r.map g) ↔ Succeeds r := by
  unfold Succeeds
  cases r <;> simp [Except.map]

theorem listEntry_succeeds {it : DirEntry} : Succeeds (listEntry cfg it) ↔ it.Listable := by
  unfold listEntry DirEntry.Listable
  refine succeeds_bind_total fun type => succeeds_bind_total fun perms =>
    succeeds_bind_total fun links => ?_
  rw [succeeds_bind, Bool.exists_bool]
  refine or_congr (and_iff_left ?_) (and_congr_right fun _ => ?_)
  · exact (succeeds_bind_total fun size => iff_of_true (succeeds_pure _) trivial).mpr
      ⟨⟨_, rfl⟩, trivial⟩
  · rw [if_pos rfl]
    refine (succeeds_bind_total fun size => iff_of_true (succeeds_pure _) trivial).trans ?_
    rw [and_true, succeeds_map]

theorem mapM_succeeds {α β : Type} {f : α → Except Errno β} : ∀ {xs : List α},
    Succeeds (xs.mapM f) ↔ ∀ x ∈ xs, Succeeds (f x)
  | [] => iff_of_true (succeeds_pure _) nofun
  | x :: xs => by
    rw [List.mapM_cons, List.forall_mem_cons]
    refine succeeds_bind_total fun y => ?_
    refine (succeeds_bind_total fun ys => iff_of_true (succeeds_pure _) trivial).trans ?_
    rw [and_true, mapM_succeeds]

/-- `list_file` throws where a call on an entry, or the iteration itself, fails. -/
theorem listFile_succeeds {dir : DirListing} :
    Succeeds (listFile cfg dir) ↔ (∀ it ∈ dir.entries, it.Listable) ∧ dir.failed = none := by
  unfold listFile
  have hlines : Succeeds (dir.entries.mapM (listEntry cfg)) ↔ ∀ it ∈ dir.entries, it.Listable := by
    rw [mapM_succeeds]
    exact forall₂_congr fun it _ => listEntry_succeeds
  rw [← hlines]
  refine succeeds_bind_total fun lines => ?_
  cases dir.failed with
  | none => exact iff_of_true (succeeds_pure _) rfl
  | some e =>
    refine iff_of_false ?_ nofun
    intro ⟨_, h⟩
    cases h

theorem handleDataConnection_returns {Q : Option Op → St → Prop}
    (hQ : ∀ response, Q none ((s.emit (.target op.id s.currentPath)).pushMessage op.id
      ⟨Response.getCodeString .dataConn, some (.writeListing op response)⟩)) :
    Returns (ListOp.handleDataConnection cfg os op) s Q ↔ Succeeds (listFile cfg os.listing) := by
  unfold ListOp.handleDataConnection
  rw [Returns.bind, Returns.get, Returns.bind, Returns.modify, Returns.bind, liftFs_returns]
  refine exists_congr fun response => and_iff_left ?_
  exact Returns.bind.mpr ((Returns.of_run (writeMessage_run ..)).mpr (Returns.pure.mpr (hQ response)))

theorem listing_returns {c : ConnId} (hd : s.destroyed = false) (hk : op.kind = .list)
    (hi : s.handlers[i]? = some ⟨.accept op, some (.conn c)⟩) :
    (∃ s', step cfg s (.run i os) = .ok s' ∧ s.Settled s') ↔
      (∀ it ∈ os.listing.entries, it.Listable) ∧ os.listing.failed = none := by
  have hmake : onConnection cfg os op = ListOp.handleDataConnection cfg os op := by
    unfold onConnection
    rw [hk]
  rw [step_returns hd hi, ← @listFile_succeeds cfg]
  unfold runTask onAccept
  rw [Returns.bind, Returns.bind, Returns.modify, Returns.bind, Returns.modify, hmake]
  refine handleDataConnection_returns fun response => ?_
  rw [release, Returns.pure]
  have hq : (((s.takeHandler i).storeConn op c).emit (.target op.id s.currentPath)).messageQueue =
      s.messageQueue := by simp [St.storeConn]
  exact Or.inl (Nat.lt_of_lt_of_eq (Nat.lt_succ_self _) (by
    rw [St.releaseSession_messageQueue, St.pushMessage_messageQueue, List.length_append]
    exact congrArg (List.length · + 1) hq.symm))

/-! ## 6. Every request -/

end

end OrangeFtpd
