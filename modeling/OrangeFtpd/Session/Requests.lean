/-
  File:      OrangeFtpd/Session/Requests.lean
  Subject:   What a request does before its handler ends.

  An operation without a data connection changes a little of the state
  (`Prelude`) and queues one final reply (`Answered`). What the creation of any
  operation leads to is `Began`, with one constructor for each way it can go.
-/
import OrangeFtpd.Lib.Triple
import OrangeFtpd.Session.Lemmas

namespace OrangeFtpd

open BasicOp Act

/-- The exceptions of the calls that operations make. -/
def Fault.ofCall : Fault → Prop
  | .filesystemError _ | .endpointError | .socketError => True
  | _ => False

/-! ## 1. The part before the reply -/

/-- What is logged before the reply of an operation without data connection. -/
inductive Note (cfg : Config) (id : Nat) : Obs → Prop where
  | target (p : Path) : Note cfg id (.target id p)
  | announced (port : UInt16) : Note cfg id (.announced port)
  | madeDirectory (p : Path) (h : cfg.writeEnable = true) : Note cfg id (.fs id (.madeDirectory p))

/-- **What precedes the reply of a request**: login, working directory, type, the
    stored request and the acceptor may change; pending accepts may be aborted. -/
structure Prelude (cfg : Config) (id : Nat) (s s₁ : St) : Prop where
  buf : s₁.buf = s.buf
  idleExpiry : s₁.idleExpiry = s.idleExpiry
  stoped : s₁.stoped = s.stoped
  destroyed : s₁.destroyed = s.destroyed
  messageQueue : s₁.messageQueue = s.messageQueue
  activeOpNum : s₁.activeOpNum = s.activeOpNum
  dataSocket : s₁.dataSocket = s.dataSocket
  controlOpen : s₁.controlOpen = s.controlOpen
  conns : s₁.conns = s.conns
  now : s₁.now = s.now
  nextId : s₁.nextId = s.nextId
  handlers : s₁.handlers = s.handlers ∨
    s₁.handlers = s.handlers.cancel Task.isAccept (.err .operationAborted)
  log : ∃ new, s₁.log = new ++ s.log ∧ ∀ o ∈ new, Note cfg id o

/-- One final reply, after a prelude. -/
def Answered (cfg : Config) (id : Nat) (s s' : St) : Prop :=
  ∃ s₁ b, Prelude cfg id s s₁ ∧ b.code.isFinal = true ∧ s' = s₁.pushMessage id ⟨b, none⟩

section

variable {cfg : Config} {os : Os} {id : Nat} {s₀ s s₁ : St} {b : SharedConstBuffer}
  {E : Fault → Prop}

theorem Prelude.refl : Prelude cfg id s s :=
  ⟨rfl, rfl, rfl, rfl, rfl, rfl, rfl, rfl, rfl, rfl, rfl, Or.inl rfl, [], rfl, by simp⟩

theorem Prelude.note {o : Obs} (h : Note cfg id o) (hp : Prelude cfg id s s₁) :
    Prelude cfg id s (s₁.emit o) := by
  obtain ⟨new, hl, hn⟩ := hp.log
  refine { hp with log := ⟨o :: new, ?_, ?_⟩ }
  · show o :: s₁.log = _
    rw [hl]
    rfl
  · intro x hx
    rcases List.mem_cons.mp hx with rfl | hx
    · exact h
    · exact hn x hx

theorem Prelude.closeAcceptor (hp : Prelude cfg id s s₁) :
    Prelude cfg id s s₁.closeAcceptor := by
  refine { hp with handlers := Or.inr ?_ }
  show s₁.handlers.cancel _ _ = _
  rcases hp.handlers with h | h
  · rw [h]
  · rw [h, Pool.cancel_cancel]

theorem Answered.now (hb : b.code.isFinal = true) (hp : Prelude cfg id s s₁) :
    Answered cfg id s (s₁.pushMessage id ⟨b, none⟩) := ⟨s₁, b, hp, hb, rfl⟩

/-! ## 2. The operations without a data connection -/

theorem writeMessage_triple {m : Message} : Triple (· = s) (writeMessage cfg id m)
    (fun _ s' => s' = s.pushMessage id m) E := by
  rintro _ rfl
  rw [writeMessage_run]

theorem writeReply_triple : Triple (· = s) (writeReply cfg id b)
    (fun _ s' => s' = s.pushMessage id ⟨b, none⟩) E := writeMessage_triple

/-- A final reply as the last thing an operation does. -/
theorem reply_answers (hb : b.code.isFinal = true) :
    Triple (Prelude cfg id s₀) (writeReply cfg id b) (fun _ => Answered cfg id s₀) E := by
  intro s hs
  rw [writeReply, writeMessage_run]
  exact Answered.now hb hs

theorem reply_answers_at (hp : Prelude cfg id s₀ s) (hb : b.code.isFinal = true) :
    Triple (· = s) (writeReply cfg id b) (fun _ => Answered cfg id s₀) E :=
  (reply_answers hb).pre fun _ h => h ▸ hp

theorem liftFs_last {α : Type} {r : Except Errno α} {P : St → Prop} :
    Triple P (liftFs r) (fun _ => P) Fault.ofCall := by
  intro s hs
  cases r with
  | ok a => exact hs
  | error e => trivial

theorem liftFs_bind {α β : Type} {r : Except Errno α} {f : α → Ftp β} {P : St → Prop}
    {R : β → St → Prop} (hf : ∀ a, r = .ok a → Triple P (f a) R Fault.ofCall) :
    Triple P (liftFs r >>= f) R Fault.ofCall := by
  refine Triple.lift_bind ?_ ?_
  · intro e he
    cases r with
    | ok a => cases he
    | error e' => cases he; trivial
  · intro a ha
    cases r with
    | ok a' => cases ha; exact hf a rfl
    | error e' => cases ha

theorem validate_answers : Triple (Prelude cfg id s₀)
    (AuthOp.validate cfg id)
    (fun valid s => if valid then Prelude cfg id s₀ s else Answered cfg id s₀ s)
    E := by
  unfold AuthOp.validate
  refine .get_bind fun s hp => .ite (fun _ => ?_) fun _ => .ite (fun _ => ?_) fun _ => ?_
  · -- the password is cleared after the reply was queued
    refine .bind (Q := fun _ => Answered cfg id s₀) (reply_answers_at hp rfl) fun _ => ?_
    refine .modify_bind (M := Answered cfg id s₀) ?_ (.pure fun _ h => h)
    rintro _ ⟨s₁, b, h1, hb, rfl⟩
    exact ⟨{ s₁ with password := [] }, b, { h1 with }, hb, rfl⟩
  · exact .modify_bind (M := Prelude cfg id s₀) (fun _ h => h ▸ { hp with }) (.pure fun _ h => h)
  · exact .modify_bind (M := Prelude cfg id s₀) (fun _ h => h ▸ { hp with }) (.pure fun _ h => h)

theorem authOp_answers : Triple (Prelude cfg id s₀) (AuthOp.doOperation cfg id)
    (fun _ => Answered cfg id s₀) E := by
  unfold AuthOp.doOperation
  refine .get_bind fun s hp => .ite (fun _ => ?_) fun _ => .ite (fun _ => ?_) fun _ => ?_
  · exact .modify_bind (M := Prelude cfg id s₀) (fun _ h => h ▸ { hp with }) (reply_answers rfl)
  · refine .modify_bind (M := Prelude cfg id s₀) (fun _ h => h ▸ { hp with }) ?_
    refine .bind validate_answers fun valid => .ite (fun h => ?_) fun h => ?_
    · exact (reply_answers rfl).pre fun s hs => by rwa [if_pos h] at hs
    · exact .pure fun s hs => by rwa [if_neg h] at hs
  · exact reply_answers_at hp rfl

theorem controlLocalEndpoint_prelude : Triple (Prelude cfg id s₀) controlLocalEndpoint
    (fun _ => Prelude cfg id s₀) Fault.ofCall := by
  unfold controlLocalEndpoint
  exact .get_bind fun s hp => .ite (fun _ => .pure fun _ h => h ▸ hp) fun _ => .throw trivial

theorem statOp_answers : Triple (Prelude cfg id s₀) (StatOp.doOperation cfg os id)
    (fun _ => Answered cfg id s₀) Fault.ofCall := by
  unfold StatOp.doOperation
  exact .bind controlLocalEndpoint_prelude fun _ => .get_bind fun s hp => reply_answers_at hp rfl

theorem existsAndIsDirectory_prelude (k : Nat) : Triple (Prelude cfg id s₀)
    (existsAndIsDirectory os k) (fun _ => Prelude cfg id s₀) Fault.ofCall := by
  unfold existsAndIsDirectory
  refine liftFs_bind fun found _ => .ite (fun _ => liftFs_last) fun _ => .pure fun _ h => h

theorem changeDirectory_answers : Triple (Prelude cfg id s₀) (changeDirectory cfg os id)
    (fun _ => Answered cfg id s₀) Fault.ofCall := by
  unfold changeDirectory
  refine .bind (existsAndIsDirectory_prelude 0) fun found => .ite (fun _ => ?_) fun _ => ?_
  · refine liftFs_bind fun path _ => ?_
    exact .modify_bind (M := Prelude cfg id s₀) (fun _ h => { h with }) (reply_answers rfl)
  · exact reply_answers rfl

theorem changeWorkingDirOp_answers : Triple (Prelude cfg id s₀)
    (ChangeWorkingDirOp.doOperation cfg os id) (fun _ => Answered cfg id s₀) Fault.ofCall := by
  unfold ChangeWorkingDirOp.doOperation
  refine .get_bind fun s hp => .ite (fun _ => reply_answers_at hp rfl) fun _ => ?_
  exact .modify_bind (by rintro _ rfl; exact hp.note (.target _)) changeDirectory_answers

theorem cdToParentOp_answers : Triple (Prelude cfg id s₀) (CdToParentOp.doOperation cfg os id)
    (fun _ => Answered cfg id s₀) Fault.ofCall := by
  unfold CdToParentOp.doOperation
  refine .get_bind fun s hp => ?_
  exact .modify_bind (by rintro _ rfl; exact hp.note (.target _)) changeDirectory_answers

/-- `MKD` makes a directory only where `write_enable` is set. -/
theorem createDirOp_answers : Triple (Prelude cfg id s₀) (CreateDirOp.doOperation cfg os id)
    (fun _ => Answered cfg id s₀) Fault.ofCall := by
  unfold CreateDirOp.doOperation
  refine .get_bind fun s hp => .ite (fun _ => reply_answers_at hp rfl) fun hw =>
    .ite (fun _ => reply_answers_at hp rfl) fun _ => ?_
  refine .modify_bind (M := Prelude cfg id s₀) (by rintro _ rfl; exact hp.note (.target _)) ?_
  refine liftFs_bind fun found _ => .ite (fun _ => reply_answers rfl) fun _ => ?_
  refine .bind (Q := fun _ => Prelude cfg id s₀) ?_ fun _ => ?_
  · unfold CreateDirOp.createDirectory
    cases os.mkdir with
    | created =>
      exact .modify fun s h => h.note (.madeDirectory _ (by simpa using hw))
    | alreadyThere => exact .pure fun _ h => h
    | failed e => exact .throw trivial
  · refine .bind (existsAndIsDirectory_prelude 1) fun made => .ite (fun _ => ?_) fun _ => ?_
    · exact liftFs_bind fun path _ => reply_answers rfl
    · exact reply_answers rfl

theorem sizeOp_answers : Triple (Prelude cfg id s₀) (SizeOp.doOperation cfg os id)
    (fun _ => Answered cfg id s₀) Fault.ofCall := by
  unfold SizeOp.doOperation
  refine .get_bind fun s hp => ?_
  refine .modify_bind (M := Prelude cfg id s₀) (by rintro _ rfl; exact hp.note (.target _)) ?_
  refine .bind (Q := fun _ => Prelude cfg id s₀) ?_ fun found => .ite (fun _ => ?_) fun _ => ?_
  · exact liftFs_bind fun _ _ => .ite (fun _ => liftFs_last) fun _ => .pure fun _ h => h
  · exact reply_answers rfl
  · exact liftFs_bind fun n _ => reply_answers rfl

/-- `PropertyOp` answers the two commands it is registered for. -/
theorem propertyOp_answers (hc : s₀.request.command = "TYPE".toList ∨
    s₀.request.command = "OPTS".toList) :
    Triple (· = s₀) (PropertyOp.doOperation cfg id) (fun _ => Answered cfg id s₀)
      E := by
  unfold PropertyOp.doOperation
  refine .modify_bind (M := fun s => Prelude cfg id s₀ s ∧
    s.request.command = s₀.request.command) (fun _ h => h ▸ ⟨{ Prelude.refl with }, rfl⟩) ?_
  refine .get_bind fun s ⟨hp, he⟩ => .ite (fun _ => ?_) fun hT => .ite (fun _ => ?_) fun hO => ?_
  · refine .ite (fun _ => ?_) fun _ => .ite (fun _ => ?_) fun _ => reply_answers_at hp rfl
    · exact .modify_bind (M := Prelude cfg id s₀) (fun _ h => h ▸ { hp with }) (reply_answers rfl)
    · exact .modify_bind (M := Prelude cfg id s₀) (fun _ h => h ▸ { hp with }) (reply_answers rfl)
  · exact .ite (fun _ => reply_answers_at hp rfl) fun _ => reply_answers_at hp rfl
  · rw [he] at hT hO
    exact absurd hc (not_or.mpr ⟨hT, hO⟩)

theorem require_prelude (b : Bool) : Triple (Prelude cfg id s₀) (PassiveModeOp.require b)
    (fun _ => Prelude cfg id s₀) Fault.ofCall := by
  unfold PassiveModeOp.require
  exact .ite (fun _ => .pure fun _ h => h) fun _ => .throw trivial

theorem passiveModeOp_answers : Triple (Prelude cfg id s₀) (PassiveModeOp.doOperation cfg os id)
    (fun _ => Answered cfg id s₀) Fault.ofCall := by
  unfold PassiveModeOp.doOperation
  refine .modify_bind (M := Prelude cfg id s₀) ?_ (.ite (fun _ => reply_answers rfl) fun _ => ?_)
  · intro s hp
    show Prelude cfg id s₀ (if _ then _ else _)
    split
    · exact hp.closeAcceptor
    · exact hp
  refine .modify_bind (M := Prelude cfg id s₀) (fun _ h => { h with }) ?_
  refine .bind (require_prelude _) fun _ => ?_
  cases os.bind with
  | none => exact reply_answers rfl
  | some port =>
    refine .bind (require_prelude _) fun _ => ?_
    refine .modify_bind (M := Prelude cfg id s₀) (fun _ h => { h with }) ?_
    refine .bind controlLocalEndpoint_prelude fun _ => ?_
    exact .modify_bind (fun _ h => h.note (.announced _)) (reply_answers rfl)

end

/-! ## 3. What the creation of an operation leads to -/

/-- An operation right after its construction. -/
structure Fresh (id : Nat) (kind : OpKind) (op : Op) : Prop where
  id : op.id = id
  kind : op.kind = kind
  fileOffset : op.fileOffset = 0
  fdOffset : op.fdOffset = 0
  fileSize : op.fileSize < 2 ^ 64

/-- The constructor of STOR opened (and so created or truncated) its file. Where it
    got no pipe it queued the 553. -/
structure Uploaded (os : Os) (id : Nat) (s : St) (op : Op) (s₂ : St) : Prop where
  fresh : Fresh id .recvFile op
  body : s.request.body ≠ []
  allowed : s.isAnonymous = true → fsExists (os.stat 0) = .ok false
  openFile : ∃ fd : Nat, os.openFile = .ok (fd, op.file) ∧ op.fd = fd
  pipe : op.pipeFd.isSome = os.pipe.isSome
  state : ∃ p path created, s₂ =
    let s₁ := ((s.basicOp).emit (.target id p)).emit (.fs id (.opened op.file path created))
    if os.pipe.isSome then s₁ else s₁.pushMessage id ⟨RecvFileOp.failedReply, none⟩

/-- **How the creation of an operation goes**, from `s` to the end of `runOp`. -/
inductive Began (cfg : Config) (os : Os) (id : Nat) (kind : OpKind) (s : St) : St → Prop where
  /-- One final reply, and the operation is gone. -/
  | answered (op : Op) (s₁ : St) (b : SharedConstBuffer) (hf : Fresh id kind op)
      (hp : Prelude cfg id s.basicOp s₁) (hb : b.code.isFinal = true) :
      Began cfg os id kind s ((s₁.pushMessage id ⟨b, none⟩).destroyOp cfg op)
  /-- RETR got descriptor 0: no reply. -/
  | silent (op : Op) (s₁ : St) (file : FileId) (hk : kind = .sendFile) (hf : Fresh id kind op)
      (hp : Prelude cfg id s.basicOp s₁) (ho : os.openFile = .ok (0, file)) :
      Began cfg os id kind s (s₁.destroyOp cfg op)
  /-- RETR or LIST waits for its data connection. -/
  | waiting (op : Op) (s₁ : St) (hk : kind = .sendFile ∨ kind = .list) (hf : Fresh id kind op)
      (ht : kind = .sendFile → op.completionToken = true) (hp : Prelude cfg id s.basicOp s₁)
      (ha : s.acceptor.isOpen = true) :
      Began cfg os id kind s (s₁.start (.accept op))
  /-- STOR got descriptor 0. -/
  | uploadNull (op : Op) (s₂ : St) (hk : kind = .recvFile) (hu : Uploaded os id s op s₂)
      (hfd : op.fd = 0) : Began cfg os id kind s (s₂.destroyOp cfg op)
  /-- STOR without an open port. -/
  | uploadRefused (op : Op) (s₂ : St) (hk : kind = .recvFile) (hu : Uploaded os id s op s₂)
      (hfd : 0 < op.fd) (ha : s.acceptor.isOpen = false) :
      Began cfg os id kind s
        ((s₂.pushMessage id ⟨Response.getCodeString .invalidSeq, none⟩).destroyOp cfg op)
  | uploadWaiting (op : Op) (s₂ : St) (hk : kind = .recvFile) (hu : Uploaded os id s op s₂)
      (hfd : 0 < op.fd) (ha : s.acceptor.isOpen = true) :
      Began cfg os id kind s (s₂.start (.accept { op with completionToken := true }))

section

variable {cfg : Config} {os : Os} {id : Nat} {kind : OpKind} {s s₁ : St} {op : Op}
  {E : Fault → Prop}

theorem Fresh.start : Fresh id kind { id := id, kind := kind } := 
  ⟨rfl, rfl, rfl, rfl, Nat.two_pow_pos 64⟩

theorem Uploaded.acceptor {s₂ : St} (h : Uploaded os id s op s₂) : s₂.acceptor = s.acceptor := by
  obtain ⟨p, path, created, rfl⟩ := h.state
  dsimp only
  split <;> rfl

/-- `fetch_passive_connection` starts the accept, or answers 503. -/
theorem fetchPassiveConnection_triple : Triple (· = s) (fetchPassiveConnection cfg op)
    (fun rest s' => (s.acceptor.isOpen = true ∧ rest = none ∧ s' = s.start (.accept op)) ∨
      (s.acceptor.isOpen = false ∧ rest = some op ∧
        s' = s.pushMessage op.id ⟨Response.getCodeString .invalidSeq, none⟩)) E := by
  unfold fetchPassiveConnection checkDataPort
  refine .bind (Q := fun open' s' => (open' = true ∧ s.acceptor.isOpen = true ∧ s' = s) ∨
    (open' = false ∧ s.acceptor.isOpen = false ∧
      s' = s.pushMessage op.id ⟨Response.getCodeString .invalidSeq, none⟩)) ?_ fun open' =>
      .ite (fun ho => ?_) fun ho => ?_
  · refine .get_bind fun _ he => he ▸ .ite (fun ha => ?_) fun ha => ?_
    · exact .pure fun _ h => Or.inl ⟨rfl, ha, h⟩
    · refine .bind writeReply_triple fun _ => .pure fun _ h => Or.inr ⟨rfl, ?_, h⟩
      exact eq_false_of_ne_true ha
  · refine .modify_bind (M := fun s' => s.acceptor.isOpen = true ∧ s' = s.start (.accept op)) ?_
      (.pure fun _ h => Or.inl ⟨h.1, rfl, h.2⟩)
    rintro _ (⟨_, ha, rfl⟩ | ⟨hn, _⟩)
    · exact ⟨ha, rfl⟩
    · rw [ho] at hn; cases hn
  · refine .pure ?_
    rintro _ (⟨hn, _⟩ | ⟨_, ha, hs⟩)
    · exact absurd hn ho
    · exact Or.inr ⟨ha, rfl, hs⟩

/-- The operations without a data connection. -/
theorem control_began {x : Ftp Unit}
    (hx : Triple (· = s.basicOp) x (fun _ => Answered cfg id s.basicOp) Fault.ofCall)
    (hc : construct cfg os { id := id, kind := kind } =
      (do .modify St.basicOp; pure { id := id, kind := kind }))
    (hd : doOperation cfg os { id := id, kind := kind } =
      (do x; pure (some { id := id, kind := kind }))) :
    Triple (· = s) (runOp cfg os { id := id, kind := kind })
      (fun _ => Began cfg os id kind s) Fault.ofCall := by
  unfold runOp
  rw [hc]
  refine .bind (Q := fun op s' => op = { id := id, kind := kind } ∧ s' = s.basicOp) ?_ fun op => ?_
  · exact .modify_bind (M := (· = s.basicOp)) (fun _ h => h ▸ rfl) (.pure fun _ h => ⟨rfl, h⟩)
  · rintro _ ⟨rfl, rfl⟩
    rw [hd]
    refine (Triple.bind (Q := fun rest s' => rest = some { id := id, kind := kind } ∧
      Answered cfg id s.basicOp s') (.bind hx fun _ => .pure fun _ h => ⟨rfl, h⟩)
      fun rest => ?_) _ rfl
    rintro _ ⟨rfl, s₁, b, hp, hb, rfl⟩
    exact Began.answered _ s₁ b .start hp hb

/-- The constructor of RETR answers, or opens the file. -/
theorem sendFileOp_construct : Triple (· = s)
    (SendFileOp.construct cfg os { id := id, kind := .sendFile })
    (fun op s' => Fresh id .sendFile op ∧ ((op.fd ≤ 0 ∧ Answered cfg id s.basicOp s') ∨
      ∃ (fd : Nat) (file : FileId), os.openFile = .ok (fd, file) ∧ op.fd = fd ∧
        Prelude cfg id s.basicOp s' ∧ s'.acceptor = s.acceptor)) Fault.ofCall := by
  unfold SendFileOp.construct
  refine .modify_bind (M := (· = s.basicOp)) (fun _ h => h ▸ rfl) (.get_bind fun _ he => ?_)
  subst he
  have answer : ∀ {op : Op} {s₁ : St} {b : SharedConstBuffer}, Fresh id .sendFile op → op.fd ≤ 0 →
      Prelude cfg id s.basicOp s₁ → b.code.isFinal = true → Triple (· = s₁)
        (do writeReply cfg id b; pure op) (fun op s' => Fresh id .sendFile op ∧
          ((op.fd ≤ 0 ∧ Answered cfg id s.basicOp s') ∨ ∃ (fd : Nat) (file : FileId),
            os.openFile = .ok (fd, file) ∧ op.fd = fd ∧ Prelude cfg id s.basicOp s' ∧
              s'.acceptor = s.acceptor)) Fault.ofCall := fun hf hfd hp hb =>
    .bind (reply_answers_at hp hb) fun _ => .pure fun _ h => ⟨hf, Or.inl ⟨hfd, h⟩⟩
  refine .ite (fun _ => answer .start (Int.le_refl 0) .refl rfl) fun _ => ?_
  have hp := (Prelude.refl : Prelude cfg id s.basicOp s.basicOp).note
    (.target (s.basicOp.getTargetPath s.basicOp.request.body))
  refine .modify_bind (M := (· = s.basicOp.emit (.target id
    (s.basicOp.getTargetPath s.basicOp.request.body)))) (fun _ h => h ▸ rfl) ?_
  refine liftFs_bind fun found _ => .ite (fun _ => ?_) fun _ => ?_
  · exact answer .start (Int.le_refl 0) hp rfl
  refine liftFs_bind fun size _ => ?_
  cases ho : os.openFile with
  | error e =>
    refine .bind (reply_answers_at hp rfl) fun _ => .pure fun _ h => ⟨?_, Or.inl ⟨?_, h⟩⟩
    · exact ⟨rfl, rfl, rfl, rfl, size.toNat_lt⟩
    · exact show (-1 : Int) ≤ 0 by decide
  | ok r =>
    refine .pure fun _ h => ?_
    subst h
    exact ⟨⟨rfl, rfl, rfl, rfl, size.toNat_lt⟩, Or.inr ⟨r.1, r.2, rfl, rfl, hp, rfl⟩⟩

/-- What is left of an operation after `do_operation` is released. -/
def Ended (cfg : Config) (B : St → Prop) (rest : Option Op) (s' : St) : Prop :=
  (rest = none ∧ B s') ∨ ∃ op, rest = some op ∧ B (s'.destroyOp cfg op)

theorem release_ended {B : St → Prop} {x : Ftp (Option Op)} {P : St → Prop}
    (h : Triple P x (Ended cfg B) E) : Triple P (x >>= release cfg) (fun _ => B) E := by
  refine .bind h fun rest => ?_
  rintro s' (⟨rfl, hb⟩ | ⟨op, rfl, hb⟩)
  · exact hb
  · exact hb

/-- The end of a transfer's `do_operation`. -/
theorem fetch_began {B : St → Prop} (hid : op.id = id)
    (hopen : s.acceptor.isOpen = true → B (s.start (.accept op)))
    (hshut : s.acceptor.isOpen = false →
      B ((s.pushMessage id ⟨Response.getCodeString .invalidSeq, none⟩).destroyOp cfg op)) :
    Triple (· = s) (fetchPassiveConnection cfg op) (Ended cfg B) E := by
  subst hid
  refine fetchPassiveConnection_triple.post ?_
  rintro rest s' (⟨ha, rfl, rfl⟩ | ⟨ha, rfl, rfl⟩)
  · exact Or.inl ⟨rfl, hopen ha⟩
  · exact Or.inr ⟨op, rfl, hshut ha⟩

theorem sendFileOp_began : Triple (· = s) (runOp cfg os { id := id, kind := .sendFile })
    (fun _ => Began cfg os id .sendFile s) Fault.ofCall := by
  unfold runOp
  refine .bind sendFileOp_construct fun op => release_ended ?_
  rintro s₁ ⟨hf, hcase⟩
  have e : doOperation cfg os op = SendFileOp.doOperation cfg op := by
    unfold doOperation
    rw [hf.kind]
  rw [e]
  refine Triple.ite (P := (· = s₁)) (fun hfd => ?_) (fun hfd => ?_) s₁ rfl
  · refine .pure fun _ h => Or.inr ⟨op, rfl, ?_⟩
    subst h
    rcases hcase with ⟨_, s₁, b, hp, hb, rfl⟩ | ⟨fd, file, ho, hfd', hp, _⟩
    · exact .answered op s₁ b hf hp hb
    · have h0 : fd = 0 := by omega
      exact .silent op _ file rfl hf hp (h0 ▸ ho)
  · rcases hcase with ⟨h0, _⟩ | ⟨fd, file, ho, hfd', hp, ha⟩
    · exact absurd h0 hfd
    · have hf' : Fresh id .sendFile { op with completionToken := true } :=
        ⟨hf.id, hf.kind, hf.fileOffset, hf.fdOffset, hf.fileSize⟩
      refine fetch_began hf.id (fun h => ?_) (fun _ => ?_)
      · exact .waiting _ s₁ (Or.inl rfl) hf' (fun _ => rfl) hp (ha ▸ h)
      · exact .answered _ s₁ _ hf' hp rfl

theorem listOp_began : Triple (· = s) (runOp cfg os { id := id, kind := .list })
    (fun _ => Began cfg os id .list s) Fault.ofCall := by
  unfold runOp
  refine .bind (Q := fun op s' => op = { id := id, kind := .list } ∧ s' = s.basicOp) ?_ fun op =>
    release_ended ?_
  · exact .modify_bind (M := (· = s.basicOp)) (fun _ h => h ▸ rfl) (.pure fun _ h => ⟨rfl, h⟩)
  rintro _ ⟨rfl, rfl⟩
  have hf : Fresh id .list { id := id, kind := .list } := .start
  refine fetch_began hf.id (fun h => ?_) (fun _ => ?_) s.basicOp rfl
  · exact .waiting _ s.basicOp (Or.inr rfl) .start nofun .refl h
  · exact .answered _ s.basicOp _ .start .refl rfl

theorem openAndPipe_triple {p : Path} (hf : Fresh id .recvFile op) (hn : op.pipeFd = none)
    (hbody : s.request.body ≠ [])
    (hallow : s.isAnonymous = true → fsExists (os.stat 0) = .ok false) :
    Triple (· = s.basicOp.emit (.target id p)) (RecvFileOp.openAndPipe cfg os op)
      (fun op s' => (Fresh id .recvFile op ∧ op.fd ≤ 0 ∧ Answered cfg id s.basicOp s') ∨
        Uploaded os id s op s') Fault.ofCall := by
  obtain ⟨rfl, hk, h1, h2, h3⟩ := hf
  unfold RecvFileOp.openAndPipe
  cases ho : os.openFile with
  | error e =>
    refine .bind (reply_answers_at (Prelude.refl.note (.target p)) rfl) fun _ => ?_
    exact .pure fun _ h => Or.inl ⟨⟨rfl, hk, h1, h2, h3⟩, show (-1 : Int) ≤ 0 by decide, h⟩
  | ok r =>
    refine .modify_bind (M := (· = (s.basicOp.emit (.target op.id p)).emit (.fs op.id
      (.opened r.2 op.fileName os.created)))) (fun _ h => h ▸ rfl) ?_
    cases hpipe : os.pipe with
    | none =>
      refine .bind writeReply_triple fun _ => .pure fun _ h => Or.inr ?_
      subst h
      exact ⟨⟨rfl, hk, h1, h2, h3⟩, hbody, hallow, ⟨r.1, ho, rfl⟩,
        by rw [hpipe, hn], _, _, _, by rw [hpipe]; rfl⟩
    | some pipe =>
      refine .pure fun _ h => Or.inr ?_
      subst h
      exact ⟨⟨rfl, hk, h1, h2, h3⟩, hbody, hallow, ⟨r.1, ho, rfl⟩,
        by rw [hpipe], _, _, _, by rw [hpipe]; rfl⟩

/-- The constructor of STOR answers before it opens the file, or after the open
    failed, or the file is there. -/
theorem recvFileOp_construct : Triple (· = s)
    (RecvFileOp.construct cfg os { id := id, kind := .recvFile })
    (fun op s' => (Fresh id .recvFile op ∧ op.fd ≤ 0 ∧ Answered cfg id s.basicOp s') ∨
      Uploaded os id s op s') Fault.ofCall := by
  unfold RecvFileOp.construct
  refine .modify_bind (M := (· = s.basicOp)) (fun _ h => h ▸ rfl) (.get_bind fun _ he => ?_)
  subst he
  have answer : ∀ {s₁ : St}, Prelude cfg id s.basicOp s₁ → Triple (· = s₁)
      (do writeReply cfg id RecvFileOp.failedReply; pure { id := id, kind := .recvFile })
      (fun op s' => (Fresh id .recvFile op ∧ op.fd ≤ 0 ∧ Answered cfg id s.basicOp s') ∨
        Uploaded os id s op s') Fault.ofCall := fun hp =>
    .bind (reply_answers_at hp rfl) fun _ => .pure fun _ h => Or.inl ⟨.start, Int.le_refl 0, h⟩
  refine .ite (fun _ => answer .refl) fun hbody => ?_
  have hbody' : s.request.body ≠ [] := fun h => hbody (by simp [St.basicOp, h])
  refine .modify_bind (M := (· = s.basicOp.emit (.target id
    (s.basicOp.getTargetPath s.basicOp.request.body)))) (fun _ h => h ▸ rfl) ?_
  refine .bind (Q := fun refuse s' => (refuse = false → s.isAnonymous = true →
    fsExists (os.stat 0) = .ok false) ∧ s' = s.basicOp.emit (.target id
    (s.basicOp.getTargetPath s.basicOp.request.body))) ?_ fun refuse => .ite (fun _ => ?_) fun hr => ?_
  · refine .ite (fun _ => ?_) fun ha => .pure fun _ h => ⟨fun _ h => absurd h ha, h⟩
    intro s' hs'
    cases fsExists (os.stat 0) with
    | error e => trivial
    | ok found => exact ⟨fun h _ => h ▸ rfl, hs'⟩
  · exact (answer (Prelude.refl.note (.target _))).pre fun _ h => h.2
  · rintro s₁ ⟨hallow, hs₁⟩
    have hf : Fresh id .recvFile
        { id := id, kind := .recvFile,
          fileName := s.basicOp.getTargetPath s.basicOp.request.body } :=
      ⟨rfl, rfl, rfl, rfl, Nat.two_pow_pos 64⟩
    exact openAndPipe_triple hf rfl hbody' (hallow (eq_false_of_ne_true hr)) s₁ hs₁

theorem recvFileOp_began : Triple (· = s) (runOp cfg os { id := id, kind := .recvFile })
    (fun _ => Began cfg os id .recvFile s) Fault.ofCall := by
  unfold runOp
  refine .bind recvFileOp_construct fun op => release_ended ?_
  intro s₁ hcase
  have hk : op.kind = .recvFile := by
    rcases hcase with ⟨hf, _⟩ | hu
    · exact hf.kind
    · exact hu.fresh.kind
  have e : doOperation cfg os op = RecvFileOp.doOperation cfg op := by
    unfold doOperation
    rw [hk]
  rw [e]
  refine Triple.ite (P := (· = s₁)) (fun hfd => ?_) (fun hfd => ?_) s₁ rfl
  · refine .pure fun _ h => Or.inr ⟨op, rfl, ?_⟩
    subst h
    rcases hcase with ⟨hf, _, s₁, b, hp, hb, rfl⟩ | hu
    · exact .answered op s₁ b hf hp hb
    · obtain ⟨fd, _, hfd'⟩ := hu.openFile
      exact .uploadNull op _ rfl hu (by omega)
  · rcases hcase with ⟨_, h0, _⟩ | hu
    · exact absurd h0 hfd
    · have hpos : 0 < op.fd := by omega
      refine fetch_began hu.fresh.id (fun h => ?_) (fun h => ?_)
      · exact .uploadWaiting op s₁ rfl hu hpos (hu.acceptor ▸ h)
      · exact .uploadRefused op s₁ rfl hu hpos (hu.acceptor ▸ h)

/-- **Every operation**: it begins in one of the ways of `Began`, or a call it makes
    throws. -/
theorem runOp_began (hk : kind = .property → s.request.command = "TYPE".toList ∨
    s.request.command = "OPTS".toList) :
    Triple (· = s) (runOp cfg os { id := id, kind := kind })
      (fun _ => Began cfg os id kind s) Fault.ofCall := by
  have from_start : ∀ {x : Ftp Unit}, Triple (Prelude cfg id s.basicOp) x
      (fun _ => Answered cfg id s.basicOp) Fault.ofCall → Triple (· = s.basicOp) x
      (fun _ => Answered cfg id s.basicOp) Fault.ofCall := fun h => h.pre fun _ e => e ▸ .refl
  cases kind with
  | sendFile => exact sendFileOp_began
  | recvFile => exact recvFileOp_began
  | list => exact listOp_began
  | ack => exact control_began (from_start (reply_answers rfl)) rfl rfl
  | syst => exact control_began (from_start (reply_answers rfl)) rfl rfl
  | printWorkingDir =>
    exact control_began (from_start (.get_bind fun _ hp => reply_answers_at hp rfl)) rfl rfl
  | auth => exact control_began (from_start authOp_answers) rfl rfl
  | stat => exact control_began (from_start statOp_answers) rfl rfl
  | createDir => exact control_began (from_start createDirOp_answers) rfl rfl
  | changeWorkingDir => exact control_began (from_start changeWorkingDirOp_answers) rfl rfl
  | cdToParent => exact control_began (from_start cdToParentOp_answers) rfl rfl
  | size => exact control_began (from_start sizeOp_answers) rfl rfl
  | passiveMode => exact control_began (from_start passiveModeOp_answers) rfl rfl
  | property => exact control_began (propertyOp_answers (hk rfl)) rfl rfl

/-- `PropertyOp` is registered for two commands. -/
theorem createKind_property {command : Text} (h : createKind command = some .property) :
    command = "TYPE".toList ∨ command = "OPTS".toList := by
  unfold createKind at h
  obtain ⟨l₁, l₂, hl, _⟩ := List.lookup_eq_some_iff.mp h
  have hm : (command, OpKind.property) ∈ operationMap :=
    hl ▸ List.mem_append_right l₁ List.mem_cons_self
  simpa [operationMap, or_comm] using hm

end

end OrangeFtpd
