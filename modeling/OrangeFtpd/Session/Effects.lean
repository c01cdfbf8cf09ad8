/-
  File:      OrangeFtpd/Session/Effects.lean
  Subject:   What a request does to the session, one change after the other.

  `Effect cfg os id kind` is one change that the code of an operation of the class
  `kind` makes while its request is handled; `runOp_effects` says that it makes
  no others. A property that every effect keeps is kept by the request.
  `Dispatched` says how `handle_read` goes, with the run of the operation itself.
-/
import Mathlib.Logic.Relation
import OrangeFtpd.Session.Steps

namespace OrangeFtpd

open BasicOp Act

/-! ## 1. Effects -/

/-- The text has one `delimit`, and it is the end. -/
def SharedConstBuffer.OneLine (b : SharedConstBuffer) : Prop :=
  lineEnd b.data = some b.data.length

instance {b : SharedConstBuffer} : Decidable b.OneLine :=
  inferInstanceAs (Decidable (lineEnd b.data = some b.data.length))

/-- The reply of STAT. -/
def StatOp.status (cfg : Config) (os : Os) (s : St) : SharedConstBuffer :=
  ⟨.statOk, dec RetCode.statOk.toNat ++ "-FTP server status:\n".toList ++
    "  Connected to ".toList ++ os.localAddress ++ "\n".toList ++
    "  Logged in as ".toList ++ s.user ++ "\n".toList ++
    "  TYPE: ".toList ++ StatOp.typeToString s.type ++ "\n".toList ++
    "  Session timeout in seconds is ".toList ++ decInt cfg.maxIdleTimeout ++ "\n".toList ++
    "  Total client connected num is ".toList ++ decInt os.clientNum ++ "\n".toList ++
    dec RetCode.statOk.toNat ++ " End of status\r\n".toList⟩

/-- **What an operation can reply** in the state `s`. -/
inductive Says (cfg : Config) (os : Os) (s : St) : SharedConstBuffer → Prop where
  /-- A text of the server's own, and no 150. -/
  | fixed (b : SharedConstBuffer) (h : b.OneLine ∧ b.code.isFinal = true) : Says cfg os s b
  | size (n : UInt64) : Says cfg os s (Response.getCodeStringInfo .sizeOrMdtmOk (dec n.toNat))
  | workingDir : Says cfg os s (Response.getPwdResponse s.currentPath)
  | changedTo (p : Path) (h : p = s.currentPath ∨ os.canonical = .ok p) :
      Says cfg os s (Response.getCwdResponse (some p))
  | created (p : Path) (h : os.canonical = .ok p) :
      Says cfg os s (Response.getCodeStringInfo .pwdOrMkdirOk ('"' :: p ++ "\" created.".toList))
  | status : Says cfg os s (StatOp.status cfg os s)
  | passive (port : UInt16) : Says cfg os s (Response.getPasvResponse os.localAddress port)

/-- Operations reply finally; the 150 comes with their data connection. -/
theorem Says.isFinal {cfg : Config} {os : Os} {s : St} {b : SharedConstBuffer}
    (h : Says cfg os s b) : b.code.isFinal = true := by
  cases h with
  | fixed b h => exact h.2
  | _ => rfl

/-- **One change** that the code of an operation makes. -/
inductive Effect (cfg : Config) (os : Os) (id : Nat) (kind : OpKind) (s : St) : St → Prop where
  | constructed : Effect cfg os id kind s s.basicOp
  | replied (b : SharedConstBuffer) (h : Says cfg os s b) :
      Effect cfg os id kind s (s.pushMessage id ⟨b, none⟩)
  /-- `CDUP` does not look at the body. -/
  | named (p : Path) (h : p = s.getTargetPath s.request.body ∨ kind = .cdToParent) :
      Effect cfg os id kind s (s.emit (.target id p))
  | madeDirectory (p : Path) (hk : kind = .createDir) (hw : cfg.writeEnable = true) :
      Effect cfg os id kind s (s.emit (.fs id (.madeDirectory p)))
  | opened (fd : Nat) (file : FileId) (p : Path) (hk : kind = .recvFile)
      (ho : os.openFile = .ok (fd, file)) :
      Effect cfg os id kind s (s.emit (.fs id (.opened file p os.created)))
  | moved (p : Path) (hk : kind = .changeWorkingDir ∨ kind = .cdToParent)
      (h : os.canonical = .ok p) : Effect cfg os id kind s { s with currentPath := p }
  | upperCased (hk : kind = .property) :
      Effect cfg os id kind s { s with request := { s.request with body := toUpper s.request.body } }
  | typed (t : TransportType) (hk : kind = .property) : Effect cfg os id kind s { s with type := t }
  | userGiven (hk : kind = .auth) (hc : s.request.command = "USER".toList) :
      Effect cfg os id kind s { s with user := s.request.body }
  | passwordGiven (p : Text) (hk : kind = .auth) (hc : s.request.command = "PASS".toList) :
      Effect cfg os id kind s { s with password := p }
  | loggedIn (anonymous : Bool) (hk : kind = .auth) (hc : s.request.command = "PASS".toList)
      (hu : s.user ≠ [])
      (ha : anonymous = (cfg.anonymousEnable && toLower s.user == "anonymous".toList)) :
      Effect cfg os id kind s { s with isAnonymous := anonymous, verified := true }
  | portClosed (hk : kind = .passiveMode) : Effect cfg os id kind s s.closeAcceptor
  | portOpened (a : Acceptor) (hk : kind = .passiveMode) :
      Effect cfg os id kind s { s with acceptor := a }
  | announced (port : UInt16) (hk : kind = .passiveMode) :
      Effect cfg os id kind s (s.emit (.announced port))
  | waits (op : Op) (hk : kind.isTransfer = true) :
      Effect cfg os id kind s (s.start (.accept op))
  | destroyed (op : Op) (hk : op.kind = kind) : Effect cfg os id kind s (s.destroyOp cfg op)

/-- A sequence of effects. -/
abbrev Effects (cfg : Config) (os : Os) (id : Nat) (kind : OpKind) : St → St → Prop :=
  Relation.ReflTransGen (Effect cfg os id kind)

/-- **What every effect keeps**, the request keeps. -/
theorem Effects.invariant {cfg : Config} {os : Os} {id : Nat} {kind : OpKind} {s s' : St}
    {I : St → Prop} (hr : Effects cfg os id kind s s')
    (h : ∀ s s', Effect cfg os id kind s s' → I s → I s') (h0 : I s) : I s' := by
  induction hr with
  | refl => exact h0
  | tail _ he ih => exact h _ _ he ih

/-! ## 2. Operations without a data connection -/

section

variable {cfg : Config} {os : Os} {id n i : Nat} {kind : OpKind} {s₀ s s₁ s' : St} {op : Op}
  {b : SharedConstBuffer} {E : Fault → Prop}

/-- The program makes effects only. -/
def Makes (cfg : Config) (os : Os) (id : Nat) (kind : OpKind) (s₀ : St) {α : Type} (x : Ftp α) :
    Prop :=
  Triple (Effects cfg os id kind s₀) x (fun _ => Effects cfg os id kind s₀) fun _ => True

theorem makes_reply_at (hs : Effects cfg os id kind s₀ s) (h : Says cfg os s b) :
    Triple (· = s) (writeReply cfg id b) (fun _ => Effects cfg os id kind s₀) E :=
  writeReply_triple.post fun _ _ e => e ▸ hs.tail (.replied b h)

theorem makes_fixed (h : b.OneLine ∧ b.code.isFinal = true) :
    Makes cfg os id kind s₀ (writeReply cfg id b) :=
  fun s hs => makes_reply_at hs (.fixed b h) s rfl

theorem makes_lift {α : Type} {r : Except Errno α} : Makes cfg os id kind s₀ (liftFs r) := by
  intro s hs
  cases r with
  | ok a => exact hs
  | error e => trivial

theorem lift_then {α β : Type} {r : Except Errno α} {f : α → Ftp β} {P : St → Prop}
    {R : β → St → Prop} (hf : ∀ a, r = .ok a → Triple P (f a) R fun _ => True) :
    Triple P (liftFs r >>= f) R fun _ => True := by
  refine Triple.lift_bind (fun _ _ => trivial) fun a ha => ?_
  cases r with
  | ok a' => cases ha; exact hf a rfl
  | error e' => cases ha

theorem known_lift {α : Type} {r : Except Errno α} :
    Triple (· = s) (liftFs r) (fun _ s' => s' = s) fun _ => True :=
  liftFs_last.conseq (fun _ h => h) (fun _ _ h => h) fun _ _ => trivial

theorem authOp_makes : Makes cfg os id .auth s₀ (AuthOp.doOperation cfg id) := by
  unfold AuthOp.doOperation
  refine .get_bind fun s hs => .ite (fun hu => ?_) fun _ => .ite (fun hp => ?_) fun _ => ?_
  · exact .modify_bind (M := Effects cfg os id .auth s₀)
      (fun _ h => h ▸ hs.tail (.userGiven rfl hu)) (makes_fixed (by decide))
  · refine .modify_bind (M := fun s => Effects cfg os id .auth s₀ s ∧
      s.request.command = "PASS".toList)
      (fun _ h => h ▸ ⟨hs.tail (.passwordGiven _ rfl hp), hp⟩) ?_
    refine .bind (Q := fun _ => Effects cfg os id .auth s₀) ?_ fun valid =>
      .ite (fun _ => makes_fixed (by decide)) fun _ => .pure fun _ h => h
    unfold AuthOp.validate
    refine .get_bind fun s ⟨hs, hp⟩ => .ite (fun _ => ?_) fun hu => .ite (fun ha => ?_) fun ha => ?_
    · refine .bind (Q := fun _ s' => Effects cfg os id .auth s₀ s' ∧
        s'.request.command = "PASS".toList) ?_ fun _ => ?_
      · exact writeReply_triple.post fun _ _ e => e ▸ ⟨hs.tail (.replied _ (.fixed _ (by decide))), hp⟩
      · exact .modify_bind (M := Effects cfg os id .auth s₀)
          (fun _ h => h.1.tail (.passwordGiven [] rfl h.2)) (.pure fun _ h => h)
    · exact .modify_bind (M := Effects cfg os id .auth s₀)
        (fun _ h => h ▸ hs.tail (.loggedIn true rfl hp (by simpa using hu) ha.symm)) (.pure fun _ h => h)
    · exact .modify_bind (M := Effects cfg os id .auth s₀)
        (fun _ h => h ▸ hs.tail (.loggedIn false rfl hp (by simpa using hu)
          (eq_false_of_ne_true ha).symm)) (.pure fun _ h => h)
  · exact makes_reply_at hs (.fixed _ (by decide))

theorem controlLocalEndpoint_makes : Makes cfg os id kind s₀ controlLocalEndpoint := by
  unfold controlLocalEndpoint
  exact .get_bind fun s hs => .ite (fun _ => .pure fun _ h => h ▸ hs) fun _ => .throw trivial

theorem statOp_makes : Makes cfg os id .stat s₀ (StatOp.doOperation cfg os id) :=
  .bind controlLocalEndpoint_makes fun _ => .get_bind fun _ hs => makes_reply_at hs .status

theorem existsAndIsDirectory_makes (k : Nat) :
    Makes cfg os id kind s₀ (existsAndIsDirectory os k) :=
  lift_then fun _ _ => .ite (fun _ => makes_lift) fun _ => .pure fun _ h => h

theorem changeDirectory_makes (hk : kind = .changeWorkingDir ∨ kind = .cdToParent) :
    Makes cfg os id kind s₀ (changeDirectory cfg os id) := by
  unfold changeDirectory
  refine .bind (existsAndIsDirectory_makes 0) fun found => .ite (fun _ => ?_) fun _ => ?_
  · refine lift_then fun path hp => ?_
    exact .modify_bind (M := Effects cfg os id kind s₀) (fun _ h => h.tail (.moved path hk hp))
      fun s hs => makes_reply_at hs (.changedTo path (Or.inr hp)) s rfl
  · exact makes_fixed (by decide)

theorem changeWorkingDirOp_makes :
    Makes cfg os id .changeWorkingDir s₀ (ChangeWorkingDirOp.doOperation cfg os id) := by
  unfold ChangeWorkingDirOp.doOperation
  refine .get_bind fun s hs => .ite (fun _ => makes_reply_at hs (.changedTo _ (Or.inl rfl))) fun _ => ?_
  exact .modify_bind (by rintro _ rfl; exact hs.tail (.named _ (Or.inl rfl)))
    (changeDirectory_makes (Or.inl rfl))

theorem cdToParentOp_makes :
    Makes cfg os id .cdToParent s₀ (CdToParentOp.doOperation cfg os id) := by
  unfold CdToParentOp.doOperation
  exact .get_bind fun s hs => .modify_bind (by rintro _ rfl; exact hs.tail (.named _ (Or.inr rfl)))
    (changeDirectory_makes (Or.inr rfl))

theorem createDirOp_makes : Makes cfg os id .createDir s₀ (CreateDirOp.doOperation cfg os id) := by
  unfold CreateDirOp.doOperation
  refine .get_bind fun s hs => .ite (fun _ => makes_reply_at hs (.fixed _ (by decide))) fun hw =>
    .ite (fun _ => makes_reply_at hs (.fixed _ (by decide))) fun _ => ?_
  refine .modify_bind (M := Effects cfg os id .createDir s₀)
    (by rintro _ rfl; exact hs.tail (.named _ (Or.inl rfl))) ?_
  refine lift_then fun found _ => .ite (fun _ => makes_fixed (by decide)) fun _ => ?_
  refine .bind (Q := fun _ => Effects cfg os id .createDir s₀) ?_ fun _ => ?_
  · unfold CreateDirOp.createDirectory
    cases os.mkdir with
    | created => exact .modify fun _ h => h.tail (.madeDirectory _ rfl (by simpa using hw))
    | alreadyThere => exact .pure fun _ h => h
    | failed e => exact .throw trivial
  · refine .bind (existsAndIsDirectory_makes 1) fun made => .ite (fun _ => ?_) fun _ => ?_
    · exact lift_then fun path hp s hs => makes_reply_at hs (.created path hp) s rfl
    · exact makes_fixed (by decide)

theorem sizeOp_makes : Makes cfg os id .size s₀ (SizeOp.doOperation cfg os id) := by
  unfold SizeOp.doOperation
  refine .get_bind fun s hs => .modify_bind (M := Effects cfg os id .size s₀)
    (by rintro _ rfl; exact hs.tail (.named _ (Or.inl rfl))) ?_
  refine .bind (Q := fun _ => Effects cfg os id .size s₀) ?_ fun found =>
    .ite (fun _ => makes_fixed (by decide)) fun _ => ?_
  · exact lift_then fun _ _ => .ite (fun _ => makes_lift) fun _ => .pure fun _ h => h
  · exact lift_then fun n _ s hs => makes_reply_at hs (.size n) s rfl

theorem propertyOp_makes : Makes cfg os id .property s₀ (PropertyOp.doOperation cfg id) := by
  unfold PropertyOp.doOperation
  refine .modify_bind (M := Effects cfg os id .property s₀) (fun _ h => h.tail (.upperCased rfl)) ?_
  refine .get_bind fun s hs => .ite (fun _ => ?_) fun _ => .ite (fun _ => ?_) fun _ => ?_
  · refine .ite (fun _ => ?_) fun _ => .ite (fun _ => ?_) fun _ =>
      makes_reply_at hs (.fixed _ (by decide))
    · exact .modify_bind (M := Effects cfg os id .property s₀)
        (fun _ h => h ▸ hs.tail (.typed .binary rfl)) (makes_fixed (by decide))
    · exact .modify_bind (M := Effects cfg os id .property s₀)
        (fun _ h => h ▸ hs.tail (.typed .ascii rfl)) (makes_fixed (by decide))
  · exact .ite (fun _ => makes_reply_at hs (.fixed _ (by decide))) fun _ =>
      makes_reply_at hs (.fixed _ (by decide))
  · exact .pure fun _ h => h ▸ hs

theorem require_makes (succeeds : Bool) :
    Makes cfg os id kind s₀ (PassiveModeOp.require succeeds) :=
  .ite (fun _ => .pure fun _ h => h) fun _ => .throw trivial

theorem passiveModeOp_makes :
    Makes cfg os id .passiveMode s₀ (PassiveModeOp.doOperation cfg os id) := by
  unfold PassiveModeOp.doOperation
  refine .modify_bind (M := Effects cfg os id .passiveMode s₀) (fun s hs => ?_)
    (.ite (fun _ => makes_fixed (by decide)) fun _ => ?_)
  · show Effects cfg os id .passiveMode s₀ (if _ then _ else _)
    split
    · exact hs.tail (.portClosed rfl)
    · exact hs
  refine .modify_bind (M := Effects cfg os id .passiveMode s₀)
    (fun _ h => h.tail (.portOpened _ rfl)) (.bind (require_makes _) fun _ => ?_)
  cases os.bind with
  | none => exact makes_fixed (by decide)
  | some port =>
    refine .bind (require_makes _) fun _ => .modify_bind (M := Effects cfg os id .passiveMode s₀)
      (fun _ h => h.tail (.portOpened _ rfl)) (.bind controlLocalEndpoint_makes fun _ => ?_)
    exact .modify_bind (M := Effects cfg os id .passiveMode s₀) (fun _ h => h.tail (.announced port rfl))
      fun s hs => makes_reply_at hs (.passive port) s rfl

/-! ## 3. Transfers -/

/-- The program hands an operation of the request back. -/
def Returned (cfg : Config) (os : Os) (id : Nat) (kind : OpKind) (s₀ : St) (op : Op) (s : St) :
    Prop := (op.id = id ∧ op.kind = kind) ∧ Effects cfg os id kind s₀ s

/-- An operation that is not handed on is one of its class. -/
def Left (cfg : Config) (os : Os) (id : Nat) (kind : OpKind) (s₀ : St) (rest : Option Op) (s : St) :
    Prop := (∀ op ∈ rest, op.kind = kind) ∧ Effects cfg os id kind s₀ s

/-- `do_operation` of RETR and STOR, and `fetch_passive_connection`. -/
theorem fetchPassiveConnection_makes (hop : op.id = id ∧ op.kind = kind)
    (hk : kind.isTransfer = true) : Triple (Effects cfg os id kind s₀)
      (fetchPassiveConnection cfg op) (Left cfg os id kind s₀) fun _ => True := by
  obtain ⟨rfl, hop⟩ := hop
  refine fun s hs => (fetchPassiveConnection_triple.post ?_) s rfl
  rintro _ s' (⟨_, rfl, rfl⟩ | ⟨_, rfl, rfl⟩)
  · exact ⟨nofun, hs.tail (.waits op hk)⟩
  · exact ⟨fun _ e => Option.some.inj e ▸ hop, hs.tail (.replied _ (.fixed _ (by decide)))⟩

theorem fetchOrLeave_makes (hop : op.id = id ∧ op.kind = kind) (hk : kind.isTransfer = true) :
    Triple (Effects cfg os id kind s₀) (if op.fd ≤ 0 then pure (some op)
      else fetchPassiveConnection cfg { op with completionToken := true })
      (Left cfg os id kind s₀) fun _ => True :=
  .ite (fun _ => .pure fun _ h => ⟨fun _ e => Option.some.inj e ▸ hop.2, h⟩)
    fun _ => fetchPassiveConnection_makes hop hk

theorem reply_returned (hop : op.id = id ∧ op.kind = kind)
    (h : b.OneLine ∧ b.code.isFinal = true) (hs : Effects cfg os id kind s₀ s) :
    Triple (· = s) (do writeReply cfg id b; pure op) (Returned cfg os id kind s₀) fun _ => True :=
  .bind (makes_reply_at hs (.fixed b h)) fun _ => .pure fun _ h => ⟨hop, h⟩

theorem sendFileOp_makes : Triple (· = s)
    (SendFileOp.construct cfg os { id := id, kind := .sendFile })
    (Returned cfg os id .sendFile s) fun _ => True := by
  unfold SendFileOp.construct
  refine .modify_bind_at (.get_at (.ite (fun _ => ?_) fun _ => ?_))
  · exact reply_returned ⟨rfl, rfl⟩ (by decide) (.single .constructed)
  have hn : Effects cfg os id .sendFile s (s.basicOp.emit (.target id _)) :=
    .tail (.single .constructed) (.named _ (Or.inl rfl))
  refine .modify_bind_at (lift_then fun found _ => .ite (fun _ => ?_) fun _ =>
    lift_then fun size _ => ?_)
  · exact reply_returned ⟨rfl, rfl⟩ (by decide) hn
  · cases os.openFile with
    | error e => exact reply_returned ⟨rfl, rfl⟩ (by decide) hn
    | ok r => exact .pure_at ⟨⟨rfl, rfl⟩, hn⟩

theorem openAndPipe_makes (hop : op.id = id ∧ op.kind = .recvFile)
    (hs : Effects cfg os id .recvFile s₀ s) : Triple (· = s) (RecvFileOp.openAndPipe cfg os op)
      (Returned cfg os id .recvFile s₀) fun _ => True := by
  obtain ⟨rfl, hk⟩ := hop
  unfold RecvFileOp.openAndPipe
  cases ho : os.openFile with
  | error e => exact reply_returned ⟨rfl, hk⟩ (by decide) hs
  | ok r =>
    have hop := hs.tail (.opened r.1 r.2 op.fileName rfl ho)
    refine .modify_bind_at ?_
    cases os.pipe with
    | none => exact reply_returned ⟨rfl, hk⟩ (by decide) hop
    | some p => exact .pure_at ⟨⟨rfl, hk⟩, hop⟩

theorem recvFileOp_makes : Triple (· = s)
    (RecvFileOp.construct cfg os { id := id, kind := .recvFile })
    (Returned cfg os id .recvFile s) fun _ => True := by
  unfold RecvFileOp.construct
  refine .modify_bind_at (.get_at (.ite (fun _ => ?_) fun _ => ?_))
  · exact reply_returned ⟨rfl, rfl⟩ (by decide) (.single .constructed)
  have hn : Effects cfg os id .recvFile s (s.basicOp.emit (.target id _)) :=
    .tail (.single .constructed) (.named _ (Or.inl rfl))
  refine .modify_bind_at (.bind (Q := fun _ s' => s' = s.basicOp.emit (.target id
    (s.basicOp.getTargetPath s.basicOp.request.body))) (.ite (fun _ => ?_) fun _ => .pure_at rfl)
      fun refuse => .ite (fun _ => ?_) fun _ => ?_)
  · exact known_lift
  · exact reply_returned ⟨rfl, rfl⟩ (by decide) hn
  · exact openAndPipe_makes ⟨rfl, rfl⟩ hn

/-! ## 4. Requests -/

theorem release_makes {x : Ftp Op} {y : Op → Ftp (Option Op)}
    (hx : Triple (· = s) x (Returned cfg os id kind s) fun _ => True)
    (hy : ∀ op, op.id = id ∧ op.kind = kind →
      Triple (Effects cfg os id kind s) (y op) (Left cfg os id kind s) fun _ => True) :
    Triple (· = s) (do let op ← x; let rest ← y op; release cfg rest)
      (fun _ => Effects cfg os id kind s) fun _ => True := by
  refine .bind hx fun op => ?_
  rintro s₁ ⟨hop, h1⟩
  refine (Triple.bind (hy op hop) fun rest => ?_) s₁ h1
  rintro s₂ ⟨hr, h2⟩
  cases rest with
  | none => exact h2
  | some op' => exact h2.tail (.destroyed op' (hr op' rfl))

/-- The classes without a constructor of their own. -/
theorem basicOp_makes {y : Op → Ftp (Option Op)}
    (hy : Triple (Effects cfg os id kind s) (y { id := id, kind := kind }) (Left cfg os id kind s)
      fun _ => True) :
    Triple (· = s) (do
        let op ← (do .modify St.basicOp; pure { id := id, kind := kind } : Ftp Op)
        let rest ← y op
        release cfg rest)
      (fun _ => Effects cfg os id kind s) fun _ => True := by
  refine .bind (Q := fun op s' => op = { id := id, kind := kind } ∧ s' = s.basicOp)
    (.modify_bind_at (.pure_at ⟨rfl, rfl⟩)) fun op => ?_
  rintro _ ⟨rfl, rfl⟩
  refine (Triple.bind hy fun rest => ?_) _ (.single .constructed)
  rintro s₂ ⟨hr, h2⟩
  cases rest with
  | none => exact h2
  | some op' => exact h2.tail (.destroyed op' (hr op' rfl))

/-- An operation without a data connection. -/
theorem control_makes {x : Ftp Unit} (hx : Makes cfg os id kind s x) :
    Triple (Effects cfg os id kind s) (do x; pure (some { id := id, kind := kind }))
      (Left cfg os id kind s) fun _ => True :=
  .bind hx fun _ => .pure fun _ h => ⟨fun _ e => Option.some.inj e ▸ rfl, h⟩

/-- **The code of an operation** makes effects only. -/
theorem runOp_effects : Triple (· = s) (runOp cfg os { id := id, kind := kind })
    (fun _ => Effects cfg os id kind s) fun _ => True := by
  cases kind with
  | sendFile =>
    refine release_makes sendFileOp_makes fun op hop => ?_
    have e : doOperation cfg os op = SendFileOp.doOperation cfg op := by
      unfold doOperation
      rw [hop.2]
    rw [e]
    exact fetchOrLeave_makes hop rfl
  | recvFile =>
    refine release_makes recvFileOp_makes fun op hop => ?_
    have e : doOperation cfg os op = RecvFileOp.doOperation cfg op := by
      unfold doOperation
      rw [hop.2]
    rw [e]
    exact fetchOrLeave_makes hop rfl
  | list => exact basicOp_makes (fetchPassiveConnection_makes ⟨rfl, rfl⟩ rfl)
  | ack => exact basicOp_makes (control_makes (makes_fixed (by decide)))
  | syst => exact basicOp_makes (control_makes (makes_fixed (by decide)))
  | printWorkingDir =>
    exact basicOp_makes (control_makes (.get_bind fun _ hs => makes_reply_at hs .workingDir))
  | auth => exact basicOp_makes (control_makes authOp_makes)
  | stat => exact basicOp_makes (control_makes statOp_makes)
  | createDir => exact basicOp_makes (control_makes createDirOp_makes)
  | changeWorkingDir => exact basicOp_makes (control_makes changeWorkingDirOp_makes)
  | cdToParent => exact basicOp_makes (control_makes cdToParentOp_makes)
  | size => exact basicOp_makes (control_makes sizeOp_makes)
  | passiveMode => exact basicOp_makes (control_makes passiveModeOp_makes)
  | property => exact basicOp_makes (control_makes propertyOp_makes)

/-! ## 5. Lines -/

/-- The replies of `dispatch_task` itself. -/
inductive Refuses (command : Text) (b : SharedConstBuffer) : Prop where
  | user (h : command = "USER".toList) (hb : b =
      Response.getCodeStringInfo .notAllowed "Can't change to another user.".toList)
  | pass (h : command = "PASS".toList)
      (hb : b = Response.getCodeStringInfo .loggedOn "Already logged in.".toList)
  | unknown (h : createKind command = none) (hb : b = Response.getCodeString .syntaxError)

theorem Refuses.not_created {command : Text} {b : SharedConstBuffer} (h : Refuses command b) :
    createKind command = none := by
  cases h with
  | user h hb => rw [h]; decide
  | pass h hb => rw [h]; decide
  | unknown h hb => exact h

theorem Refuses.isFinal {command : Text} {b : SharedConstBuffer} (h : Refuses command b) :
    b.code.isFinal = true := by
  cases h with
  | user h hb => rw [hb]; rfl
  | pass h hb => rw [hb]; rfl
  | unknown h hb => rw [hb]; rfl

/-- **How `handle_read` goes** with a line of `n` characters. -/
inductive Dispatched (cfg : Config) (os : Os) (n : Nat) (s : St) : St → Prop where
  | blank (h : buildRequest (splitWords (s.buf.take n)) = none) :
      Dispatched cfg os n s ((s.takeLine n {}).rearmIdle cfg)
  | refused (req : FtpRequest) (b : SharedConstBuffer)
      (h : buildRequest (splitWords (s.buf.take n)) = some req) (hv : s.verified = true)
      (hb : Refuses req.command b) :
      Dispatched cfg os n s (((((s.takeLine n req).newRequest).pushMessage s.nextId ⟨b, none⟩).emit
        (.over s.nextId)).rearmIdle cfg)
  | ran (req : FtpRequest) (kind : OpKind) (s' : St)
      (h : buildRequest (splitWords (s.buf.take n)) = some req)
      (hk : (s.verified = false ∧ kind = .auth) ∨
        (s.verified = true ∧ createKind req.command = some kind))
      (hs : runOp cfg os { id := s.nextId, kind := kind } (s.takeLine n req).newRequest =
        .ok ((), s')) : Dispatched cfg os n s s'

/-- What `dispatch_task` returns decides whether `handle_read` looks at the timer. -/
theorem dispatchTask_dispatched {req : FtpRequest}
    (h : buildRequest (splitWords (s.buf.take n)) = some req) :
    Triple (· = s.takeLine n req) (dispatchTask cfg os)
      (fun dispatched s' => Dispatched cfg os n s (if dispatched then s' else s'.rearmIdle cfg))
      fun _ => True := by
  have refuse : ∀ {b : SharedConstBuffer}, s.verified = true → Refuses req.command b →
      Triple (· = (s.takeLine n req).newRequest) (replyOnly cfg s.nextId b)
        (fun dispatched s' => Dispatched cfg os n s (if dispatched then s' else s'.rearmIdle cfg))
        fun _ => True := by
    intro b hv hb
    exact .bind writeReply_triple fun _ => .modify_bind_at (.pure_at (.refused req b h hv hb))
  have create : ∀ {kind : OpKind}, ((s.verified = false ∧ kind = .auth) ∨
      (s.verified = true ∧ createKind req.command = some kind)) →
      Triple (· = (s.takeLine n req).newRequest)
        (do runOp cfg os { id := s.nextId, kind := kind }; pure true)
        (fun dispatched s' => Dispatched cfg os n s (if dispatched then s' else s'.rearmIdle cfg))
        fun _ => True := by
    intro kind hk
    refine .bind (.of_ok fun _ _ s' he hr => ?_) fun _ => .pure fun _ hs => hs
    subst he
    exact .ran req kind s' h hk hr
  unfold dispatchTask
  refine .get_at (.modify_bind_at (g := St.newRequest) ?_)
  refine .ite (fun (hv : (!s.verified) = true) => ?_) fun (hv : ¬ (!s.verified) = true) => ?_
  · exact create (Or.inl ⟨by simpa using hv, rfl⟩)
  have hv' : s.verified = true := by simpa using hv
  refine .ite (fun hu => refuse hv' (.user hu rfl)) fun _ =>
    .ite (fun hp => refuse hv' (.pass hp rfl)) fun _ => ?_
  have hr : (s.takeLine n req).request.command = req.command := rfl
  rw [hr]
  cases hc : createKind req.command with
  | none => exact refuse hv' (.unknown hc rfl)
  | some kind => exact create (Or.inr ⟨hv', hc⟩)

theorem handleRead_dispatched : Triple (· = s) (handleRead cfg os n)
    (fun _ => Dispatched cfg os n s) fun _ => True := by
  unfold handleRead
  refine .get_at (.modify_bind_at (g := St.takeLine n {}) ?_)
  refine .bind (Q := fun dispatched s' =>
    Dispatched cfg os n s (if dispatched then s' else s'.rearmIdle cfg)) ?_ fun dispatched => ?_
  · cases h : buildRequest (splitWords (s.buf.take n)) with
    | none => exact .pure_at (.blank h)
    | some req => exact .modify_bind_at (dispatchTask_dispatched h)
  · refine .ite (fun hd => .pure fun _ hs => ?_) fun hd => .get_bind fun s' hs => ?_
    · rwa [if_pos hd] at hs
    · rw [if_neg hd] at hs
      unfold St.rearmIdle at hs
      refine .ite (fun hp => .pure fun _ e => ?_) fun hp => .modify fun _ e => ?_
      · rw [if_pos hp] at hs
        exact e ▸ hs
      · rw [if_neg hp] at hs
        exact e ▸ hs

/-- **The step that handles a line.** -/
theorem step_read (h : step cfg s (.run i os) = .ok s')
    (hi : s.handlers[i]? = some ⟨.read, some .ok⟩) :
    ∃ s₁, Dispatched cfg os ((lineEnd s.buf).getD 0) (s.takeHandler i).neverExpire s₁ ∧
      s' = s₁.doRead.releaseSession .read := by
  obtain ⟨_, h⟩ := step_ok.mp h
  have h' : runHandler cfg s i os = .ok s' := h
  rw [runHandler_eq hi] at h'
  have ht : Triple (· = s.takeHandler i) (runTask cfg os .read .ok)
      (fun _ s' => ∃ s₁, Dispatched cfg os ((lineEnd s.buf).getD 0)
        (s.takeHandler i).neverExpire s₁ ∧ s' = s₁.doRead) fun _ => True := by
    refine .modify_bind_at (.get_at (.bind (handleRead_dispatched) fun _ => .modify fun s₁ h1 => ?_))
    exact ⟨s₁, h1, rfl⟩
  cases hr : runTask cfg os .read .ok (s.takeHandler i) with
  | error f => rw [hr] at h'; cases h'
  | ok x =>
    rw [hr] at h'
    cases h'
    obtain ⟨s₁, hd, e⟩ := ht.ok rfl hr
    exact ⟨s₁, hd, by rw [e]⟩

end

end OrangeFtpd
