/-
  File:      OrangeFtpd/Invariant/Wording.lean
  Subject:   What replies say, as a client reads it.

  What is replied when a request is handled has one of five forms (`Wording`); those with
  a number or an address in them that a client parses have a form of their own. A transfer
  adds the 226.

  * `wording_reach`: in every run every reply has one of the forms.
  * `Worded.understood`: a client reads of each the code that it was sent with.
-/
import OrangeFtpd.Client.Passive
import OrangeFtpd.Invariant.ReplyText

namespace OrangeFtpd

open BasicOp Act

/-! ## 1. The forms of replies -/

/-- **What is replied when a request is handled**, where the control socket has an address with `A`
    and a file a size with `N`. -/
inductive Wording (A : Text → Prop) (N : UInt64 → Prop) : SharedConstBuffer → Prop where
  | known (code : RetCode) (t : Text) (h : Response.codeMap code = some t)
      (hp : code ≠ .pasvOk ∧ code ≠ .transferComplete) : Wording A N (Response.getCodeString code)
  | info (code : RetCode) (t : Text)
      (h : code ≠ .sizeOrMdtmOk ∧ code ≠ .pasvOk ∧ code ≠ .transferComplete) :
      Wording A N (Response.getCodeStringInfo code t)
  | size (n : UInt64) (h : N n) :
      Wording A N (Response.getCodeStringInfo .sizeOrMdtmOk (dec n.toNat))
  | passive (ip : Text) (port : UInt16) (h : A ip) : Wording A N (Response.getPasvResponse ip port)
  | status (cfg : Config) (os : Os) (s : St) : Wording A N (StatOp.status cfg os s)

/-- The replies of a session. -/
def Worded (A : Text → Prop) (N : UInt64 → Prop) (b : SharedConstBuffer) : Prop :=
  Wording A N b ∨ b = Response.getCodeString .transferComplete

/-- What `build_resp` keeps of a line: the text after the first space. -/
def SharedConstBuffer.message (b : SharedConstBuffer) : Text := (b.data.dropWhile (· ≠ ' ')).drop 1

/-- What a client makes of a reply. -/
def SharedConstBuffer.response (b : SharedConstBuffer) : FtpResponse := ⟨b.code.toNat, b.message⟩

section

variable {A : Text → Prop} {N : UInt64 → Prop} {b : SharedConstBuffer} {t u : Text}

/-- A line that begins with its code. -/
theorem understood_of (hd : b.data = dec b.code.toNat ++ u ++ ' ' :: (t ++ delimit)) (hu : ' ' ∉ u)
    (hn : ∀ c, u.head? = some c → c.isDigit = false) :
    b.message = t ++ delimit ∧ Client.buildResp b.data = .ok (some b.response) := by
  have hw : ' ' ∉ dec b.code.toNat ++ u := by
    intro hm
    rcases List.mem_append.mp hm with h | h
    · exact not_mem_dec rfl h
    · exact hu h
  have hmsg : b.message = t ++ delimit := by
    have hdrop : ∀ c ∈ dec b.code.toNat ++ u, decide (c ≠ ' ') = true := fun c hc =>
      decide_eq_true fun e => hw (e ▸ hc)
    unfold SharedConstBuffer.message
    rw [hd, List.dropWhile_append_of_pos hdrop]
    rfl
  have hne : t ++ delimit ≠ [] := List.append_ne_nil_of_right_ne_nil t (List.cons_ne_nil _ _)
  have hlast : (t ++ delimit).getLast? ≠ some ' ' := by
    rw [delimit, List.getLast?_append]
    simp
  have hjoin := join_split hne hlast
  refine ⟨hmsg, ?_⟩
  unfold Client.buildResp SharedConstBuffer.response
  rw [hmsg, hd, splitString_field hw]
  cases hws : splitString ' ' (t ++ delimit) with
  | nil => exact absurd hws (splitString_ne_nil hne)
  | cons w ws =>
    rw [hws] at hjoin
    rw [← hjoin]
    simp only [stoi_dec (Client.code_lt b.code) hn]
    rfl

theorem understood_info (code : RetCode) (t : Text) :
    (Response.getCodeStringInfo code t).message = t ++ delimit ∧
      Client.buildResp (Response.getCodeStringInfo code t).data =
        .ok (some (Response.getCodeStringInfo code t).response) :=
  understood_of (u := []) (by simp [Response.getCodeStringInfo]) List.not_mem_nil nofun

theorem understood_passive (ip : Text) (port : UInt16) :
    (Response.getPasvResponse ip port).message =
        "Entering Passive Mode. ".toList ++ '(' :: (ip.map (fun c => if c = '.' then ',' else c) ++
          ',' :: dec (port.toNat / 256) ++ ',' :: dec (port.toNat % 256) ++ ')' :: delimit) ∧
      Client.buildResp (Response.getPasvResponse ip port).data =
        .ok (some (Response.getPasvResponse ip port).response) := by
  have hd : (Response.getPasvResponse ip port).data = dec RetCode.pasvOk.toNat ++ [] ++ ' ' ::
      (("Entering Passive Mode. ".toList ++ '(' :: (ip.map (fun c => if c = '.' then ',' else c) ++
        ',' :: dec (port.toNat / 256) ++ ',' :: dec (port.toNat % 256) ++ [')'])) ++ delimit) := by
    simp [Response.getPasvResponse, Response.codeMap]
  obtain ⟨hm, hr⟩ := understood_of hd List.not_mem_nil fun c hc => by cases hc
  refine ⟨hm.trans ?_, hr⟩
  simp

theorem understood_known {code : RetCode} (h : Response.codeMap code = some t) :
    Client.buildResp (Response.getCodeString code).data =
      .ok (some (Response.getCodeString code).response) := by
  have e : Response.getCodeString code = Response.getCodeStringInfo code t := by
    unfold Response.getCodeString
    rw [h]
    rfl
  rw [e]
  exact (understood_info code t).2

theorem Wording.understood (h : Wording A N b) :
    Client.buildResp b.data = .ok (some b.response) := by
  cases h with
  | known code t h hp => exact understood_known h
  | info code t h => exact (understood_info code t).2
  | size n h => exact (understood_info _ _).2
  | passive ip port h => exact (understood_passive ip port).2
  | status cfg os s =>
    have hd : (StatOp.status cfg os s).data = dec RetCode.statOk.toNat ++ "-FTP".toList ++ ' ' ::
        ("server status:\n".toList ++ "  Connected to ".toList ++ os.localAddress ++ "\n".toList ++
          "  Logged in as ".toList ++ s.user ++ "\n".toList ++
          "  TYPE: ".toList ++ StatOp.typeToString s.type ++ "\n".toList ++
          "  Session timeout in seconds is ".toList ++ decInt cfg.maxIdleTimeout ++ "\n".toList ++
          "  Total client connected num is ".toList ++ decInt os.clientNum ++ "\n".toList ++
          dec RetCode.statOk.toNat ++ " End of status".toList ++ delimit) := by
      simp [StatOp.status, delimit]
    exact (understood_of hd (by decide) fun c hc => by cases hc; rfl).2

/-- **Every reply is understood.** -/
theorem Worded.understood (h : Worded A N b) : Client.buildResp b.data = .ok (some b.response) := by
  rcases h with h | rfl
  · exact h.understood
  · exact understood_known rfl

/-- What is replied when a request is handled is no 226. -/
theorem Wording.not_complete (h : Wording A N b) : b.code ≠ .transferComplete := by
  cases h with
  | known code t h hp =>
    rw [Response.getCodeString_code]
    exact hp.2
  | info code t h => exact h.2.2
  | size n h => nofun
  | passive ip port h => nofun
  | status cfg os s => nofun

end

/-! ## 2. Operations reply in these forms -/

/-- The answers that the forms depend on: SIZE asks for the size with its third query. -/
def Os.Tells (A : Text → Prop) (N : UInt64 → Prop) (os : Os) : Prop :=
  A os.localAddress ∧ ∀ n ∈ (fsFileSize (os.stat 2)).toOption, N n

def Ev.Tells (A : Text → Prop) (N : UInt64 → Prop) : Ev → Prop
  | .run _ os => os.Tells A N
  | _ => True

/-- `F` holds of every request and each of its replies so far. -/
def RepliedWith (F : Nat → SharedConstBuffer → Prop) (s : St) : Prop :=
  ∀ id b, .reply id b ∈ s.log → F id b

/-- The program replies in these forms only: what they all have, the replies keep. -/
def Speaks (A : Text → Prop) (N : UInt64 → Prop) {α : Type} (x : Ftp α) : Prop :=
  ∀ F : Nat → SharedConstBuffer → Prop, (∀ id b, Wording A N b → F id b) →
    Triple (RepliedWith F) x (fun _ => RepliedWith F) fun _ => True

section

variable {A : Text → Prop} {N : UInt64 → Prop} {F : Nat → SharedConstBuffer → Prop} {cfg : Config}
  {os : Os} {id n i : Nat} {s s₁ s' : St} {op : Op} {b : SharedConstBuffer} {m : Message} {e : Ev}
  {α β : Type}

theorem RepliedWith.same (h : RepliedWith F s) (hq : SameQueue s s') : RepliedWith F s' :=
  fun id b hm => h id b (hq.reply hm)

theorem RepliedWith.push (h : RepliedWith F s) (hm : F id m.buffer) :
    RepliedWith F (s.pushMessage id m) := by
  intro id' b hb
  rw [St.pushMessage_log] at hb
  rcases List.mem_append.mp hb with h1 | h1
  · split at h1
    · cases List.mem_singleton.mp h1
    · cases h1
  · rcases List.mem_cons.mp h1 with h2 | h2
    · cases h2
      exact hm
    · exact h id' b h2

namespace Speaks

theorem ok {x : Ftp α} {a : α} (h : Speaks A N x) (hF : ∀ id b, Wording A N b → F id b)
    (hs : RepliedWith F s) (hx : x s = .ok (a, s')) : RepliedWith F s' := by
  have h1 := h F hF s hs
  rw [hx] at h1
  exact h1

theorem write (h : Wording A N m.buffer) : Speaks A N (writeMessage cfg id m) := by
  intro F hF s hs
  rw [writeMessage_run]
  exact hs.push (hF id _ h)

theorem reply (h : Wording A N b) : Speaks A N (writeReply cfg id b) := write h

theorem get {f : St → Ftp β} (hf : ∀ s, Speaks A N (f s)) : Speaks A N (.get >>= f) :=
  fun F hF => Triple.get_bind fun s hs => Triple.pre (hf s F hF) fun _ e => e ▸ hs

theorem change {g : St → St} (hg : ∀ s, SameQueue s (g s)) : Speaks A N (.modify g) :=
  fun _ _ => Triple.modify fun s hs => hs.same (hg s)

/-- A change that is not logged, or not about replies. -/
theorem change_then {g : St → St} {f : Unit → Ftp β} (hg : ∀ s, SameQueue s (g s))
    (hf : Speaks A N (f ())) : Speaks A N (.modify g >>= f) :=
  fun F hF => Triple.modify_bind (fun s hs => hs.same (hg s)) (hf F hF)

theorem ret {a : α} : Speaks A N (Pure.pure a : Ftp α) := fun _ _ => Triple.pure fun _ h => h

theorem stop {f : Fault} : Speaks A N (Act.throw f : Ftp α) := fun _ _ => Triple.throw trivial

theorem lifted {r : Except Errno α} : Speaks A N (liftFs r) := by
  intro F hF s hs
  cases r with
  | ok a => exact hs
  | error e => trivial

theorem bind {x : Ftp α} {f : α → Ftp β} (hx : Speaks A N x) (hf : ∀ a, Speaks A N (f a)) :
    Speaks A N (x >>= f) := fun F hF => Triple.bind (hx F hF) fun a => hf a F hF

theorem ite {c : Prop} [Decidable c] {x y : Ftp α} (hx : c → Speaks A N x)
    (hy : ¬ c → Speaks A N y) : Speaks A N (if c then x else y) :=
  fun F hF => Triple.ite (fun h => hx h F hF) fun h => hy h F hF

theorem lift_then {r : Except Errno α} {f : α → Ftp β} (hf : ∀ a, r = .ok a → Speaks A N (f a)) :
    Speaks A N (liftFs r >>= f) := fun F hF => OrangeFtpd.lift_then fun a ha => hf a ha F hF

end Speaks

theorem authOp_speaks : Speaks A N (AuthOp.doOperation cfg id) := by
  unfold AuthOp.doOperation
  refine .get fun s => .ite (fun _ => ?_) fun _ => .ite (fun _ => ?_) fun _ => ?_
  · exact .change_then (fun _ => .unlogged rfl rfl) (.reply (.known _ _ rfl (by decide)))
  · refine .change_then (fun _ => .unlogged rfl rfl) (.bind ?_ fun valid =>
      .ite (fun _ => .reply (.known _ _ rfl (by decide))) fun _ => .ret)
    unfold AuthOp.validate
    refine .get fun s => .ite (fun _ => ?_) fun _ => .ite (fun _ => ?_) fun _ => ?_
    · exact .bind (.reply (.info _ _ (by decide))) fun _ =>
        .change_then (fun _ => .unlogged rfl rfl) .ret
    · exact .change_then (fun _ => .unlogged rfl rfl) .ret
    · exact .change_then (fun _ => .unlogged rfl rfl) .ret
  · exact .reply (.info _ _ (by decide))

theorem controlLocalEndpoint_speaks : Speaks A N controlLocalEndpoint := by
  unfold controlLocalEndpoint
  exact .get fun s => .ite (fun _ => .ret) fun _ => .stop

theorem existsAndIsDirectory_speaks (k : Nat) : Speaks A N (existsAndIsDirectory os k) := by
  unfold existsAndIsDirectory
  exact .bind .lifted fun _ => .ite (fun _ => .lifted) fun _ => .ret

/-- The replies of `CWD`. -/
theorem wording_cwd : ∀ p, Wording A N (Response.getCwdResponse p)
  | some _ => .info _ _ (by decide)
  | none => .info _ _ (by decide)

theorem changeDirectory_speaks : Speaks A N (changeDirectory cfg os id) := by
  unfold changeDirectory
  refine .bind (existsAndIsDirectory_speaks 0) fun _ =>
    .ite (fun _ => ?_) fun _ => .reply (wording_cwd _)
  exact .bind .lifted fun _ => .change_then (fun _ => .unlogged rfl rfl) (.reply (wording_cwd _))

theorem createDirOp_speaks : Speaks A N (CreateDirOp.doOperation cfg os id) := by
  have failed : Speaks A N (writeReply cfg id CreateDirOp.failedReply) :=
    .reply (.info _ _ (by decide))
  unfold CreateDirOp.doOperation
  refine .get fun s => .ite (fun _ => .reply (.info _ _ (by decide))) fun _ =>
    .ite (fun _ => failed) fun _ => .change_then (fun _ => .emit rfl) ?_
  refine .bind .lifted fun _ => .ite (fun _ => failed) fun _ =>
    .bind ?_ fun _ => ?_
  · unfold CreateDirOp.createDirectory
    cases os.mkdir with
    | created => exact .change fun _ => .emit rfl
    | alreadyThere => exact .ret
    | failed e => exact .stop
  · refine .bind (existsAndIsDirectory_speaks 1) fun _ => .ite (fun _ => ?_) fun _ => failed
    exact .bind .lifted fun _ => .reply (.info _ _ (by decide))

/-- The size is what the third query found. -/
theorem sizeOp_speaks (ho : os.Tells A N) : Speaks A N (SizeOp.doOperation cfg os id) := by
  unfold SizeOp.doOperation
  refine .get fun s => .change_then (fun _ => .emit rfl) (.bind
    (.bind .lifted fun _ => .ite (fun _ => .lifted) fun _ => .ret) fun _ =>
      .ite (fun _ => .reply (.info _ _ (by decide))) fun _ => ?_)
  exact .lift_then fun n hn => .reply (.size n (ho.2 n (by rw [hn]; rfl)))

theorem propertyOp_speaks : Speaks A N (PropertyOp.doOperation cfg id) := by
  have tells : ∀ code t, code ≠ .sizeOrMdtmOk ∧ code ≠ .pasvOk ∧ code ≠ .transferComplete →
      Speaks A N (writeReply cfg id (Response.getCodeStringInfo code t)) :=
    fun code t h => .reply (.info code t h)
  unfold PropertyOp.doOperation
  refine .change_then (fun _ => .unlogged rfl rfl) (.get fun s => .ite (fun _ => ?_) fun _ =>
    .ite (fun _ => ?_) fun _ => .ret)
  · refine .ite (fun _ => ?_) fun _ => .ite (fun _ => ?_) fun _ => tells _ _ (by decide)
    · exact .change_then (fun _ => .unlogged rfl rfl) (tells _ _ (by decide))
    · exact .change_then (fun _ => .unlogged rfl rfl) (tells _ _ (by decide))
  · exact .ite (fun _ => tells _ _ (by decide)) fun _ => tells _ _ (by decide)

theorem passiveModeOp_speaks (ho : os.Tells A N) :
    Speaks A N (PassiveModeOp.doOperation cfg os id) := by
  have denied : Speaks A N (writeReply cfg id PassiveModeOp.deniedReply) :=
    .reply (.info _ _ (by decide))
  have require : ∀ c, Speaks A N (PassiveModeOp.require c) := fun c =>
    .ite (fun _ => .ret) fun _ => .stop
  unfold PassiveModeOp.doOperation
  refine .change_then (fun s => ?_) (.ite (fun _ => denied) fun _ =>
    .change_then (fun _ => .unlogged rfl rfl) (.bind (require _) fun _ => ?_))
  · split
    · exact .unlogged rfl rfl
    · exact .refl s
  cases os.bind with
  | none => exact denied
  | some port =>
    exact .bind (require _) fun _ => .change_then (fun _ => .unlogged rfl rfl)
      (.bind controlLocalEndpoint_speaks fun _ => .change_then (fun _ => .emit rfl)
        (.reply (.passive _ port ho.1)))

theorem fetchPassiveConnection_speaks : Speaks A N (fetchPassiveConnection cfg op) := by
  unfold fetchPassiveConnection checkDataPort
  refine .bind (.get fun s => .ite (fun _ => .ret) fun _ =>
    .bind (.reply (.known _ _ rfl (by decide))) fun _ => .ret) fun _ => .ite (fun _ => ?_) fun _ => .ret
  exact .change_then (fun _ => .startWith _) .ret

theorem doOperation_speaks (ho : os.Tells A N) : Speaks A N (doOperation cfg os op) := by
  have control : ∀ {x : Ftp Unit} {o : Option Op}, Speaks A N x → Speaks A N (do x; pure o) :=
    fun hx => .bind hx fun _ => .ret
  have fetch : ∀ op', Speaks A N (if op.fd ≤ 0 then pure (some op) else
      fetchPassiveConnection cfg op') := fun _ =>
    .ite (fun _ => .ret) fun _ => fetchPassiveConnection_speaks
  unfold doOperation
  cases op.kind with
  | sendFile => exact fetch _
  | recvFile => exact fetch _
  | list => exact fetchPassiveConnection_speaks
  | ack => exact control (.reply (.info _ _ (by decide)))
  | syst => exact control (.reply (.known _ _ rfl (by decide)))
  | printWorkingDir => exact control (.get fun s => .reply (.info _ _ (by decide)))
  | auth => exact control authOp_speaks
  | stat =>
    exact control (.bind controlLocalEndpoint_speaks fun _ => .get fun s => .reply (.status cfg os s))
  | createDir => exact control createDirOp_speaks
  | changeWorkingDir =>
    refine control (.get fun s => .ite (fun _ => .reply (wording_cwd _)) fun _ => ?_)
    exact .change_then (fun _ => .emit rfl) changeDirectory_speaks
  | cdToParent =>
    exact control (.get fun s => .change_then (fun _ => .emit rfl) changeDirectory_speaks)
  | size => exact control (sizeOp_speaks ho)
  | passiveMode => exact control (passiveModeOp_speaks ho)
  | property => exact control propertyOp_speaks

theorem construct_speaks : Speaks A N (construct cfg os op) := by
  have answer : ∀ {b : SharedConstBuffer} (op' : Op), Wording A N b →
      Speaks A N (do writeReply cfg op.id b; pure op') := fun _ hb => .bind (.reply hb) fun _ => .ret
  have refused : ∀ {t : Text} (op' : Op), Speaks A N (do
      writeReply cfg op.id (Response.getCodeStringInfo .nopermFilefatal t); pure op') :=
    fun op' => answer op' (.info _ _ (by decide))
  have failed : ∀ op', Speaks A N (do writeReply cfg op.id RecvFileOp.failedReply; pure op') :=
    fun op' => answer op' (.info _ _ (by decide))
  unfold construct
  split
  · unfold SendFileOp.construct
    refine .change_then (fun _ => .unlogged rfl rfl) (.get fun s => .ite (fun _ => refused op) fun _ =>
      .change_then (fun _ => .emit rfl) (.bind .lifted fun _ => .ite (fun _ => refused op) fun _ =>
        .bind .lifted fun _ => ?_))
    cases os.openFile with
    | error e => exact refused _
    | ok r => exact .ret
  · unfold RecvFileOp.construct
    refine .change_then (fun _ => .unlogged rfl rfl) (.get fun s => .ite (fun _ => failed op) fun _ =>
      .change_then (fun _ => .emit rfl) (.bind
        (.ite (fun _ => .lifted) fun _ => .ret) fun _ => .ite (fun _ => failed op) fun _ => ?_))
    unfold RecvFileOp.openAndPipe
    cases os.openFile with
    | error e => exact failed _
    | ok r =>
      refine .change_then (fun _ => .emit rfl) ?_
      cases os.pipe with
      | none => exact failed _
      | some p => exact .ret
  · exact .change_then (fun _ => .unlogged rfl rfl) .ret

theorem runOp_speaks (ho : os.Tells A N) : Speaks A N (runOp cfg os op) := by
  unfold runOp
  refine .bind construct_speaks fun op => .bind (doOperation_speaks ho) fun rest => ?_
  cases rest with
  | none => exact .ret
  | some op' => exact .change fun _ => .destroyOp

/-! ## 3. Runs -/

theorem Refuses.wording {command : Text} (h : Refuses command b) : Wording A N b := by
  cases h with
  | user h hb =>
    rw [hb]
    exact .info _ _ (by decide)
  | pass h hb =>
    rw [hb]
    exact .info _ _ (by decide)
  | unknown h hb =>
    rw [hb]
    exact .known _ _ rfl (by decide)

theorem TransferPost.worded (h : TransferPost op id m) : Worded A N m.buffer := by
  cases h with
  | start tok hid ht hm =>
    rw [hm]
    exact Or.inl (.known .dataConn _ rfl (by decide))
  | complete hid hm =>
    rw [hm]
    exact Or.inr rfl

theorem Dispatched.replied (h : Dispatched cfg os n s s') (ho : os.Tells A N)
    (hF : ∀ id b, Wording A N b → F id b) (hw : RepliedWith F s) : RepliedWith F s' := by
  have taken : ∀ req, SameQueue s (s.takeLine n req).newRequest := fun _ =>
    ⟨rfl, [_], rfl, List.forall_mem_singleton.mpr rfl⟩
  cases h with
  | blank h =>
    have h1 : SameQueue s (s.takeLine n {}) := .unlogged rfl rfl
    exact hw.same (h1.trans .rearmIdle)
  | refused req b h hv hb =>
    have h1 : RepliedWith F ((s.takeLine n req).newRequest.pushMessage s.nextId ⟨b, none⟩) :=
      (hw.same (taken req)).push (hF _ _ hb.wording)
    have h2 : RepliedWith F (((s.takeLine n req).newRequest.pushMessage s.nextId ⟨b, none⟩).emit
        (.over s.nextId)) := h1.same (.emit rfl)
    exact h2.same .rearmIdle
  | ran req kind _ h hk hs => exact (runOp_speaks ho).ok hF (hw.same (taken req)) hs

theorem Posts.replied {P : Nat → Message → Prop} (h : Posts P s s')
    (hP : ∀ id m, P id m → F id m.buffer) (hw : RepliedWith F s) : RepliedWith F s' := by
  induction h with
  | refl => exact hw
  | andSame _ hq ih => exact ih.same hq
  | andPush _ id m hm ih => exact ih.push (hP id m hm)

/-- The write of a reply adds none. -/
theorem RepliedWith.queueLog {new : List Obs} (h : RepliedWith F s)
    (hl : s'.queueLog = s.queueLog ++ new) (hn : ∀ id b, .reply id b ∉ new) : RepliedWith F s' := by
  intro id b hb
  have h1 := mem_queueLog.mpr hb
  rw [hl] at h1
  rcases List.mem_append.mp h1 with h2 | h2
  · exact h id b (mem_queueLog.mp h2)
  · exact absurd h2 (hn id b)

theorem RepliedWith.step (h : RepliedWith (fun _ => Worded A N) s) (ho : e.Tells A N)
    (hs : OrangeFtpd.step cfg s e = .ok s') : RepliedWith (fun _ => Worded A N) s' := by
  cases step_queue hs with
  | same _ _ hq => exact h.same hq
  | line i os s₁ hi hd =>
    have h1 : RepliedWith (fun _ => Worded A N) (s.takeHandler i).neverExpire :=
      h.same (.unlogged rfl rfl)
    exact (hd.replied ho (fun _ _ => Or.inl) h1).same (.unlogged rfl rfl)
  | turn _ op _ hp => exact hp.replied (fun _ _ => TransferPost.worded) h
  | written i os m rest s₁ hi hq ht =>
    have h0 : RepliedWith (fun _ => Worded A N) (s.takeHandler i) := h.same (.unlogged rfl rfl)
    have h1 : RepliedWith (fun _ => Worded A N) ((s.takeHandler i).emit (.ctlDone true)) :=
      h0.queueLog (queueLog_emit rfl) (by simp)
    have h2 : RepliedWith (fun _ => Worded A N) s₁ := by
      refine h1.queueLog ht.queueLog.2 fun id b hb => ?_
      obtain ⟨tok, -, e⟩ := Option.map_eq_some_iff.mp (Option.mem_toList.mp hb)
      cases e
    have h3 : RepliedWith (fun _ => Worded A N) (s₁.writeNext cfg rest) := by
      refine h2.queueLog queueLog_writeNext.2 fun id b hb => ?_
      obtain ⟨m', -, e⟩ := List.mem_map.mp hb
      cases e
    exact h3.same (.unlogged rfl rfl)
  | failed i os r hi hr =>
    have h0 : RepliedWith (fun _ => Worded A N) (s.takeHandler i) := h.same (.unlogged rfl rfl)
    have h1 : RepliedWith (fun _ => Worded A N) ((s.takeHandler i).emit (.ctlDone false)) :=
      h0.queueLog (queueLog_emit rfl) (by simp)
    obtain ⟨-, new, hl, hn⟩ := @SameQueue.dropQueue cfg ((s.takeHandler i).emit (.ctlDone false))
    have h2 : RepliedWith (fun _ => Worded A N)
        (((s.takeHandler i).emit (.ctlDone false)).dropQueue cfg) :=
      h1.queueLog ((queueLog_of_none hl hn).trans (List.append_nil _).symm) (by simp)
    exact h2.same (.unlogged rfl rfl)

/-- **Every reply** of every run has one of the forms. -/
theorem wording_reach {home : Path} {c₀ : UInt32} {now : Int}
    (h : Reach (OrangeFtpd.step cfg) (fun _ e => e.Tells A N) (St.init cfg home c₀ now) s) :
    RepliedWith (fun _ => Worded A N) s := by
  have h0 : RepliedWith (fun _ => Worded A N) (St.init cfg home c₀ now) := fun id b hm => by
    cases List.mem_singleton.mp hm
  exact h.invariant h0 fun _ _ _ hI ho hs => hI.step ho hs

end

end OrangeFtpd
