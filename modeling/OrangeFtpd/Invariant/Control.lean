/-
  File:      OrangeFtpd/Invariant/Control.lean
  Subject:   What the control connection remembers and answers, as an interpreter of
             requests.

  `Control` is the purpose of the login and property commands without event loop,
  message queue and operations: a request changes who is logged in and which type is
  set, and has an answer. The session computes just that, whatever transfers, timers
  and disconnections come in between.

  * `control_refines`: who is logged in, and with which type, is what `Control.after`
    makes of the client's bytes.
  * `control_answered`: the commands that `Control.answer` answers are answered so, and
    are over at once.
-/
import OrangeFtpd.Invariant.Framing
import OrangeFtpd.Invariant.Identity

namespace OrangeFtpd

open BasicOp Act

/-! ## 1. The interpreter -/

/-- What the control connection remembers. -/
structure Control where
  user : Text := []
  password : Text := []
  verified : Bool := false
  isAnonymous : Bool := false
  type : TransportType := .binary
  deriving DecidableEq, Repr

namespace Control

/-- The type that the body of a TYPE names. -/
def typeNamed (body : Text) : Option TransportType :=
  let body := toUpper body
  if body = "I".toList ∨ body = "L8".toList ∨ body = "L 8".toList then some .binary
  else if body = "A".toList ∨ body = "A N".toList then some .ascii
  else none

/-- A PASS logs in whoever has given a name. -/
def login (cfg : Config) (c : Control) (password : Text) : Control :=
  if c.user.isEmpty then { c with password := [] }
  else { c with
    password := password
    verified := true
    isAnonymous := cfg.anonymousEnable && toLower c.user == "anonymous".toList }

/-- **What a request makes of it.** -/
def after (cfg : Config) (c : Control) (req : FtpRequest) : Control :=
  if c.verified then
    if req.command = "TYPE".toList then { c with type := (typeNamed req.body).getD c.type } else c
  else if req.command = "USER".toList then { c with user := req.body }
  else if req.command = "PASS".toList then c.login cfg req.body
  else c

/-- The answer before the login, and to an AUTH. -/
def loginAnswer (c : Control) (req : FtpRequest) : SharedConstBuffer :=
  if req.command = "USER".toList then Response.getCodeString .passwordRequired
  else if req.command = "PASS".toList then
    if c.user.isEmpty then Response.getCodeStringInfo .invalidSeq "Login with USER first.".toList
    else Response.getCodeString .loggedOn
  else Response.getCodeStringInfo .notAllowed "Please login with USER and PASS.".toList

/-- The answer to a TYPE or OPTS. -/
def propertyAnswer (req : FtpRequest) : SharedConstBuffer :=
  if req.command = "TYPE".toList then
    match typeNamed req.body with
    | some .binary => Response.getCodeStringInfo .ok "Switching to Binary mode.".toList
    | some .ascii => Response.getCodeStringInfo .ok "Switching to ASCII mode.".toList
    | none => Response.getCodeStringInfo .syntaxError "Unrecognised TYPE command.".toList
  else if toUpper req.body = "UTF8 ON".toList then
    Response.getCodeStringInfo .ok "Always in UTF8 mode.".toList
  else Response.getCodeStringInfo .badOpts "Option not understood.".toList

/-- The answer to a command after the login; `none` where the file system, the network or the
    configuration have a say. -/
def commandAnswer (c : Control) (req : FtpRequest) (cwd : Path) : Option SharedConstBuffer :=
  match createKind req.command with
  | none => some (Response.getCodeString .syntaxError)
  | some .ack => some (Response.getCodeStringInfo .ok "NOOP ok".toList)
  | some .syst => some (Response.getCodeString .systOk)
  | some .printWorkingDir => some (Response.getPwdResponse cwd)
  | some .auth => some (c.loginAnswer req)
  | some .property => some (propertyAnswer req)
  | some _ => none

/-- **What it answers** in the directory `cwd`. -/
def answer (c : Control) (req : FtpRequest) (cwd : Path) : Option SharedConstBuffer :=
  if !c.verified then some (c.loginAnswer req)
  else if req.command = "USER".toList then
    some (Response.getCodeStringInfo .notAllowed "Can't change to another user.".toList)
  else if req.command = "PASS".toList then
    some (Response.getCodeStringInfo .loggedOn "Already logged in.".toList)
  else c.commandAnswer req cwd

/-- What a list of requests makes of it, the oldest first. -/
def interpret (cfg : Config) (requests : List FtpRequest) : Control :=
  requests.foldl (after cfg) {}

end Control

/-- What the session remembers. -/
def St.control (s : St) : Control := ⟨s.user, s.password, s.verified, s.isAnonymous, s.type⟩

/-- The requests of a log, the oldest first. -/
def requestsOf (log : List Obs) : List FtpRequest := log.reverse.filterMap Obs.request?

section

variable {cfg : Config} {os : Os} {id n i : Nat} {kind : OpKind} {s s₁ s' : St} {op : Op} {e : Ev}
  {b : SharedConstBuffer} {req : FtpRequest} {c : Control} {x : Ftp Unit}

theorem SameMembers.control (h : SameMembers s s') : s'.control = s.control := by
  unfold St.control
  rw [h.user, h.password, h.verified, h.isAnonymous, h.type]

theorem Control.after_verified (hv : c.verified = true) (ht : req.command ≠ "TYPE".toList) :
    c.after cfg req = c := by
  unfold Control.after
  rw [if_pos hv, if_neg ht]

theorem Control.answer_command {cwd : Path} (hv : c.verified = true)
    (hu : req.command ≠ "USER".toList) (hp : req.command ≠ "PASS".toList) :
    c.answer req cwd = c.commandAnswer req cwd := by
  unfold Control.answer
  rw [hv, if_neg (by decide), if_neg hu, if_neg hp]

theorem Control.interpret_snoc (reqs : List FtpRequest) :
    interpret cfg (reqs ++ [req]) = (interpret cfg reqs).after cfg req :=
  List.foldl_append.trans rfl

/-! ## 2. The operations -/

/-- An operation that replies `b` for the request `id` and leaves `c` behind. -/
structure Answers (s : St) (id : Nat) (b : SharedConstBuffer) (c : Control) (s' : St) : Prop where
  control : s'.control = c
  acts : s'.acts = .reply id b :: s.acts

theorem reply_last (hc : s.control = c) (ha : s.acts = s₁.acts) :
    Triple (· = s) (writeReply cfg id b) (fun _ => Answers s₁ id b c) fun _ => True :=
  writeReply_triple.post fun _ _ h => by
    rw [h]
    exact ⟨hc, acts_push.trans (by rw [ha])⟩

/-- `AuthOp::validate`, with the password already stored. -/
theorem validate_replies (p : Text) : Triple (· = { s with password := p }) (AuthOp.validate cfg id)
    (fun valid s' => if valid then s.control.user.isEmpty = false ∧ s'.control = s.control.login cfg p ∧
        s'.acts = s.acts
      else s.control.user.isEmpty = true ∧ Answers s id
        (Response.getCodeStringInfo .invalidSeq "Login with USER first.".toList)
        (s.control.login cfg p) s') fun _ => True := by
  unfold AuthOp.validate Control.login
  refine .get_at (.ite (fun hu => ?_) fun hu => .ite (fun ha => ?_) fun ha => ?_)
  · rw [if_pos (by exact hu)]
    refine .bind writeReply_triple fun _ => .modify_bind (M := Answers s id _ _)
      (fun s' h => ?_) (.pure fun _ h => ⟨hu, h⟩)
    rw [h]
    exact ⟨rfl, acts_push⟩
  · rw [if_neg (by exact hu)]
    exact .modify_bind_at (.pure_at ⟨eq_false_of_ne_true hu,
      congrArg (Control.mk s.user p true · s.type) ha.symm, rfl⟩)
  · rw [if_neg (by exact hu)]
    exact .modify_bind_at (.pure_at ⟨eq_false_of_ne_true hu,
      congrArg (Control.mk s.user p true · s.type) (eq_false_of_ne_true ha).symm, rfl⟩)

theorem authOp_replies : Triple (· = s) (AuthOp.doOperation cfg id)
    (fun _ => Answers s id (s.control.loginAnswer s.request)
      (if s.request.command = "USER".toList then { s.control with user := s.request.body }
       else if s.request.command = "PASS".toList then s.control.login cfg s.request.body
       else s.control)) fun _ => True := by
  unfold AuthOp.doOperation Control.loginAnswer
  refine .get_at (.ite (fun hu => ?_) fun hu => .ite (fun hp => ?_) fun hp => ?_)
  · rw [if_pos hu, if_pos hu]
    exact .modify_bind_at (reply_last rfl rfl)
  · rw [if_neg hu, if_pos hp, if_neg hu, if_pos hp]
    refine .modify_bind_at (.bind (validate_replies s.request.body) fun valid => ?_)
    refine .ite (fun hv => ?_) fun hv => .pure fun s' h => ?_
    · rintro s' h
      rw [if_pos hv] at h
      have hu : ¬ s.control.user.isEmpty = true := fun h1 => by
        rw [h.1] at h1
        cases h1
      rw [if_neg hu]
      exact reply_last h.2.1 h.2.2 s' rfl
    · rw [if_neg hv] at h
      rw [if_pos h.1]
      exact h.2
  · rw [if_neg hu, if_neg hp, if_neg hu, if_neg hp]
    exact reply_last rfl rfl

theorem propertyOp_replies (hc : s.request.command = "TYPE".toList ∨ s.request.command = "OPTS".toList) :
    Triple (· = s) (PropertyOp.doOperation cfg id)
      (fun _ => Answers s id (Control.propertyAnswer s.request)
        (if s.request.command = "TYPE".toList then
          { s.control with type := (Control.typeNamed s.request.body).getD s.type } else s.control))
      fun _ => True := by
  unfold PropertyOp.doOperation Control.propertyAnswer Control.typeNamed
  refine .modify_bind_at (.get_at (.ite (fun ht => ?_) fun ht => .ite (fun ho => ?_) fun ho => ?_))
  · have ht' : s.request.command = "TYPE".toList := ht
    rw [if_pos ht', if_pos ht']
    refine .ite (fun hb => ?_) fun hb => .ite (fun ha => ?_) fun ha => ?_
    · rw [if_pos (by exact hb)]
      exact .modify_bind_at (reply_last rfl rfl)
    · rw [if_neg (by exact hb), if_pos (by exact ha)]
      exact .modify_bind_at (reply_last rfl rfl)
    · rw [if_neg (by exact hb), if_neg (by exact ha)]
      exact reply_last rfl rfl
  · have ht' : ¬ s.request.command = "TYPE".toList := ht
    rw [if_neg ht', if_neg ht']
    refine .ite (fun hb => ?_) fun hb => ?_
    · rw [if_pos (by exact hb)]
      exact reply_last rfl rfl
    · rw [if_neg (by exact hb)]
      exact reply_last rfl rfl
  · exact absurd (hc.resolve_left ht) ho

/-- An operation that replies at once is over at once. -/
theorem runOp_over (hc : construct cfg os { id := id, kind := kind } =
      (do .modify St.basicOp; pure { id := id, kind := kind } : Ftp Op))
    (hd : doOperation cfg os { id := id, kind := kind } =
      (do x; pure (some { id := id, kind := kind }) : Ftp (Option Op)))
    (hx : Triple (· = s.basicOp) x (fun _ => Answers s.basicOp id b c) fun _ => True) :
    Triple (· = s) (runOp cfg os { id := id, kind := kind })
      (fun _ s' => s'.control = c ∧ s'.acts = [.over id, .reply id b] ++ s.acts) fun _ => True := by
  unfold runOp
  rw [hc]
  refine .bind (Q := fun op s' => op = { id := id, kind := kind } ∧ s' = s.basicOp)
    (.modify_bind_at (.pure_at ⟨rfl, rfl⟩)) fun op => ?_
  rintro _ ⟨rfl, rfl⟩
  rw [hd]
  refine Triple.bind (P := (· = s.basicOp)) (Q := fun rest s' =>
    rest = some { id := id, kind := kind } ∧ Answers s.basicOp id b c s')
    (.bind hx fun _ => .pure fun _ h => ⟨rfl, h⟩) (fun rest => ?_) _ rfl
  rintro s' ⟨rfl, h⟩
  refine ⟨SameMembers.destroyOp.control.trans h.control, ?_⟩
  rw [acts_destroyOp, h.acts]
  rfl

/-- Only TYPE sets the type. -/
theorem runOp_type (hr : Effects cfg os id kind s s') (hk : kind ≠ .property) : s'.type = s.type := by
  refine hr.invariant (I := fun s₁ => s₁.type = s.type) (fun s₁ s₂ he h => ?_) rfl
  cases he with
  | typed t hp => exact absurd hp hk
  | destroyed op _ => exact (@SameMembers.destroyOp cfg s₁ op).type.trans h
  | _ => exact h

/-- **A request goes as the interpreter says.** -/
theorem runOp_interprets (hk : (s.verified = false ∧ kind = .auth) ∨
      (s.verified = true ∧ createKind s.request.command = some kind))
    (hs : runOp cfg os { id := id, kind := kind } s = .ok ((), s')) :
    s'.control = s.control.after cfg s.request ∧
      ∀ b, s.control.answer s.request s.currentPath = some b →
        s'.acts = [.over id, .reply id b] ++ s.acts := by
  have at_once : ∀ {b : SharedConstBuffer} {c : Control},
      s'.control = c ∧ s'.acts = [.over id, .reply id b] ++ s.acts →
      c = s.control.after cfg s.request → s.control.answer s.request s.currentPath = some b →
      s'.control = s.control.after cfg s.request ∧
        ∀ b, s.control.answer s.request s.currentPath = some b →
          s'.acts = [.over id, .reply id b] ++ s.acts := by
    rintro b c ⟨h1, h2⟩ hc ha
    refine ⟨h1.trans hc, fun b' hb' => ?_⟩
    cases ha.symm.trans hb'
    exact h2
  rcases hk with ⟨hv, rfl⟩ | ⟨hv, hc⟩
  · have hv' : s.control.verified = false := hv
    refine at_once ((runOp_over rfl rfl authOp_replies).ok rfl hs) ?_ ?_
    · exact (if_neg (by rw [hv']; decide)).symm
    · exact if_pos (by rw [hv']; rfl)
  · have hv' : s.control.verified = true := hv
    obtain ⟨hu, hp⟩ := createKind_ne hc
    have hanswer : s.control.answer s.request s.currentPath =
        s.control.commandAnswer s.request s.currentPath := Control.answer_command hv' hu hp
    unfold Control.commandAnswer at hanswer
    rw [hc] at hanswer
    have untyped : kind ≠ .property → s.control.after cfg s.request = s.control := fun hne => by
      refine Control.after_verified hv' fun ht => hne ?_
      rw [ht] at hc
      exact (Option.some.inj hc).symm
    have other : kind ≠ .property → s.control.answer s.request s.currentPath = none →
        s'.control = s.control.after cfg s.request ∧
          ∀ b, s.control.answer s.request s.currentPath = some b →
            s'.acts = [.over id, .reply id b] ++ s.acts := by
      intro hne hn
      have he := runOp_effects.ok rfl hs
      have hi := runOp_identity he ⟨hu, hp⟩
      have hcontrol : s'.control = s.control := by
        unfold St.control
        rw [hi.user, hi.password, hi.verified, hi.isAnonymous, runOp_type he hne]
      exact ⟨hcontrol.trans (untyped hne).symm, fun b hb => nomatch hn.symm.trans hb⟩
    cases kind with
    | ack =>
      exact at_once ((runOp_over rfl rfl (reply_last rfl rfl)).ok rfl hs)
        (untyped nofun).symm hanswer
    | syst =>
      exact at_once ((runOp_over rfl rfl (reply_last rfl rfl)).ok rfl hs)
        (untyped nofun).symm hanswer
    | printWorkingDir =>
      exact at_once ((runOp_over rfl rfl (.get_at (reply_last rfl rfl))).ok rfl hs)
        (untyped nofun).symm hanswer
    | auth =>
      refine at_once ((runOp_over rfl rfl authOp_replies).ok rfl hs) ?_ hanswer
      exact ((if_neg hu).trans (if_neg hp)).trans (untyped nofun).symm
    | property =>
      refine at_once ((runOp_over rfl rfl (propertyOp_replies (createKind_property hc))).ok rfl hs)
        ?_ hanswer
      unfold Control.after
      rw [if_pos hv']
      rfl
    | _ => exact other nofun hanswer

/-! ## 3. Lines -/

/-- **The request `req` was handled**: as the interpreter says, and at once where it has an
    answer. -/
structure Interprets (cfg : Config) (req : FtpRequest) (s s' : St) : Prop where
  control : s'.control = s.control.after cfg req
  acts : ∀ b, s.control.answer req s.currentPath = some b →
    s'.acts = [.over s.nextId, .reply s.nextId b, .request s.nextId req s.currentPath] ++ s.acts

theorem Interprets.rearm (h : Interprets cfg req s s') : Interprets cfg req s (s'.rearmIdle cfg) where
  control := SameMembers.rearmIdle.control.trans h.control
  acts b hb := by
    have h1 : (s'.rearmIdle cfg).acts = s'.acts := by
      unfold St.rearmIdle
      split <;> rfl
    rw [h1]
    exact h.acts b hb

/-- A reply of `dispatch_task` itself. -/
theorem refuse_interprets (hv : s.control.verified = true) (hr : s.request = req)
    (hc : createKind req.command = none) (ha : s.control.answer req s.currentPath = some b) :
    Triple (· = s.newRequest) (replyOnly cfg s.nextId b) (fun _ => Interprets cfg req s)
      fun _ => True := by
  refine .bind writeReply_triple fun _ => .modify_bind_at (.pure_at ⟨?_, fun b' hb' => ?_⟩)
  · refine (Control.after_verified hv fun ht => ?_).symm
    rw [ht] at hc
    cases hc
  · cases ha.symm.trans hb'
    have h1 := @acts_push s.nextId s.newRequest ⟨b, none⟩
    rw [acts_newRequest, hr] at h1
    exact congrArg (.over s.nextId :: ·) h1

theorem dispatchTask_interprets (hr : s.request = req) :
    Triple (· = s) (dispatchTask cfg os) (fun _ => Interprets cfg req s) fun _ => True := by
  have ran : ∀ {kind : OpKind}, ((s.verified = false ∧ kind = .auth) ∨
      (s.verified = true ∧ createKind req.command = some kind)) →
      Triple (· = s.newRequest) (do runOp cfg os { id := s.nextId, kind := kind }; pure true)
        (fun _ => Interprets cfg req s) fun _ => True := by
    intro kind hk
    refine .bind (.of_ok fun _ _ s' he hs => ?_) fun _ => .pure fun _ hs => hs
    subst he
    have h1 := runOp_interprets (s := s.newRequest) (by rw [← hr] at hk; exact hk) hs
    rw [acts_newRequest, St.newRequest_request, hr] at h1
    exact ⟨h1.1, h1.2⟩
  unfold dispatchTask
  refine .get_at (.modify_bind_at (g := St.newRequest) ?_)
  refine .ite (fun (hv : (!s.verified) = true) => ?_) fun (hv : ¬ (!s.verified) = true) => ?_
  · exact ran (Or.inl ⟨by simpa using hv, rfl⟩)
  have hv' : s.verified = true := by simpa using hv
  rw [hr]
  refine .ite (fun hu => ?_) fun hu => .ite (fun hp => ?_) fun hp => ?_
  · refine refuse_interprets hv' hr (by rw [hu]; decide) ?_
    unfold Control.answer
    rw [if_neg (by exact hv), if_pos hu]
  · refine refuse_interprets hv' hr (by rw [hp]; decide) ?_
    unfold Control.answer
    rw [if_neg (by exact hv), if_neg hu, if_pos hp]
  · cases hc : createKind req.command with
    | none =>
      refine refuse_interprets hv' hr hc ?_
      rw [Control.answer_command hv' hu hp]
      unfold Control.commandAnswer
      rw [hc]
    | some kind => exact ran (Or.inr ⟨hv', hc⟩)

theorem handleRead_interprets :
    Triple (· = s) (handleRead cfg os n)
      (fun _ s' => match buildRequest (splitWords (s.buf.take n)) with
        | none => s'.control = s.control
        | some req => Interprets cfg req s s') fun _ => True := by
  unfold handleRead
  refine .get_at (.modify_bind_at (g := St.takeLine n {}) ?_)
  refine .bind (Q := fun _ s' => match buildRequest (splitWords (s.buf.take n)) with
    | none => s'.control = s.control
    | some req => Interprets cfg req s s') ?_ fun dispatched => ?_
  · cases buildRequest (splitWords (s.buf.take n)) with
    | none => exact .pure_at rfl
    | some req =>
      refine .modify_bind_at ((dispatchTask_interprets (s := s.takeLine n req) rfl).post
        fun _ s' h => ?_)
      exact ⟨h.control, h.acts⟩
  · refine .ite (fun _ => .pure fun _ h => h) fun _ => .get_bind fun s' h =>
      .ite (fun _ => .pure fun _ e => e ▸ h) fun hp => .modify fun s'' e => ?_
    have e1 : s''.updateIdleTimer cfg = s'.rearmIdle cfg := by
      rw [e]
      exact (if_neg hp).symm
    rw [e1]
    cases hb : buildRequest (splitWords (s.buf.take n)) with
    | none =>
      rw [hb] at h
      exact SameMembers.rearmIdle.control.trans h
    | some req =>
      rw [hb] at h
      exact h.rearm

/-! ## 4. Steps and runs -/

/-- **The step that handles a line** goes as the interpreter says. -/
theorem step_interprets (hr : ReadsLine s i req) (hs : step cfg s (.run i os) = .ok s') :
    Interprets cfg req s s' := by
  obtain ⟨_, h⟩ := step_ok.mp hs
  have h' : runHandler cfg s i os = .ok s' := h
  rw [runHandler_eq hr.read] at h'
  have ht : Triple (· = s.takeHandler i) (runTask cfg os .read .ok)
      (fun _ s' => Interprets cfg req s s') fun _ => True := by
    refine .modify_bind_at (.get_at (.bind handleRead_interprets fun _ => .modify fun s₁ h1 => ?_))
    have hb : buildRequest (splitWords ((s.takeHandler i).neverExpire.buf.take
        ((lineEnd (s.takeHandler i).neverExpire.buf).getD 0))) = some req := hr.line
    rw [hb] at h1
    exact ⟨h1.control, h1.acts⟩
  cases hrun : runTask cfg os .read .ok (s.takeHandler i) with
  | error f => rw [hrun] at h'; cases h'
  | ok x =>
    rw [hrun] at h'
    cases h'
    have h1 := ht.ok rfl hrun
    exact ⟨h1.control, h1.acts⟩

/-- A line without words changes nothing. -/
theorem step_blank (hi : s.handlers[i]? = some ⟨.read, some .ok⟩) (hn : s.nextRequest = none)
    (hs : step cfg s (.run i os) = .ok s') : s'.control = s.control := by
  obtain ⟨s₁, hd, rfl⟩ := step_read hs hi
  cases hd with
  | blank h0 => exact (@SameMembers.rearmIdle cfg ((s.takeHandler i).neverExpire.takeLine
      ((lineEnd s.buf).getD 0) {})).control
  | refused req b h0 => cases hn.symm.trans h0
  | ran req kind _ h0 => cases hn.symm.trans h0

/-- The session remembers what the interpreter does. -/
def Remembers (cfg : Config) (s : St) : Prop := s.control = Control.interpret cfg s.requests

theorem Remembers.step (h : Remembers cfg s) (hs : OrangeFtpd.step cfg s e = .ok s') :
    Remembers cfg s' := by
  unfold Remembers at h ⊢
  rcases step_members hs with ⟨i, os, s₁, rfl, hi, hd, rfl⟩ | hm
  · have hrequests := hd.stream.2
    cases hn : s.nextRequest with
    | none =>
      have h1 := step_blank hi hn hs
      have h2 := (blank_line hi hn hs).1
      rw [h1, h2, h]
    | some req =>
      have h1 := (step_interprets ⟨hi, hn⟩ hs).control
      have hline : buildRequest (splitWords ((s.takeHandler i).neverExpire.buf.take
          ((lineEnd s.buf).getD 0))) = some req := hn
      have h2 : (s₁.doRead.releaseSession .read).requests = s.requests ++ [req] := by
        rw [hline] at hrequests
        exact hrequests
      rw [h1, h2, h, Control.interpret_snoc]
  · rw [hm.control, hm.requests]
    exact h

theorem remembers_reach {home : Path} {c₀ : UInt32} {now : Int} {ok : St → Ev → Prop}
    (h : Reach (OrangeFtpd.step cfg) ok (St.init cfg home c₀ now) s) : Remembers cfg s := by
  have h0 : Remembers cfg (St.init cfg home c₀ now) := rfl
  exact h.invariant h0 fun _ _ _ hI _ hs => hI.step hs

/-- Every request of the book that the interpreter answers has its answer next to it, and is
    over. -/
def AtOnce (cfg : Config) (acts : List Obs) : Prop :=
  ∀ new id req cwd before b, acts = new ++ .request id req cwd :: before →
    (Control.interpret cfg (requestsOf before)).answer req cwd = some b →
    ∃ later, new = later ++ [.over id, .reply id b]

/-- Entries that are no requests. -/
theorem AtOnce.append {new acts : List Obs} (h : AtOnce cfg acts)
    (hn : ∀ o ∈ new, o.request? = none) : AtOnce cfg (new ++ acts) := by
  intro newer id req cwd before b hsplit hb
  rcases List.append_eq_append_iff.mp hsplit with ⟨mid, rfl, hold⟩ | ⟨mid, rfl, hold⟩
  · obtain ⟨later, rfl⟩ := h mid id req cwd before b hold hb
    exact ⟨new ++ later, (List.append_assoc ..).symm⟩
  · cases mid with
    | nil =>
      obtain ⟨later, h1⟩ := h [] id req cwd before b hold.symm hb
      exact absurd h1.symm (by simp)
    | cons o mid =>
      obtain ⟨rfl, -⟩ := List.cons.inj hold
      cases hn _ (List.mem_append_right _ List.mem_cons_self)

/-- A request, with what its handler does. -/
theorem AtOnce.request {new acts : List Obs} {cwd : Path} (h : AtOnce cfg acts)
    (hn : ∀ o ∈ new, o.request? = none)
    (ha : ∀ b, (Control.interpret cfg (requestsOf acts)).answer req cwd = some b →
      new = [.over id, .reply id b]) : AtOnce cfg (new ++ .request id req cwd :: acts) := by
  intro newer id' req' cwd' before b hsplit hb
  rcases List.append_eq_append_iff.mp hsplit with ⟨mid, rfl, hold⟩ | ⟨mid, rfl, hold⟩
  · cases mid with
    | nil =>
      cases hold
      exact ⟨[], by rw [List.append_nil]; exact ha b hb⟩
    | cons o mid =>
      obtain ⟨rfl, hold'⟩ := List.cons.inj hold
      obtain ⟨later, rfl⟩ := h mid id' req' cwd' before b hold' hb
      exact ⟨new ++ .request id req cwd :: later, by simp⟩
  · cases mid with
    | nil =>
      cases hold
      rw [List.append_nil] at ha
      exact ⟨[], ha b hb⟩
    | cons o mid =>
      obtain ⟨rfl, -⟩ := List.cons.inj hold
      cases hn _ (List.mem_append_right _ List.mem_cons_self)

theorem requestsOf_acts (s : St) : requestsOf s.acts = s.requests := by
  unfold requestsOf St.requests St.acts
  rw [← List.filter_reverse, List.filterMap_filter]
  refine List.filterMap_congr fun o _ => ?_
  cases o <;> rfl

theorem AtOnce.step {c₀ : UInt32} (h : AtOnce cfg s.acts) (ho : Ops c₀ [] s) (hm : Remembers cfg s)
    (hs : OrangeFtpd.step cfg s e = .ok s') : AtOnce cfg s'.acts := by
  rcases step_members hs with ⟨i, os, s₁, rfl, hi, hd, -⟩ | hsame
  · have line : ∀ {new : List Obs} {req : FtpRequest}, ReadsLine s i req →
        (∀ o ∈ new, o.request? = none) →
        s'.acts = (new ++ [.request s.nextId req s.currentPath]) ++ s.acts →
        AtOnce cfg s'.acts := by
      intro new req hr hn ha
      rw [ha, List.append_assoc]
      refine h.request hn fun b hb => ?_
      rw [requestsOf_acts, ← hm] at hb
      have h1 := ha.symm.trans ((step_interprets hr hs).acts b hb)
      exact (List.append_inj' (List.append_cancel_right h1) rfl).1
    cases booked_step (step_cases hs) ho with
    | same _ _ he hn =>
      rw [he.acts]
      exact h
    | peer _ _ o k hp he hn =>
      rw [he.acts]
      exact h.append (by cases hp <;> exact List.forall_mem_singleton.mpr rfl)
    | refused _ _ _ req b hr hv hc hb he hn =>
      have ha : s'.acts = ([.over s.nextId, .reply s.nextId b] ++
        [.request s.nextId req s.currentPath]) ++ s.acts := he.acts
      exact line hr (by simp [Obs.request?]) ha
    | launched _ _ _ req kind s₁ new handed hr hk hs₁ hl he hn =>
      refine line hr (fun o hmem => ?_) he.acts
      rcases hl.cases hmem with rfl | ⟨b, rfl⟩ | hnote | ⟨file, path, created, rfl⟩
      · rfl
      · rfl
      · cases hnote <;> rfl
      · rfl
    | turned _ _ _ t r ph op new handed k hi' hp hT he hgone hn =>
      cases hi.symm.trans hi'
      cases hp
    | token _ _ _ tok d new hi' ht hd' hnew he hn => cases hi.symm.trans hi'
    | dropped _ _ _ r hi' hr he hgone hn => cases hi.symm.trans hi'
  · obtain ⟨new, hlog, hnew, -⟩ := hsame.log
    have hacts : s'.acts = new.filter Obs.isAct ++ s.acts := by
      unfold St.acts
      rw [hlog]
      exact List.filter_append ..
    rw [hacts]
    refine h.append fun o ho => ?_
    have h1 := hnew o (List.mem_filter.mp ho).1
    cases o <;> first | rfl | cases h1

theorem atOnce_reach {home : Path} {c₀ : UInt32} {now : Int} {ok : St → Ev → Prop}
    (h : Reach (OrangeFtpd.step cfg) ok (St.init cfg home c₀ now) s) : AtOnce cfg s.acts := by
  refine h.invariant_of (J := fun s => Ops c₀ [] s ∧ Remembers cfg s) (I := fun s => AtOnce cfg s.acts)
    (fun s hs => ⟨ops_reach hs, remembers_reach hs⟩) ?_
    fun _ _ _ hJ hI _ hs => hI.step hJ.1 hJ.2 hs
  intro new id req cwd before b hsplit
  cases new <;> cases hsplit

/-- **Who is logged in, and how, depends on the client's bytes alone**: in every run it is what
    the interpreter makes of the requests dispatched so far, whatever the transfers, the timers,
    the peers and the operating system do in between; once the session waits for more bytes
    these are all the requests of the stream, however it was cut into chunks. -/
theorem control_refines {home : Path} {c₀ : UInt32} {now : Int} {es : List Ev}
    (h : runAll (OrangeFtpd.step cfg) (St.init cfg home c₀ now) es = .ok s) :
    s.control = Control.interpret cfg s.requests ∧
      (⟨.read, none⟩ ∈ s.handlers →
        s.control = Control.interpret cfg (requestsIn (received es))) := by
  have h1 : Remembers cfg s :=
    remembers_reach (reach_runAll es .start (allOk_of_forall fun _ _ => trivial) h)
  obtain ⟨hr, hf⟩ := framed_reach h
  exact ⟨h1, fun hw => by rw [← hf.waiting hr hw]; exact h1⟩

/-- **The commands of the control connection are answered as the interpreter says**, and at once:
    where it has an answer to a request, in the directory and with the requests that came
    before, that is the next thing the server does for anybody, and the request is over. -/
theorem control_answered {home : Path} {c₀ : UInt32} {now : Int} {ok : St → Ev → Prop}
    {new before : List Obs} {cwd : Path}
    (h : Reach (OrangeFtpd.step cfg) ok (St.init cfg home c₀ now) s)
    (hl : s.acts = new ++ .request id req cwd :: before)
    (ha : (Control.interpret cfg (requestsOf before)).answer req cwd = some b) :
    ∃ later, new = later ++ [.over id, .reply id b] :=
  atOnce_reach h new id req cwd before b hl ha

end

/-- A TYPE and a command that there is not, in the middle of a download. -/
def chat : List Ev :=
  download ++ [.clientSend "TYPE a\r\nFOO\r\n".toList, .run 1 {}, .run 3 {}]

theorem control_refines_chat : ∃ s, runAll (step .shipped) .fresh chat = .ok s ∧
    s.control = ⟨"u".toList, "p".toList, true, false, .ascii⟩ ∧
    s.control = Control.interpret .shipped (requestsIn (received chat)) := by
  obtain ⟨s, run, control, waits⟩ : ∃ s, runAll (step .shipped) .fresh chat = .ok s ∧
      s.control = ⟨"u".toList, "p".toList, true, false, .ascii⟩ ∧
      ⟨.read, none⟩ ∈ s.handlers := exists_runAll (by decide +kernel)
  exact ⟨s, run, control, (control_refines run).2 waits⟩

theorem control_answered_chat : ∃ s, runAll (step .shipped) .fresh chat = .ok s ∧
    ∃ later, s.acts.take 2 = later ++ [.over 5, .reply 5 (Response.getCodeString .syntaxError)] := by
  obtain ⟨s, run, hl, ha⟩ : ∃ s, runAll (step .shipped) .fresh chat = .ok s ∧
      s.acts = s.acts.take 2 ++ .request 5 ⟨"FOO".toList, []⟩ "/root".toList :: s.acts.drop 3 ∧
      (Control.interpret .shipped (requestsOf (s.acts.drop 3))).answer ⟨"FOO".toList, []⟩
        "/root".toList = some (Response.getCodeString .syntaxError) :=
    exists_runAll (by decide +kernel)
  exact ⟨s, run, control_answered
    (reach_runAll chat .start (allOk_of_forall fun _ _ => trivial) run) hl ha⟩

end OrangeFtpd
