/-
  File:      OrangeFtpd/Invariant/Identity.lean
  Subject:   The login gate: before it nothing happens, after it nobody changes.

  * `St.Untouched`: no operation is alive, and working directory, type, acceptor,
    data socket and file system are as the session found them.
  * `Identity`: an unverified session is untouched, and a verified one is
    anonymous exactly where its name says so.
  * `login_gate`: every reached state, with the steps that leave it.
-/
import OrangeFtpd.Invariant.Book
import OrangeFtpd.Session.Members

namespace OrangeFtpd

/-- The change of the file system that an entry of the log records. -/
def Obs.fs? : Obs → Option FsEffect
  | .fs _ e => some e
  | _ => none

/-- Nothing was done yet but the login. -/
structure St.Untouched (home : Path) (s : St) : Prop where
  currentPath : s.currentPath = home
  type : s.type = .binary
  acceptor : s.acceptor = ⟨false, none⟩
  dataSocket : s.dataSocket = none
  fs : s.log.filterMap Obs.fs? = []
  liveOps : s.liveOps = []

/-- What the login established. -/
structure SameIdentity (s s' : St) : Prop where
  verified : s'.verified = s.verified
  user : s'.user = s.user
  password : s'.password = s.password
  isAnonymous : s'.isAnonymous = s.isAnonymous

/-- **The login gate.** -/
structure Identity (cfg : Config) (home : Path) (s : St) : Prop where
  untouched : s.verified = false → s.Untouched home
  anonymous : s.verified = true →
    s.isAnonymous = (cfg.anonymousEnable && toLower s.user == "anonymous".toList)

/-- The queued line is a PASS, and a user name is stored. -/
def LogsIn (s : St) (e : Ev) : Prop :=
  ∃ i os req, e = .run i os ∧ ReadsLine s i req ∧ req.command = "PASS".toList ∧ s.user ≠ []

section

variable {cfg : Config} {os : Os} {home : Path} {id n i : Nat} {kind : OpKind} {s s₁ s₂ s' : St}
  {op : Op} {t : Task} {r : Result} {m : Message} {e : Ev} {req : FtpRequest}

/-! ## 1. Before the login -/

/-- A change elsewhere. -/
theorem St.Untouched.congr (h : s.Untouched home) (hp : s'.currentPath = s.currentPath)
    (ht : s'.type = s.type) (ha : s'.acceptor = s.acceptor) (hd : s'.dataSocket = s.dataSocket)
    (hf : s'.log.filterMap Obs.fs? = s.log.filterMap Obs.fs?) (hl : s'.liveOps = s.liveOps) :
    s'.Untouched home :=
  ⟨hp.trans h.currentPath, ht.trans h.type, ha.trans h.acceptor, hd.trans h.dataSocket,
    hf.trans h.fs, hl.trans h.liveOps⟩

theorem fs_pushMessage : (s.pushMessage id m).log.filterMap Obs.fs? = s.log.filterMap Obs.fs? := by
  rw [St.pushMessage_log]
  split <;> rfl

theorem acceptor_restartIdleTimer : (s.restartIdleTimer cfg).acceptor = s.acceptor := by
  rw [St.restartIdleTimer_eq]

theorem acceptor_destroyOp : (s.destroyOp cfg op).acceptor = s.acceptor := by
  rw [St.destroyOp_eq, acceptor_restartIdleTimer]

theorem untouched_restartIdleTimer (h : s.Untouched home) :
    (s.restartIdleTimer cfg).Untouched home :=
  h.congr SameMembers.restartIdleTimer.currentPath SameMembers.restartIdleTimer.type
    acceptor_restartIdleTimer (St.restartIdleTimer_dataSocket ..)
    (by rw [St.restartIdleTimer_log]) St.liveOps_restartIdleTimer

/-- What `AuthOp` does. -/
theorem St.Untouched.effect (he : Effect cfg os id .auth s s') (h : s.Untouched home) :
    s'.Untouched home := by
  cases he with
  | constructed => exact { h with }
  | replied b hb =>
    refine h.congr rfl rfl rfl rfl fs_pushMessage ?_
    rw [St.liveOps_pushMessage]
    exact List.append_nil _
  | named p hp => exact { h with }
  | madeDirectory p hk hw => cases hk
  | opened fd file p hk ho => cases hk
  | moved p hk hp => rcases hk with hk | hk <;> cases hk
  | upperCased hk => cases hk
  | typed t hk => cases hk
  | userGiven hk hc => exact { h with }
  | passwordGiven p hk hc => exact { h with }
  | loggedIn a hk hc hu ha => exact { h with }
  | portClosed hk => cases hk
  | portOpened a hk => cases hk
  | announced port hk => cases hk
  | waits op hk => cases hk
  | destroyed op hk =>
    refine h.congr SameMembers.destroyOp.currentPath SameMembers.destroyOp.type acceptor_destroyOp
      ?_ (by rw [St.destroyOp_log]; rfl) St.liveOps_destroyOp
    rw [St.destroyOp_dataSocket, hk]
    rfl

theorem untouched_rearmIdle (h : s.Untouched home) : (s.rearmIdle cfg).Untouched home := by
  unfold St.rearmIdle
  split
  · exact h
  · exact h.congr rfl rfl rfl rfl rfl St.liveOps_updateIdleTimer

/-- Without an operation the queue holds no token. -/
theorem St.Untouched.no_token {rest : List Message} (h : s.Untouched home)
    (hq : s.messageQueue = m :: rest) : m.token = none := by
  have hl := (List.append_eq_nil_iff.mp h.liveOps).2
  unfold St.queuedOps at hl
  rw [hq] at hl
  cases hm : m.token with
  | none => rfl
  | some tok =>
    rw [List.filterMap_cons_some (b := tok.op) (by rw [hm]; rfl)] at hl
    cases hl

/-- The handlers of the session, other than that of a line. -/
theorem St.Untouched.session (hh : SessionHandled cfg os t r s s') (hl : t = .read → r ≠ .ok)
    (h : s.Untouched home) : s'.Untouched home := by
  cases hh with
  | banner _ => exact h.congr rfl rfl rfl rfl rfl (by simp)
  | bannerFailed _ _ hr => exact h
  | readEof _ h0 => exact h.congr rfl rfl rfl rfl rfl St.liveOps_close
  | readEofBusy _ h0 =>
    refine h.congr rfl rfl rfl rfl rfl ?_
    rw [St.liveOps_of_control (St.tasks_start (t := .keepAlive)) rfl rfl]
    simp
  | readFailed _ _ hr hr' => exact h
  | readLine _ s₁ hline => exact absurd rfl (hl rfl)
  | idleStoped _ _ h0 => exact h
  | idleAgain _ _ h0 hx => exact h.congr rfl rfl rfl rfl rfl St.liveOps_startIdleTimer
  | idleClose _ _ h0 hx =>
    exact h.congr rfl rfl rfl rfl rfl (St.liveOps_close (s := s.emit .idleClose))
  | keepAlive _ _ => exact h
  | writeFailed _ _ hr =>
    have hq : s.queuedOps = [] := (List.append_eq_nil_iff.mp h.liveOps).2
    have e : (s.emit (.ctlDone false)).dropQueue cfg = (s.emit (.ctlDone false)).withQueue [] := by
      unfold St.dropQueue
      show s.queuedOps.foldl _ _ = _
      rw [hq]
      rfl
    rw [e]
    refine h.congr rfl rfl rfl rfl rfl ?_
    show s.handlers.tasks.filterMap Task.op? ++ [] = _
    rw [(List.append_eq_nil_iff.mp h.liveOps).1, h.liveOps]
    rfl
  | written _ s₁ m rest hq ht =>
    have hn := h.no_token hq
    rw [hn] at ht
    cases ht
    have hl' : ((s.emit (.ctlDone true)).withQueue rest).liveOps = s.liveOps := by
      unfold St.liveOps St.queuedOps
      show _ ++ rest.filterMap _ = _ ++ s.messageQueue.filterMap _
      rw [hq, List.filterMap_cons_none (by rw [hn]; rfl)]
      rfl
    have h1 : ((s.emit (.ctlDone true)).withQueue rest).Untouched home :=
      h.congr rfl rfl rfl rfl rfl hl'
    cases rest with
    | nil => exact untouched_restartIdleTimer h1
    | cons m' rest => exact h1.congr rfl rfl rfl rfl rfl (St.liveOps_startWrite _)

/-! ## 2. The login -/

theorem SameMembers.identity (h : SameMembers s s') : SameIdentity s s' :=
  ⟨h.verified, h.user, h.password, h.isAnonymous⟩

/-- A request of an unverified session: `AuthOp` runs, and only a PASS logs in. -/
theorem authOp_gate (hr : Effects cfg os id .auth s s') (hv : s.verified = false) :
    s'.verified = true → s.request.command = "PASS".toList ∧ s.user ≠ [] ∧
      s'.isAnonymous = (cfg.anonymousEnable && toLower s'.user == "anonymous".toList) := by
  have hI := hr.invariant (I := fun s₁ => s₁.request = s.request ∧
    (s.request.command = "PASS".toList → s₁.user = s.user) ∧
    (s₁.verified = true → s.request.command = "PASS".toList ∧ s.user ≠ [] ∧
      s₁.isAnonymous = (cfg.anonymousEnable && toLower s₁.user == "anonymous".toList))) ?_
    ⟨rfl, fun _ => rfl, fun h => by rw [hv] at h; cases h⟩
  · exact hI.2.2
  rintro s₁ s₂ he ⟨h1, h2, h3⟩
  cases he with
  | constructed => exact ⟨h1, h2, h3⟩
  | replied b hb => exact ⟨h1, h2, h3⟩
  | named p hp => exact ⟨h1, h2, h3⟩
  | madeDirectory p hk hw => cases hk
  | opened fd file p hk ho => cases hk
  | moved p hk hp => exact ⟨h1, h2, h3⟩
  | upperCased hk => cases hk
  | typed t hk => cases hk
  | userGiven hk hc =>
    rw [h1] at hc
    have hne : s.request.command ≠ "PASS".toList := by rw [hc]; decide
    exact ⟨h1, fun hp => absurd hp hne, fun hv' => absurd (h3 hv').1 hne⟩
  | passwordGiven p hk hc => exact ⟨h1, h2, h3⟩
  | loggedIn a hk hc hu ha =>
    rw [h1] at hc
    exact ⟨h1, h2, fun _ => ⟨hc, h2 hc ▸ hu, ha⟩⟩
  | portClosed hk => cases hk
  | portOpened a hk => cases hk
  | announced port hk => cases hk
  | waits op hk => cases hk
  | destroyed op hk =>
    have hm := @SameMembers.destroyOp cfg s₁ op
    rw [hm.request, hm.user, hm.verified, hm.isAnonymous]
    exact ⟨h1, h2, h3⟩

/-- The commands of the registry are neither USER nor PASS. -/
theorem createKind_ne (h : createKind req.command = some kind) :
    req.command ≠ "USER".toList ∧ req.command ≠ "PASS".toList := by
  have hu : createKind "USER".toList = none := by decide
  have hp : createKind "PASS".toList = none := by decide
  constructor
  · intro he
    rw [he, hu] at h
    cases h
  · intro he
    rw [he, hp] at h
    cases h

/-- A request of a verified session keeps the identity, `AUTH` by name included. -/
theorem runOp_identity (hr : Effects cfg os id kind s s')
    (hc : s.request.command ≠ "USER".toList ∧ s.request.command ≠ "PASS".toList) :
    SameIdentity s s' := by
  have hI := hr.invariant (I := fun s₁ => s₁.request.command = s.request.command ∧
    SameIdentity s s₁) ?_ ⟨rfl, rfl, rfl, rfl, rfl⟩
  · exact hI.2
  rintro s₁ s₂ he ⟨h1, h2⟩
  cases he with
  | userGiven hk hu => exact absurd (h1.symm.trans hu) hc.1
  | passwordGiven p hk hp => exact absurd (h1.symm.trans hp) hc.2
  | loggedIn a hk hp hu ha => exact absurd (h1.symm.trans hp) hc.2
  | destroyed op hk =>
    have hm := @SameMembers.destroyOp cfg s₁ op
    exact ⟨(congrArg FtpRequest.command hm.request).trans h1, hm.verified.trans h2.verified,
      hm.user.trans h2.user, hm.password.trans h2.password, hm.isAnonymous.trans h2.isAnonymous⟩
  | _ => exact ⟨h1, { h2 with }⟩

/-- A line of a verified session. -/
theorem Dispatched.identity (h : Dispatched cfg os n s s') (hv : s.verified = true) :
    SameIdentity s s' := by
  cases h with
  | blank h =>
    have h1 := (@SameMembers.rearmIdle cfg (s.takeLine n {})).identity
    exact ⟨h1.verified, h1.user, h1.password, h1.isAnonymous⟩
  | refused req b h hv' hb =>
    have h1 := (@SameMembers.rearmIdle cfg ((((s.takeLine n req).newRequest).pushMessage s.nextId
      ⟨b, none⟩).emit (.over s.nextId))).identity
    exact ⟨h1.verified, h1.user, h1.password, h1.isAnonymous⟩
  | ran req kind _ h hk hs =>
    rcases hk with ⟨hf, -⟩ | ⟨-, hc⟩
    · rw [hv] at hf
      cases hf
    · have h1 := runOp_identity (runOp_effects.ok rfl hs) (createKind_ne hc)
      exact ⟨h1.verified, h1.user, h1.password, h1.isAnonymous⟩

/-- A line of an unverified session. -/
theorem Dispatched.gate (h : Dispatched cfg os n s s') (hv : s.verified = false)
    (hu : s.Untouched home) : s'.Untouched home ∧ (s'.verified = true →
      (∃ req, buildRequest (splitWords (s.buf.take n)) = some req ∧
        req.command = "PASS".toList ∧ s.user ≠ []) ∧
      s'.isAnonymous = (cfg.anonymousEnable && toLower s'.user == "anonymous".toList)) := by
  cases h with
  | blank h =>
    refine ⟨untouched_rearmIdle { hu with }, fun h1 => ?_⟩
    rw [(@SameMembers.rearmIdle cfg (s.takeLine n {})).verified, St.takeLine_verified, hv] at h1
    cases h1
  | refused req b h hv' hb =>
    rw [hv] at hv'
    cases hv'
  | ran req kind _ h hk hs =>
    rcases hk with ⟨-, rfl⟩ | ⟨ht, -⟩
    · have hr := runOp_effects.ok rfl hs
      refine ⟨hr.invariant (fun _ _ he hI => hI.effect he) { hu with }, fun h1 => ?_⟩
      obtain ⟨hc, hne, ha⟩ := authOp_gate hr hv h1
      exact ⟨⟨req, h, hc, hne⟩, ha⟩
    · rw [hv] at ht
      cases ht

/-! ## 3. Steps and runs -/

/-- A step of an unverified session. -/
theorem step_gate (h : step cfg s e = .ok s') (hv : s.verified = false) (hu : s.Untouched home) :
    s'.Untouched home ∧ (s'.verified = true → LogsIn s e ∧
      s'.isAnonymous = (cfg.anonymousEnable && toLower s'.user == "anonymous".toList)) := by
  have quiet : ∀ {s₁ : St}, SameMembers { s with buf := s.buf ++ e.chunk } s₁ →
      s₁.verified = true → False := fun hm h1 => by
    rw [hm.verified, hv] at h1
    cases h1
  rcases step_members h with ⟨i, os, s₁, rfl, hi, hd, rfl⟩ | hm
  · have hu' : (s.takeHandler i).neverExpire.Untouched home := by
      refine hu.congr rfl rfl rfl rfl rfl (St.liveOps_neverExpire.trans ?_)
      have hp := St.liveOps_erase hi
      rw [hu.liveOps] at hp
      exact (List.append_eq_nil_iff.mp hp.eq_nil).2.trans hu.liveOps.symm
    obtain ⟨h1, h2⟩ := hd.gate hv hu'
    refine ⟨h1.congr rfl rfl rfl rfl rfl St.liveOps_doRead, fun h3 => ?_⟩
    obtain ⟨⟨req, hb, hc, hne⟩, ha⟩ := h2 h3
    exact ⟨⟨i, os, req, rfl, ⟨hi, hb⟩, hc, hne⟩, ha⟩
  · refine ⟨?_, fun h1 => (quiet hm h1).elim⟩
    cases step_cases h with
    | clientSend chunk hr =>
      exact hu.congr rfl rfl rfl rfl rfl (St.liveOps_congr (St.tasks_receive chunk) rfl)
    | clientGone => exact { hu with }
    | peerSend c bytes hc hp => exact { hu with }
    | peerShutdown c hc hp => exact { hu with }
    | peerReset c hc => exact { hu with }
    | tick ms => exact { hu with }
    | complete i r t hi hc =>
      exact hu.congr rfl rfl rfl rfl rfl (St.liveOps_congr (St.tasks_completeAt i r) rfl)
    | run i os t r s₁ hi hh =>
      have hp := St.liveOps_erase hi
      rw [hu.liveOps] at hp
      have hnil := List.append_eq_nil_iff.mp hp.eq_nil
      have hu' : (s.takeHandler i).Untouched home :=
        hu.congr rfl rfl rfl rfl rfl (hnil.2.trans hu.liveOps.symm)
      cases hh with
      | operation op hop ho =>
        rw [hop] at hnil
        cases hnil.1
      | session hs =>
        by_cases hl : t = .read ∧ r = .ok
        · obtain ⟨rfl, rfl⟩ := hl
          obtain ⟨s₂, hd, e⟩ := step_read h hi
          rw [e]
          exact (hd.gate hv (hu'.congr rfl rfl rfl rfl rfl St.liveOps_neverExpire)).1.congr rfl rfl
            rfl rfl rfl St.liveOps_doRead
        · exact { hu'.session hs fun ht hr => hl ⟨ht, hr⟩ with }

/-- A step of a verified session. -/
theorem step_identity (h : step cfg s e = .ok s') (hv : s.verified = true) : SameIdentity s s' := by
  rcases step_members h with ⟨i, os, s₁, rfl, hi, hd, rfl⟩ | hm
  · have h1 := hd.identity hv
    exact ⟨h1.verified, h1.user, h1.password, h1.isAnonymous⟩
  · exact ⟨hm.verified, hm.user, hm.password, hm.isAnonymous⟩

theorem Identity.step (h : step cfg s e = .ok s') (hI : Identity cfg home s) :
    Identity cfg home s' := by
  cases hv : s.verified with
  | false =>
    obtain ⟨h1, h2⟩ := step_gate h hv (hI.untouched hv)
    exact ⟨fun _ => h1, fun h3 => (h2 h3).2⟩
  | true =>
    have h1 := step_identity h hv
    refine ⟨fun h2 => ?_, fun _ => ?_⟩
    · rw [h1.verified, hv] at h2
      cases h2
    · rw [h1.isAnonymous, h1.user]
      exact hI.anonymous hv

theorem identity_reach {c₀ : UInt32} {now : Int} {ok : St → Ev → Prop}
    (h : Reach (OrangeFtpd.step cfg) ok (St.init cfg home c₀ now) s) : Identity cfg home s :=
  h.invariant ⟨fun _ => ⟨rfl, rfl, rfl, rfl, rfl, rfl⟩,
    fun hv => absurd hv Bool.false_ne_true⟩ fun _ _ _ hI _ hs => hI.step hs

/-- The identity of a verified session is frozen. -/
theorem identity_frozen {ok : St → Ev → Prop} (h : Reach (step cfg) ok s s')
    (hv : s.verified = true) : SameIdentity s s' := by
  refine h.invariant (I := SameIdentity s) ⟨rfl, rfl, rfl, rfl⟩ fun s₁ e s₂ h1 _ hs => ?_
  have h2 := step_identity hs (h1.verified.trans hv)
  exact ⟨h2.verified.trans h1.verified, h2.user.trans h1.user, h2.password.trans h1.password,
    h2.isAnonymous.trans h1.isAnonymous⟩

/-- Before the login, a request is the run of an `AuthOp`, whatever the command. -/
theorem step_unverified (h : step cfg s (.run i os) = .ok s') (hv : s.verified = false)
    (hl : ReadsLine s i req) :
    ∃ s₁, runOp cfg os { id := s.nextId, kind := .auth }
        (((s.takeHandler i).neverExpire.takeLine ((lineEnd s.buf).getD 0) req).newRequest) =
          .ok ((), s₁) ∧ s' = s₁.doRead.releaseSession .read := by
  obtain ⟨s₁, hd, e⟩ := step_read h hl.read
  have hb := hl.line
  cases hd with
  | blank h =>
    cases h.symm.trans hb
  | refused req' b h hv' hb' => cases hv'.symm.trans hv
  | ran req' kind _ h hk hs =>
    cases h.symm.trans hb
    rcases hk with ⟨-, rfl⟩ | ⟨ht, -⟩
    · exact ⟨s₁, hs, e⟩
    · cases ht.symm.trans hv

/-- **The login gate**, in every reached state. Before the login a request is the run of an
    `AuthOp`, and what requests could change is as at the start; only a PASS after a user name
    logs in. From then on the identity stays, and the session is anonymous exactly where its
    name says so. -/
theorem login_gate {c₀ : UInt32} {now : Int}
    (h : Reach (step cfg) (fun _ _ => True) (St.init cfg home c₀ now) s) :
    (s.verified = false → s.Untouched home ∧
      (∀ i os req s', step cfg s (.run i os) = .ok s' → ReadsLine s i req →
        ∃ s₁, runOp cfg os { id := s.nextId, kind := .auth }
          (((s.takeHandler i).neverExpire.takeLine ((lineEnd s.buf).getD 0) req).newRequest) =
            .ok ((), s₁) ∧ s' = s₁.doRead.releaseSession .read) ∧
      ∀ e s', step cfg s e = .ok s' → s'.Untouched home ∧ (s'.verified = true → LogsIn s e)) ∧
    (s.verified = true →
      (∀ s', Reach (step cfg) (fun _ _ => True) s s' → SameIdentity s s') ∧
      (s.isAnonymous = true ↔
        cfg.anonymousEnable = true ∧ toLower s.user = "anonymous".toList)) := by
  have hI := identity_reach h
  refine ⟨fun hv => ⟨hI.untouched hv, fun i os req s' hs hl => step_unverified hs hv hl,
    fun e s' hs => ?_⟩, fun hv => ⟨fun s' hr => identity_frozen hr hv, ?_⟩⟩
  · obtain ⟨h1, h2⟩ := step_gate hs hv (hI.untouched hv)
    exact ⟨h1, fun h3 => (h2 h3).1⟩
  · rw [hI.anonymous hv, Bool.and_eq_true, beq_iff_eq]

end

/-- A client logs in and sends `AUTH`, which is in the registry. -/
theorem login_gate_auth : ∃ s : St,
    runAll (step .shipped) .fresh (login "AUTH\r\n".toList ++ [.run 2 {}]) = .ok s ∧
    s.user = "u".toList ∧ s.verified = true ∧
    ∀ s', Reach (step .shipped) (fun _ _ => True) s s' → SameIdentity s s' := by
  have reached : ∀ s : St,
      runAll (step .shipped) .fresh (login "AUTH\r\n".toList ++ [.run 2 {}]) = .ok s →
      Reach (step .shipped) (fun _ _ => True) .fresh s := fun s =>
    reach_runAll _ .start (by decide)
  exact ⟨_, rfl, by decide, by decide, ((login_gate (reached _ rfl)).2 (by decide)).1⟩

end OrangeFtpd
