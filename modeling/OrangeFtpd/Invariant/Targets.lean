/-
  File:      OrangeFtpd/Invariant/Targets.lean
  Subject:   What a transfer acts on, and when that is decided.

  RETR and STOR fix their file in the constructor. LIST reads the working directory in
  the handler of its accept, and a CWD that is handled in between decides what is listed.
-/
import OrangeFtpd.Invariant.Uploads

namespace OrangeFtpd

open BasicOp Act

/-! ## 1. What a request denotes -/

/-- `get_target_path` in the working directory `cwd`. -/
def targetIn (cwd path : Path) : Path := if isAbsolute path then path else joinPath cwd path

/-- The file or directory that a transfer is asked for in the working directory `cwd`. -/
def FtpRequest.denotes (req : FtpRequest) (cwd : Path) : Option Path :=
  match createKind req.command with
  | some .sendFile | some .recvFile => some (targetIn cwd req.body)
  | some .list => some cwd
  | _ => none

/-- The working directory in which the request `id` was dispatched. -/
def St.dispatchedIn (s : St) (id : Nat) : List Path :=
  s.log.filterMap fun
    | .request i _ cwd => if i = id then some cwd else none
    | _ => none

/-- **The data connection of a LIST comes** while the session is in the working directory in
    which the LIST was dispatched. -/
def listsWhereAsked (s : St) (_ : Os) (t : Task) (r : Result) : Prop :=
  match t, r with
  | .accept op, .conn _ =>
    op.kind ≠ .sendFile → op.kind ≠ .recvFile → ∀ cwd ∈ s.dispatchedIn op.id, s.currentPath = cwd
  | _, _ => True

instance {s : St} {os : Os} : ∀ {t : Task} {r : Result}, Decidable (listsWhereAsked s os t r)
  | .accept op, .conn _ => inferInstanceAs (Decidable (op.kind ≠ .sendFile →
      op.kind ≠ .recvFile → ∀ cwd ∈ s.dispatchedIn op.id, s.currentPath = cwd))
  | .accept _, .ok | .accept _, .err _ | .banner, _ | .read, _ | .idleWait, _ | .keepAlive, _
  | .ctlWrite, _ | .dataWait .., _ | .limiter _, _ | .listWrite .., _ => isTrue trivial

section

variable {cfg : Config} {os : Os} {id n i : Nat} {s s₀ s₁ s' : St} {op op' : Op} {e : Ev}
  {t : Task} {r : Result} {path p q cwd home : Path} {req : FtpRequest} {kind : OpKind}
  {new : List Obs} {handed : Option (Phase × Op)} {k : List Conn} {c₀ : UInt32} {now : Int}

theorem getTargetPath_eq : s.getTargetPath path = targetIn s.currentPath path := rfl

theorem mem_dispatchedIn (h : .request id req cwd ∈ s.log) : cwd ∈ s.dispatchedIn id := by
  unfold St.dispatchedIn
  exact List.mem_filterMap.mpr ⟨_, h, if_pos rfl⟩

/-! ## 2. What the code of an operation names -/

/-- The path `p` that an operation of class `kind` names while its request is handled. -/
def Names (kind : OpKind) (s : St) (p : Path) : Prop :=
  match kind with
  | .sendFile | .recvFile => p = s.getTargetPath s.request.body
  | .list | .auth => False
  | _ => True

/-- Since `s` the request `id` named what its class names, and no other named anything. -/
def NamedSince (id : Nat) (kind : OpKind) (s s' : St) : Prop :=
  ∀ i p, .target i p ∈ s'.log → .target i p ∈ s.log ∨ (i = id ∧ Names kind s p)

theorem NamedSince.refl : NamedSince id kind s s := fun _ _ h => Or.inl h

/-- Entries that name nothing. -/
theorem NamedSince.more (new : List Obs) (h : NamedSince id kind s s₁) (hl : s'.log = new ++ s₁.log)
    (hn : ∀ i p, .target i p ∉ new) : NamedSince id kind s s' := by
  intro i p hm
  rw [hl] at hm
  exact h i p ((List.mem_append.mp hm).resolve_left (hn i p))

theorem NamedSince.emit {o : Obs} (h : NamedSince id kind s s₁) (ho : ∀ i p, o ≠ .target i p) :
    NamedSince id kind s (s₁.emit o) :=
  h.more [o] rfl fun i p hm => ho i p (List.mem_singleton.mp hm).symm

theorem NamedSince.push {m : Message} (h : NamedSince id kind s s₁) :
    NamedSince id kind s (s₁.pushMessage n m) := by
  have hl : (s₁.pushMessage n m).log =
      ((if s₁.messageQueue.isEmpty then [.ctlStarted m.buffer] else []) ++ [.reply n m.buffer]) ++
        s₁.log := by
    rw [St.pushMessage_log, List.append_assoc]
    rfl
  refine h.more _ hl fun i p hm => ?_
  split at hm <;> simp at hm

theorem target_push {m : Message} (hm : .target id p ∈ (s.pushMessage n m).log) :
    .target id p ∈ s.log := by
  have since : NamedSince id .list s (s.pushMessage n m) := NamedSince.refl.push
  exact (since id p hm).resolve_right fun h => h.2

theorem NamedSince.destroyOp (h : NamedSince id kind s s₁) :
    NamedSince id kind s (s₁.destroyOp cfg op) :=
  h.more [.over op.id] (St.destroyOp_log ..) fun i p hm => by simp at hm

/-- One effect. -/
theorem Effect.named_since (h : Effect cfg os id kind s₁ s') (hi : NamedSince id kind s s₁)
    (hf : kind = .sendFile ∨ kind = .recvFile →
      s₁.currentPath = s.currentPath ∧ s₁.request = s.request)
    (hl : kind ≠ .list ∧ kind ≠ .auth) : NamedSince id kind s s' := by
  cases h with
  | replied b h => exact hi.push
  | destroyed op h => exact hi.destroyOp
  | named p h =>
    intro i p' hm
    rcases List.mem_cons.mp hm with h1 | h1
    · cases h1
      refine Or.inr ⟨rfl, ?_⟩
      cases kind with
      | sendFile =>
        obtain ⟨hp, hr⟩ := hf (Or.inl rfl)
        have h2 := h.resolve_right nofun
        rwa [getTargetPath_eq, hp, hr] at h2
      | recvFile =>
        obtain ⟨hp, hr⟩ := hf (Or.inr rfl)
        have h2 := h.resolve_right nofun
        rwa [getTargetPath_eq, hp, hr] at h2
      | list => exact absurd rfl hl.1
      | auth => exact absurd rfl hl.2
      | _ => trivial
    · exact hi i p' h1
  | madeDirectory p hk hw => exact hi.emit nofun
  | opened fd file p hk ho => exact hi.emit nofun
  | announced port hk => exact hi.emit nofun
  | _ => exact hi

/-- RETR and STOR leave the working directory and the stored request alone. -/
theorem Effect.same_request (h : Effect cfg os id kind s s')
    (hk : kind = .sendFile ∨ kind = .recvFile) :
    s'.currentPath = s.currentPath ∧ s'.request = s.request := by
  cases h with
  | destroyed op h => exact ⟨SameMembers.destroyOp.currentPath, SameMembers.destroyOp.request⟩
  | moved p hm h => rcases hk with rfl | rfl <;> simp at hm
  | upperCased hu => rcases hk with rfl | rfl <;> cases hu
  | _ => exact ⟨rfl, rfl⟩

/-- The classes without a constructor of their own. -/
theorem basicOp_names {y : Op → Ftp (Option Op)}
    (hy : Triple (NamedSince id kind s) (y { id := id, kind := kind })
      (fun _ => NamedSince id kind s) fun _ => True) :
    Triple (· = s) (do
        let op ← (do .modify St.basicOp; pure { id := id, kind := kind } : Ftp Op)
        let rest ← y op
        release cfg rest)
      (fun _ => NamedSince id kind s) fun _ => True := by
  refine .bind (Q := fun op s' => op = { id := id, kind := kind } ∧ s' = s.basicOp)
    (.modify_bind_at (.pure_at ⟨rfl, rfl⟩)) fun op => ?_
  rintro _ ⟨rfl, rfl⟩
  refine (Triple.bind hy fun rest => ?_) _ (fun _ _ h => Or.inl h)
  cases rest with
  | none => exact .pure fun _ h => h
  | some op' => exact .modify fun _ h => h.destroyOp

theorem reply_names {b : SharedConstBuffer} :
    Triple (NamedSince id kind s) (writeReply cfg n b) (fun _ => NamedSince id kind s)
      fun _ => True :=
  fun s₁ h1 => (writeReply_triple.post fun _ _ e => e ▸ h1.push) s₁ rfl

/-- LIST names nothing yet. -/
theorem listOp_names : Triple (· = s) (runOp cfg os { id := id, kind := .list })
    (fun _ => NamedSince id .list s) fun _ => True := by
  refine basicOp_names fun s₁ h1 => (fetchPassiveConnection_triple.post fun _ s' h => ?_) s₁ rfl
  rcases h with ⟨_, -, rfl⟩ | ⟨_, -, rfl⟩
  · exact h1
  · exact h1.push

/-- USER and PASS name nothing. -/
theorem authOp_names : Triple (· = s) (runOp cfg os { id := id, kind := .auth })
    (fun _ => NamedSince id .auth s) fun _ => True := by
  refine basicOp_names (.bind (Q := fun _ => NamedSince id .auth s) ?_ fun _ => .pure fun _ h => h)
  have same : ∀ {g : St → St} {f : Unit → Ftp Unit}, (∀ s, (g s).log = s.log) →
      Triple (NamedSince id .auth s) (f ()) (fun _ => NamedSince id .auth s) (fun _ => True) →
      Triple (NamedSince id .auth s) (.modify g >>= f) (fun _ => NamedSince id .auth s)
        fun _ => True := fun hg hf =>
    .modify_bind (M := NamedSince id .auth s) (fun s₁ h => h.more [] (hg s₁) nofun) hf
  unfold AuthOp.doOperation
  refine .get_bind fun s₁ h1 => Triple.pre ?_ (P := NamedSince id .auth s) fun _ e => e ▸ h1
  refine .ite (fun _ => same (fun _ => rfl) reply_names) fun _ => .ite (fun _ => ?_) fun _ =>
    reply_names
  refine same (fun _ => rfl) (.bind (Q := fun _ => NamedSince id .auth s) ?_ fun valid =>
    .ite (fun _ => reply_names) fun _ => .pure fun _ h => h)
  unfold AuthOp.validate
  refine .get_bind fun s₂ h2 => Triple.pre ?_ (P := NamedSince id .auth s) fun _ e => e ▸ h2
  refine .ite (fun _ => ?_) fun _ => .ite (fun _ => ?_) fun _ => ?_
  · refine .bind reply_names fun _ => .modify_bind (M := NamedSince id .auth s)
      (fun _ h => h.more [] rfl nofun) (.pure fun _ h => h)
  · exact .modify_bind (M := NamedSince id .auth s)
      (fun _ h => h.more [] rfl nofun) (.pure fun _ h => h)
  · exact .modify_bind (M := NamedSince id .auth s)
      (fun _ h => h.more [] rfl nofun) (.pure fun _ h => h)

/-- **What a request names** while it is handled. -/
theorem runOp_names : Triple (· = s) (runOp cfg os { id := id, kind := kind })
    (fun _ => NamedSince id kind s) fun _ => True := by
  by_cases hl : kind = .list
  · subst hl
    exact listOp_names
  by_cases ha : kind = .auth
  · subst ha
    exact authOp_names
  refine runOp_effects.post fun _ s' hs => ?_
  have h1 : NamedSince id kind s s' ∧ (kind = .sendFile ∨ kind = .recvFile →
      s'.currentPath = s.currentPath ∧ s'.request = s.request) :=
    hs.invariant (I := fun s' => NamedSince id kind s s' ∧ (kind = .sendFile ∨ kind = .recvFile →
        s'.currentPath = s.currentPath ∧ s'.request = s.request))
      (fun s₁ s₂ he hI => ⟨he.named_since hI.1 hI.2 ⟨hl, ha⟩, fun hk =>
        ⟨(he.same_request hk).1.trans (hI.2 hk).1, (he.same_request hk).2.trans (hI.2 hk).2⟩⟩)
      ⟨.refl, fun _ => ⟨rfl, rfl⟩⟩
  exact h1.1

/-! ## 3. What a step names -/

/-- The accept handler of a LIST runs with a connection. -/
structure ListsNow (s : St) (e : Ev) (op : Op) : Prop where
  run : ∃ i os c, e = .run i os ∧ s.handlers[i]? = some ⟨.accept op, some (.conn c)⟩
  send : op.kind ≠ .sendFile
  recv : op.kind ≠ .recvFile

theorem rearmIdle_log : (s.rearmIdle cfg).log = s.log := by
  unfold St.rearmIdle
  split <;> rfl

/-- **What a step names**: a line that is handled, or a LIST that is accepted. -/
theorem step_target (h : step cfg s e = .ok s') (ho : Ops c₀ [] s)
    (hm : .target id p ∈ s'.log) : .target id p ∈ s.log ∨
      (∃ os req kind s₁, RunsCode cfg os s e req kind s₁ ∧ id = s.nextId ∧
        match kind with
        | .sendFile | .recvFile => p = targetIn s.currentPath req.body
        | .list | .auth => False
        | _ => True) ∨
      ∃ op, ListsNow s e op ∧ id = op.id ∧ p = s.currentPath := by
  cases step_act h ho rfl hm with
  | old h1 => exact Or.inl h1
  | token op hop h1 => rcases h1 with ⟨c, h1⟩ | ⟨c, q, h1⟩ <;> cases h1
  | dropped op hop h1 => cases h1
  | peer k k' h1 => cases h1
  | turn i os t r ph op he hi hp ha =>
    cases ha with
    | target c ht hr hs hv =>
      subst ht hr
      exact Or.inr (Or.inr ⟨op, ⟨⟨i, os, c, he, hi⟩, hs, hv⟩, rfl, rfl⟩)
  | request i os req he hr hid =>
    subst he
    obtain ⟨s₁, hd, rfl⟩ := step_read h hr.read
    have hm₁ : .target id p ∈ s₁.log := hm
    cases hd with
    | blank hb => exact absurd (hb.symm.trans hr.line) nofun
    | refused req' b hb hv hf =>
      rw [rearmIdle_log] at hm₁
      have h1 := target_push ((List.mem_cons.mp hm₁).resolve_left nofun)
      exact Or.inl ((List.mem_cons.mp h1).resolve_left nofun)
    | ran req' kind _ hb hk hs =>
      rcases runOp_names.ok rfl hs id p hm₁ with h1 | ⟨hid, h1⟩
      · exact Or.inl ((List.mem_cons.mp h1).resolve_left nofun)
      · refine Or.inr (Or.inl ⟨os, req', kind, s₁, ⟨⟨i, rfl, hr.read⟩, hb, hk,
          ⟨((s.takeHandler i).neverExpire.takeLine ((lineEnd s.buf).getD 0) req').newRequest,
            rfl, rfl, rfl, rfl, hs⟩⟩, hid, ?_⟩)
        cases kind <;> exact h1

/-- The code of an operation logs no request. -/
theorem Effect.no_request (h : Effect cfg os n kind s s') (hm : .request id req cwd ∈ s'.log) :
    .request id req cwd ∈ s.log := by
  cases h with
  | replied b h => exact SameMembers.pushMessage.entry rfl hm
  | destroyed op h => exact SameMembers.destroyOp.entry rfl hm
  | opened fd file p hk ho => exact (List.mem_cons.mp hm).resolve_left nofun
  | named p h => exact (List.mem_cons.mp hm).resolve_left nofun
  | madeDirectory p hk hw => exact (List.mem_cons.mp hm).resolve_left nofun
  | announced port hk => exact (List.mem_cons.mp hm).resolve_left nofun
  | _ => exact hm

/-- A step logs a request where it handles its line. -/
theorem step_request (h : step cfg s e = .ok s') (hm : .request id req cwd ∈ s'.log) :
    .request id req cwd ∈ s.log ∨
      (id = s.nextId ∧ cwd = s.currentPath ∧ s.nextRequest = some req) := by
  rcases step_members h with ⟨i, os, s₁, rfl, hi, hd, rfl⟩ | hs
  · have hm : .request id req cwd ∈ s₁.log := hm
    have own : ∀ {req' : FtpRequest} {l : List Obs}, s.nextRequest = some req' → l = s.log →
        .request id req cwd ∈ .request s.nextId req' s.currentPath :: l →
        .request id req cwd ∈ s.log ∨
          (id = s.nextId ∧ cwd = s.currentPath ∧ s.nextRequest = some req) := by
      intro req' l hl e h1
      rcases List.mem_cons.mp h1 with h2 | h2
      · cases h2
        exact Or.inr ⟨rfl, rfl, hl⟩
      · exact Or.inl (e ▸ h2)
    cases hd with
    | blank hb =>
      have h1 := (@SameMembers.rearmIdle cfg _).entry rfl hm
      exact Or.inl h1
    | refused req' b hb hv hf =>
      have h1 := (@SameMembers.rearmIdle cfg _).entry rfl hm
      exact own hb rfl (SameMembers.pushMessage.entry rfl ((SameMembers.emit rfl rfl).entry rfl h1))
    | ran req' kind _ hb hk hs =>
      exact own hb rfl ((runOp_effects.ok rfl hs).invariant
        (I := fun s' => .request id req cwd ∈ s'.log → .request id req cwd ∈
          ((s.takeHandler i).neverExpire.takeLine ((lineEnd s.buf).getD 0) req').newRequest.log)
        (fun _ _ he hI h => hI (he.no_request h)) (fun h => h) hm)
  · exact Or.inl (hs.entry rfl hm)

/-! ## 4. Every run -/

/-- **What the transfers of a session act on**: a live operation is of the class that its request
    asked for, and what was named for a request is what it denoted when it was dispatched. -/
structure ActsAsAsked (s : St) : Prop where
  live : ∀ x ∈ s.staged, ∀ req cwd, .request x.2.id req cwd ∈ s.log →
    createKind req.command = some x.2.kind
  named : ∀ id req cwd p q, .request id req cwd ∈ s.log → req.denotes cwd = some q →
    .target id p ∈ s.log → p = q
  opened : ∀ id req cwd file p created q, .request id req cwd ∈ s.log → req.denotes cwd = some q →
    .fs id (.opened file p created) ∈ s.log → p = q

/-- A live operation was alive before the step, or the step handled its line. -/
theorem step_staged {x : Phase × Op} (h : step cfg s e = .ok s') (ho : Ops c₀ [] s)
    (hx : x ∈ s'.staged) : (∃ y ∈ s.staged, x.2.id = y.2.id ∧ x.2.kind = y.2.kind) ∨
      (x.2.id = s.nextId ∧ ∃ req, s.nextRequest = some req ∧
        createKind req.command = some x.2.kind) := by
  have kept : ∀ {new : List Obs} {k : List Conn}, Entered s s' new none k →
      ∃ y ∈ s.staged, x.2.id = y.2.id ∧ x.2.kind = y.2.kind := fun he =>
    ⟨x, (he.staged x hx).resolve_left nofun, rfl, rfl⟩
  cases booked_step (step_cases h) ho with
  | same _ _ he hn => exact Or.inl (kept he)
  | connect i c _ he hn => exact Or.inl (kept he)
  | peer _ _ o k hp he hn => exact Or.inl (kept he)
  | refused i os _ req b hr hv hc hb he hn => exact Or.inl (kept he)
  | token i os _ tok d new hi ht hd hnew he hn => exact Or.inl (kept he)
  | dropped i os _ r hi hr he hgone hn => exact Or.inl (kept he)
  | turned i os _ t r ph op new handed k hi hp hT he hgone hn =>
    refine Or.inl ((he.staged x hx).elim (fun h1 => ?_) fun h1 => ⟨x, h1, rfl, rfl⟩)
    obtain ⟨hid, hkind, -⟩ := hT.handedOn h1
    exact ⟨(ph, op), staged_handler hi hp, hid, hkind⟩
  | launched i os _ req kind s₁ new handed hr hk hs₁ hl he hn =>
    refine (he.staged x hx).elim (fun h1 => ?_) fun h1 => Or.inl ⟨x, h1, rfl, rfl⟩
    obtain ⟨hid, hkind, ha⟩ := hl.handed_kind h1
    rcases hk with ⟨-, rfl⟩ | ⟨-, hk⟩
    · exact absurd rfl ha
    · exact Or.inr ⟨hid, req, hr.line, hkind ▸ hk⟩

theorem ActsAsAsked.step (hI : ActsAsAsked s) (ho : Ops c₀ [] s)
    (hok : WhenRun listsWhereAsked s e) (hs : OrangeFtpd.step cfg s e = .ok s') :
    ActsAsAsked s' := by
  have notNew : ∀ {o : Obs}, o.id? = some s.nextId → o ∉ s.log := fun hid hm =>
    Nat.lt_irrefl _ (ho.log _ hm _ hid)
  have liveOld : ∀ {x : Phase × Op}, x ∈ s.staged → x.2.id < s.nextId := fun hx =>
    ho.fresh _ (staged_live hx)
  constructor
  case live =>
    intro x hx req cwd hr
    rcases step_staged hs ho hx with ⟨y, hy, hid, hkind⟩ | ⟨hid, req', hline, hk⟩
    · rw [hid] at hr
      rcases step_request hs hr with h1 | ⟨h1, -, -⟩
      · rw [hkind]
        exact hI.live y hy req cwd h1
      · exact absurd (liveOld hy) (h1 ▸ Nat.lt_irrefl _)
    · rcases step_request hs hr with h1 | ⟨-, -, h1⟩
      · exact absurd h1 (notNew (hid ▸ rfl))
      · cases hline.symm.trans h1
        exact hk
  case named =>
    intro id req cwd p q hr hq ht
    rcases step_target hs ho ht with h1 | ⟨os, req', kind, s₁, hc, rfl, h1⟩ | ⟨op, hnow, rfl, rfl⟩
    · rcases step_request hs hr with h2 | ⟨rfl, -, -⟩
      · exact hI.named id req cwd p q h2 hq h1
      · exact absurd h1 (notNew rfl)
    · rcases step_request hs hr with h2 | ⟨-, rfl, h2⟩
      · exact absurd h2 (notNew rfl)
      · cases hc.line.symm.trans h2
        rcases hc.created with ⟨-, rfl⟩ | ⟨-, hk⟩
        · exact h1.elim
        · unfold FtpRequest.denotes at hq
          rw [hk] at hq
          cases kind with
          | sendFile => cases hq; exact h1
          | recvFile => cases hq; exact h1
          | list => exact h1.elim
          | _ => cases hq
    · obtain ⟨i, os, c, rfl, hi⟩ := hnow.run
      have hst : (Phase.waiting, op) ∈ s.staged :=
        mem_staged.mpr (Or.inl ⟨_, Pool.mem_tasks_of (List.mem_of_getElem? hi), rfl⟩)
      rcases step_request hs hr with h2 | ⟨h2, -, -⟩
      · have hk := hI.live _ hst req cwd h2
        unfold FtpRequest.denotes at hq
        rw [hk] at hq
        have hwhere := (hok.at hi) hnow.send hnow.recv cwd (mem_dispatchedIn h2)
        cases hkind : op.kind with
        | sendFile => exact absurd hkind hnow.send
        | recvFile => exact absurd hkind hnow.recv
        | list =>
          simp only [hkind, Option.some.injEq] at hq
          rw [hwhere, hq]
        | _ => simp [hkind] at hq
      · exact absurd (liveOld hst) (h2 ▸ Nat.lt_irrefl _)
  case opened =>
    intro id req cwd file p created q hr hq hf
    rcases step_opened hs hf with h1 | ⟨os, req', hst, rfl, hopen⟩
    · rcases step_request hs hr with h2 | ⟨rfl, -, -⟩
      · exact hI.opened id req cwd file p created q h2 hq h1
      · exact absurd h1 (notNew rfl)
    · rcases step_request hs hr with h2 | ⟨-, rfl, h2⟩
      · exact absurd h2 (notNew rfl)
      · cases hst.line.symm.trans h2
        unfold FtpRequest.denotes at hq
        rw [hst.command] at hq
        cases hq
        exact hopen.path

theorem actsAsAsked_reach
    (h : Reach (OrangeFtpd.step cfg) (WhenRun listsWhereAsked) (St.init cfg home c₀ now) s) :
    ActsAsAsked s :=
  h.invariant_of (fun _ => ops_reach)
    ⟨nofun, fun _ _ _ _ _ hm => (by cases List.mem_singleton.mp hm),
      fun _ _ _ _ _ _ _ hm => (by cases List.mem_singleton.mp hm)⟩
    fun _ _ _ ho hI hok hs => hI.step ho hok hs

/-- **A transfer acts on what it named when it was requested**, where every LIST gets its data
    connection in the working directory of its dispatch: what is named and what is opened for a
    request is what the request denoted when it was dispatched, and so it is the same in any two
    runs that dispatch the request in the same working directory. -/
theorem transfers_act_as_asked
    (h : Reach (OrangeFtpd.step cfg) (WhenRun listsWhereAsked) (St.init cfg home c₀ now) s)
    (hr : .request id req cwd ∈ s.log) (hq : req.denotes cwd = some q) :
    (∀ p, .target id p ∈ s.log → p = q) ∧
    (∀ file p created, .fs id (.opened file p created) ∈ s.log → p = q) ∧
    ∀ (home : Path) (c₀ : UInt32) (now : Int) (s' : St) (id' : Nat),
      Reach (OrangeFtpd.step cfg) (WhenRun listsWhereAsked) (St.init cfg home c₀ now) s' →
      .request id' req cwd ∈ s'.log →
      ∀ p p', .target id p ∈ s.log → .target id' p' ∈ s'.log → p = p' := by
  have hI := actsAsAsked_reach h
  refine ⟨fun p => hI.named id req cwd p q hr hq,
    fun file p created => hI.opened id req cwd file p created q hr hq, ?_⟩
  intro home c₀ now s' id' h' hr' p p' ht ht'
  have h1 := hI.named id req cwd p q hr hq ht
  have h2 := (actsAsAsked_reach h').named id' req cwd p' q hr' hq ht'
  exact h1.trans h2.symm

end

/-- The answers to a CWD to the directory `d`. -/
def changesTo (d : Text) : Os :=
  { stat := fun _ => .ok ⟨.directory, 0o755, 0⟩, canonical := .ok d }

/-- A transfer is requested, then a CWD is handled, then the data connection comes. -/
def moveThenAccept (line : Text) (os : Os) : List Ev :=
  withPort (line ++ "\r\nCWD d\r\n".toList) ++
    [.run 1 os, .run 2 (changesTo "/root/d".toList), .complete 1 (.conn 0), .run 1 {}]

/-- The data connection comes first. -/
def acceptThenMove (line : Text) (os : Os) : List Ev :=
  withPort (line ++ "\r\nCWD d\r\n".toList) ++
    [.run 1 os, .complete 1 (.conn 0), .run 1 {}, .run 1 (changesTo "/root/d".toList)]

/-- A RETR and a CWD in either order. -/
theorem transfers_act_as_asked_retr : ∃ s s',
    runAll (step .shipped) .fresh (moveThenAccept "RETR a".toList (regularFile 1 5)) = .ok s ∧
    runAll (step .shipped) .fresh (acceptThenMove "RETR a".toList (regularFile 1 5)) = .ok s' ∧
    .target 3 "/root/a".toList ∈ s.log ∧ .target 3 "/root/a".toList ∈ s'.log ∧
    ∀ p p', .target 3 p ∈ s.log → .target 3 p' ∈ s'.log → p = p' := by
  have asked := fun s
      (run : runAll (step .shipped) .fresh (moveThenAccept "RETR a".toList (regularFile 1 5)) = .ok s)
      s' (run' : runAll (step .shipped) .fresh (acceptThenMove "RETR a".toList (regularFile 1 5)) =
        .ok s') (hr : .request 3 ⟨"RETR".toList, "a".toList⟩ "/root".toList ∈ s.log) =>
    (transfers_act_as_asked (reach_runAll (moveThenAccept _ _) .start (by decide) run) hr
      (q := "/root/a".toList) (by decide)).2.2 "/root".toList 0 0 s' 3
      (reach_runAll (acceptThenMove _ _) .start (by decide) run')
  exact ⟨_, _, rfl, rfl, by decide, by decide, asked _ rfl _ rfl (by decide) (by decide)⟩

/-- A CWD that is handled before the data connection comes decides what LIST lists. -/
theorem list_follows_cwd : ¬ ∀ (cfg : Config) (home : Path) (c₀ : UInt32) (now : Int) (s : St)
    (id : Nat) (req : FtpRequest) (cwd p q : Path),
    Reach (step cfg) (fun _ _ => True) (St.init cfg home c₀ now) s →
    .request id req cwd ∈ s.log → req.denotes cwd = some q → .target id p ∈ s.log → p = q := by
  intro h
  have asked := fun s
      (run : runAll (step .shipped) .fresh (moveThenAccept "LIST".toList {}) = .ok s)
      (hr : .request 3 ⟨"LIST".toList, []⟩ "/root".toList ∈ s.log)
      (ht : .target 3 "/root/d".toList ∈ s.log) =>
    h _ _ _ _ s 3 ⟨"LIST".toList, []⟩ "/root".toList "/root/d".toList "/root".toList
      (reach_runAll (moveThenAccept _ _) .start (by decide) run) hr (by decide) ht
  exact absurd (asked _ rfl (by decide) (by decide)) (by decide)

end OrangeFtpd
