/-
  File:      OrangeFtpd/Request/RefusedUpload.lean
  Subject:   An upload that is refused, and the file system.

  STOR opens its file in the constructor; it looks for a pipe and for the passive port after
  that. `storActs` is what one STOR does while its request is handled, and a file that is
  opened by then stays as it is, whatever the reply says.
-/
import OrangeFtpd.Invariant.Uploads

namespace OrangeFtpd

open BasicOp Act

/-! ## 1. What one STOR does -/

/-- What STOR did once its file was opened, newest first. -/
def storOpened (os : Os) (id : Nat) (s : St) (file : FileId) : List Obs :=
  (if os.pipe.isSome then [] else [.reply id RecvFileOp.failedReply]) ++
    [.fs id (.opened file (s.getTargetPath s.request.body) os.created),
      .target id (s.getTargetPath s.request.body)]

/-- **What a STOR does** while its request is handled, newest first. -/
def storActs (os : Os) (id : Nat) (s : St) : List Obs :=
  if s.request.body = [] then [.over id, .reply id RecvFileOp.failedReply]
  else if s.isAnonymous = true ∧ fsExists (os.stat 0) ≠ .ok false then
    [.over id, .reply id RecvFileOp.failedReply, .target id (s.getTargetPath s.request.body)]
  else match os.openFile with
    | .error _ =>
      [.over id, .reply id RecvFileOp.failedReply, .target id (s.getTargetPath s.request.body)]
    | .ok (fd, file) =>
      if fd = 0 then .over id :: storOpened os id s file
      else if s.acceptor.isOpen then storOpened os id s file
      else .over id :: .reply id (Response.getCodeString .invalidSeq) :: storOpened os id s file

section

variable {cfg : Config} {os : Os} {id n i : Nat} {s s₁ s₂ s' : St} {op : Op} {e : Ev}
  {req : FtpRequest} {x : FsEffect} {c₀ : UInt32} {now : Int} {home : Path}

/-- The constructor handed back an operation that `do_operation` will leave, or one that it will
    let wait. -/
def StorBuilt (os : Os) (id : Nat) (s : St) (op : Op) (s₁ : St) : Prop :=
  (op.kind = .recvFile ∧ op.id = id) ∧
  ((op.fd ≤ 0 ∧ .over id :: s₁.acts = storActs os id s ++ s.acts) ∨
    (0 < op.fd ∧ s₁.acceptor = s.acceptor ∧ ∃ file, s₁.acts = storOpened os id s file ++ s.acts ∧
      storActs os id s = if s.acceptor.isOpen then storOpened os id s file
        else .over id :: .reply id (Response.getCodeString .invalidSeq) ::
          storOpened os id s file))

/-- A refusal of the constructor. -/
theorem reply_built (hop : op.kind = .recvFile ∧ op.id = id) (hfd : op.fd ≤ 0)
    (h : .over id :: .reply id RecvFileOp.failedReply :: s₁.acts = storActs os id s ++ s.acts) :
    Triple (· = s₁) (do writeReply cfg id RecvFileOp.failedReply; pure op) (StorBuilt os id s)
      fun _ => True := by
  refine .bind writeReply_triple fun _ => .pure fun _ e => ⟨hop, Or.inl ⟨hfd, ?_⟩⟩
  rw [e, acts_push]
  exact h

theorem openAndPipe_built (hb : s.request.body ≠ [])
    (ha : ¬ (s.isAnonymous = true ∧ fsExists (os.stat 0) ≠ .ok false)) :
    Triple (· = s.basicOp.emit (.target id (s.getTargetPath s.request.body)))
      (RecvFileOp.openAndPipe cfg os
        { id := id, kind := .recvFile, fileName := s.getTargetPath s.request.body })
      (StorBuilt os id s) fun _ => True := by
  unfold RecvFileOp.openAndPipe
  cases ho : os.openFile with
  | error e =>
    refine reply_built ⟨rfl, rfl⟩ (show (-1 : Int) ≤ 0 by decide) ?_
    unfold storActs
    rw [if_neg hb, if_neg ha, ho]
    rfl
  | ok r =>
    obtain ⟨fd, file⟩ := r
    -- the constructor ends here, with the reply of a failed pipe or without
    have built : ∀ {op : Op} {s₁ : St}, op.kind = .recvFile ∧ op.id = id → op.fd = fd →
        s₁.acceptor = s.acceptor → s₁.acts = storOpened os id s file ++ s.acts →
        StorBuilt os id s op s₁ := by
      intro op s₁ hop hfd hacc hl
      refine ⟨hop, ?_⟩
      unfold storActs
      rw [if_neg hb, if_neg ha, ho]
      by_cases h0 : fd = 0
      · refine Or.inl ⟨by omega, ?_⟩
        rw [hl]
        simp only [h0, if_true, List.cons_append]
      · refine Or.inr ⟨by omega, hacc, file, hl, ?_⟩
        simp only [h0, if_false]
    refine .modify_bind_at ?_
    cases hp : os.pipe with
    | none =>
      refine .bind writeReply_triple fun _ => .pure fun _ e => ?_
      rw [e]
      refine built ⟨rfl, rfl⟩ rfl rfl ?_
      rw [acts_push]
      unfold storOpened
      rw [hp]
      rfl
    | some p =>
      refine .pure_at (built ⟨rfl, rfl⟩ rfl rfl ?_)
      unfold storOpened
      rw [hp]
      rfl

theorem construct_built : Triple (· = s)
    (RecvFileOp.construct cfg os { id := id, kind := .recvFile }) (StorBuilt os id s)
    fun _ => True := by
  unfold RecvFileOp.construct
  refine .modify_bind_at (.get_at (.ite (fun hb => ?_) fun hb => ?_))
  · refine reply_built ⟨rfl, rfl⟩ (Int.le_refl 0) ?_
    have hb' : s.request.body = [] := List.isEmpty_iff.mp hb
    unfold storActs
    rw [if_pos hb']
    rfl
  have hb' : s.request.body ≠ [] := fun h => hb (List.isEmpty_iff.mpr h)
  refine .modify_bind_at (.bind (Q := fun refuse s' => s' = s.basicOp.emit (.target id
      (s.getTargetPath s.request.body)) ∧
      (refuse = true ↔ s.isAnonymous = true ∧ fsExists (os.stat 0) ≠ .ok false)) ?_ fun refuse =>
        .ite (fun hr => ?_) fun hr => ?_)
  · refine .ite (fun ha => .of_ok fun _ found s' he hok => ?_) fun ha => .pure_at ⟨rfl, ?_⟩
    · obtain ⟨hx, rfl⟩ := liftFs_ok.mp hok
      refine ⟨he, ?_⟩
      rw [hx]
      cases found <;> simp [show s.isAnonymous = true from ha]
    · exact iff_of_false nofun fun h => ha h.1
  · intro s₁ h1
    refine reply_built ⟨rfl, rfl⟩ (Int.le_refl 0) ?_ s₁ rfl
    unfold storActs
    rw [if_neg hb', if_pos (h1.2.mp hr), h1.1]
    rfl
  · intro s₁ h1
    exact openAndPipe_built hb' (fun h => hr (h1.2.mpr h)) s₁ h1.1

/-- **STOR** does `storActs`. -/
theorem stor_acts : Triple (· = s) (runOp cfg os { id := id, kind := .recvFile })
    (fun _ s' => s'.acts = storActs os id s ++ s.acts) fun _ => True := by
  unfold runOp
  refine .bind construct_built fun op => release_ended ?_
  intro s₁ h1
  obtain ⟨⟨hk, rfl⟩, h1⟩ := h1
  have he : doOperation cfg os op = RecvFileOp.doOperation cfg op := by
    unfold doOperation
    rw [hk]
  rw [he]
  refine Triple.ite (P := (· = s₁)) (fun hfd => ?_) (fun hfd => ?_) s₁ rfl
  · refine .pure fun _ h => Or.inr ⟨op, rfl, ?_⟩
    show (St.destroyOp cfg op _).acts = _
    rw [h, acts_destroyOp]
    exact (h1.resolve_right fun h2 => absurd h2.1 (Int.not_lt.mpr hfd)).2
  · obtain ⟨-, hacc, file, hl, hs⟩ := h1.resolve_left fun h2 => hfd h2.1
    refine fetch_began rfl (fun ha => ?_) fun ha => ?_
    · rw [hs, if_pos (hacc ▸ ha)]
      exact hl
    · show (St.destroyOp cfg _ _).acts = _
      rw [hs, if_neg (by rw [← hacc, ha]; nofun), acts_destroyOp, acts_push, hl]
      rfl

/-! ## 2. What comes later -/

/-- **What is done for an old request**: its replies are 150 and 226, and what is done to files
    are writes. -/
theorem step_later (h : step cfg s e = .ok s') (ho : Ops c₀ [] s) (hid : id < s.nextId) :
    (∀ b, .reply id b ∈ s'.log → .reply id b ∈ s.log ∨ b.code = .dataConn ∨
      b.code = .transferComplete) ∧
    ∀ x, .fs id x ∈ s'.log → .fs id x ∈ s.log ∨ ∃ file offset bytes, x = .wrote file offset bytes := by
  have other : ∀ {o : Obs}, o.id? = some id → o.id? = some s.nextId → False := fun h1 h2 =>
    absurd hid (Option.some.inj (h1.symm.trans h2) ▸ Nat.lt_irrefl _)
  refine ⟨fun b hm => ?_, fun x hm => ?_⟩
  · cases step_act h ho rfl hm with
    | old h1 => exact Or.inl h1
    | request i os req he hr hi => exact (other rfl hi).elim
    | turn i os t r ph op he hi hp ha =>
      cases ha with
      | starting c ht hr => exact Or.inr (Or.inl rfl)
      | done => exact Or.inr (Or.inr rfl)
    | token op hop h1 => rcases h1 with ⟨c, h1⟩ | ⟨c, p, h1⟩ <;> cases h1
    | dropped op hop h1 => cases h1
    | peer k k' h1 => cases h1
  · cases step_act h ho rfl hm with
    | old h1 => exact Or.inl h1
    | request i os req he hr hi => exact (other rfl hi).elim
    | turn i os t r ph op he hi hp ha =>
      cases ha with
      | wrote offset bytes hk => exact Or.inr ⟨_, _, _, rfl⟩
    | token op hop h1 => rcases h1 with ⟨c, h1⟩ | ⟨c, p, h1⟩ <;> cases h1
    | dropped op hop h1 => cases h1
    | peer k k' h1 => cases h1

/-- The same, in any run. -/
theorem later_acts {s₀ : St} {ok : St → Ev → Prop}
    (hops : ∀ s, Reach (step cfg) ok s₀ s → Ops c₀ [] s) (hid : id < s₀.nextId)
    (h : Reach (step cfg) ok s₀ s) :
    (∀ b, .reply id b ∈ s.log → .reply id b ∈ s₀.log ∨ b.code = .dataConn ∨
      b.code = .transferComplete) ∧
    ∀ x, .fs id x ∈ s.log → .fs id x ∈ s₀.log ∨ ∃ file offset bytes, x = .wrote file offset bytes := by
  induction h with
  | start => exact ⟨fun _ => Or.inl, fun _ => Or.inl⟩
  | step e h hok hs ih =>
    have hlt : id < _ := h.invariant_of (I := fun s => id < s.nextId) hops hid
      fun _ _ _ ho hI _ hs => Nat.lt_of_lt_of_le hI (step_nextId hs ho)
    have h1 := step_later hs (hops _ h) hlt
    exact ⟨fun b hm => (h1.1 b hm).elim (ih.1 b) Or.inr, fun x hm => (h1.2 x hm).elim (ih.2 x) Or.inr⟩

/-! ## 3. Refused uploads -/

/-- The request `id` was refused: a 553 or a 503 was queued for it, and no 150. -/
def St.Refused (s : St) (id : Nat) : Prop :=
  (∃ b ∈ s.repliesOf id, b.code = .uploadFail ∨ b.code = .invalidSeq) ∧
    ∀ b ∈ s.repliesOf id, b.code ≠ .dataConn

instance {s : St} {id : Nat} : Decidable (s.Refused id) := inferInstanceAs (Decidable (_ ∧ _))

/-- Nothing was done to the file system for the request `id`. -/
def St.Intact (s : St) (id : Nat) : Prop := ∀ x, .fs id x ∉ s.log

/-- **The STOR opens its file, and is refused after that**: there is no pipe, or no open port (that
    is not looked at where the descriptor is 0). -/
def opensThenFails (s : St) (req : FtpRequest) (os : Os) : Prop :=
  req.body ≠ [] ∧ (s.isAnonymous = true → fsExists (os.stat 0) = .ok false) ∧
    match os.openFile with
    | .error _ => False
    | .ok (fd, _) => os.pipe = none ∨ (fd ≠ 0 ∧ s.acceptor.isOpen = false)

/-- The exact acts of a STOR decide. -/
theorem storActs_refused (id : Nat) (hr : s.request = req) :
    ((∃ b, .reply id b ∈ storActs os id s ∧ (b.code = .uploadFail ∨ b.code = .invalidSeq)) ∧
      ∃ x, .fs id x ∈ storActs os id s) ↔ opensThenFails s req os := by
  subst hr
  have hpre : (s.isAnonymous = true → fsExists (os.stat 0) = .ok false) ↔
      ¬ (s.isAnonymous = true ∧ fsExists (os.stat 0) ≠ .ok false) := by tauto
  unfold opensThenFails storActs
  rw [hpre]
  by_cases hb : s.request.body = []
  · simp [hb]
  by_cases ha : s.isAnonymous = true ∧ fsExists (os.stat 0) ≠ .ok false
  · simp [hb, ha]
  rw [if_neg hb, if_neg ha]
  cases os.openFile with
  | error e => simp
  | ok r =>
    obtain ⟨fd, file⟩ := r
    unfold storOpened
    cases os.pipe with
    | none =>
      refine iff_of_true ⟨⟨RecvFileOp.failedReply, ?_, Or.inl rfl⟩,
        .opened file (s.getTargetPath s.request.body) os.created, ?_⟩ ⟨hb, ha, Or.inl rfl⟩
      · by_cases h0 : fd = 0
        · simp [h0]
        · cases s.acceptor.isOpen <;> simp [h0]
      · by_cases h0 : fd = 0
        · simp [h0]
        · cases s.acceptor.isOpen <;> simp [h0]
    | some p =>
      by_cases h0 : fd = 0
      · simp [h0]
      cases ho : s.acceptor.isOpen with
      | true => simp [h0]
      | false => simp [h0, hb, ha]

/-- A STOR replies 553 or 503 while its request is handled. -/
theorem storActs_reply {b : SharedConstBuffer} (hm : .reply id b ∈ storActs os id s) :
    b.code = .uploadFail ∨ b.code = .invalidSeq := by
  have opened : ∀ {file : FileId}, .reply id b ∈ storOpened os id s file → b.code = .uploadFail := by
    intro file hm
    rcases List.mem_append.mp hm with h1 | h1
    · split at h1
      · cases h1
      · cases List.mem_singleton.mp h1
        rfl
    · simp at h1
  unfold storActs at hm
  split at hm
  · simp only [List.mem_cons, reduceCtorEq, Obs.reply.injEq, true_and, List.not_mem_nil, or_false,
      false_or] at hm
    exact Or.inl (hm ▸ rfl)
  split at hm
  · simp only [List.mem_cons, reduceCtorEq, Obs.reply.injEq, true_and, List.not_mem_nil, or_false,
      false_or] at hm
    exact Or.inl (hm ▸ rfl)
  split at hm
  · simp only [List.mem_cons, reduceCtorEq, Obs.reply.injEq, true_and, List.not_mem_nil, or_false,
      false_or] at hm
    exact Or.inl (hm ▸ rfl)
  split at hm
  · exact Or.inl (opened ((List.mem_cons.mp hm).resolve_left nofun))
  split at hm
  · exact Or.inl (opened hm)
  · rcases List.mem_cons.mp ((List.mem_cons.mp hm).resolve_left nofun) with h1 | h1
    · cases h1
      exact Or.inr rfl
    · exact Or.inl (opened h1)

/-- The step that handles the STOR. -/
theorem step_stor (h : step cfg s (.run i os) = .ok s')
    (hi : s.handlers[i]? = some ⟨.read, some .ok⟩) (hv : s.verified = true)
    (hr : s.nextRequest = some req) (hk : createKind req.command = some .recvFile) :
    ∃ s₀, s₀.request = req ∧ s₀.isAnonymous = s.isAnonymous ∧ s₀.acceptor = s.acceptor ∧
      s'.acts = storActs os s.nextId s₀ ++ .request s.nextId req s.currentPath :: s.acts ∧
      s'.nextId = s.nextId + 1 := by
  obtain ⟨s₁, hd, rfl⟩ := step_read h hi
  have hline := hr
  cases hd with
  | blank hb => exact absurd (hb.symm.trans hline) nofun
  | refused req' b hb hv' hf =>
    have hreq : some req' = some req := hb.symm.trans hline
    cases hreq
    cases hk.symm.trans hf.not_created
  | ran req' kind _ hb hk' hs =>
    have hreq : some req' = some req := hb.symm.trans hline
    cases hreq
    have hkind : kind = .recvFile := by
      rcases hk' with ⟨hv', -⟩ | ⟨-, hk'⟩
      · cases hv.symm.trans hv'
      · exact Option.some.inj (hk'.symm.trans hk)
    subst hkind
    have hact := stor_acts.ok rfl hs
    have hnext := (recvFileOp_began.ok rfl hs).opRun.nextId
    exact ⟨((s.takeHandler i).neverExpire.takeLine ((lineEnd s.buf).getD 0) req).newRequest, rfl,
      rfl, rfl, hact, hnext⟩

/-- **A refused upload leaves the file system intact** exactly where its STOR does not open the
    file before the check that refuses it; this holds now, and in every run from here. -/
theorem refused_upload_intact {ok : St → Ev → Prop}
    (h : Reach (step cfg) ok (St.init cfg home c₀ now) s) (hv : s.verified = true)
    (hi : s.handlers[i]? = some ⟨.read, some .ok⟩) (hr : s.nextRequest = some req)
    (hk : createKind req.command = some .recvFile) (hs : step cfg s (.run i os) = .ok s') :
    (∀ s₂, Reach (step cfg) (fun _ _ => True) s' s₂ → s₂.Refused s.nextId → s₂.Intact s.nextId) ↔
      ¬ opensThenFails s req os := by
  obtain ⟨s₀, hreq, han, hacc, ha, hn⟩ := step_stor hs hi hv hr hk
  have ho : Ops c₀ [] s := ops_reach h
  have notOld : ∀ {o : Obs}, o.id? = some s.nextId → o ∉ s.log := fun hid hm =>
    Nat.lt_irrefl _ (ho.log _ hm _ hid)
  -- what the log says of this request after the step is what `storActs` says
  have replied : ∀ {b : SharedConstBuffer}, .reply s.nextId b ∈ s'.log ↔
      .reply s.nextId b ∈ storActs os s.nextId s₀ := by
    intro b
    rw [← mem_acts rfl, ha, List.mem_append, List.mem_cons, mem_acts rfl]
    exact or_iff_left fun h1 => h1.elim nofun (notOld rfl)
  have changed : ∀ {x : FsEffect}, .fs s.nextId x ∈ s'.log ↔
      .fs s.nextId x ∈ storActs os s.nextId s₀ := by
    intro x
    rw [← mem_acts rfl, ha, List.mem_append, List.mem_cons, mem_acts rfl]
    exact or_iff_left fun h1 => h1.elim nofun (notOld rfl)
  have hcond : opensThenFails s req os ↔ opensThenFails s₀ req os := by
    unfold opensThenFails
    rw [han, hacc]
  rw [hcond, ← storActs_refused s.nextId hreq]
  constructor
  · rintro hall ⟨⟨b, hb, hcode⟩, x, hx⟩
    refine hall s' .start ⟨⟨b, mem_repliesOf.mpr (replied.mpr hb), hcode⟩, fun b' hb' => ?_⟩ x
      (changed.mpr hx)
    rcases storActs_reply (replied.mp (mem_repliesOf.mp hb')) with h1 | h1 <;> rw [h1] <;> nofun
  · intro hnot s₂ h2 hrefused
    obtain ⟨⟨b, hb, hcode⟩, -⟩ := hrefused
    have hops : ∀ s₂, Reach (step cfg) (fun _ _ => True) s' s₂ → Ops c₀ [] s₂ := fun s₂ h2 =>
      h2.invariant (ho.step (step_cases hs)) fun _ _ _ hI _ hs => hI.step (step_cases hs)
    have hup : Uploads s₂ := h2.invariant_of hops ((uploads_reach h).step ho hs)
      fun _ _ _ ho hI _ hs => hI.step ho hs
    obtain ⟨hreply, hfs⟩ := later_acts hops (by rw [hn]; exact Nat.lt_succ_self _) h2
    have hb' : .reply s.nextId b ∈ s'.log := by
      rcases hreply b (mem_repliesOf.mp hb) with h1 | h1 | h1
      · exact h1
      · rw [h1] at hcode
        exact absurd hcode (by decide)
      · rw [h1] at hcode
        exact absurd hcode (by decide)
    have none_opened : ∀ x, .fs s.nextId x ∉ s'.log := fun x hx =>
      hnot ⟨⟨b, replied.mp hb', hcode⟩, x, changed.mp hx⟩
    intro x hx
    rcases hfs x hx with h1 | ⟨file, offset, bytes, rfl⟩
    · exact none_opened x h1
    · obtain ⟨path, created, h1⟩ := hup.wrote _ file offset bytes ((mem_acts rfl).mpr hx)
      rcases hfs _ ((mem_acts rfl).mp h1) with h3 | ⟨_, _, _, h3⟩
      · exact none_opened _ h3
      · cases h3

end

/-- A STOR without a port, whose open is denied. -/
theorem refused_upload_intact_denied : ∃ s s',
    runAll (step .shipped) .fresh (login "STOR a\r\n".toList) = .ok s ∧
    step .shipped s (.run 2 { openFile := .error .acces }) = .ok s' ∧
    s'.Refused s.nextId ∧ s'.Intact s.nextId := by
  have intact := fun s s' (run : runAll (step .shipped) .fresh (login "STOR a\r\n".toList) = .ok s)
      (hv : s.verified = true) (hi : s.handlers[2]? = some ⟨.read, some .ok⟩)
      (hr : s.nextRequest = some ⟨"STOR".toList, "a".toList⟩)
      (hs : step .shipped s (.run 2 { openFile := .error .acces }) = .ok s')
      (hn : s'.Refused s.nextId) =>
    have reached : Reach (step .shipped) (fun _ _ => True) .fresh s :=
      reach_runAll (login _) .start (by decide) run
    (refused_upload_intact reached hv hi hr (by decide) hs).mpr (fun h => h.2.2) s' .start hn
  exact ⟨_, _, rfl, rfl, by decide, intact _ _ rfl (by decide) rfl (by decide) rfl (by decide)⟩

/-- The open of STOR makes its file. -/
def createsFile : Os := { openFile := .ok (7, 1), created := true, pipe := some (8, 9) }

/-- Without a port the file is created, and then the request is refused. -/
theorem refused_upload_creates : ¬ ∀ (cfg : Config) (home : Path) (c₀ : UInt32) (now : Int)
    (s s' : St) (i : Nat) (os : Os) (req : FtpRequest),
    Reach (step cfg) (fun _ _ => True) (St.init cfg home c₀ now) s → s.verified = true →
    s.handlers[i]? = some ⟨.read, some .ok⟩ → s.nextRequest = some req →
    createKind req.command = some .recvFile → step cfg s (.run i os) = .ok s' →
    s'.Refused s.nextId → s'.Intact s.nextId := by
  intro h
  have intact := fun s s' (run : runAll (step .shipped) .fresh (login "STOR a\r\n".toList) = .ok s)
      (hv : s.verified = true) (hi : s.handlers[2]? = some ⟨.read, some .ok⟩)
      (hr : s.nextRequest = some ⟨"STOR".toList, "a".toList⟩)
      (hs : step .shipped s (.run 2 createsFile) = .ok s') (hn : s'.Refused s.nextId)
      (hx : .fs s.nextId (.opened 1 "/root/a".toList true) ∈ s'.log) =>
    h _ _ _ _ s s' 2 _ ⟨"STOR".toList, "a".toList⟩
      (reach_runAll (login _) .start (by decide) run) hv hi hr (by decide) hs hn _ hx
  exact intact _ _ rfl (by decide) rfl (by decide) rfl (by decide) (by decide)

end OrangeFtpd
