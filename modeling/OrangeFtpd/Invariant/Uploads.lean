/-
  File:      OrangeFtpd/Invariant/Uploads.lean
  Subject:   The files that STOR opens and writes.

  The constructor of STOR is the only code that opens a file for writing (`Opens`), and
  what an upload writes goes to the file that its own request opened (`Uploads`). So all
  that the server does to files is decided when a line with STOR is handled.
-/
import OrangeFtpd.Invariant.Identity
import OrangeFtpd.Invariant.Acts

namespace OrangeFtpd

open BasicOp Act

/-- **The constructor of STOR opens** `file` at `path`, for the request `req` in the state `s`. -/
structure Opens (os : Os) (s : St) (req : FtpRequest) (file : FileId) (path : Path)
    (created : Bool) : Prop where
  body : req.body ≠ []
  path : path = s.getTargetPath req.body
  /-- An anonymous user is refused where the file exists. -/
  allowed : s.isAnonymous = true → fsExists (os.stat 0) = .ok false
  openFile : ∃ fd, os.openFile = .ok (fd, file)
  created : created = os.created

/-- Since `s` only the constructor of STOR opened files, for the request `id`. -/
def Opened (os : Os) (id : Nat) (s s' : St) : Prop :=
  ∀ id' file path created, .fs id' (.opened file path created) ∈ s'.log →
    .fs id' (.opened file path created) ∈ s.log ∨
      (id' = id ∧ Opens os s s.request file path created)

section

variable {cfg : Config} {os : Os} {id n i : Nat} {s s₁ s' : St} {op op' : Op} {e : Ev} {t : Task}
  {r : Result} {file : FileId} {path : Path} {created : Bool} {req : FtpRequest} {d : DataSocket}
  {k k' : List Conn} {new : List Obs} {handed : Option (Phase × Op)} {kind : OpKind} {c₀ : UInt32}

/-! ## 1. Opening -/

/-- What only requests log is old. -/
theorem SameMembers.entry {o : Obs} (h : SameMembers s s') (ho : o.ofRequest = true)
    (hm : o ∈ s'.log) : o ∈ s.log := by
  obtain ⟨new, hl, hn, -⟩ := h.log
  rw [hl] at hm
  rcases List.mem_append.mp hm with h1 | h1
  · cases (hn _ h1).symm.trans ho
  · exact h1

/-- The step handles a line, and its request runs the code of an operation of class `kind`,
    which takes the session to `s₁`. -/
structure RunsCode (cfg : Config) (os : Os) (s : St) (e : Ev) (req : FtpRequest) (kind : OpKind)
    (s₁ : St) : Prop where
  run : ∃ i, e = .run i os ∧ s.handlers[i]? = some ⟨.read, some .ok⟩
  line : s.nextRequest = some req
  created : (s.verified = false ∧ kind = .auth) ∨
    (s.verified = true ∧ createKind req.command = some kind)
  code : ∃ s₀, s₀.request = req ∧ s₀.currentPath = s.currentPath ∧
    s₀.isAnonymous = s.isAnonymous ∧ s₀.log = .request s.nextId req s.currentPath :: s.log ∧
    runOp cfg os { id := s.nextId, kind := kind } s₀ = .ok ((), s₁)

/-- **What only requests log** is logged by the code of an operation. -/
theorem step_entry {o : Obs} (h : step cfg s e = .ok s') (ho : o.ofRequest = true)
    (hr : ∀ i q c, o ≠ .request i q c) (hm : o ∈ s'.log) :
    o ∈ s.log ∨ ∃ os req kind s₁, RunsCode cfg os s e req kind s₁ ∧ o ∈ s₁.log := by
  rcases step_members h with ⟨i, os, s₁, rfl, hi, hd, rfl⟩ | hs
  · have hm : o ∈ s₁.log := hm
    cases hd with
    | blank hb =>
      have h1 := (@SameMembers.rearmIdle cfg _).entry ho hm
      exact Or.inl h1
    | refused req b hb hv hf =>
      have h1 := (@SameMembers.rearmIdle cfg _).entry ho hm
      have h2 := SameMembers.pushMessage.entry ho ((SameMembers.emit rfl rfl).entry ho h1)
      exact Or.inl ((List.mem_cons.mp h2).resolve_left (hr _ _ _))
    | ran req kind _ hb hk hs =>
      exact Or.inr ⟨os, req, kind, s₁, ⟨⟨i, rfl, hi⟩, hb, hk, ((s.takeHandler i).neverExpire.takeLine
        ((lineEnd s.buf).getD 0) req).newRequest, rfl, rfl, rfl, rfl, hs⟩, hm⟩
  · exact Or.inl (hs.entry ho hm)

theorem Opened.refl : Opened os id s s := fun _ _ _ _ hm => Or.inl hm

theorem Opened.still (h : Opened os id s s₁) (hm : SameMembers s₁ s') : Opened os id s s' :=
  fun id' f p c ho => h id' f p c (hm.entry rfl ho)

/-- An entry that opens nothing. -/
theorem Opened.emit {o : Obs} (h : Opened os id s s₁) (ho : ∀ i f p c, o ≠ .fs i (.opened f p c)) :
    Opened os id s (s₁.emit o) := by
  intro id' f p c hm
  rcases List.mem_cons.mp hm with h1 | h1
  · exact absurd h1.symm (ho id' f p c)
  · exact h id' f p c h1

/-- The constructor hands its operation back. -/
def Constructed (os : Os) (id : Nat) (s : St) (op : Op) (s' : St) : Prop :=
  op.kind = .recvFile ∧ Opened os id s s'

theorem reply_constructed {b : SharedConstBuffer} (hk : op.kind = .recvFile)
    (h : Opened os id s s₁) : Triple (· = s₁) (do writeReply cfg n b; pure op)
      (Constructed os id s) fun _ => True :=
  .bind writeReply_triple fun _ => .pure fun _ e => ⟨hk, e ▸ h.still .pushMessage⟩

theorem openAndPipe_opened (hk : op.kind = .recvFile) (hid : op.id = id) (h : Opened os id s s₁)
    (hf : ∀ fd file, os.openFile = .ok (fd, file) →
      Opens os s s.request file op.fileName os.created) :
    Triple (· = s₁) (RecvFileOp.openAndPipe cfg os op) (Constructed os id s) fun _ => True := by
  unfold RecvFileOp.openAndPipe
  cases ho : os.openFile with
  | error e => exact reply_constructed hk h
  | ok x =>
    have h1 : Opened os id s (s₁.emit (.fs op.id (.opened x.2 op.fileName os.created))) := by
      intro id' f p c hm
      rcases List.mem_cons.mp hm with h1 | h1
      · cases h1
        exact Or.inr ⟨hid, hf x.1 x.2 ho⟩
      · exact h id' f p c h1
    refine .modify_bind_at ?_
    cases os.pipe with
    | none => exact reply_constructed hk h1
    | some p => exact .pure_at ⟨hk, h1⟩

theorem construct_opened : Triple (· = s)
    (RecvFileOp.construct cfg os { id := id, kind := .recvFile }) (Constructed os id s)
    fun _ => True := by
  have h0 : Opened os id s s.basicOp := fun _ _ _ _ hm => Or.inl hm
  have h1 := @Opened.emit os id s s.basicOp (.target id (s.getTargetPath s.request.body)) h0 nofun
  unfold RecvFileOp.construct
  refine .modify_bind_at (.get_at (.ite (fun _ => reply_constructed rfl h0) fun hb => ?_))
  refine .modify_bind_at (.bind (Q := fun refuse s' => s' = s.basicOp.emit (.target id
      (s.getTargetPath s.request.body)) ∧ (s.isAnonymous = true → refuse = false →
        fsExists (os.stat 0) = .ok false)) ?_ fun refuse => .ite (fun _ => ?_) fun hr => ?_)
  · refine .ite (fun _ => ?_) fun ha => .pure_at ⟨rfl, fun h => absurd h ha⟩
    refine .of_ok fun _ found s' he hok => ?_
    obtain ⟨hx, rfl⟩ := liftFs_ok.mp hok
    exact ⟨he, fun _ hf => hf ▸ hx⟩
  · exact (reply_constructed rfl h1).pre fun _ h => h.1
  · intro s₂ h2
    obtain ⟨rfl, h2⟩ := h2
    refine openAndPipe_opened rfl rfl h1 (fun fd file ho => ?_) _ rfl
    exact ⟨by simpa using hb, rfl, fun ha => h2 ha (eq_false_of_ne_true hr), ⟨fd, ho⟩, rfl⟩

/-- **STOR** opens files in its constructor only. -/
theorem runOp_opened : Triple (· = s) (runOp cfg os { id := id, kind := .recvFile })
    (fun _ => Opened os id s) fun _ => True := by
  unfold runOp
  refine .bind construct_opened fun op => .bind (Q := fun _ => Opened os id s) ?_ fun rest => ?_
  · intro s₁ h1
    obtain ⟨hk, h1⟩ := h1
    have he : doOperation cfg os op = RecvFileOp.doOperation cfg op := by
      unfold doOperation
      rw [hk]
    rw [he]
    refine Triple.ite (Q := fun _ => Opened os id s) (fun _ => .pure_at h1)
      (fun _ => fetchPassiveConnection_triple.post fun _ s₂ h2 => ?_) s₁ rfl
    rcases h2 with ⟨_, -, rfl⟩ | ⟨_, -, rfl⟩
    · exact h1.still (.startWith none)
    · exact h1.still .pushMessage
  · cases rest with
    | none => exact .pure fun _ h => h
    | some op => exact .modify fun _ h => h.still .destroyOp

/-- The other commands open none. -/
theorem Effect.opened_other (h : Effect cfg os n kind s s') (hk : kind ≠ .recvFile)
    (hm : .fs id (.opened file path created) ∈ s'.log) :
    .fs id (.opened file path created) ∈ s.log := by
  cases h with
  | opened fd file p hr ho => exact absurd hr hk
  | replied b h => exact SameMembers.pushMessage.entry rfl hm
  | destroyed op h => exact SameMembers.destroyOp.entry rfl hm
  | named p h => exact (List.mem_cons.mp hm).resolve_left nofun
  | madeDirectory p h hw => exact (List.mem_cons.mp hm).resolve_left nofun
  | announced port h => exact (List.mem_cons.mp hm).resolve_left nofun
  | _ => exact hm

/-- The line that asks for the upload. -/
structure StoresFile (s : St) (e : Ev) (os : Os) (req : FtpRequest) : Prop where
  run : ∃ i, e = .run i os ∧ s.handlers[i]? = some ⟨.read, some .ok⟩
  line : s.nextRequest = some req
  verified : s.verified = true
  command : createKind req.command = some .recvFile

/-- **A step opens a file** only where it handles a line with STOR. -/
theorem step_opened (h : step cfg s e = .ok s')
    (hm : .fs id (.opened file path created) ∈ s'.log) :
    .fs id (.opened file path created) ∈ s.log ∨ ∃ os req, StoresFile s e os req ∧
      id = s.nextId ∧ Opens os s req file path created := by
  rcases step_entry h rfl (fun _ _ _ hq => by cases hq) hm with h1 | ⟨os, req, kind, s₁, hc, hm₁⟩
  · exact Or.inl h1
  obtain ⟨s₀, hreq, hp, ha, hl, hs⟩ := hc.code
  have old : .fs id (.opened file path created) ∈ s₀.log →
      .fs id (.opened file path created) ∈ s.log := fun h0 => by
    rw [hl] at h0
    exact (List.mem_cons.mp h0).resolve_left nofun
  by_cases hr : kind = .recvFile
  · subst hr
    rcases runOp_opened.ok rfl hs id file path created hm₁ with h1 | ⟨rfl, ho⟩
    · exact Or.inl (old h1)
    · rcases hc.created with ⟨-, hk⟩ | ⟨hv, hcmd⟩
      · cases hk
      · have hpath := ho.path
        unfold St.getTargetPath at hpath
        rw [hreq, hp] at hpath
        exact Or.inr ⟨os, req, ⟨hc.run, hc.line, hv, hcmd⟩, rfl,
          ⟨hreq ▸ ho.body, hpath, fun h => ho.allowed (ha.trans h), ho.openFile, ho.created⟩⟩
  · exact Or.inl (old ((runOp_effects.ok rfl hs).invariant
      (I := fun s' => .fs id (.opened file path created) ∈ s'.log →
        .fs id (.opened file path created) ∈ s₀.log)
      (fun _ _ he hI h => hI (he.opened_other hr h)) (fun h => h) hm₁))

/-! ## 2. Writing -/

/-- An upload that is launched has opened its file. -/
theorem Launch.handedOn {x : Phase × Op} (h : Launch cfg os id kind s new handed)
    (hx : handed = some x) (hk : x.2.kind = .recvFile) :
    ∃ path created, .fs x.2.id (.opened x.2.file path created) ∈ new := by
  cases h with
  | waiting op notes hk' hf ht hn =>
    cases hx
    rcases hk' with rfl | rfl
    · cases hf.kind.symm.trans hk
    · cases hf.kind.symm.trans hk
  | uploadWaiting op s₂ p path created hk' hu hfd =>
    cases hx
    refine ⟨path, created, ?_⟩
    rw [hu.fresh.id]
    exact List.mem_append_right _ List.mem_cons_self
  | _ => cases hx

theorem Launch.wrote {offset : Nat} {bytes : Bytes} (h : Launch cfg os n kind s new handed) :
    .fs id (.wrote file offset bytes) ∉ new := by
  intro hm
  rcases h.cases hm with h1 | ⟨b, h1⟩ | h1 | ⟨f, p, c, h1⟩ <;> cases h1

/-! ## 3. Every write goes to a file that its request opened -/

/-- **The uploads of a session.** -/
structure Uploads (s : St) : Prop where
  live : ∀ x ∈ s.staged, x.2.kind = .recvFile →
    ∃ path created, .fs x.2.id (.opened x.2.file path created) ∈ s.acts
  wrote : ∀ id file offset bytes, .fs id (.wrote file offset bytes) ∈ s.acts →
    ∃ path created, .fs id (.opened file path created) ∈ s.acts

/-- Acts that write nothing are added, and live operations that have their file. -/
theorem Uploads.entered (h : Uploads s) (he : Entered s s' new handed k)
    (hh : ∀ x, handed = some x → x.2.kind = .recvFile →
      ∃ path created, .fs x.2.id (.opened x.2.file path created) ∈ new ++ s.acts)
    (hw : ∀ id file offset bytes, .fs id (.wrote file offset bytes) ∈ new →
      ∃ path created, .fs id (.opened file path created) ∈ new ++ s.acts) : Uploads s' where
  live x hx hk := by
    rw [he.acts]
    rcases he.staged x hx with h1 | h1
    · exact hh x h1 hk
    · obtain ⟨path, created, ho⟩ := h.live x h1 hk
      exact ⟨path, created, List.mem_append_right new ho⟩
  wrote id file offset bytes hm := by
    rw [he.acts] at hm ⊢
    rcases List.mem_append.mp hm with h1 | h1
    · exact hw id file offset bytes h1
    · obtain ⟨path, created, ho⟩ := h.wrote id file offset bytes h1
      exact ⟨path, created, List.mem_append_right new ho⟩

/-- Acts of other kinds. -/
theorem Uploads.others (h : Uploads s) (he : Entered s s' new none k)
    (hn : ∀ id file offset bytes, .fs id (.wrote file offset bytes) ∉ new) : Uploads s' :=
  h.entered he nofun fun id file offset bytes hm => absurd hm (hn id file offset bytes)

theorem Uploads.step (h : Uploads s) (ho : Ops c₀ [] s) (hs : OrangeFtpd.step cfg s e = .ok s') :
    Uploads s' := by
  cases booked_step (step_cases hs) ho with
  | same _ _ he hn => exact h.others he fun _ _ _ _ hm => by cases hm
  | connect i c _ he hn => exact h.others he fun _ _ _ _ hm => by cases hm
  | peer _ _ o k hp he hn =>
    refine h.others he fun _ _ _ _ hm => ?_
    rw [← List.mem_singleton.mp hm] at hp
    cases hp
  | refused i os _ req b hr hv hc hb he hn => exact h.others he fun _ _ _ _ hm => by simp at hm
  | launched i os _ req kind s₁ new handed hr hk hs₁ hl he hn =>
    refine h.entered he (fun x hx hkx => ?_) fun _ _ _ _ hm => ?_
    · obtain ⟨path, created, hm⟩ := hl.handedOn hx hkx
      exact ⟨path, created, List.mem_append_left _ (List.mem_append_left _ hm)⟩
    · rcases List.mem_append.mp hm with h1 | h1
      · exact absurd h1 hl.wrote
      · cases List.mem_singleton.mp h1
  | turned i os _ t r ph op new handed k hi hp hT he hgone hn =>
    have hst := staged_handler hi hp
    refine h.entered he (fun x hx hkx => ?_) fun id file _ _ hm => ?_
    · obtain ⟨hid, hkind, hfile⟩ := hT.handedOn hx
      obtain ⟨path, created, ho⟩ := h.live _ hst (hkind.symm.trans hkx)
      rw [hid, hfile]
      exact ⟨path, created, List.mem_append_right new ho⟩
    · cases hT.act hm with
      | wrote offset bytes hk =>
        obtain ⟨path, created, ho⟩ := h.live _ hst hk
        exact ⟨path, created, List.mem_append_right new ho⟩
  | token i os _ tok d new hi ht hd hnew he hn =>
    refine h.others he fun _ _ _ _ hm => ?_
    rcases hnew with rfl | ⟨response, rfl⟩ <;> simp at hm
  | dropped i os _ r hi hr he hgone hn =>
    refine h.others he fun _ _ _ _ hm => ?_
    obtain ⟨op, -, he⟩ := List.mem_map.mp (List.mem_reverse.mp hm)
    cases he

theorem uploads_reach {home : Path} {now : Int} {ok : St → Ev → Prop}
    (h : Reach (OrangeFtpd.step cfg) ok (St.init cfg home c₀ now) s) : Uploads s :=
  h.invariant_of (fun _ => ops_reach) ⟨nofun, nofun⟩ fun _ _ _ ho hI _ hs => hI.step ho hs

end

end OrangeFtpd
