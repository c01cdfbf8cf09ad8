/-
  File:      OrangeFtpd/Invariant/Replies.lean
  Subject:   One final reply for each request.

  A request is over when its operation is destroyed, or when `dispatch_task` returns
  without one. `Replies` follows what was queued for it until then: nothing while its
  operation waits for the data connection, the 150 while it runs, and at the end one
  final reply. It holds along the runs that meet `answersOnce`.
-/
import OrangeFtpd.Invariant.Acts
import OrangeFtpd.Invariant.Armed
import OrangeFtpd.Invariant.DataConnection
import OrangeFtpd.Session.Members

namespace OrangeFtpd

open BasicOp Act

/-! ## 1. Replies and runs -/

/-- The replies of `l` for the request `id`, newest first. -/
def repliesIn (id : Nat) (l : List Obs) : List SharedConstBuffer :=
  l.filterMap fun
    | .reply i b => if i = id then some b else none
    | _ => none

/-- Nothing final so far: at most the 150. -/
def Underway (l : List SharedConstBuffer) : Prop := l = [] ∨ l = [Response.getCodeString .dataConn]

/-- **One final reply**, and before it at most the 150. -/
def Replied (l : List SharedConstBuffer) : Prop :=
  ∃ f, f.code.isFinal = true ∧ (l = [f] ∨ l = [f, Response.getCodeString .dataConn])

/-- What was queued for an operation in each phase. -/
def Phase.replies : Phase → List SharedConstBuffer
  | .waiting => []
  | .running => [Response.getCodeString .dataConn]

/-- The descriptor that the open gets. -/
def Os.opened? (os : Os) : Option Nat := os.openFile.toOption.map Prod.fst

/-- A RETR opens its file and gets the descriptor 0. -/
def retrNull (os : Os) (req : FtpRequest) : Prop :=
  req.body ≠ [] ∧ fsExists (os.stat 0) = .ok true ∧ os.opened? = some 0

instance {os : Os} {req : FtpRequest} : Decidable (retrNull os req) :=
  inferInstanceAs (Decidable (_ ∧ _ ∧ _))

/-- A STOR opens its file, and gets the descriptor 0 and a pipe, or another descriptor and no
    pipe. -/
def storTorn (s : St) (os : Os) (req : FtpRequest) : Prop :=
  (req.body ≠ [] ∧ (s.isAnonymous = true → fsExists (os.stat 0) = .ok false)) ∧
    ∃ fd ∈ os.opened?, fd = 0 ↔ os.pipe ≠ none

instance {s : St} {os : Os} {req : FtpRequest} : Decidable (storTorn s os req) :=
  inferInstanceAs (Decidable (_ ∧ _))

/-- **The handlers that end no transfer without a reply**: control writes succeed (as the claim
    assumes), accepts hand over a connection, and waits, sendfile and splice do not fail. -/
def answersOnce (s : St) (os : Os) (t : Task) (r : Result) : Prop :=
  match t with
  | .ctlWrite => r = .ok
  | .accept _ => r.isConn = true
  | .limiter _ => r = .ok ∧ os.sendfile ≠ .failed
  | .dataWait op _ =>
    r = .ok ∧ if op.kind = .recvFile then .failed ∉ os.splices else os.sendfile ≠ .failed
  | .read => r = .ok → s.verified = true → ∀ req ∈ s.nextRequest,
      (createKind req.command = some .sendFile → ¬ retrNull os req) ∧
      (createKind req.command = some .recvFile → ¬ storTorn s os req)
  | .banner | .idleWait | .keepAlive | .listWrite .. => True

instance {s : St} {os : Os} {r : Result} : ∀ {t : Task}, Decidable (answersOnce s os t r)
  | .ctlWrite => inferInstanceAs (Decidable (r = .ok))
  | .accept _ => inferInstanceAs (Decidable (r.isConn = true))
  | .limiter _ => inferInstanceAs (Decidable (r = .ok ∧ os.sendfile ≠ .failed))
  | .dataWait op _ => inferInstanceAs (Decidable (r = .ok ∧
      if op.kind = .recvFile then .failed ∉ os.splices else os.sendfile ≠ .failed))
  | .read => inferInstanceAs (Decidable (r = .ok → s.verified = true → ∀ req ∈ s.nextRequest,
      (createKind req.command = some .sendFile → ¬ retrNull os req) ∧
      (createKind req.command = some .recvFile → ¬ storTorn s os req)))
  | .banner | .idleWait | .keepAlive | .listWrite .. => isTrue trivial

/-- **The replies of a state**, by the phases of the operations. -/
structure Replies (s : St) : Prop where
  live : ∀ x ∈ s.staged, repliesIn x.2.id s.acts = x.1.replies
  piped : ∀ x ∈ s.staged, x.2.kind = .recvFile → x.2.pipeFd.isSome = true
  all : ∀ id, Underway (repliesIn id s.acts) ∨ Replied (repliesIn id s.acts)
  ends : ∀ id l₁ l₂, s.acts = l₁ ++ .over id :: l₂ → Replied (repliesIn id l₂)

/-- An entry that neither replies nor ends a request. -/
def Obs.mute : Obs → Bool
  | .reply .. | .over _ => false
  | _ => true

section

variable {cfg : Config} {os : Os} {id n i : Nat} {s s₁ s₂ s' : St} {op op' : Op} {e : Ev}
  {t : Task} {r : Result} {o : Obs} {d : DataSocket} {k k' : List Conn} {new old l l₁ l₂ : List Obs}
  {handed : Option (Phase × Op)} {kind : OpKind} {x : Phase × Op} {c₀ : UInt32} {now : Int}
  {b : SharedConstBuffer} {req : FtpRequest} {home : Path}

/-! ## 2. Reading a log -/

theorem repliesIn_append : repliesIn id (l₁ ++ l₂) = repliesIn id l₁ ++ repliesIn id l₂ :=
  List.filterMap_append

theorem repliesIn_reply : repliesIn id (.reply id b :: l) = b :: repliesIn id l :=
  List.filterMap_cons_some (if_pos rfl)

theorem repliesIn_over : repliesIn id (.over n :: l) = repliesIn id l := rfl

/-- The entries of others do not count. -/
theorem repliesIn_none (h : ∀ o ∈ l, o.mute = true ∨ o.id? ≠ some id) : repliesIn id l = [] := by
  unfold repliesIn
  rw [List.filterMap_eq_nil_iff]
  intro o ho
  cases o with
  | reply i b =>
    refine if_neg fun hi => ?_
    subst hi
    exact (h _ ho).elim nofun fun h1 => h1 rfl
  | _ => rfl

/-- What is not in the book is no reply. -/
theorem repliesIn_filter : repliesIn id (l.filter Obs.isAct) = repliesIn id l := by
  induction l with
  | nil => rfl
  | cons o l ih =>
    rw [List.filter_cons]
    split
    · unfold repliesIn at ih ⊢
      rw [List.filterMap_cons, List.filterMap_cons, ih]
    · next ho =>
      rw [ih]
      cases o with
      | reply i b => exact absurd rfl ho
      | _ => rfl

theorem repliesIn_acts : repliesIn id s.acts = s.repliesOf id := repliesIn_filter

/-- An entry of a log that was added to is an old one, or a new one. -/
theorem append_split {α : Type} {new old l₁ l₂ : List α} {a : α}
    (h : new ++ old = l₁ ++ a :: l₂) :
    (∃ l, old = l ++ a :: l₂) ∨ ∃ l, new = l₁ ++ a :: l ∧ l₂ = l ++ old := by
  rcases List.append_eq_append_iff.mp h with ⟨l, -, h2⟩ | ⟨l, h1, h2⟩
  · exact Or.inl ⟨l, h2⟩
  · cases l with
    | nil => exact Or.inl ⟨[], h2.symm⟩
    | cons b l =>
      obtain ⟨rfl, h3⟩ := List.cons.inj h2
      exact Or.inr ⟨l, h1, h3⟩

/-- The only entry of its kind comes first. -/
theorem split_first {α : Type} {l l₁ l₂ : List α} {a : α} (h : a :: l = l₁ ++ a :: l₂) (hn : a ∉ l) :
    l₂ = l := by
  cases l₁ with
  | nil => exact (List.cons.inj h).2.symm
  | cons b l₁ =>
    refine absurd ?_ hn
    rw [(List.cons.inj h).2]
    exact List.mem_append_right _ List.mem_cons_self

theorem Phase.underway (p : Phase) : Underway p.replies := by
  cases p with
  | waiting => exact Or.inl rfl
  | running => exact Or.inr rfl

/-! ## 3. What a step adds -/

namespace Replies

/-- Nobody is answered. -/
theorem quiet (hR : Replies s) (ha : s'.acts = new ++ s.acts) (hm : ∀ o ∈ new, o.mute = true)
    (hst : ∀ x ∈ s'.staged, x ∈ s.staged) : Replies s' := by
  have hsame : ∀ id, repliesIn id s'.acts = repliesIn id s.acts := fun id => by
    rw [ha, repliesIn_append, repliesIn_none fun o ho => Or.inl (hm o ho)]
    rfl
  constructor
  case live => exact fun x hx => (hsame _).trans (hR.live x (hst x hx))
  case piped => exact fun x hx => hR.piped x (hst x hx)
  case all => exact fun id => hsame id ▸ hR.all id
  case ends =>
    intro id l₁ l₂ h
    rcases append_split (ha.symm.trans h) with ⟨l, h1⟩ | ⟨l, h1, -⟩
    · exact hR.ends id l l₂ h1
    · have h2 := hm (.over id) (h1 ▸ List.mem_append_right _ List.mem_cons_self)
      cases h2

/-- What the entries of the one request `n` leave for the others. -/
theorem others (ha : s'.acts = new ++ s.acts) (hm : ∀ o ∈ new, o.mute = true ∨ o.id? = some n)
    (hid : id ≠ n) : repliesIn id s'.acts = repliesIn id s.acts := by
  rw [ha, repliesIn_append, repliesIn_none fun o ho => (hm o ho).imp_right fun h1 h2 =>
    hid (Option.some.inj (h2.symm.trans h1))]
  rfl

/-- The request `n` goes on: its operation is alive, in the phase of its replies. -/
theorem goOn (hR : Replies s) (ha : s'.acts = new ++ s.acts)
    (hm : ∀ o ∈ new, o.mute = true ∨ o.id? = some n) (ho : ∀ id, .over id ∉ new)
    (hst : ∀ y ∈ s'.staged, some x = some y ∨ (y ∈ s.staged ∧ y.2.id ≠ n)) (hx : x.2.id = n)
    (hr : repliesIn n new ++ repliesIn n s.acts = x.1.replies)
    (hp : x.2.kind = .recvFile → x.2.pipeFd.isSome = true) : Replies s' := by
  have hn : repliesIn n s'.acts = x.1.replies := by rw [ha, repliesIn_append, hr]
  constructor
  case live =>
    intro y hy
    rcases hst y hy with h1 | ⟨h1, h2⟩
    · cases h1
      exact hx ▸ hn
    · exact (others ha hm h2).trans (hR.live y h1)
  case piped =>
    intro y hy
    rcases hst y hy with h1 | ⟨h1, -⟩
    · cases h1
      exact hp
    · exact hR.piped y h1
  case all =>
    intro id
    by_cases hid : id = n
    · subst hid
      rw [hn]
      exact Or.inl x.1.underway
    · rw [others ha hm hid]
      exact hR.all id
  case ends =>
    intro id l₁ l₂ h
    rcases append_split (ha.symm.trans h) with ⟨l, h1⟩ | ⟨l, h1, -⟩
    · exact hR.ends id l l₂ h1
    · exact absurd (h1 ▸ List.mem_append_right _ List.mem_cons_self) (ho id)

/-- The request `n` is over, and has its reply. -/
theorem finish (hR : Replies s) (ha : s'.acts = .over n :: new ++ s.acts)
    (hm : ∀ o ∈ new, o.mute = true ∨ o.id? = some n) (ho : ∀ id, .over id ∉ new)
    (hst : ∀ y ∈ s'.staged, none = some y ∨ (y ∈ s.staged ∧ y.2.id ≠ n))
    (hr : Replied (repliesIn n new ++ repliesIn n s.acts)) : Replies s' := by
  have hst : ∀ y ∈ s'.staged, y ∈ s.staged ∧ y.2.id ≠ n := fun y hy => (hst y hy).resolve_left nofun
  have hm' : ∀ o ∈ Obs.over n :: new, o.mute = true ∨ o.id? = some n :=
    List.forall_mem_cons.mpr ⟨Or.inr rfl, hm⟩
  constructor
  case live => exact fun y hy => (others ha hm' (hst y hy).2).trans (hR.live y (hst y hy).1)
  case piped => exact fun y hy => hR.piped y (hst y hy).1
  case all =>
    intro id
    by_cases hid : id = n
    · subst hid
      rw [ha, repliesIn_append, repliesIn_over]
      exact Or.inr hr
    · rw [others ha hm' hid]
      exact hR.all id
  case ends =>
    intro id l₁ l₂ h
    rcases append_split (ha.symm.trans h) with ⟨l, h1⟩ | ⟨l, h1, rfl⟩
    · exact hR.ends id l l₂ h1
    · by_cases hid : id = n
      · subst hid
        rw [repliesIn_append, split_first h1 (ho id)]
        exact hr
      · refine absurd ?_ (ho id)
        have hmem : Obs.over id ∈ Obs.over n :: new :=
          h1 ▸ List.mem_append_right _ List.mem_cons_self
        exact (List.mem_cons.mp hmem).resolve_left fun h2 => hid (Obs.over.inj h2)

end Replies

/-! ## 4. A RETR that is not answered -/

/-- The constructor of RETR replies, or reaches the open. -/
theorem retr_construct : Triple (· = s)
    (SendFileOp.construct cfg os { id := id, kind := .sendFile })
    (fun op s' => (op.id = id ∧ op.kind = .sendFile) ∧ ((∃ b, .reply id b ∈ s'.log) ∨
      s'.log = .target id (s.getTargetPath s.request.body) :: s.log ∧ s.request.body ≠ [] ∧
        fsExists (os.stat 0) = .ok true ∧ ∃ fd : Nat, os.opened? = some fd ∧ op.fd = fd))
    fun _ => True := by
  unfold SendFileOp.construct
  -- every other way out replies
  have answer : ∀ {op : Op} {s₁ : St} {b : SharedConstBuffer} {Q : Op → St → Prop},
      op.id = id ∧ op.kind = .sendFile → Triple (· = s₁) (do writeReply cfg id b; pure op)
        (fun op s' => (op.id = id ∧ op.kind = .sendFile) ∧ ((∃ b, .reply id b ∈ s'.log) ∨ Q op s'))
        fun _ => True := by
    intro op s₁ b Q hop
    refine .bind writeReply_triple fun _ => .pure fun s' he => ⟨hop, Or.inl ⟨b, ?_⟩⟩
    rw [he, ← mem_acts rfl, acts_push]
    exact List.mem_cons_self
  refine .modify_bind_at (.get_at (.ite (fun _ => ?_) fun hb => ?_))
  · exact answer ⟨rfl, rfl⟩
  have hb' : s.request.body ≠ [] := fun h => hb (List.isEmpty_iff.mpr h)
  refine .modify_bind_at (lift_then fun found hf => .ite (fun _ => ?_) fun hfound =>
    lift_then fun size _ => ?_)
  · exact answer ⟨rfl, rfl⟩
  have hf' : fsExists (os.stat 0) = .ok true := by
    rw [hf, show found = true by simpa using hfound]
  cases ho : os.openFile with
  | error e =>
    exact answer ⟨rfl, rfl⟩
  | ok x =>
    refine .pure_at ⟨⟨rfl, rfl⟩, Or.inr ⟨rfl, hb', hf', x.1, ?_, rfl⟩⟩
    unfold Os.opened?
    rw [ho]
    rfl

/-- **A RETR that is over at once** was answered, or got the descriptor 0. -/
theorem retr_over : Triple (· = s) (runOp cfg os { id := id, kind := .sendFile })
    (fun _ s' => .over id ∉ s.log → .over id ∈ s'.log → (∃ b, .reply id b ∈ s'.log) ∨
      (s.request.body ≠ [] ∧ fsExists (os.stat 0) = .ok true ∧ os.opened? = some 0))
    fun _ => True := by
  unfold runOp
  refine .bind retr_construct fun op => release_ended ?_
  intro s₁ h1
  obtain ⟨⟨rfl, hk⟩, h1⟩ := h1
  have he : doOperation cfg os op = SendFileOp.doOperation cfg op := by
    unfold doOperation
    rw [hk]
  rw [he]
  refine Triple.ite (P := (· = s₁)) (fun hfd => ?_) (fun hfd => ?_) s₁ rfl
  · refine .pure fun s' e => Or.inr ⟨op, rfl, fun _ _ => ?_⟩
    subst e
    rcases h1 with ⟨b, hb⟩ | ⟨-, hb, hf, fd, hopen, hop⟩
    · refine Or.inl ⟨b, ?_⟩
      rw [St.destroyOp_log]
      exact List.mem_cons_of_mem _ hb
    · have h0 : fd = 0 := by
        have h2 : op.fd ≤ 0 := hfd
        omega
      exact Or.inr ⟨hb, hf, h0 ▸ hopen⟩
  · refine fetch_began rfl (fun _ hl ho => ?_) fun _ _ _ => ?_
    · rcases h1 with ⟨b, hb⟩ | ⟨h2, -⟩
      · exact Or.inl ⟨b, hb⟩
      · have h3 : .over op.id ∈ s₁.log := ho
        rw [h2] at h3
        exact absurd ((List.mem_cons.mp h3).resolve_left nofun) hl
    · refine Or.inl ⟨Response.getCodeString .invalidSeq, (mem_acts rfl).mp ?_⟩
      rw [acts_destroyOp, acts_push]
      exact List.mem_cons_of_mem _ List.mem_cons_self

/-- The step that handles a RETR. -/
theorem step_retr (h : step cfg s (.run i os) = .ok s')
    (hi : s.handlers[i]? = some ⟨.read, some .ok⟩) (hv : s.verified = true)
    (hr : s.nextRequest = some req) (hk : createKind req.command = some .sendFile)
    (hl : .over s.nextId ∉ s.log) (ho : .over s.nextId ∈ s'.log) :
    (∃ b, .reply s.nextId b ∈ s'.log) ∨ retrNull os req := by
  obtain ⟨s₁, hd, rfl⟩ := step_read h hi
  have hline := hr
  cases hd with
  | blank hb => exact absurd (hb.symm.trans hline) nofun
  | refused req' b hb hv' hf =>
    have hreq : some req' = some req := hb.symm.trans hline
    cases hreq
    cases hk.symm.trans hf.not_created
  | ran req' kind _ hb hk' hs =>
    have hreq : some req' = some req := hb.symm.trans hline
    cases hreq
    have hkind : kind = .sendFile := by
      rcases hk' with ⟨hv', -⟩ | ⟨-, hk'⟩
      · cases hv.symm.trans hv'
      · exact Option.some.inj (hk'.symm.trans hk)
    subst hkind
    refine retr_over.ok rfl hs (fun h1 => hl ?_) ho
    exact (List.mem_cons.mp h1).resolve_left nofun

/-! ## 5. The steps -/

theorem Splices.pipe (h : Splices d k op new k' op') : op'.pipeFd = op.pipeFd := by
  induction h with
  | stop k op => rfl
  | turn k k' op op' n bytes new hb h ih => exact ih

theorem Splices.mute (h : Splices d k op new k' op') (hm : o ∈ new) : o.mute = true := by
  rcases h.act hm with ⟨bytes, rfl⟩ | ⟨offset, bytes, rfl⟩ <;> rfl

/-- **A turn** of an operation. -/
theorem Replies.turn {ph : Phase} (hR : Replies s) (hi : s.handlers[i]? = some ⟨t, some r⟩)
    (hp : t.staged? = some (ph, op)) (ht : t.Armed) (hg : answersOnce s os t r)
    (hT : Turn cfg os (s.takeHandler i) op t r new handed k) (ha : s'.acts = new ++ s.acts)
    (hst : ∀ y ∈ s'.staged, handed = some y ∨ (y ∈ s.staged ∧ y.2.id ≠ op.id)) : Replies s' := by
  have hlive : repliesIn op.id s.acts = ph.replies := hR.live _ (staged_handler hi hp)
  have hpipe := hR.piped _ (staged_handler hi hp)
  -- nothing is replied, and the operation runs on
  have runOn : ∀ {op' : Op}, op'.id = op.id → op'.kind = op.kind → op'.pipeFd = op.pipeFd →
      ph = .running → handed = some (.running, op') → (∀ o ∈ new, o.mute = true) → Replies s' := by
    intro op' hid hkind hpd hph hx hm
    subst hx
    refine hR.goOn ha (fun o ho => Or.inl (hm o ho)) (fun id ho => by cases hm _ ho) hst hid ?_ ?_
    · rw [repliesIn_none fun o ho => Or.inl (hm o ho), hlive, hph]
      rfl
    · show op'.kind = _ → op'.pipeFd.isSome = true
      rw [hkind, hpd]
      exact hpipe
  -- the 226 is queued, and the operation is over
  have complete : ∀ {new' : List Obs}, ph = .running → handed = none →
      (∀ o ∈ new', o.mute = true) → new = .over op.id ::
        .reply op.id (Response.getCodeString .transferComplete) :: new' → Replies s' := by
    intro new' hph hx hm hnew
    subst hx hnew
    refine hR.finish ha ?_ ?_ hst ?_
    · exact List.forall_mem_cons.mpr ⟨Or.inr rfl, fun o ho => Or.inl (hm o ho)⟩
    · intro id ho
      have h1 := hm _ ((List.mem_cons.mp ho).resolve_left nofun)
      cases h1
    · rw [repliesIn_reply, repliesIn_none fun o ho => Or.inl (hm o ho), hlive, hph]
      exact ⟨_, rfl, Or.inr rfl⟩
  cases hT with
  | unconnected r hr =>
    cases r with
    | conn c => exact absurd rfl (hr c)
    | ok => cases hg
    | err ec => cases hg
  | accepted c hk =>
    cases hp
    refine hR.goOn ha ?_ ?_ hst rfl ?_ hpipe
    · simp [Obs.mute, Obs.id?]
    · simp
    · rw [hlive]
      exact congrArg (· ++ []) repliesIn_reply
  | listAccepted c response hl hs hr =>
    cases hp
    refine hR.goOn ha ?_ ?_ hst rfl ?_ hpipe
    · simp [Obs.mute, Obs.id?]
    · simp
    · rw [hlive]
      exact congrArg (· ++ []) repliesIn_reply
  | waitFailed t r hr hw =>
    rcases hw with rfl | ⟨c, rfl⟩ <;> exact absurd hg.1 hr
  | sendFailed t d hw hd hf =>
    cases hw with
    | ready c hk =>
      have h1 := hg.2
      rw [if_neg hk] at h1
      exact absurd hf h1
    | limiter => exact absurd hf hg.2
  | sendAgain t d hw hd =>
    refine runOn rfl rfl rfl ?_ rfl (by simp [Obs.mute])
    cases hw <;> cases hp <;> rfl
  | sentPart op' t d n last hw hd hn hop hl hlast =>
    refine runOn (by rw [hop]) (by rw [hop]) (by rw [hop]) ?_ rfl ?_
    · cases hw <;> cases hp <;> rfl
    · rcases hlast with rfl | rfl <;> simp [Obs.mute]
  | sentAll op' t d n hw hd hn hop hl =>
    subst hop
    refine complete ?_ rfl ?_ (by unfold completionActs; rw [if_pos (hw.armed ht).2]; rfl)
    · cases hw <;> cases hp <;> rfl
    · simp [Obs.mute]
  | receivedAll c d hk hd hin =>
    cases hp
    refine complete rfl rfl ?_ (by unfold completionActs; rw [if_pos ht.2]; rfl)
    simp [Obs.mute]
  | receiveFailed op' c d new k hk hd hf hl =>
    rcases hf with h1 | h1
    · have h2 := hpipe hk
      rw [show op.pipeFd = none from h1] at h2
      cases h2
    · have h2 := hg.2
      rw [if_pos hk] at h2
      exact absurd h1 h2
  | receiveAgain op' c d new k hk hd hl =>
    cases hp
    refine runOn hl.same.1 hl.same.2.1 hl.pipe rfl rfl fun o ho => ?_
    rcases List.mem_append.mp ho with h1 | h1
    · rcases List.mem_cons.mp h1 with rfl | h2
      · rfl
      · exact hl.mute h2
    · rw [List.mem_singleton.mp h1]
      rfl
  | listed c r =>
    cases hp
    exact complete rfl rfl (by simp [Obs.mute]) rfl

theorem Note.mute (h : Note cfg id o) : o.mute = true := by
  cases h <;> rfl

/-- **The launch** of the operation of a new request. -/
theorem Replies.launch (hR : Replies s) (hnew : ∀ o, o.id? = some n → o ∉ s.acts)
    (hL : Launch cfg os n kind s₁ new handed)
    (hnull : ∀ notes, kind = .sendFile → new = .over n :: notes → (∀ o ∈ notes, o.mute = true) →
      False)
    (htorn : kind = .recvFile → ¬ storTorn s₁ os s₁.request)
    (ha : s'.acts = (new ++ [.request n req s.currentPath]) ++ s.acts)
    (hst : ∀ y ∈ s'.staged, handed = some y ∨ (y ∈ s.staged ∧ y.2.id ≠ n)) : Replies s' := by
  have hnone : repliesIn n s.acts = [] := repliesIn_none fun o ho =>
    Or.inr fun h1 => hnew o h1 ho
  -- what STOR did before its open is known to have gone together with the pipe
  have torn : ∀ {op : Op} {s₂ : St}, kind = .recvFile → Uploaded os n s₁ op s₂ →
      ¬ (op.fd = 0 ↔ os.pipe ≠ none) := by
    intro op s₂ hk hu hiff
    obtain ⟨fd, hopen, hfd⟩ := hu.openFile
    refine htorn hk ⟨⟨hu.body, hu.allowed⟩, fd, ?_, ?_⟩
    · unfold Os.opened?
      rw [hopen]
      rfl
    · rw [← hiff, hfd]
      exact Int.natCast_eq_zero.symm
  have answer : ∀ {b : SharedConstBuffer} {rest : List Obs}, b.code.isFinal = true →
      (∀ o ∈ rest, o.mute = true) → handed = none →
      s'.acts = .over n :: (.reply n b :: rest) ++ s.acts → Replies s' := by
    intro b rest hb hm hx ha
    subst hx
    refine hR.finish ha ?_ ?_ hst ?_
    · exact List.forall_mem_cons.mpr ⟨Or.inr rfl, fun o ho => Or.inl (hm o ho)⟩
    · intro id ho
      have h1 := hm _ ((List.mem_cons.mp ho).resolve_left nofun)
      cases h1
    · rw [repliesIn_reply, repliesIn_none fun o ho => Or.inl (hm o ho), hnone]
      exact ⟨b, hb, Or.inl rfl⟩
  have wait : ∀ {op : Op} {rest : List Obs}, handed = some (.waiting, op) → op.id = n →
      (∀ o ∈ rest, o.mute = true) → (op.kind = .recvFile → op.pipeFd.isSome = true) →
      s'.acts = rest ++ s.acts → Replies s' := by
    intro op rest hx hid hm hp ha
    subst hx
    refine hR.goOn ha (fun o ho => Or.inl (hm o ho)) (fun id ho => by cases hm _ ho) hst hid ?_ hp
    rw [repliesIn_none fun o ho => Or.inl (hm o ho), hnone]
    rfl
  have noted : ∀ {notes : List Obs}, (∀ o ∈ notes, Note cfg n o) →
      ∀ o ∈ notes ++ [.request n req s.currentPath], o.mute = true := by
    intro notes hn o ho
    rcases List.mem_append.mp ho with h1 | h1
    · exact (hn o h1).mute
    · rw [List.mem_singleton.mp h1]
      rfl
  cases hL with
  | answered op notes b hf hn hb => exact answer hb (noted hn) rfl ha
  | silent notes file hk hn ho => exact (hnull notes hk rfl fun o ho => (hn o ho).mute).elim
  | waiting op notes hk hf ht hn =>
    refine wait rfl hf.id (noted hn) (fun h1 => ?_) ha
    rcases hk with h2 | h2
    · cases h2.symm.trans (hf.kind.symm.trans h1)
    · cases h2.symm.trans (hf.kind.symm.trans h1)
  | uploadNull op s₂ p path created hk hu hfd =>
    have hpipe : os.pipe = none := by
      by_contra h1
      exact torn hk hu (iff_of_true hfd h1)
    unfold openedActs at ha
    rw [hpipe] at ha
    exact answer rfl (by simp [Obs.mute]) rfl ha
  | uploadRefused op s₂ p path created hk hu hfd =>
    obtain ⟨q, hpipe⟩ : ∃ q, os.pipe = some q := Option.ne_none_iff_exists'.mp fun h1 =>
      torn hk hu (iff_of_false (Int.ne_of_gt hfd) fun h2 => h2 h1)
    unfold openedActs at ha
    rw [hpipe] at ha
    exact answer rfl (by simp [Obs.mute]) rfl ha
  | uploadWaiting op s₂ p path created hk hu hfd =>
    obtain ⟨q, hpipe⟩ : ∃ q, os.pipe = some q := Option.ne_none_iff_exists'.mp fun h1 =>
      torn hk hu (iff_of_false (Int.ne_of_gt hfd) fun h2 => h2 h1)
    unfold openedActs at ha
    rw [hpipe] at ha
    refine wait rfl hu.fresh.id ?_ (fun _ => ?_) ha
    · simp [Obs.mute]
    · show op.pipeFd.isSome = true
      rw [hu.pipe, hpipe]
      rfl

/-- **One step** that meets the condition. -/
theorem Replies.step (hR : Replies s) (ho : Ops c₀ [] s) (hA : s.Armed)
    (hok : WhenRun answersOnce s e) (hs : step cfg s e = .ok s') : Replies s' := by
  have notOld : ∀ o : Obs, o.id? = some s.nextId → o ∉ s.log := fun o hid hm =>
    Nat.lt_irrefl _ (ho.log o hm _ hid)
  have notActs : ∀ o : Obs, o.id? = some s.nextId → o ∉ s.acts := fun o hid hm =>
    notOld o hid (List.mem_filter.mp hm).1
  -- a live operation is older than a request that is read
  have older : ∀ {new : List Obs} {handed : Option (Phase × Op)} {k : List Conn},
      Entered s s' new handed k → ∀ y ∈ s'.staged, handed = some y ∨
        (y ∈ s.staged ∧ y.2.id ≠ s.nextId) := fun he y hy =>
    (he.staged y hy).imp_right fun h1 => ⟨h1, Nat.ne_of_lt (ho.fresh _ (staged_live h1))⟩
  -- nothing was handed on
  have still : ∀ {new : List Obs} {k : List Conn}, Entered s s' new none k →
      ∀ y ∈ s'.staged, y ∈ s.staged := fun he y hy =>
    (he.staged y hy).resolve_left fun h1 => Option.some_ne_none y h1.symm
  cases booked_step (step_cases hs) ho with
  | same _ _ he hn => exact hR.quiet he.acts (List.forall_mem_nil _) (still he)
  | connect i c _ he hn =>
    exact hR.quiet he.acts (List.forall_mem_nil _) (still he)
  | peer _ _ o k hp he hn =>
    refine hR.quiet he.acts ?_ (still he)
    rw [List.forall_mem_singleton]
    cases hp <;> rfl
  | refused i os _ req b hr hv hc hb he hn =>
    refine hR.finish he.acts ?_ ?_ (older he) ?_
    · simp [Obs.mute, Obs.id?]
    · simp
    · rw [repliesIn_reply, @repliesIn_none s.nextId s.acts fun o ho => Or.inr fun h1 =>
        notActs o h1 ho]
      exact ⟨b, hb, Or.inl rfl⟩
  | launched i os _ req kind s₁ new handed hr hk hs₁ hl he hn =>
    have asked : kind ≠ .auth → s.verified = true ∧ createKind req.command = some kind := fun h1 =>
      hk.resolve_left fun h2 => h1 h2.2
    have guard : s.verified = true → (createKind req.command = some .sendFile → ¬ retrNull os req) ∧
        (createKind req.command = some .recvFile → ¬ storTorn s os req) := fun hv =>
      hok.at hr.read rfl hv req hr.line
    refine hR.launch notActs hl ?_ ?_ he.acts (older he)
    · intro notes hkind hnew hm
      subst hkind hnew
      obtain ⟨hv, hc⟩ := asked (by decide)
      have hover : .over s.nextId ∈ s'.log := (mem_acts rfl).mp (he.acts ▸ List.mem_cons_self)
      rcases step_retr hs hr.read hv hr.line hc (notOld _ rfl) hover with ⟨b, hb⟩ | hnull
      · have h1 := (mem_acts rfl).mpr hb
        rw [he.acts] at h1
        rcases List.mem_append.mp h1 with h2 | h2
        · have h3 : Obs.reply s.nextId b ∈ notes := by simpa using h2
          cases hm _ h3
        · exact notActs _ rfl h2
      · exact (guard hv).1 hc hnull
    · intro hkind htorn
      subst hkind
      obtain ⟨hv, hc⟩ := asked (by decide)
      refine (guard hv).2 hc ?_
      rw [hs₁.1] at htorn
      unfold storTorn at htorn ⊢
      rwa [hs₁.2.1] at htorn
  | turned i os _ t r ph op new handed k hi hp hT he hgone hn =>
    refine hR.turn hi hp (hA.handler hi) (hok.at hi) hT he.acts fun y hy => ?_
    rcases he.staged y hy with h1 | h1
    · exact Or.inl h1
    · exact (hgone y hy).imp_right fun h2 => ⟨h1, h2⟩
  | token i os _ tok d new hi ht hd hnew he hn =>
    refine hR.quiet he.acts ?_ (still he)
    rcases hnew with rfl | ⟨response, rfl⟩ <;> simp [Obs.mute]
  | dropped i os _ r hi hr he hgone hn => exact absurd (hok.at hi) hr

theorem replies_reach
    (h : Reach (OrangeFtpd.step cfg) (WhenRun answersOnce) (St.init cfg home c₀ now) s) :
    Replies s :=
  h.invariant_of (fun _ h => (⟨ops_reach h, armed_reach h⟩ : Ops c₀ [] _ ∧ St.Armed _))
    ⟨nofun, nofun, fun _ => Or.inl (Or.inl rfl), fun _ l₁ l₂ h => absurd h.symm (List.append_ne_nil_of_right_ne_nil l₁ (List.cons_ne_nil _ l₂))⟩
    fun _ _ _ ho hI hok hs => hI.step ho.1 ho.2 hok hs

/-- **One final reply for each request**, where no transfer is cut off: the replies of a request
    are at most the 150 so far, or one final reply with at most the 150 before it; and when its
    operation is destroyed, or `dispatch_task` returns without one, the final reply is there. -/
theorem one_final_reply
    (h : Reach (step cfg) (WhenRun answersOnce) (St.init cfg home c₀ now) s) :
    (∀ id, Underway (s.repliesOf id) ∨ Replied (s.repliesOf id)) ∧
      ∀ id l₁ l₂, s.log = l₁ ++ .over id :: l₂ → Replied (repliesIn id l₂) := by
  have hR := replies_reach h
  refine ⟨fun id => repliesIn_acts ▸ hR.all id, fun id l₁ l₂ hl => ?_⟩
  rw [← repliesIn_filter]
  refine hR.ends id (l₁.filter Obs.isAct) (l₂.filter Obs.isAct) ?_
  unfold St.acts
  rw [hl, List.filter_append]
  rfl

end

/-- The client downloads a file of 5 bytes. -/
def downloadSmall : List Ev :=
  withPort "RETR a\r\n".toList ++ [.run 1 (regularFile 1 5), .complete 1 (.conn 0), .run 1 {},
    .complete 2 .ok, .run 2 {}, .complete 2 .ok, .run 2 { sendfile := .sent 5 }]

theorem one_final_reply_download : ∃ s, runAll (step .shipped) .fresh downloadSmall = .ok s ∧
    s.repliesOf 3 = [Response.getCodeString .transferComplete, Response.getCodeString .dataConn] ∧
    Replied (s.repliesOf 3) ∧ ∀ l₁ l₂, s.log = l₁ ++ .over 3 :: l₂ → Replied (repliesIn 3 l₂) := by
  have once := fun s (run : runAll (step .shipped) .fresh downloadSmall = .ok s) =>
    one_final_reply (reach_runAll downloadSmall .start (by decide) run)
  have h := once _ rfl
  exact ⟨_, rfl, rfl, (h.1 3).resolve_left (by rintro (h1 | h1) <;> cases h1), h.2 3⟩

/-- No control write fails. -/
def writesSucceed (_ : St) (_ : Os) (t : Task) (r : Result) : Prop := t = .ctlWrite → r = .ok

instance {s : St} {os : Os} {t : Task} {r : Result} : Decidable (writesSucceed s os t r) :=
  inferInstanceAs (Decidable (_ → _))

/-- While a RETR waits for its data connection another PASV comes. -/
def passiveAgain : List Ev :=
  withPort "RETR a\r\nPASV\r\n".toList ++
    [.run 1 (regularFile 1 5), .run 2 { bind := some 1026 }, .run 1 {}]

/-- **The aborted accept ends its request without a reply.** -/
theorem reply_lost : ¬ ∀ (cfg : Config) (home : Path) (c₀ : UInt32) (now : Int) (s : St),
    Reach (step cfg) (WhenRun writesSucceed) (St.init cfg home c₀ now) s →
    (∀ id, Underway (s.repliesOf id) ∨ Replied (s.repliesOf id)) ∧
      ∀ id l₁ l₂, s.log = l₁ ++ .over id :: l₂ → Replied (repliesIn id l₂) := by
  intro h
  have once := fun s (run : runAll (step .shipped) .fresh passiveAgain = .ok s) =>
    (h _ _ _ _ s (reach_runAll passiveAgain .start (by decide) run)).2 3 []
  obtain ⟨f, -, h1⟩ := once _ rfl _ rfl
  rcases h1 with h1 | h1 <;> cases h1

end OrangeFtpd
