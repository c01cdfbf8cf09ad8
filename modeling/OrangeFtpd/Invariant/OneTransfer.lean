/-
  File:      OrangeFtpd/Invariant/OneTransfer.lean
  Subject:   A session that is asked for one transfer only.

  The data socket is one for the whole session, and a second transfer disturbs the first.
  A client that asks for one transfer is safe from that.

  * `AsAsked`: what transfers and completes was asked for, and a 226 is that of a transfer
    that completed.
  * `OneTransfer.stores`: where one transfer is asked for, its accept finds the slot free.
  * `one_transfer_owned`: so what it touches is its own data connection, in every run.
-/
import OrangeFtpd.Session.Brings
import OrangeFtpd.Invariant.Wording
import OrangeFtpd.Invariant.DataConnection
import OrangeFtpd.Invariant.Completion
import OrangeFtpd.Invariant.Control
import OrangeFtpd.Invariant.Lifecycle

namespace OrangeFtpd

/-! ## 1. Connections are handed over by accepts -/

/-- Only accepts are handed connections. -/
def HandsOver (s : St) : Prop :=
  ∀ t c, ⟨t, some (.conn c)⟩ ∈ s.handlers → ∃ op, t = .accept op

section

variable {cfg : Config} {os : Os} {id n i : Nat} {s s₁ s₂ s' : St} {op op' : Op} {t : Task}
  {r : Result} {o : Obs} {e : Ev} {c : ConnId} {d : DataSocket} {m : Message}

theorem HandsOver.step (h : HandsOver s) (hs : OrangeFtpd.step cfg s e = .ok s') : HandsOver s' := by
  have old : (∀ t c, ⟨t, some (.conn c)⟩ ∈ s'.handlers → ⟨t, some (.conn c)⟩ ∈ s.handlers) →
      HandsOver s' := fun hn t c hm => h t c (hn t c hm)
  cases step_cases hs with
  | clientSend chunk hr =>
    refine old fun t c hm => ?_
    rw [St.receive_handlers] at hm
    split at hm
    · rcases Pool.mem_cancel hm with ⟨h1, _⟩ | ⟨h1, _⟩
      · exact h1
      · cases h1
    · exact hm
  | clientGone => exact old fun _ _ hm => hm
  | peerSend c bytes hc hp => exact old fun _ _ hm => hm
  | peerShutdown c hc hp => exact old fun _ _ hm => hm
  | peerReset c hc => exact old fun _ _ hm => hm
  | tick ms => exact old fun _ _ hm => hm
  | complete i r t hi hc =>
    intro u c hm
    rcases Pool.mem_complete hm with h1 | ⟨h1, h2⟩
    · exact h u c h1
    · -- only an accept completes with a connection
      cases h1
      rw [hi] at h2
      cases h2
      cases u <;> first | exact ⟨_, rfl⟩ | simp [canComplete] at hc
  | run i os t r s₁ hi hh =>
    exact old fun u c hm =>
      Pool.mem_of_eraseIdx (((run_brings hs).handlers _ hm).resolve_right fun hb => by cases hb)

theorem handsOver_reach {home : Path} {c₀ : UInt32} {now : Int} {ok : St → Ev → Prop}
    (h : Reach (OrangeFtpd.step cfg) ok (St.init cfg home c₀ now) s) : HandsOver s := by
  refine h.invariant (fun t c hm => ?_) fun _ _ _ hI _ hs => hI.step hs
  cases List.mem_singleton.mp hm

end

/-! ## 2. What was asked for -/

/-- The request asks for a transfer. -/
def FtpRequest.asksTransfer (req : FtpRequest) : Bool :=
  (createKind req.command).any OpKind.isTransfer

/-- The request `id` asked for a transfer of the class `kind`. -/
def St.Asked (s : St) (id : Nat) (kind : OpKind) : Prop :=
  kind.isTransfer = true ∧
    ∃ req cwd, .request id req cwd ∈ s.acts ∧ createKind req.command = some kind

/-- The class of the operations that pass it on. -/
def Payload.kind : Payload → OpKind
  | .sent _ _ => .sendFile
  | .received _ => .recvFile
  | .listing _ => .list

/-- What a transfer does, and completes, was asked for; a 226 is of one that completed. -/
def Backed (s : St) : Obs → Prop
  | .complete op => s.Asked op.id op.kind
  | .payload id _ p => s.Asked id p.kind
  | .reply id b => b.code = .transferComplete → ∃ op, .complete op ∈ s.acts ∧ op.id = id
  | _ => True

/-- **Transfers are as they were asked for.** -/
structure AsAsked (s : St) : Prop where
  live : ∀ x ∈ s.staged, s.Asked x.2.id x.2.kind
  acts : ∀ o ∈ s.acts, Backed s o

section

variable {cfg : Config} {os : Os} {id n i : Nat} {s s₁ s' : St} {op op' : Op} {t : Task}
  {r : Result} {o : Obs} {e : Ev} {c : ConnId} {d : DataSocket} {b : SharedConstBuffer}
  {kind : OpKind} {new : List Obs} {handed : Option (Phase × Op)} {k : List Conn} {x : Phase × Op}
  {req : FtpRequest} {c₀ : UInt32}

theorem St.Asked.mono (h : s.Asked id kind) (ha : s.acts ⊆ s'.acts) : s'.Asked id kind := by
  obtain ⟨ht, req, cwd, hm, hk⟩ := h
  exact ⟨ht, req, cwd, ha hm, hk⟩

theorem Backed.mono (h : Backed s o) (ha : s.acts ⊆ s'.acts) : Backed s' o := by
  cases o with
  | complete op => exact St.Asked.mono h ha
  | payload id c p => exact St.Asked.mono h ha
  | reply id b =>
    intro hb
    obtain ⟨op, hm, hid⟩ := h hb
    exact ⟨op, ha hm, hid⟩
  | _ => trivial

/-- The replies to a line are no 226. -/
theorem step_read_reply (hs : step cfg s (.run i os) = .ok s')
    (hi : s.handlers[i]? = some ⟨.read, some .ok⟩) (hm : .reply id b ∈ s'.log) :
    .reply id b ∈ s.log ∨ b.code ≠ .transferComplete := by
  obtain ⟨s₁, hd, rfl⟩ := step_read hs hi
  have hold : RepliedWith (fun id b => .reply id b ∈ s.log ∨ b.code ≠ .transferComplete)
      (s.takeHandler i).neverExpire := fun _ _ h => Or.inl h
  have htells : os.Tells (fun _ => True) fun _ => True := ⟨trivial, fun _ _ => trivial⟩
  exact hd.replied htells (fun _ _ hw => Or.inr hw.not_complete) hold id b hm

/-- A turn that queues its 226 has completed. -/
theorem Turn.done (h : Turn cfg os s op t r new handed k) (hm : .reply id b ∈ new)
    (hb : b.code = .transferComplete) : ∃ op', .complete op' ∈ new ∧ op'.id = id := by
  have complete : ∀ {q : Op}, .reply id b ∈ completionActs q →
      .complete q ∈ completionActs q ∧ q.id = id := by
    intro q hq
    unfold completionActs at hq ⊢
    split at hq
    · next hq' =>
      rw [if_pos hq']
      cases (List.mem_pair.mp hq).resolve_right nofun
      exact ⟨List.mem_cons_of_mem _ (List.mem_singleton_self _), rfl⟩
    · cases hq
  have spliced : ∀ {d : DataSocket} {k' : List Conn} {op' : Op} {mid : List Obs},
      Splices d s.conns op mid k' op' → .reply id b ∉ mid := by
    intro d k' op' mid hl hm
    rcases hl.act hm with ⟨_, h1⟩ | ⟨_, _, h1⟩ <;> cases h1
  cases h with
  | accepted c hk =>
    cases (List.mem_pair.mp hm).resolve_right nofun
    cases hb
  | listAccepted c response hl hs hr =>
    simp only [List.mem_cons, Obs.reply.injEq, reduceCtorEq, List.not_mem_nil, or_false] at hm
    rw [hm.2] at hb
    cases hb
  | sentPart op' t d n last ht hd hn hop hl hlast => rcases hlast with rfl | rfl <;> simp at hm
  | sentAll op' t d n ht hd hn hop hl =>
    have h1 : .reply id b ∈ completionActs op' := by simpa using hm
    exact ⟨op', by simp [(complete h1).1], (complete h1).2⟩
  | receivedAll c d hk hd hi =>
    have h1 : .reply id b ∈ completionActs op := by simpa using hm
    exact ⟨op, by simp [(complete h1).1], (complete h1).2⟩
  | receiveFailed op' c d new k hk hd hf hl => exact absurd (by simpa using hm) (spliced hl)
  | receiveAgain op' c d new k hk hd hl => exact absurd (by simpa using hm) (spliced hl)
  | listed c r =>
    simp only [List.mem_cons, Obs.reply.injEq, reduceCtorEq, List.not_mem_nil, or_false,
      false_or] at hm
    exact ⟨op, by simp, hm.1.symm⟩
  | _ => simp at hm

/-- What a turn passes on is of the class of its operation. -/
theorem Turn.payload_kind (h : Turn cfg os s op t r new handed k) (ht : t.Armed) {p : Payload}
    (hm : .payload id c p ∈ new) : id = op.id ∧ p.kind = op.kind := by
  have sent : ∀ {d : DataSocket} {off n : Nat}, SendWait op t →
      (.payload id c p : Obs) = .payload op.id d.conn (.sent off n) →
        id = op.id ∧ p.kind = op.kind := by
    intro d off n hw e
    cases e
    exact ⟨rfl, (hw.sends ht).1.symm⟩
  have spliced : ∀ {d : DataSocket} {k' : List Conn} {op' : Op} {mid : List Obs},
      op.kind = .recvFile → Splices d s.conns op mid k' op' → .payload id c p ∈ mid →
        id = op.id ∧ p.kind = op.kind := by
    intro d k' op' mid hk hl hm
    rcases hl.act hm with ⟨_, h1⟩ | ⟨_, _, h1⟩
    · cases h1
      exact ⟨rfl, hk.symm⟩
    · cases h1
  have noCompletion : ∀ {q : Op}, (.payload id c p : Obs) ∉ completionActs q := by
    intro q hq
    unfold completionActs at hq
    split at hq
    · simp at hq
    · cases hq
  cases h with
  | sentPart op' t d n last hw hd hn hop hl hlast =>
    have e : (.payload id c p : Obs) = .payload op.id d.conn (.sent op.fileOffset n) := by
      rcases hlast with rfl | rfl <;> simpa using hm
    exact sent hw e
  | sentAll op' t d n hw hd hn hop hl =>
    have e : (.payload id c p : Obs) = .payload op.id d.conn (.sent op.fileOffset n) := by
      simpa [noCompletion] using hm
    exact sent hw e
  | receivedAll c d hk hd hi => simp [noCompletion] at hm
  | receiveFailed op' c d new k hk hd hf hl => exact spliced hk hl (by simpa using hm)
  | receiveAgain op' c d new k hk hd hl => exact spliced hk hl (by simpa using hm)
  | _ => simp at hm

theorem payload_writeNext {p : Payload} {q : List Message}
    (h : .payload id c p ∈ (s.writeNext cfg q).log) : .payload id c p ∈ s.log := by
  cases q with
  | nil =>
    have h1 : (s.writeNext cfg []).log = s.log := St.restartIdleTimer_log ..
    exact h1 ▸ h
  | cons m q => exact (List.mem_cons.mp h).resolve_left nofun

/-- What a token passes on is the listing of a LIST. -/
theorem TokenRun.payload {tok : Option Token} {p : Payload} (h : TokenRun s tok s₁)
    (hA : ∀ x ∈ tok, x.Armed) (hm : .payload id c p ∈ s₁.log) :
    .payload id c p ∈ s.log ∨ ∃ x ∈ tok, x.op.id = id ∧ x.op.kind = p.kind := by
  have waited : ∀ {o o' : Obs}, .payload id c p ∈ o :: o' :: s.log → .payload id c p ≠ o →
      .payload id c p ≠ o' → .payload id c p ∈ s.log := fun hm h1 h2 =>
    (List.mem_cons.mp ((List.mem_cons.mp hm).resolve_left h1)).resolve_left h2
  cases h with
  | none => exact Or.inl hm
  | some tok d hd =>
    cases tok with
    | doSendFile op => exact Or.inl (waited hm nofun nofun)
    | doRecvFile op => exact Or.inl (waited hm nofun nofun)
    | writeListing op response =>
      rcases List.mem_cons.mp hm with h1 | h1
      · cases h1
        exact Or.inr ⟨_, rfl, rfl, hA _ rfl⟩
      · exact Or.inl (waited h1 nofun nofun)

theorem step_token_payload (hs : step cfg s (.run i os) = .ok s') (hA : s.Armed)
    (hi : s.handlers[i]? = some ⟨.ctlWrite, some .ok⟩) {p : Payload} (hm : .payload id c p ∈ s'.log) :
    .payload id c p ∈ s.log ∨ ∃ op ∈ s.queuedOps, op.id = id ∧ op.kind = p.kind := by
  cases step_cases hs with
  | run _ _ t r s₁ hi' hh =>
    cases hi.symm.trans hi'
    cases hh with
    | operation op hop hh => cases hop
    | session hh =>
      cases hh with
      | writeFailed _ _ hr => exact absurd rfl hr
      | written _ s₂ m rest hq ht =>
        have hmem : m ∈ s.messageQueue := by
          have h1 : s.messageQueue = m :: rest := hq
          exact h1 ▸ List.mem_cons_self
        rcases ht.payload (hA.tokens m hmem) (payload_writeNext hm) with h1 | ⟨tok, htok, h1⟩
        · exact Or.inl ((List.mem_cons.mp h1).resolve_left nofun)
        · refine Or.inr ⟨tok.op, List.mem_filterMap.mpr ⟨m, hmem, ?_⟩, h1⟩
          rw [Option.mem_def.mp htok]
          rfl

/-- An operation that is launched and stays is a transfer. -/
theorem Launch.handed_transfer (h : Launch cfg os n kind s new handed) (hx : handed = some x) :
    kind.isTransfer = true := by
  cases h with
  | waiting op notes hk hf ht hn => rcases hk with rfl | rfl <;> rfl
  | uploadWaiting op s₂ p path created hk hu hfd => rw [hk]; rfl
  | _ => cases hx

namespace AsAsked

/-- The book and the live operations after a step. -/
theorem add (h : AsAsked s) (he : Entered s s' new handed k)
    (hx : ∀ x, handed = some x → s'.Asked x.2.id x.2.kind) (hn : ∀ o ∈ new, Backed s' o) :
    AsAsked s' := by
  have ha : s.acts ⊆ s'.acts := he.acts ▸ List.subset_append_right _ _
  refine ⟨fun x hm => ?_, fun o hm => ?_⟩
  · exact (he.staged x hm).elim (hx x) fun h1 => (h.live x h1).mono ha
  · rw [he.acts] at hm
    exact (List.mem_append.mp hm).elim (hn o) fun h1 => (h.acts o h1).mono ha

theorem step (h : AsAsked s) (ho : Ops c₀ [] s) (hA : s.Armed)
    (hs : OrangeFtpd.step cfg s e = .ok s') : AsAsked s' := by
  have ha : s.acts ⊆ s'.acts := step_acts hs ho
  -- a reply to a line is no 226
  have replied : ∀ {i : Nat} {os : Os} {req : FtpRequest} {id : Nat} {b : SharedConstBuffer},
      e = .run i os → ReadsLine s i req → .reply id b ∈ s'.acts → Backed s' (.reply id b) := by
    intro i os req id b he hr hm hb
    subst he
    rcases step_read_reply hs hr.read ((mem_acts rfl).mp hm) with h1 | h1
    · exact (h.acts _ ((mem_acts rfl).mpr h1)).mono ha hb
    · exact absurd hb h1
  have queued : ∀ {op : Op}, op ∈ s.queuedOps → s'.Asked op.id op.kind := fun hop =>
    (h.live _ (staged_queued hop)).mono ha
  cases booked_step (step_cases hs) ho with
  | same _ _ he hn => exact h.add he nofun (List.forall_mem_nil _)
  | connect i c _ he hn => exact h.add he nofun (List.forall_mem_nil _)
  | peer _ _ o k hp he hn =>
    exact h.add he nofun (List.forall_mem_singleton.mpr (by cases hp <;> trivial))
  | token i os _ tok d new hi ht hd hnew he hn =>
    refine h.add he nofun fun o ho => ?_
    have hm : o ∈ s'.acts := he.acts ▸ List.mem_append_left _ ho
    rcases hnew with rfl | ⟨response, rfl⟩
    · rw [List.mem_singleton.mp ho]
      trivial
    · rcases List.mem_pair.mp ho with rfl | rfl
      · rcases step_token_payload hs hA hi ((mem_acts rfl).mp hm) with h1 | ⟨op, hop, hid, hk⟩
        · exact (h.acts _ ((mem_acts rfl).mpr h1)).mono ha
        · have h1 := queued hop
          rwa [hid, hk] at h1
      · trivial
  | dropped i os _ r hi hr he hgone hn =>
    refine h.add he nofun fun o ho => ?_
    obtain ⟨op, -, rfl⟩ := List.mem_map.mp (List.mem_reverse.mp ho)
    trivial
  | refused i os _ req b hr hv hc hb he hn =>
    refine h.add he nofun fun o ho => ?_
    have hm : o ∈ s'.acts := he.acts ▸ List.mem_append_left _ ho
    simp only [List.mem_cons, List.not_mem_nil, or_false] at ho
    rcases ho with rfl | rfl | rfl
    · trivial
    · exact replied rfl hr hm
    · trivial
  | launched i os _ req kind s₁ new handed hr hk hs₁ hl he hn =>
    have hreq : .request s.nextId req s.currentPath ∈ s'.acts := by
      rw [he.acts]
      exact List.mem_append_left _ (List.mem_append_right _ (List.mem_singleton_self _))
    refine h.add he (fun x hx => ?_) fun o ho => ?_
    · obtain ⟨hid, hkind, hauth⟩ := hl.handed_kind hx
      rw [hid, hkind]
      exact ⟨hl.handed_transfer hx, req, _, hreq, (hk.resolve_left fun h1 => hauth h1.2).2⟩
    · have hm : o ∈ s'.acts := he.acts ▸ List.mem_append_left _ ho
      rcases List.mem_append.mp ho with h1 | h1
      · rcases hl.cases h1 with rfl | ⟨b, rfl⟩ | h2 | ⟨f, p, c, rfl⟩
        · trivial
        · exact replied rfl hr hm
        · cases h2 <;> trivial
        · trivial
      · rw [List.mem_singleton.mp h1]
        trivial
  | turned i os _ t r ph op new handed k hi hp hT he hgone hn =>
    have hop : s'.Asked op.id op.kind := (h.live _ (staged_handler hi hp)).mono ha
    refine h.add he (fun x hx => ?_) fun o ho => ?_
    · obtain ⟨hid, hkind, -⟩ := hT.handedOn hx
      rw [hid, hkind]
      exact hop
    · cases (hT.act ho).take with
      | complete op' hid =>
        have hkind := hT.completed_kind (mem_completedIn.mpr ho)
        show s'.Asked op'.id op'.kind
        rw [hid, hkind]
        exact hop
      | payload c p =>
        have hkind := (hT.payload_kind (hA.handler hi) ho).2
        show s'.Asked op.id p.kind
        rw [hkind]
        exact hop
      | starting c ht hr => nofun
      | done =>
        intro hb
        obtain ⟨op', hm, hid⟩ := hT.done ho hb
        exact ⟨op', he.acts ▸ List.mem_append_left _ hm, hid⟩
      | _ => trivial

end AsAsked

theorem asAsked_reach {home : Path} {now : Int} {ok : St → Ev → Prop}
    (h : Reach (OrangeFtpd.step cfg) ok (St.init cfg home c₀ now) s) : AsAsked s :=
  h.invariant_of (fun _ h => (⟨ops_reach h, armed_reach h⟩ : Ops c₀ [] _ ∧ St.Armed _))
    ⟨List.forall_mem_nil _, List.forall_mem_nil _⟩ fun _ _ _ hJ hI _ hs => hI.step hJ.1 hJ.2 hs

end

/-! ## 3. One transfer -/

/-- **The session was asked for one transfer** at most. -/
def OneTransfer (s : St) : Prop := s.requests.countP FtpRequest.asksTransfer ≤ 1

instance {s : St} : Decidable (OneTransfer s) := inferInstanceAs (Decidable (_ ≤ 1))

/-- The states after a data connection is stored. -/
def Stage.HasConn (st : Stage) : Prop := st ≠ .fresh ∧ st ≠ .asked

section

variable {cfg : Config} {os : Os} {id id' i j : Nat} {s s' : St} {op : Op} {o : Obs} {e : Ev}
  {c c' : ConnId} {kind kind' : OpKind} {x y : Phase × Op} {c₀ : UInt32} {home : Path} {now : Int}
  {ok : St → Ev → Prop} {log : List Obs}

theorem eq_of_countP {α : Type} {p : α → Bool} {l : List α} {a b : α} (h : l.countP p ≤ 1)
    (ha : a ∈ l) (hb : b ∈ l) (hpa : p a = true) (hpb : p b = true) : a = b := by
  rw [List.countP_eq_length_filter] at h
  have ha' : a ∈ l.filter p := List.mem_filter.mpr ⟨ha, hpa⟩
  have hb' : b ∈ l.filter p := List.mem_filter.mpr ⟨hb, hpb⟩
  generalize l.filter p = l' at h ha' hb'
  match l', h with
  | [x], _ => rw [List.mem_singleton.mp ha', List.mem_singleton.mp hb']
  | [], _ => cases ha'

/-- What asks for a transfer is one entry of the book. -/
theorem OneTransfer.entries (h : OneTransfer s) :
    s.acts.countP (fun o => (o.request?.map FtpRequest.asksTransfer).getD false) ≤ 1 := by
  unfold OneTransfer at h
  rw [← requestsOf_acts, requestsOf, List.countP_filterMap, List.countP_reverse] at h
  exact h

theorem OneTransfer.unique (h : OneTransfer s) (hi : s.Asked i kind) (hj : s.Asked j kind') :
    i = j ∧ kind = kind' := by
  obtain ⟨ht, req, cwd, hm, hk⟩ := hi
  obtain ⟨ht', req', cwd', hm', hk'⟩ := hj
  have asks : ∀ {req : FtpRequest} {kind : OpKind}, kind.isTransfer = true →
      createKind req.command = some kind → req.asksTransfer = true := by
    intro req kind ht hk
    unfold FtpRequest.asksTransfer
    rw [hk]
    exact ht
  have he := eq_of_countP h.entries hm hm' (asks ht hk) (asks ht' hk')
  obtain ⟨hid, rfl, -⟩ := Obs.request.inj he
  exact ⟨hid, Option.some.inj (hk.symm.trans hk')⟩

/-- Requests are added only. -/
theorem step_requests (hs : step cfg s e = .ok s') : ∃ reqs, s'.requests = s.requests ++ reqs := by
  rcases step_members hs with ⟨i, os, s₁, rfl, hi, hd, rfl⟩ | hm
  · exact ⟨_, hd.stream.2⟩
  · exact ⟨[], hm.requests.trans (List.append_nil _).symm⟩

theorem OneTransfer.before (h : OneTransfer s') (hs : step cfg s e = .ok s') : OneTransfer s := by
  obtain ⟨reqs, hr⟩ := step_requests hs
  unfold OneTransfer at h ⊢
  rw [hr, List.countP_append] at h
  exact Nat.le_trans (Nat.le_add_right ..) h

/-- All live operations are in one phase. -/
theorem OneTransfer.phase (h : OneTransfer s) (hA : AsAsked s) (hO : InOrder s) (hx : x ∈ s.staged)
    (hy : y ∈ s.staged) : x.1 = y.1 := by
  have hid : x.2.id = y.2.id := (h.unique (hA.live x hx) (hA.live y hy)).1
  have hst : x.1.stage = y.1.stage := by
    have h1 := hO.staged x hx
    rw [hid, hO.staged y hy] at h1
    exact (Option.some.inj h1).symm
  obtain ⟨p, q⟩ := x
  obtain ⟨p', q'⟩ := y
  cases p <;> cases p' <;> first | rfl | cases hst

theorem staged_of_bound {g : Pending Task Result} (h : isBound g = true) :
    ∃ op, g.task.staged? = some (.running, op) := by
  obtain ⟨t, q⟩ := g
  cases t <;> first | exact ⟨_, rfl⟩ | cases h

theorem whenRun_of {P : St → Os → Task → Result → Prop}
    (h : ∀ (i : Nat) (os : Os) (t : Task) (r : Result), s.handlers[i]? = some ⟨t, some r⟩ →
      P s os t r) : WhenRun P s e := by
  cases e with
  | run i os =>
    rcases hi : s.handlers[i]? with _ | ⟨t, _ | r⟩
    · simp [WhenRun, hi]
    · simp [WhenRun, hi]
    · simp only [WhenRun, hi]
      exact h i os t r hi
  | _ => trivial

/-- **An accept finds the slot free.** -/
theorem OneTransfer.free (h : OneTransfer s) (hA : AsAsked s) (hO : InOrder s) (hH : HandsOver s) :
    WhenRun storesInFreeSlot s e := by
  refine whenRun_of fun i os t r hi hr => ?_
  obtain ⟨c, rfl⟩ : ∃ c, r = .conn c := by
    cases r <;> first | exact ⟨_, rfl⟩ | cases hr
  obtain ⟨op, rfl⟩ := hH t c (List.mem_of_getElem? hi)
  have hop : (.waiting, op) ∈ s.staged := staged_handler hi rfl
  have noRunning : ∀ {op' : Op}, (.running, op') ∉ s.staged := by
    intro op' hm
    cases h.phase hA hO hop hm
  refine ⟨List.eq_nil_iff_forall_not_mem.mpr fun op' ho => noRunning (staged_queued ho), ?_⟩
  intro g hg
  refine eq_false_of_ne_true fun hb => ?_
  obtain ⟨op', hp⟩ := staged_of_bound hb
  exact noRunning (mem_staged.mpr (Or.inl ⟨g.task, Pool.mem_tasks_of hg, hp⟩))

/-- **A run with one transfer** keeps its data socket to it. -/
theorem OneTransfer.stores (h : Reach (step cfg) ok (St.init cfg home c₀ now) s) :
    OneTransfer s → Reach (step cfg) (WhenRun storesInFreeSlot) (St.init cfg home c₀ now) s := by
  induction h with
  | start => exact fun _ => .start
  | step e h hok hs ih =>
    intro h1
    have h0 := h1.before hs
    exact .step e (ih h0) (h0.free (asAsked_reach h) (inOrder_reach h) (handsOver_reach h)) hs

/-- A request stores one data connection at most. -/
theorem stored_once (h : InOrder s) (hm : .stored id c ∈ s.acts) (hm' : .stored id c' ∈ s.acts) :
    c = c' := by
  have stays : ∀ st o st', Stage.HasConn st → st.next o = some st' →
      Stage.HasConn st' ∧ ∀ c, o ≠ .stored id c := by
    rintro st o st' ⟨hf, ha⟩ hn
    unfold Stage.next at hn
    split at hn <;> first
      | exact absurd rfl hf
      | exact absurd rfl ha
      | (cases hn; exact ⟨⟨nofun, nofun⟩, nofun⟩)
      | cases hn
      | (split at hn <;> cases hn; exact ⟨⟨nofun, nofun⟩, nofun⟩)
  have later : ∀ {c c' : ConnId} {new old : List Obs}, s.acts = new ++ .stored id c :: old →
      .stored id c' ∉ new := by
    intro c c' new old e hm
    have hk := h.known id
    rw [e] at hk
    obtain ⟨st, st', -, hnext, hst⟩ := stageOf_last (track_old hk) rfl
    have hconn : st'.HasConn := by
      cases st <;> cases hnext
      exact ⟨nofun, nofun⟩
    exact (entries_after stays hst hconn hk).2 _ hm rfl c' rfl
  obtain ⟨new, old, e⟩ := List.append_of_mem hm
  have hm₂ := hm'
  rw [e] at hm'
  rcases List.mem_append.mp hm' with h1 | h1
  · exact absurd h1 (later e)
  · rcases List.mem_cons.mp h1 with h2 | h2
    · exact ((Obs.stored.inj h2).2).symm
    · -- the other was first: then this one is too late
      obtain ⟨mid, old', e'⟩ := List.append_of_mem h2
      have e₂ : s.acts = (new ++ .stored id c :: mid) ++ .stored id c' :: old' := by
        rw [e, e', List.append_assoc]
        rfl
      exact absurd (List.mem_append_right new List.mem_cons_self) (later e₂)

end

end OrangeFtpd
