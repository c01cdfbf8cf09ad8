/-
  File:      OrangeFtpd/Invariant/Queries.lean
  Subject:   The runs in which every endpoint query is defined.

  A query goes wrong long after the step that makes it so: an accept is aborted and the
  acceptor stays closed, a peer leaves behind a reply that is written, the session closes in
  front of a line. `keepsEndpoints` asks of every step that it does none of these, and
  `Endpoints` is what such runs keep.

  * `Endpoints.defined`: so the queries of every handler that is ready are defined.
  * `endpoint_queries_defined`: no handler of such a run asks for an endpoint that is not there.
-/
import OrangeFtpd.Session.Brings
import OrangeFtpd.Session.Posts
import OrangeFtpd.Invariant.Closed
import OrangeFtpd.Request.Endpoints

namespace OrangeFtpd

open BasicOp Act

/-! ## 1. What the steps must not do -/

/-- An accept that is outstanding, or whose handler has yet to hear that it was aborted. -/
def isWaiting (h : Pending Task Result) : Bool :=
  h.task.isAccept && (h.result == none || h.result == some (.err .operationAborted))

/-- A transfer of the session waits for its connection. -/
def St.awaitsConnection (s : St) : Bool := s.handlers.any isWaiting

/-- The line that is first in the buffer is a PASV or a STAT of a client that is logged in. -/
def St.asksAddress (s : St) : Prop :=
  s.verified = true ∧ (s.nextKind = some .stat ∨ s.nextKind = some .passiveMode)

instance {s : St} : Decidable s.asksAddress := inferInstanceAs (Decidable (_ ∧ (_ ∨ _)))

/-- No handler leaves a closed acceptor to a transfer that waits, and the idle timer does not
    close the session in front of a PASV or a STAT. -/
def leavesEndpoints (s : St) (os : Os) (t : Task) (r : Result) : Prop :=
  match t with
  | .accept _ => r ≠ .err .operationAborted → s.awaitsConnection = false
  | .read => r = .ok → s.verified = true → s.nextKind = some .passiveMode →
      os.acceptorOpen = false → s.awaitsConnection = false
  | .idleWait => s.stoped = false → s.timerExpired = true → ⟨.read, some .ok⟩ ∈ s.handlers →
      ¬ s.asksAddress
  | _ => True

/-- The peer does not leave between the write of the last reply and its handler, and no write
    succeeds after it left. -/
def leavesPeer (s : St) : Ev → Prop
  | .clientGone => s.stoped = false → ⟨.ctlWrite, some .ok⟩ ∈ s.handlers → s.messageQueue.length ≠ 1
  | .complete i r => s.handlers[i]? = some ⟨.ctlWrite, none⟩ → r = .ok → s.peerAlive = true
  | _ => True

/-- **A step that spoils no endpoint.** -/
def keepsEndpoints (s : St) (e : Ev) : Prop := WhenRun leavesEndpoints s e ∧ leavesPeer s e

instance {s : St} {os : Os} {r : Result} : ∀ {t : Task}, Decidable (leavesEndpoints s os t r)
  | .accept _ => inferInstanceAs (Decidable (_ → _))
  | .read => inferInstanceAs (Decidable (_ → _ → _ → _ → _))
  | .idleWait => inferInstanceAs (Decidable (_ → _ → _ → _))
  | .banner | .keepAlive | .ctlWrite | .dataWait .. | .limiter _ | .listWrite .. => isTrue trivial

instance {s : St} : ∀ {e : Ev}, Decidable (leavesPeer s e)
  | .clientGone => inferInstanceAs (Decidable (_ → _ → _))
  | .complete .. => inferInstanceAs (Decidable (_ → _ → _))
  | .clientSend _ | .peerSend .. | .peerShutdown _ | .peerReset _ | .tick _ | .run .. =>
    isTrue trivial

instance {s : St} {e : Ev} : Decidable (keepsEndpoints s e) := inferInstanceAs (Decidable (_ ∧ _))

/-- **The endpoints that will be asked for.** -/
structure Endpoints (s : St) : Prop where
  /-- An accept that was aborted finds its acceptor open again. -/
  acceptor : ∀ op, ⟨.accept op, some (.err .operationAborted)⟩ ∈ s.handlers → s.acceptor.isOpen = true
  control : s.controlOpen = !s.stoped
  /-- A reply that was written before the peer left is not the last. -/
  peer : s.stoped = false → s.peerAlive = false → ⟨.ctlWrite, some .ok⟩ ∈ s.handlers →
    s.messageQueue.length ≠ 1
  outstanding : s.stoped = true → ⟨.read, none⟩ ∉ s.handlers
  /-- A line that comes after the close asks for no address. -/
  line : s.stoped = true → ⟨.read, some .ok⟩ ∈ s.handlers → ¬ s.asksAddress

section

variable {cfg : Config} {os : Os} {id n i : Nat} {s s₁ s₂ s' : St} {op : Op} {t : Task} {r : Result}
  {e : Ev} {P : Nat → Message → Prop}

/-- **The queries of the next handler** are defined. -/
theorem Endpoints.defined (h : Endpoints s) : WhenRun endpointsDefined s e := by
  have opened : s.stoped = false → s.controlOpen = true := fun hst => by rw [h.control, hst]; rfl
  cases e with
  | run i os =>
    rcases hi : s.handlers[i]? with _ | ⟨t, _ | r⟩
    · simp [WhenRun, hi]
    · simp [WhenRun, hi]
    simp only [WhenRun, hi]
    have hmem : ⟨t, some r⟩ ∈ s.handlers := List.mem_of_getElem? hi
    unfold endpointsDefined
    split
    · exact h.acceptor _ hmem
    · -- the queue is drained: its write was not the last that the peer saw
      unfold drainDefined
      split
      · next m hq =>
        intro _ _ hst
        cases hp : s.peerAlive with
        | true => rw [opened hst]; rfl
        | false => exact absurd (by rw [hq]; rfl) (h.peer hst hp hmem)
      · trivial
    · intro hv kind hk
      have hopen : (kind = .stat ∨ kind = .passiveMode) → s.controlOpen = true := by
        intro hkind
        refine opened (eq_false_of_ne_true fun hst => h.line hst hmem ⟨hv, ?_⟩)
        rw [Option.mem_def.mp hk]
        exact hkind.imp (congrArg some) (congrArg some)
      unfold queriesDefined
      split
      · exact hopen (Or.inl rfl)
      · exact fun _ _ _ _ => hopen (Or.inr rfl)
      · trivial
    · trivial
  | _ => trivial

/-! ## 2. The acceptor -/

/-- No handler has yet to hear that its accept was aborted. -/
def St.NoneAborted (s : St) : Prop := ∀ op, ⟨.accept op, some (.err .operationAborted)⟩ ∉ s.handlers

theorem St.NoneAborted.brings (h : s.NoneAborted) (hb : Brings false s s') : s'.NoneAborted := by
  intro op hm
  refine (hb.handlers _ hm).elim (h op) fun hx => ?_
  cases hx with
  | aborted _ ha => exact absurd (ha rfl) Bool.false_ne_true

/-- No accept of the pool is outstanding, and none was aborted. -/
def Unwaited (p : Pool Task Result) : Prop :=
  ∀ op, ⟨.accept op, none⟩ ∉ p ∧ ⟨.accept op, some (.err .operationAborted)⟩ ∉ p

theorem unwaited (h : s.awaitsConnection = false) : Unwaited s.handlers := by
  have none_waits : ∀ x ∈ s.handlers, ¬ isWaiting x = true := List.any_eq_false.mp h
  exact fun op => ⟨fun hm => none_waits _ hm rfl, fun hm => none_waits _ hm rfl⟩

/-- The acceptor is closed where no transfer waits. -/
theorem noneAborted_closeAcceptor (h : Unwaited s.handlers) : s.closeAcceptor.NoneAborted := by
  intro op hm
  rw [St.closeAcceptor_handlers] at hm
  rcases Pool.mem_cancel hm with ⟨h1, -⟩ | ⟨-, -, h1⟩
  · exact (h op).2 h1
  · exact (h op).1 h1

/-- What PASV leaves, the pool being `p` before: an open acceptor, or a closed one that nobody
    waits for. -/
def PortLeft (os : Os) (p : Pool Task Result) (s' : St) : Prop :=
  s'.acceptor.isOpen = true ∨ (os.acceptorOpen = false ∧ (Unwaited p → s'.NoneAborted))

theorem PortLeft.brings {p : Pool Task Result} (h : PortLeft os p s₁) (hb : Brings false s₁ s') :
    PortLeft os p s' := by
  rcases h with ho | ⟨ha, hn⟩
  · left
    rw [hb.acceptor rfl]
    exact ho
  · exact Or.inr ⟨ha, fun h0 => (hn h0).brings hb⟩

theorem passiveModeOp_left : Triple (· = s) (PassiveModeOp.doOperation cfg os id)
    (fun _ => PortLeft os s.handlers) fun _ => True := by
  unfold PassiveModeOp.doOperation
  refine .modify_bind_at (.ite (fun ha => ?_) fun ha => ?_)
  · -- `acceptor.open` fails
    have ha' : os.acceptorOpen = false := by simpa using ha
    refine writeReply_triple.post ?_
    rintro _ _ rfl
    refine Or.inr ⟨ha', fun h0 => St.NoneAborted.brings ?_ .push⟩
    split
    · exact noneAborted_closeAcceptor h0
    · exact fun op => (h0 op).2
  · refine .modify_bind_at ?_
    have require : ∀ {ok : Bool} {P : St → Prop},
        Triple P (PassiveModeOp.require ok) (fun _ => P) fun _ => True :=
      .ite (fun _ => .pure fun _ h => h) fun _ => .throw trivial
    have replied : ∀ {s₁ : St} {b : SharedConstBuffer}, s₁.acceptor.isOpen = true →
        Triple (· = s₁) (writeReply cfg id b) (fun _ => PortLeft os s.handlers) fun _ => True := by
      intro s₁ b ho
      refine writeReply_triple.post ?_
      rintro _ _ rfl
      exact Or.inl ho
    refine .bind require fun _ => ?_
    cases os.bind with
    | none => exact replied rfl
    | some port =>
      refine .bind require fun _ => .modify_bind_at (.bind (Q := fun _ s₁ => s₁.acceptor.isOpen = true)
        ?_ fun _ => .modify_bind (M := fun s₁ => s₁.acceptor.isOpen = true) (fun _ h => h) ?_)
      · exact .get_at (.ite (fun _ => .pure_at rfl) fun _ => .throw trivial)
      · exact fun s₁ ho => replied ho s₁ rfl

theorem runOp_left : Triple (· = s) (runOp cfg os { id := id, kind := .passiveMode })
    (fun _ => PortLeft os s.handlers) fun _ => True := by
  refine .bind (Q := fun op s' => op = { id := id, kind := .passiveMode } ∧ s' = s.basicOp)
    (.modify_bind_at (.pure_at ⟨rfl, rfl⟩)) fun op => ?_
  rintro _ ⟨rfl, rfl⟩
  have hop : Triple (· = s.basicOp) (PassiveModeOp.doOperation cfg os id)
    (fun _ => PortLeft os s.handlers) fun _ => True := passiveModeOp_left
  refine (Triple.bind (Q := fun rest s' => rest = some { id := id, kind := .passiveMode } ∧
    PortLeft os s.handlers s') (.bind hop fun _ => .pure fun _ h => ⟨rfl, h⟩) fun rest => ?_) _ rfl
  rintro s₁ ⟨rfl, h⟩
  exact h.brings .destroyOp

/-- The line of a PASV. -/
theorem Dispatched.left (hd : Dispatched cfg os n s s') (hv : s.verified = true)
    {req : FtpRequest} (hl : buildRequest (splitWords (s.buf.take n)) = some req)
    (hc : createKind req.command = some .passiveMode) : PortLeft os s.handlers s' := by
  cases hd with
  | blank h0 => cases h0.symm.trans hl
  | refused req' b h0 hv' hr =>
    cases h0.symm.trans hl
    cases hr.not_created.symm.trans hc
  | ran req' kind _ h0 hk hs =>
    cases h0.symm.trans hl
    rcases hk with ⟨hf, -⟩ | ⟨-, hk⟩
    · cases hf.symm.trans hv
    cases hk.symm.trans hc
    have h1 : PortLeft os (s.takeLine n req).newRequest.handlers s' := runOp_left.ok rfl hs
    exact h1

theorem acceptor_kept (hb : Brings false s s')
    (h : ∀ op, ⟨.accept op, some (.err .operationAborted)⟩ ∈ s.handlers → s.acceptor.isOpen = true)
    (op : Op) (hm : ⟨.accept op, some (.err .operationAborted)⟩ ∈ s'.handlers) :
    s'.acceptor.isOpen = true := by
  rw [hb.acceptor rfl]
  refine (hb.handlers _ hm).elim (h op) fun hx => ?_
  cases hx with
  | aborted _ ha => exact absurd (ha rfl) Bool.false_ne_true

/-- A handler that runs leaves no closed acceptor to a transfer that waits. -/
theorem Endpoints.acceptor_run (h : Endpoints s) (hg : WhenRun leavesEndpoints s (.run i os))
    (hs : step cfg s (.run i os) = .ok s') (op : Op)
    (hm : ⟨.accept op, some (.err .operationAborted)⟩ ∈ s'.handlers) : s'.acceptor.isOpen = true := by
  have released : ∀ {s₁ : St} {t : Task}, Brings false s₁ (s₁.releaseSession t) := .of_eq rfl rfl
  have h0 : ∀ op, ⟨.accept op, some (.err .operationAborted)⟩ ∈ (s.takeHandler i).handlers →
      (s.takeHandler i).acceptor.isOpen = true := fun op hm => h.acceptor op (Pool.mem_of_eraseIdx hm)
  have taken : s.awaitsConnection = false → Unwaited (s.takeHandler i).handlers := fun hw op =>
    ⟨fun hm => (unwaited hw op).1 (Pool.mem_of_eraseIdx hm),
      fun hm => (unwaited hw op).2 (Pool.mem_of_eraseIdx hm)⟩
  cases step_cases hs with
  | run i os t r s₁ hi hh =>
    have hgi := hg.at hi
    by_cases hl : t = .read ∧ r = .ok
    · obtain ⟨rfl, rfl⟩ := hl
      obtain ⟨s₂, hd, e⟩ := step_read hs hi
      rw [e] at hm ⊢
      have hend : Brings false s₂ (s₂.doRead.releaseSession .read) := Brings.doRead.trans released
      by_cases hk : s.verified = true ∧ s.nextKind = some .passiveMode
      · obtain ⟨req, hline, hc⟩ := Option.bind_eq_some_iff.mp hk.2
        rcases (hd.left hk.1 hline hc).brings hend with ho | ⟨ha, hn⟩
        · exact ho
        · refine absurd hm (hn (fun op => ?_) op)
          have hw := taken (hgi rfl hk.1 hk.2 ha) op
          exact ⟨fun h1 => hw.1 ((Pool.mem_cancel_iff rfl).mp h1),
            fun h1 => hw.2 ((Pool.mem_cancel_iff rfl).mp h1)⟩
      · have hb : Brings false (s.takeHandler i).neverExpire s₂ := hd.brings fun _ req hline hv hc =>
          hk ⟨hv, Option.bind_eq_some_iff.mpr ⟨req, hline, hc⟩⟩
        exact acceptor_kept ((Brings.neverExpire.trans hb).trans hend) h0 op hm
    · rcases hh.brings fun ht hr => hl ⟨ht, hr⟩ with hb | ⟨⟨op', rfl⟩, hr, hb⟩
      · exact acceptor_kept (hb.trans released) h0 op hm
      · have hn := noneAborted_closeAcceptor (taken (hgi hr))
        exact absurd hm (hn.brings (hb.trans released) op)

/-! ## 3. The peer, and the lines after the close -/

theorem Posts.length_le (h : Posts P s s') : s.messageQueue.length ≤ s'.messageQueue.length := by
  induction h with
  | refl => exact Nat.le_refl _
  | andSame h hq ih => exact hq.queue ▸ ih
  | andPush h id m hm ih =>
    rw [St.pushMessage_messageQueue, List.length_append]
    exact Nat.le_trans ih (Nat.le_add_right ..)

/-- Where the write of a reply is handled, no other is there. -/
theorem Machinery.writtenAlone (hm : Machinery s) {q : Option Result}
    (hi : s.handlers[i]? = some ⟨.ctlWrite, q⟩) : (s.takeHandler i).has .ctlWrite = 0 := by
  have h1 := has_take (u := .ctlWrite) hi
  have h2 := hm.writes
  rw [if_pos rfl] at h1
  split at h2 <;> omega

/-- A handler that runs does not drain the queue behind a write that has succeeded. -/
theorem Endpoints.peer_run (h : Endpoints s) (hm : Machinery s)
    (hs : step cfg s (.run i os) = .ok s') (hst : s'.stoped = false) (hp : s'.peerAlive = false)
    (hw : ⟨.ctlWrite, some .ok⟩ ∈ s'.handlers) : s'.messageQueue.length ≠ 1 := by
  have hb := run_brings hs
  have hw₀ : ⟨.ctlWrite, some .ok⟩ ∈ (s.takeHandler i).handlers := (hb.handlers _ hw).resolve_right nofun
  have hst₀ : s.stoped = false := by
    rcases hb.control with ⟨-, h1⟩ | ⟨-, h1⟩
    · exact h1.symm.trans hst
    · cases h1.symm.trans hst
  have hne : s.messageQueue.length ≠ 1 :=
    h.peer hst₀ (hb.peerAlive.symm.trans hp) (Pool.mem_of_eraseIdx hw₀)
  have hpos : s.messageQueue ≠ [] := by
    intro hq
    have h1 := hm.writes
    rw [if_pos hq] at h1
    exact has_pos (Pool.mem_tasks_of (Pool.mem_of_eraseIdx hw₀)) h1
  have grown : s.messageQueue.length ≤ s'.messageQueue.length → s'.messageQueue.length ≠ 1 := by
    have h1 := List.length_pos_of_ne_nil hpos
    omega
  -- the handler of the write itself is the only one
  have other : ∀ {r : Result}, s.handlers[i]? ≠ some ⟨.ctlWrite, some r⟩ := fun hi =>
    has_pos (Pool.mem_tasks_of hw₀) (hm.writtenAlone hi)
  cases step_queue hs with
  | same _ _ hq => exact grown (hq.queue ▸ Nat.le_refl _)
  | line i os s₁ hi hd => exact grown hd.posts.length_le
  | turn _ op _ hq => exact grown hq.length_le
  | written i os m rest s₁ hi hq ht => exact absurd hi other
  | failed i os r hi hr => exact absurd hi other

/-- A read behind the close has failed, or brought a line that asks for no address. -/
def St.ReadsPast (s : St) : Prop :=
  ⟨.read, none⟩ ∉ s.handlers ∧ (⟨.read, some .ok⟩ ∈ s.handlers → ¬ s.asksAddress)

theorem St.ReadsPast.congr (h : s.ReadsPast) (hn : NoNewRead s s') (hm : s'.members = s.members) :
    s'.ReadsPast := by
  have hk : s'.asksAddress ↔ s.asksAddress := by
    unfold St.asksAddress St.nextKind St.nextRequest
    rw [show s'.verified = s.verified from congrArg Members.verified hm,
      show s'.buf = s.buf from congrArg Members.buf hm]
  refine ⟨fun hr => h.1 ((hn _ hr).resolve_right nofun), fun hr ha => ?_⟩
  exact h.2 ((hn _ hr).resolve_right nofun) (hk.mp ha)

theorem St.ReadsPast.of_none (h : s.has .read = 0) : s.ReadsPast :=
  ⟨fun hm => has_pos (Pool.mem_tasks_of hm) h, fun hm => absurd h (has_pos (Pool.mem_tasks_of hm))⟩

/-- A read that is started on the closed socket fails. -/
theorem readsPast_doRead (h : s.has .read = 0) (hc : s.controlOpen = false) : s.doRead.ReadsPast := by
  have failed : ∀ q, ⟨.read, q⟩ ∈ s.doRead.handlers → q = some (.err .badDescriptor) := by
    intro q hm
    rw [St.doRead_handlers, hc] at hm
    rcases List.mem_append.mp hm with h1 | h1
    · exact absurd h (has_pos (Pool.mem_tasks_of h1))
    · cases List.mem_singleton.mp h1
      rfl
  refine ⟨fun hm => ?_, fun hm => ?_⟩
  · cases failed _ hm
  · cases failed _ hm

theorem Endpoints.reads_run (h : Endpoints s) (hm : Machinery s)
    (hg : WhenRun leavesEndpoints s (.run i os)) (hs : step cfg s (.run i os) = .ok s')
    (hc : s'.controlOpen = !s'.stoped) (hst : s'.stoped = true) : s'.ReadsPast := by
  have hd := (step_ok.mp hs).1
  cases step_cases hs with
  | run i os t r s₁ hi hh =>
    have hst₁ : s₁.stoped = true := hst
    have hc₁ : s₁.controlOpen = false := by
      have h1 : s₁.controlOpen = !s₁.stoped := hc
      rw [h1, hst₁]
      rfl
    refine St.ReadsPast.congr (s := s₁) ?_ (.of_eq rfl) rfl
    by_cases hl : t = .read ∧ r = .ok
    · obtain ⟨rfl, rfl⟩ := hl
      obtain ⟨s₂, hline, rfl⟩ : ∃ s₂, Line cfg os _ (s.takeHandler i).neverExpire s₂ ∧
          s₁ = s₂.doRead := by
        cases hh with
        | operation op hop ho => cases hop
        | session hs =>
          cases hs with
          | readFailed _ _ hr hr' => exact absurd rfl hr
          | readLine _ s₂ hline => exact ⟨s₂, hline, rfl⟩
      exact readsPast_doRead (hline.kept.read.trans (has_neverExpire.trans (hm.alone hd hi rfl).read)) hc₁
    have hl' : t = .read → r ≠ .ok := fun ht hr => hl ⟨ht, hr⟩
    cases hst₀ : s.stoped with
    | true =>
      have hb : t ≠ .banner := by
        rintro rfl
        have hp := has_pos (Pool.mem_tasks_of (List.mem_of_getElem? hi))
        cases hst₀.symm.trans (hm.banner hp).2.2.1
      have h0 : s.ReadsPast := ⟨h.outstanding hst₀, h.line hst₀⟩
      have h1 : (s.takeHandler i).ReadsPast := h0.congr (.take i) rfl
      exact h1.congr (hh.noNewRead hb hl') (hh.members hl').members
    | false =>
      rcases hh.closes hm hd hi hst₀ hst₁ with hz | ⟨rfl, hx, rfl⟩
      · exact .of_none hz
      · -- the idle timer closes the session: the read that is outstanding is aborted
        refine ⟨fun hr => ?_, fun hr => ?_⟩
        · rw [St.close_handlers, Pool.mem_cancel_iff (show Task.isTimerWait .read = false from rfl)] at hr
          exact Pool.cancel_done hr rfl rfl
        · have hr₀ : ⟨.read, some .ok⟩ ∈ (s.takeHandler i).handlers := by
            rcases NoNewRead.close _ hr with h1 | ⟨ec, h1⟩
            · exact h1
            · cases h1
          exact hg.at hi hst₀ hx (Pool.mem_of_eraseIdx hr₀)

/-! ## 4. Runs -/

theorem Endpoints.step (h : Endpoints s) (hm : Machinery s) (hg : keepsEndpoints s e)
    (hs : OrangeFtpd.step cfg s e = .ok s') : Endpoints s' := by
  cases step_cases hs with
  | clientSend chunk hr =>
    have closed : s.stoped = true → False := fun hst => h.outstanding hst hr
    have others : ∀ {t : Task} {q : Option Result}, t ≠ .read → ⟨t, q⟩ ∈ (s.receive chunk).handlers →
        ⟨t, q⟩ ∈ s.handlers := by
      intro t q ht hm
      rw [St.receive_handlers] at hm
      split at hm
      · refine (Pool.mem_cancel_iff ?_).mp hm
        exact beq_false_of_ne ht
      · exact hm
    exact ⟨fun op hx => h.acceptor op (others nofun hx), h.control,
      fun hst hp hx => h.peer hst hp (others nofun hx),
      fun hst => (closed hst).elim, fun hst => (closed hst).elim⟩
  | clientGone => exact { h with peer := fun hst _ hx => hg.2 hst hx }
  | peerSend c bytes hc hp => exact ⟨h.acceptor, h.control, h.peer, h.outstanding, h.line⟩
  | peerShutdown c hc hp => exact ⟨h.acceptor, h.control, h.peer, h.outstanding, h.line⟩
  | peerReset c hc => exact ⟨h.acceptor, h.control, h.peer, h.outstanding, h.line⟩
  | tick ms => exact ⟨h.acceptor, h.control, h.peer, h.outstanding, h.line⟩
  | complete i r t hi hc =>
    refine ⟨fun op hx => ?_, h.control, fun hst hp hx => ?_, fun hst hx => ?_, fun hst hx => ?_⟩
    · rcases Pool.mem_complete hx with h1 | ⟨h1, h2⟩
      · exact h.acceptor op h1
      · cases h1
        cases t <;> cases hc
    · rcases Pool.mem_complete hx with h1 | ⟨h1, h2⟩
      · exact h.peer hst hp h1
      · cases h1
        cases hp.symm.trans (hg.2 h2 rfl)
    · rcases Pool.mem_complete hx with h1 | ⟨h1, -⟩
      · exact h.outstanding hst h1
      · cases h1
    · rcases Pool.mem_complete hx with h1 | ⟨-, h2⟩
      · exact h.line hst h1
      · exact absurd (List.mem_of_getElem? h2) (h.outstanding hst)
  | run i os t r s₁ hi hh =>
    have hc : (s₁.releaseSession t).controlOpen = !(s₁.releaseSession t).stoped := by
      rcases (run_brings hs).control with ⟨h1, h2⟩ | ⟨h1, h2⟩
      · rw [h1, h2]
        exact h.control
      · rw [h1, h2]
        rfl
    exact ⟨h.acceptor_run hg.1 hs, hc, h.peer_run hm hs,
      fun hst => (h.reads_run hm hg.1 hs hc hst).1, fun hst => (h.reads_run hm hg.1 hs hc hst).2⟩

theorem endpoints_reach {home : Path} {c₀ : UInt32} {now : Int}
    (h : Reach (OrangeFtpd.step cfg) keepsEndpoints (St.init cfg home c₀ now) s) : Endpoints s := by
  refine h.invariant_of (J := Machinery) (fun _ => machinery_reach) ?_
    fun _ _ _ hm hI hg hs => hI.step hm hg hs
  have banner : ∀ {t : Task} {q : Option Result}, t ≠ .banner →
      ⟨t, q⟩ ∉ (St.init cfg home c₀ now).handlers := by
    intro t q ht hm
    cases List.mem_singleton.mp hm
    exact ht rfl
  exact ⟨fun _ hm => absurd hm (banner nofun), rfl, fun _ _ hm => absurd hm (banner nofun),
    fun _ => banner nofun, fun _ hm => absurd hm (banner nofun)⟩

end

/-- A client gets its first reply and disconnects before the handler of that write runs. -/
def goneAfterReply : List Ev :=
  [.complete 0 .ok, .run 0 {}, .clientSend "USER u\r\n".toList, .run 0 {}, .complete 1 .ok,
    .clientGone]

/-- Two transfers wait; the first that is accepted closes the acceptor under the other. -/
example : runAll (step .shipped) .fresh (withPort "RETR a\r\nRETR a\r\n".toList ++
    [.run 1 (regularFile 1 5), .run 2 (regularFile 1 5), .complete 1 (.conn 0), .run 1 {},
      .run 1 {}]) = .error .endpointError := rfl

end OrangeFtpd
