/-
  File:      OrangeFtpd/Invariant/Lifecycle.lean
  Subject:   The life of a request, from its line to the end of its operation.

  What the session does for one request is a word of a small automaton (`Stage`),
  however the requests, transfers and control writes of the session are interleaved;
  and the stage a request has reached says where its operation is.

  * `Unlost`: no request is forgotten; its operation is alive, or it ended.
  * `lifecycle`: the book of every run is in order for every request, and the stages
    are those of the live operations.
  * `request_brackets`: nothing is done for a request before its line was dispatched and
    after it ended.
-/
import OrangeFtpd.Lib.Track
import OrangeFtpd.Invariant.Counter
import OrangeFtpd.Session.Members

namespace OrangeFtpd

/-! ## 1. No request is forgotten -/

/-- Every request so far is in the hand of the running handler, alive or over. -/
def Unlost (hand : List Nat) (s : St) : Prop :=
  ∀ i < s.nextId, i ∈ hand ++ s.liveIds ∨ .over i ∈ s.log

section

variable {cfg : Config} {os : Os} {c₀ : UInt32} {hand : List Nat} {id n i : Nat} {s s₁ s' : St}
  {op : Op} {t : Task} {r : Result} {m : Message} {rest : List Message}

namespace Unlost

theorem congr {hand' : List Nat} (h : Unlost hand s)
    (hp : (hand' ++ s'.liveIds).Perm (hand ++ s.liveIds)) (hn : s'.nextId = s.nextId)
    (hl : ∃ new, s'.log = new ++ s.log) : Unlost hand' s' := by
  obtain ⟨new, hl⟩ := hl
  intro i hi
  rcases h i (hn ▸ hi) with h1 | h1
  · exact Or.inl (hp.mem_iff.mpr h1)
  · exact Or.inr (hl ▸ List.mem_append_right new h1)

/-- A change that leaves the operations as they are. -/
theorem same (h : Unlost hand s) (hl : s'.liveOps = s.liveOps) (hn : s'.nextId = s.nextId)
    (hlog : ∃ new, s'.log = new ++ s.log) : Unlost hand s' := by
  refine h.congr ?_ hn hlog
  unfold St.liveIds
  rw [hl]

theorem quiet (h : Unlost hand s) (hq : Quiet id s s₁) : Unlost hand s₁ := by
  obtain ⟨new, hl, -⟩ := hq.log
  exact h.same (St.liveOps_congr hq.tasks hq.messageQueue) hq.nextId ⟨new, hl⟩

/-- A queued reply; its token takes its operation out of the hand. -/
theorem push {b : SharedConstBuffer} {tok : Option Token} {hand' : List Nat} (h : Unlost hand s)
    (hp : (hand' ++ (s.liveIds ++ (tok.map fun t => t.op.id).toList)).Perm (hand ++ s.liveIds)) :
    Unlost hand' (s.pushMessage id ⟨b, tok⟩) := by
  refine h.congr ?_ rfl ⟨_, (List.append_cons ..).trans rfl⟩
  have e : (tok.map Token.op).toList.map (·.id) = (tok.map fun t => t.op.id).toList := by
    cases tok <;> rfl
  unfold St.liveIds at hp ⊢
  rw [St.liveOps_pushMessage, List.map_append, e]
  exact hp

theorem destroyOp (h : Unlost (op.id :: hand) s) : Unlost hand (s.destroyOp cfg op) := by
  intro i hi
  rw [St.destroyOp_nextId] at hi
  have hl : (s.destroyOp cfg op).liveIds = s.liveIds := by
    unfold St.liveIds
    rw [St.liveOps_destroyOp]
  rw [St.destroyOp_log, hl]
  rcases h i hi with h1 | h1
  · rcases List.mem_cons.mp h1 with rfl | h1
    · exact Or.inr List.mem_cons_self
    · exact Or.inl h1
  · exact Or.inr (List.mem_cons_of_mem _ h1)

theorem opRun (hr : OpRun cfg id s s') (h : Unlost (id :: hand) s) : Unlost hand s' := by
  induction hr with
  | quiet hq hr ih => exact ih (h.quiet hq)
  | reply b hr ih => exact ih (h.push (by simp))
  | ended op hop => exact destroyOp (hop ▸ h)
  | queued b tok hop =>
    refine h.push ?_
    rw [Option.map_some, hop, Option.toList_some, ← List.append_assoc]
    exact List.perm_append_singleton id _
  | @started s t op r ht hop =>
    refine h.congr ?_ rfl ⟨[], rfl⟩
    have hl : (s.startWith t r).liveIds.Perm (id :: s.liveIds) := by
      have h1 : (s.startWith t r).liveOps.Perm (t.op?.toList ++ s.liveOps) :=
        St.liveOps_of_tasks (by simp) rfl
      have h2 := h1.map (·.id)
      rwa [ht, Option.toList_some, List.singleton_append, List.map_cons, hop] at h2
    exact (hl.append_left hand).trans List.perm_middle

theorem newRequest (h : Unlost hand s) : Unlost (s.nextId :: hand) s.newRequest := by
  intro i hi
  have hi' : i < s.nextId + 1 := hi
  rcases Nat.lt_succ_iff_lt_or_eq.mp hi' with h1 | rfl
  · rcases h i h1 with h2 | h2
    · exact Or.inl (List.mem_cons_of_mem _ h2)
    · exact Or.inr (List.mem_cons_of_mem _ h2)
  · exact Or.inl List.mem_cons_self

theorem takeLine (h : Unlost hand s) (req : FtpRequest) : Unlost hand (s.takeLine n req) :=
  h.same rfl rfl ⟨[], rfl⟩

theorem rearmIdle (h : Unlost hand s) : Unlost hand (s.rearmIdle cfg) := by
  unfold St.rearmIdle
  split
  · exact h
  · exact h.same (by simp) rfl ⟨[], rfl⟩

theorem line (hl : Line cfg os n s s') (h : Unlost [] s) : Unlost [] s' := by
  cases hl with
  | blank hb => exact (h.takeLine {}).rearmIdle
  | refused req b hb hv hc hf =>
    have h1 : Unlost [s.nextId] ((s.takeLine n req).newRequest.pushMessage s.nextId ⟨b, none⟩) :=
      (h.takeLine req).newRequest.push (by simp)
    refine rearmIdle fun i hi => ?_
    rcases h1 i hi with h2 | h2
    · rcases List.mem_cons.mp h2 with rfl | h2
      · exact Or.inr List.mem_cons_self
      · exact Or.inl h2
    · exact Or.inr (List.mem_cons_of_mem _ h2)
  | began req kind _ hb hk hs =>
    exact opRun hs.opRun ((h.takeLine req).newRequest.same rfl rfl ⟨[], rfl⟩)

theorem dropQueue (h : Unlost [] s) : Unlost [] (s.dropQueue cfg) := by
  have fold : ∀ (ops : List Op) (s : St), Unlost (ops.map (·.id)) s →
      Unlost [] (ops.foldl (fun t op => t.destroyOp cfg op) s) := by
    intro ops
    induction ops with
    | nil => exact fun s h => h
    | cons op ops ih => exact fun s h => ih _ (destroyOp h)
  exact fold _ _ (h.congr liveIds_queue rfl ⟨[], rfl⟩)

theorem writeNext (hq : s.messageQueue = m :: rest) (h : Unlost [] s) (ht : TokenRun s m.token s₁) :
    Unlost [] (s₁.writeNext cfg rest) := by
  have hlog : ∃ new, s₁.log = new ++ s.log := by
    obtain ⟨new, hl, -⟩ := (SameMembers.tokenRun ht).log
    exact ⟨new, hl⟩
  have h1 : Unlost [] (s₁.withQueue rest) := by
    refine h.congr (liveIds_tokenRun hq ht) ?_ hlog
    exact (SameMembers.tokenRun ht).nextId
  cases rest with
  | nil =>
    exact h1.same St.liveOps_restartIdleTimer SameMembers.restartIdleTimer.nextId
      ⟨[], St.restartIdleTimer_log ..⟩
  | cons m rest => exact h1.same (St.liveOps_startWrite m.buffer) rfl ⟨[.ctlStarted m.buffer], rfl⟩

theorem session (hh : SessionHandled cfg os t r s s') (h : Unlost [] s) : Unlost [] s' := by
  cases hh with
  | banner _ => exact h.same (by simp) rfl ⟨[], rfl⟩
  | bannerFailed _ _ hr => exact h
  | readEof _ h0 => exact h.same (by simp) rfl ⟨[.closed], rfl⟩
  | readEofBusy _ h0 =>
    refine h.same ?_ rfl ⟨[.closed], rfl⟩
    rw [St.liveOps_of_control (St.tasks_start (t := .keepAlive)) rfl rfl]
    simp
  | readFailed _ _ hr hr' => exact h
  | readLine _ s₁ hl =>
    have h1 : Unlost [] s.neverExpire := h.same (by simp) rfl ⟨[], rfl⟩
    exact (line hl h1).same (by simp) rfl ⟨[], rfl⟩
  | idleStoped _ _ h0 => exact h
  | idleAgain _ _ h0 hx => exact h.same (by simp) rfl ⟨[], rfl⟩
  | idleClose _ _ h0 hx => exact h.same St.liveOps_close rfl ⟨[.closed, .idleClose], rfl⟩
  | keepAlive _ _ => exact h
  | writeFailed _ _ hr => exact dropQueue (h.same rfl rfl ⟨[.ctlDone false], rfl⟩)
  | written _ s₁ m rest hq ht =>
    have h1 : Unlost [] (s.emit (.ctlDone true)) := h.same rfl rfl ⟨[.ctlDone true], rfl⟩
    exact writeNext (s := s.emit (.ctlDone true)) hq h1 ht

/-- **A step** forgets no request. -/
theorem step {e : Ev} (hs : Stepped cfg s e s') (h : Unlost [] s) : Unlost [] s' := by
  cases hs with
  | clientSend chunk hr => exact h.same (St.liveOps_congr (St.tasks_receive chunk) rfl) rfl ⟨[], rfl⟩
  | clientGone => exact h.same rfl rfl ⟨[], rfl⟩
  | peerSend c bytes hc hp => exact h.same rfl rfl ⟨[.peerSent c bytes], rfl⟩
  | peerShutdown c hc hp => exact h.same rfl rfl ⟨[.peerShutdown c], rfl⟩
  | peerReset c hc => exact h.same rfl rfl ⟨[.peerReset c], rfl⟩
  | tick ms => exact h.same rfl rfl ⟨[], rfl⟩
  | complete i r t hi hc => exact h.same (St.liveOps_congr (St.tasks_completeAt i r) rfl) rfl ⟨[], rfl⟩
  | run i os t r s₁ hi hh =>
    have h1 : Unlost (t.op?.toList.map (·.id)) (s.takeHandler i) :=
      h.congr (liveIds_take hi) rfl ⟨[], rfl⟩
    have h2 : Unlost [] s₁ := by
      cases hh with
      | session hs =>
        have ht : t.op? = none := by cases hs <;> rfl
        rw [ht] at h1
        exact h1.session hs
      | operation op ht ho =>
        rw [ht] at h1
        exact opRun ho.opRun h1
    exact h2.same rfl rfl ⟨[], rfl⟩

end Unlost

theorem unlost_reach {home : Path} {now : Int} {ok : St → Ev → Prop}
    (h : Reach (step cfg) ok (St.init cfg home c₀ now) s) : Unlost [] s :=
  h.invariant (I := Unlost []) (fun _ hi => absurd hi (Nat.not_lt_zero _))
    fun _ _ _ hI _ hs => hI.step (step_cases hs)

end

/-! ## 2. The stages of a request -/

inductive Stage where
  | fresh
  /-- Its code runs, or its operation waits for a data connection. -/
  | asked
  /-- Its data connection is stored. -/
  | accepted
  /-- It was promised a transfer. -/
  | running
  | completing
  | completed
  | over
  deriving DecidableEq, Repr

/-- **What may be done for a request** in each stage. -/
def Stage.next : Stage → Obs → Option Stage
  | .fresh, .request .. => some .asked
  | .asked, .target .. | .asked, .fs _ (.opened ..) | .asked, .fs _ (.madeDirectory _) => some .asked
  | .asked, .reply _ b => if b.code.isFinal then some .asked else none
  | .asked, .stored .. => some .accepted
  | .asked, .over _ => some .over
  -- LIST lists the working directory
  | .accepted, .target .. => some .accepted
  | .accepted, .reply _ b => if b.code = .dataConn then some .running else none
  | .running, .touch .. | .running, .payload .. | .running, .fs _ (.wrote ..)
  | .running, .listed .. => some .running
  | .running, .complete _ => some .completing
  | .running, .over _ => some .over
  | .completing, .reply _ b => if b.code = .transferComplete then some .completed else none
  | .completed, .over _ => some .over
  | _, _ => none

/-- The stage of an operation that is alive between two handlers. -/
def Phase.stage : Phase → Stage
  | .waiting => .asked
  | .running => .running

/-- The stage of the request `id`; `none` where the log is not in order. -/
def stageOf (id : Nat) (log : List Obs) : Option Stage := track Obs.id? Stage.next .fresh id log

/-- **The book is in order.** -/
structure InOrder (s : St) : Prop where
  fresh : ∀ id, s.nextId ≤ id → stageOf id s.acts = some .fresh
  staged : ∀ x ∈ s.staged, stageOf x.2.id s.acts = some x.1.stage
  known : ∀ id, stageOf id s.acts ≠ none

section

variable {cfg : Config} {os : Os} {c₀ : UInt32} {id n i : Nat} {s s₁ s' : St} {op op' : Op}
  {t : Task} {r : Result} {o : Obs} {new old notes : List Obs} {handed : Option (Phase × Op)}
  {k k' : List Conn} {d : DataSocket} {kind : OpKind} {st st' : Stage} {ph : Phase} {e : Ev}
  {b : SharedConstBuffer}

/-- One entry of the request. -/
theorem stageOf_cons (h : stageOf id old = some st) (hk : o.id? = some id)
    (hn : st.next o = some st') : stageOf id (o :: old) = some st' := by
  refine (track_cons_key hk).trans ?_
  rw [show track Obs.id? Stage.next .fresh id old = some st from h]
  exact hn

theorem stageOf_other (h : ∀ o ∈ new, o.id? ≠ some id) :
    stageOf id (new ++ old) = stageOf id old := track_append_other h

/-! ## 3. Launches and turns are in order -/

theorem stageOf_notes (hn : ∀ o ∈ notes, Note cfg id o) (h : stageOf id old = some .asked) :
    stageOf id (notes ++ old) = some .asked := by
  induction notes with
  | nil => exact h
  | cons o notes ih =>
    have h1 := ih fun o ho => hn o (List.mem_cons_of_mem _ ho)
    cases hn o List.mem_cons_self with
    | target p => exact stageOf_cons h1 rfl rfl
    | announced port =>
      have h2 : stageOf id (.announced port :: (notes ++ old)) = stageOf id (notes ++ old) :=
        track_cons_other (by simp [Obs.id?])
      exact h2.trans h1
    | madeDirectory p hw => exact stageOf_cons h1 rfl rfl

theorem stageOf_opened {p path : Path} {created : Bool} (h : stageOf id old = some .asked) :
    stageOf id (openedActs os id op p path created ++ old) = some .asked := by
  have h1 : stageOf id (.fs id (.opened op.file path created) :: .target id p :: old) =
      some .asked := stageOf_cons (stageOf_cons h rfl rfl) rfl rfl
  unfold openedActs
  split
  · exact h1
  · exact stageOf_cons h1 rfl rfl

/-- The stage after a launch. -/
theorem Launch.stage (h : Launch cfg os id kind s new handed) (ho : stageOf id old = some .asked) :
    stageOf id (new ++ old) = some ((handed.map fun x => x.1.stage).getD .over) := by
  cases h with
  | answered op notes b hf hn hb =>
    have h1 : stageOf id (.reply id b :: (notes ++ old)) = some .asked :=
      stageOf_cons (stageOf_notes hn ho) rfl (if_pos hb)
    exact stageOf_cons h1 rfl rfl
  | silent notes file hk hn hopen => exact stageOf_cons (stageOf_notes hn ho) rfl rfl
  | waiting op notes hk hf ht hn => exact stageOf_notes hn ho
  | uploadNull op s₂ p path created hk hu hfd => exact stageOf_cons (stageOf_opened ho) rfl rfl
  | uploadRefused op s₂ p path created hk hu hfd =>
    have h0 : stageOf id (openedActs os id op p path created ++ old) = some .asked :=
      stageOf_opened ho
    have h1 : stageOf id (.reply id (Response.getCodeString .invalidSeq) ::
      (openedActs os id op p path created ++ old)) = some .asked := stageOf_cons h0 rfl rfl
    exact stageOf_cons h1 rfl rfl
  | uploadWaiting op s₂ p path created hk hu hfd => exact stageOf_opened ho

theorem stageOf_spliced (h : Splices d k op new k' op') (ho : stageOf op.id old = some .running) :
    stageOf op.id (new ++ old) = some .running := by
  induction h generalizing old with
  | stop k op => exact ho
  | turn k k' op op' n bytes new hb h ih =>
    rw [List.append_assoc]
    exact ih (stageOf_cons (stageOf_cons ho rfl rfl) rfl rfl)

/-- A transfer that completes, and ends. -/
theorem stageOf_completion (hid : op'.id = id) (ho : stageOf id old = some .running) :
    stageOf id (.over id :: completionActs op' ++ old) = some .over := by
  subst hid
  unfold completionActs
  split
  · have h1 : stageOf op'.id (.complete op' :: old) = some .completing := stageOf_cons ho rfl rfl
    exact stageOf_cons (stageOf_cons h1 rfl rfl) rfl rfl
  · exact stageOf_cons ho rfl rfl

/-- A handler that waits for a data connection no longer. -/
theorem staged_running (hp : t.staged? = some (ph, op)) (ht : t.isAccept = false) :
    ph = .running := by
  cases t <;> cases hp <;> first | rfl | cases ht

theorem SendWait.running (h : SendWait op t) (hp : t.staged? = some (ph, op)) : ph = .running := by
  refine staged_running hp ?_
  cases h <;> rfl

/-- The stage after a turn. -/
theorem Turn.stage (h : Turn cfg os s op t r new handed k) (hp : t.staged? = some (ph, op))
    (ho : stageOf op.id old = some ph.stage) :
    stageOf op.id (new ++ old) = some ((handed.map fun x => x.1.stage).getD .over) := by
  cases h with
  | unconnected r hr =>
    cases hp
    exact stageOf_cons ho rfl rfl
  | accepted c hk =>
    cases hp
    have h1 : stageOf op.id (.stored op.id c :: old) = some .accepted := stageOf_cons ho rfl rfl
    exact stageOf_cons h1 rfl rfl
  | listAccepted c response hl hs hr =>
    cases hp
    have h1 : stageOf op.id (.stored op.id c :: old) = some .accepted := stageOf_cons ho rfl rfl
    exact stageOf_cons (stageOf_cons h1 rfl rfl) rfl rfl
  | waitFailed t r hr ht =>
    have hph : ph = .running := staged_running hp (by rcases ht with rfl | ⟨c, rfl⟩ <;> rfl)
    subst hph
    exact stageOf_cons ho rfl rfl
  | sendFailed t d ht hd hf =>
    cases ht.running hp
    have h1 : stageOf op.id (.touch op.id (some d.conn) :: old) = some .running :=
      stageOf_cons ho rfl rfl
    exact stageOf_cons h1 rfl rfl
  | sendAgain t d ht hd =>
    cases ht.running hp
    have h1 : stageOf op.id (.touch op.id (some d.conn) :: old) = some .running :=
      stageOf_cons ho rfl rfl
    exact stageOf_cons h1 rfl rfl
  | sentPart op' t d n last ht hd hn hop hl hlast =>
    cases ht.running hp
    have h1 : stageOf op.id (.payload op.id d.conn (.sent op.fileOffset n) ::
        .touch op.id (some d.conn) :: old) = some .running :=
      stageOf_cons (stageOf_cons ho rfl rfl) rfl rfl
    rcases hlast with rfl | rfl
    · exact h1
    · exact stageOf_cons h1 rfl rfl
  | sentAll op' t d n ht hd hn hop hl =>
    cases ht.running hp
    have h1 : stageOf op.id (.payload op.id d.conn (.sent op.fileOffset n) ::
        .touch op.id (some d.conn) :: old) = some .running :=
      stageOf_cons (stageOf_cons ho rfl rfl) rfl rfl
    rw [List.append_assoc]
    exact stageOf_completion (hop ▸ rfl) h1
  | receivedAll c d hk hd hi =>
    cases staged_running hp rfl
    rw [List.append_assoc]
    exact stageOf_completion rfl (stageOf_cons ho rfl rfl)
  | receiveFailed op' c d new k hk hd hf hl =>
    cases staged_running hp rfl
    rw [List.append_assoc]
    exact stageOf_cons (stageOf_spliced hl (stageOf_cons ho rfl rfl)) rfl rfl
  | receiveAgain op' c d new k hk hd hl =>
    cases staged_running hp rfl
    rw [List.append_assoc]
    exact stageOf_cons (stageOf_spliced hl (stageOf_cons ho rfl rfl)) rfl rfl
  | listed c r =>
    cases staged_running hp rfl
    have h1 : stageOf op.id (.listed op.id c (r == .ok) :: old) = some .running :=
      stageOf_cons ho rfl rfl
    have h2 : stageOf op.id (.complete op :: .listed op.id c (r == .ok) :: old) =
        some .completing := stageOf_cons h1 rfl rfl
    exact stageOf_cons (stageOf_cons h2 rfl rfl) rfl rfl

/-! ## 4. The book stays in order -/

theorem stageOf_foreign (hid : ∀ o ∈ new, ∀ i, o.id? = some i → i = n) (hn : id ≠ n) :
    stageOf id (new ++ old) = stageOf id old :=
  stageOf_other fun o ho h => hn (hid o ho id h)

/-- The operations of a dropped queue. -/
theorem stageOf_overs {ops : List Op} (hnd : (ops.map (·.id)).Nodup)
    (h : ∀ op ∈ ops, stageOf op.id old = some .running) :
    stageOf id ((ops.map fun op => .over op.id).reverse ++ old) =
      if id ∈ ops.map (·.id) then some .over else stageOf id old := by
  induction ops generalizing old with
  | nil => rfl
  | cons op ops ih =>
    obtain ⟨hnew, hnd⟩ := List.nodup_cons.mp hnd
    have hother : ∀ i, i ≠ op.id → stageOf i (.over op.id :: old) = stageOf i old :=
      fun i hi => track_cons_other fun h => hi (Option.some.inj h).symm
    have hrun : ∀ op' ∈ ops, stageOf op'.id (.over op.id :: old) = some .running := by
      intro op' ho
      have hne : op'.id ≠ op.id := fun he => hnew (List.mem_map.mpr ⟨op', ho, he⟩)
      rw [hother _ hne]
      exact h op' (List.mem_cons_of_mem _ ho)
    rw [List.map_cons, List.reverse_cons, List.append_assoc, List.singleton_append, ih hnd hrun,
      List.map_cons]
    by_cases he : id = op.id
    · subst he
      rw [if_neg hnew, if_pos List.mem_cons_self]
      exact stageOf_cons (h op List.mem_cons_self) rfl rfl
    · rw [hother id he]
      exact if_congr (by rw [List.mem_cons, or_iff_right he]) rfl rfl

namespace InOrder

/-- Nothing is done for a request. -/
theorem quiet (h : InOrder s) (he : Entered s s' new none k) (hid : ∀ o ∈ new, o.id? = none)
    (hn : s'.nextId = s.nextId) : InOrder s' := by
  have hs : ∀ id, stageOf id s'.acts = stageOf id s.acts := by
    intro id
    rw [he.acts]
    refine stageOf_other fun o ho => ?_
    rw [hid o ho]
    exact (Option.some_ne_none id).symm
  refine ⟨fun id hi => ?_, fun x hx => ?_, fun id => ?_⟩
  · rw [hs]
    exact h.fresh id (hn ▸ hi)
  · rw [hs]
    exact h.staged x ((he.staged x hx).resolve_left nofun)
  · rw [hs]
    exact h.known id

/-- Something is done for the request `n`, which brings it to the stage `st`. -/
theorem advance (h : InOrder s) (he : Entered s s' new handed k)
    (hid : ∀ o ∈ new, ∀ i, o.id? = some i → i = n) (hst : stageOf n s'.acts = some st)
    (hx : ∀ x ∈ s'.staged, x.2.id = n → x.1.stage = st) (hh : ∀ x, handed = some x → x.2.id = n)
    (hn : n < s'.nextId) (hle : s.nextId ≤ s'.nextId) : InOrder s' := by
  have hs : ∀ id, id ≠ n → stageOf id s'.acts = stageOf id s.acts := by
    intro id hi
    rw [he.acts]
    exact stageOf_foreign hid hi
  refine ⟨fun id hi => ?_, fun x hm => ?_, fun id => ?_⟩
  · rw [hs id (by omega)]
    exact h.fresh id (Nat.le_trans hle hi)
  · by_cases hi : x.2.id = n
    · rw [hi, hst, hx x hm hi]
    · rw [hs _ hi]
      exact h.staged x ((he.staged x hm).resolve_left fun h => hi (hh x h))
  · by_cases hi : id = n
    · rw [hi, hst]
      exact Option.some_ne_none _
    · rw [hs id hi]
      exact h.known id

/-- A request, and what it launches. -/
theorem request {req : FtpRequest} {cwd : Path} (h : InOrder s) (ho : Ops c₀ [] s)
    (he : Entered s s' (new ++ [.request s.nextId req cwd]) handed k)
    (hid : ∀ o ∈ new, ∀ i, o.id? = some i → i = s.nextId) (hn : s'.nextId = s.nextId + 1)
    (hst : ∀ old, stageOf s.nextId old = some .asked →
      stageOf s.nextId (new ++ old) = some ((handed.map fun x => x.1.stage).getD .over))
    (hh : ∀ x, handed = some x → x.2.id = s.nextId) : InOrder s' := by
  have h0 : stageOf s.nextId (.request s.nextId req cwd :: s.acts) = some .asked :=
    stageOf_cons (h.fresh _ (Nat.le_refl _)) rfl rfl
  have h1 : stageOf s.nextId s'.acts = some ((handed.map fun x => x.1.stage).getD .over) := by
    rw [he.acts, List.append_assoc]
    exact hst _ h0
  refine h.advance he ?_ h1 ?_ hh (by omega) (by omega)
  · intro o hm i hi
    rcases List.mem_append.mp hm with hm | hm
    · exact hid o hm i hi
    · rw [List.mem_singleton.mp hm] at hi
      exact (Option.some.inj hi).symm
  · intro x hx hi
    rcases he.staged x hx with h2 | h2
    · rw [h2]
      rfl
    · exact absurd hi (Nat.ne_of_lt (ho.fresh _ (staged_live h2)))

/-- **A step** keeps the book in order. -/
theorem step (h : InOrder s) (ho : Ops c₀ [] s) (hb : Booked cfg s e s') : InOrder s' := by
  cases hb with
  | same _ _ he hn => exact h.quiet he (List.forall_mem_nil _) hn
  | connect i c _ he hn => exact h.quiet he (List.forall_mem_nil _) hn
  | peer _ _ o k hp he hn =>
    refine h.quiet he (List.forall_mem_singleton.mpr ?_) hn
    cases hp <;> rfl
  | refused i os _ req b hr hv hc hb he hn =>
    have he' : Entered s s' ([.over s.nextId, .reply s.nextId b] ++
      [.request s.nextId req s.currentPath]) none s.conns := he
    refine h.request ho he' ?_ hn ?_ nofun
    · intro o hm i hi
      rcases List.mem_pair.mp hm with rfl | rfl <;> exact (Option.some.inj hi).symm
    · intro old ho
      have h1 : stageOf s.nextId (.reply s.nextId b :: old) = some .asked :=
        stageOf_cons ho rfl (if_pos hb)
      exact stageOf_cons h1 rfl rfl
  | launched i os _ req kind s₁ new handed hr hk hs₁ hl he hn =>
    refine h.request ho he ?_ hn (fun old ho => hl.stage ho) fun x hx => (hl.handed_kind hx).1
    intro o hm i hi
    by_cases ha : o.isAct = true
    · exact Option.some.inj (hi.symm.trans (hl.id? hm ha))
    · rcases hl.cases hm with rfl | ⟨b, rfl⟩ | h1 | ⟨f, p, c, rfl⟩
      · exact absurd rfl ha
      · exact absurd rfl ha
      · cases h1 with
        | target p => exact absurd rfl ha
        | announced port => cases hi
        | madeDirectory p hw => exact absurd rfl ha
      · exact absurd rfl ha
  | turned i os _ t r ph op new handed k hi hp hT he hgone hn =>
    have hop : (ph, op) ∈ s.staged := staged_handler hi hp
    have h1 := hT.stage hp (h.staged _ hop)
    have hid : op.id < s.nextId := ho.fresh _ (staged_live hop)
    refine h.advance he ?_ (he.acts ▸ h1) ?_ (fun x hx => (hT.handedOn hx).1) (hn ▸ hid)
      (Nat.le_of_eq hn.symm)
    · intro o hm i hi
      have h2 := (hT.act hm).take
      cases h2 with
      | complete op' h3 => exact (Option.some.inj hi).symm.trans h3
      | _ => exact (Option.some.inj hi).symm
    · intro x hx hi
      rcases hgone x hx with h2 | h2
      · rw [h2]
        rfl
      · exact absurd hi h2
  | token i os _ tok d new hi ht hd hnew he hn =>
    have hop : (.running, tok.op) ∈ s.staged := staged_queued ht
    have h0 : stageOf tok.op.id s.acts = some .running := h.staged _ hop
    have h1 : stageOf tok.op.id (.touch tok.op.id (some d.conn) :: s.acts) = some .running :=
      stageOf_cons h0 rfl rfl
    have hid : tok.op.id < s.nextId := ho.fresh _ (staged_live hop)
    have hst : stageOf tok.op.id s'.acts = some .running := by
      rw [he.acts]
      rcases hnew with rfl | ⟨response, rfl⟩
      · exact h1
      · exact stageOf_cons h1 rfl rfl
    refine h.advance he ?_ hst ?_ nofun (hn ▸ hid) (Nat.le_of_eq hn.symm)
    · intro o hm i hi
      rcases hnew with rfl | ⟨response, rfl⟩
      · rw [List.mem_singleton.mp hm] at hi
        exact (Option.some.inj hi).symm
      · rcases List.mem_pair.mp hm with rfl | rfl <;> exact (Option.some.inj hi).symm
    · intro x hx hi
      have h2 := h.staged x ((he.staged x hx).resolve_left nofun)
      rw [hi, h0] at h2
      exact (Option.some.inj h2).symm
  | dropped i os _ r hi hr he hgone hn =>
    have hnd : (s.queuedOps.map (·.id)).Nodup := by
      have h1 : s.liveIds.Nodup := ho.nodup
      unfold St.liveIds St.liveOps at h1
      rw [List.map_append] at h1
      exact (List.nodup_append.mp h1).2.1
    have hs : ∀ id, stageOf id s'.acts =
        if id ∈ s.queuedOps.map (·.id) then some .over else stageOf id s.acts := fun id => by
      rw [he.acts]
      exact stageOf_overs hnd fun op hop => h.staged _ (staged_queued hop)
    refine ⟨fun id hi => ?_, fun x hx => ?_, fun id => ?_⟩
    · rw [hs, if_neg]
      · exact h.fresh id (hn ▸ hi)
      · intro hm
        obtain ⟨op, hop, rfl⟩ := List.mem_map.mp hm
        have h1 : op.id < s.nextId := ho.fresh _ (staged_live (staged_queued hop))
        omega
    · rw [hs, if_neg]
      · exact h.staged x ((he.staged x hx).resolve_left nofun)
      · intro hm
        obtain ⟨op, hop, he⟩ := List.mem_map.mp hm
        exact hgone x hx op hop he.symm
    · rw [hs]
      split
      · exact Option.some_ne_none _
      · exact h.known id

end InOrder

theorem inOrder_reach {home : Path} {now : Int} {ok : St → Ev → Prop}
    (h : Reach (step cfg) ok (St.init cfg home c₀ now) s) : InOrder s := by
  refine h.invariant_of (fun s h => ops_reach h) ?_ fun s e s' hO hI _ hs =>
    hI.step hO (booked_step (step_cases hs) hO)
  exact ⟨fun _ _ => rfl, List.forall_mem_nil _, fun _ => Option.some_ne_none _⟩

/-! ## 5. The life of a request -/

/-- A live operation has its phase. -/
theorem staged_of_live (h : id ∈ s.liveIds) : ∃ x ∈ s.staged, x.2.id = id := by
  obtain ⟨op, hop, rfl⟩ := List.mem_map.mp h
  rcases List.mem_append.mp hop with h1 | h1
  · obtain ⟨t, ht, hop⟩ := List.mem_filterMap.mp h1
    have hp : ∃ ph, t.staged? = some (ph, op) := by
      cases t <;> cases hop <;> exact ⟨_, rfl⟩
    obtain ⟨ph, hp⟩ := hp
    exact ⟨(ph, op), mem_staged.mpr (Or.inl ⟨t, ht, hp⟩), rfl⟩
  · exact ⟨(.running, op), staged_queued h1, rfl⟩

theorem Stage.next_over {o : Obs} : Stage.next .over o = none := by cases o <;> rfl

theorem Stage.over_of_next {o : Obs} {st st' : Stage} (ho : o = .over id) (h : st.next o = some st') :
    st' = .over := by
  subst ho
  cases st <;> cases h <;> rfl

theorem Stage.next_ne_fresh {o : Obs} {st : Stage} : st.next o ≠ some .fresh := by
  intro h
  unfold Stage.next at h
  split at h <;> first | cases h | (split at h <;> cases h)

/-- The stage before the last entry. -/
theorem stageOf_last (h : stageOf id (o :: old) ≠ none) (hk : o.id? = some id) :
    ∃ st st', stageOf id old = some st ∧ st.next o = some st' ∧ stageOf id (o :: old) = some st' := by
  obtain ⟨st', hst⟩ := Option.ne_none_iff_exists'.mp h
  have h1 : stageOf id (o :: old) = (stageOf id old).bind (·.next o) := track_cons_key hk
  obtain ⟨st, h2, h3⟩ := Option.bind_eq_some_iff.mp (h1.symm.trans hst)
  exact ⟨st, st', h2, h3, hst⟩

/-- After its operation ended a request is over. -/
theorem stageOf_ended (hn : stageOf id (new ++ .over id :: old) ≠ none) :
    stageOf id (new ++ .over id :: old) = some .over ∧ ∀ o ∈ new, o.id? ≠ some id := by
  obtain ⟨st, st', -, hnext, hst⟩ := stageOf_last (track_old hn) rfl
  cases Stage.over_of_next rfl hnext
  have hnew : ∀ o ∈ new, o.id? ≠ some id := not_key_of_final (fun _ => Stage.next_over) hst hn
  exact ⟨(stageOf_other hnew).trans hst, hnew⟩

/-- **The life of a request**, in every run. Its entries are a word of the automaton of the
    stages; between two handlers it was not dispatched yet, its operation waits for a data
    connection, its operation transfers, or it is over and forgotten. -/
theorem lifecycle {home : Path} {now : Int} {ok : St → Ev → Prop}
    (h : Reach (step cfg) ok (St.init cfg home c₀ now) s) (id : Nat) :
    if id < s.nextId then
      (∃ x ∈ s.staged, x.2.id = id ∧ stageOf id s.acts = some x.1.stage) ∨
        id ∉ s.liveIds ∧ stageOf id s.acts = some .over
    else stageOf id s.acts = some .fresh := by
  have hb := inOrder_reach h
  split
  next hid =>
    by_cases hl : id ∈ s.liveIds
    · obtain ⟨x, hx, rfl⟩ := staged_of_live hl
      exact Or.inl ⟨x, hx, rfl, hb.staged x hx⟩
    · refine Or.inr ⟨hl, ?_⟩
      have hover := (unlost_reach h id hid).resolve_left hl
      obtain ⟨new, old, e⟩ := List.append_of_mem ((mem_acts rfl).mpr hover)
      have hk := hb.known id
      rw [e] at hk ⊢
      exact (stageOf_ended hk).1
  next hid => exact hb.fresh id (Nat.le_of_not_lt hid)

theorem lifecycle_download : ∃ s, runAll (step .shipped) .fresh download = .ok s ∧
    stageOf 2 s.acts = some .over ∧
    ∃ x ∈ s.staged, x.2.id = 3 ∧ stageOf 3 s.acts = some x.1.stage := by
  obtain ⟨s, run, next, dead, alive⟩ : ∃ s, runAll (step .shipped) .fresh download = .ok s ∧
      s.nextId = 4 ∧ (∀ x ∈ s.staged, x.2.id ≠ 2) ∧ 3 ∈ s.liveIds := exists_runAll (by decide +kernel)
  have h := lifecycle (reach_runAll download .start (allOk_of_forall fun _ _ => trivial) run)
  have h2 := h 2
  have h3 := h 3
  rw [next, if_pos (by decide)] at h2 h3
  refine ⟨s, run, ?_, ?_⟩
  · rcases h2 with ⟨x, hx, hid, -⟩ | ⟨-, h2⟩
    · exact absurd hid (dead x hx)
    · exact h2
  · exact h3.resolve_right fun h3 => h3.1 alive

/-- **The bounds of a request**, in every run: nothing is done for it before its line is
    dispatched, and nothing after its operation ended. -/
theorem request_brackets {home : Path} {now : Int} {ok : St → Ev → Prop}
    (h : Reach (step cfg) ok (St.init cfg home c₀ now) s) (id : Nat) {new old : List Obs} :
    (∀ req cwd, s.acts = new ++ .request id req cwd :: old → ∀ o ∈ old, o.id? ≠ some id) ∧
      (s.acts = new ++ .over id :: old → ∀ o ∈ new, o.id? ≠ some id) := by
  have hk := (inOrder_reach h).known id
  constructor
  · intro req cwd e
    rw [e] at hk
    have hk' : stageOf id (.request id req cwd :: old) ≠ none := track_old hk
    obtain ⟨st, st', h1, hnext, -⟩ := stageOf_last hk' rfl
    have hfresh : st = .fresh := by
      cases st <;> first | rfl | cases hnext
    exact not_key_of_start (fun _ _ => Stage.next_ne_fresh) (hfresh ▸ h1)
  · intro e
    rw [e] at hk
    exact (stageOf_ended hk).2

end

theorem request_brackets_download : ∃ s, runAll (step .shipped) .fresh download = .ok s ∧
    (∀ o ∈ s.acts.drop 7, o.id? ≠ some 3) ∧ ∀ o ∈ s.acts.take 7, o.id? ≠ some 2 := by
  obtain ⟨s, run, hr, ho⟩ : ∃ s, runAll (step .shipped) .fresh download = .ok s ∧
      s.acts = s.acts.take 6 ++ .request 3 ⟨"RETR".toList, "a".toList⟩ "/root".toList ::
        s.acts.drop 7 ∧
      s.acts = s.acts.take 7 ++ .over 2 :: s.acts.drop 8 := exists_runAll (by decide +kernel)
  have h := reach_runAll download .start (allOk_of_forall fun _ _ => trivial) run
  exact ⟨s, run, (request_brackets h 3).1 _ _ hr, (request_brackets h 2).2 ho⟩

end OrangeFtpd
