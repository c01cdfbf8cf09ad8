/-
  File:      OrangeFtpd/Invariant/Book.lean
  Subject:   The operations of a session as a book: who is alive, what was done for whom.

  The book of a state has the live operations with the phase they are in (`staged`),
  what was done on behalf of requests and by the peers of data connections (`acts`),
  and the data connections. `Booked` says what one step of the session writes into
  it: a handler of an operation does one `Turn`, a request one `Launch`. Replies,
  transfers, targets and files are followed through the book; the pool, the queue
  and the timers do not show in it.
-/
import OrangeFtpd.Invariant.Operations

namespace OrangeFtpd

/-! ## 1. The book -/

/-- Where an operation is: it waits for its data connection, or has got it. -/
inductive Phase where
  | waiting | running
  deriving DecidableEq, Repr

/-- An entry of the log that is in the book. -/
def Obs.isAct : Obs → Bool
  | .announced _ | .ctlStarted _ | .ctlDone _ | .tokenRun _ | .idleClose | .closed => false
  | _ => true

/-- The operation a handler captures, with its phase. -/
def Task.staged? : Task → Option (Phase × Op)
  | .accept op => some (.waiting, op)
  | .dataWait op _ | .limiter op | .listWrite op _ => some (.running, op)
  | .banner | .read | .idleWait | .keepAlive | .ctlWrite => none

namespace St

/-- The live operations with their phases. -/
def staged (s : St) : List (Phase × Op) :=
  s.handlers.tasks.filterMap Task.staged? ++ s.queuedOps.map (Prod.mk .running)

/-- What was done, newest first. -/
def acts (s : St) : List Obs := s.log.filter Obs.isAct

end St

section

variable {cfg : Config} {os : Os} {id n i : Nat} {s s₁ s' : St} {op op' : Op} {t : Task} {r : Result}
  {m : Message} {o : Obs} {x : Phase × Op} {d : DataSocket}

theorem acts_congr (h : s'.log = s.log) : s'.acts = s.acts := by
  unfold St.acts
  rw [h]

theorem acts_emit (ho : o.isAct = true) : (s.emit o).acts = o :: s.acts :=
  List.filter_cons_of_pos ho

theorem acts_emit_other (ho : o.isAct = false) : (s.emit o).acts = s.acts :=
  List.filter_cons_of_neg (by rw [ho]; exact Bool.false_ne_true)

theorem acts_push : (s.pushMessage id m).acts = .reply id m.buffer :: s.acts := by
  unfold St.acts
  rw [St.pushMessage_log]
  split <;> rfl

theorem acts_destroyOp : (s.destroyOp cfg op).acts = .over op.id :: s.acts := by
  unfold St.acts
  rw [St.destroyOp_log]
  rfl

theorem acts_newRequest :
    s.newRequest.acts = .request s.nextId s.request s.currentPath :: s.acts := rfl

theorem staged_op {t : Task} (h : t.staged? = some x) : t.op? = some x.2 := by
  cases t <;> cases h <;> rfl

theorem mem_staged : x ∈ s.staged ↔
    (∃ t ∈ s.handlers.tasks, t.staged? = some x) ∨ ∃ op ∈ s.queuedOps, x = (.running, op) := by
  unfold St.staged
  rw [List.mem_append, List.mem_filterMap, List.mem_map]
  exact or_congr Iff.rfl (exists_congr fun op => and_congr_right fun _ => eq_comm)

/-- A staged operation is alive. -/
theorem staged_live (h : x ∈ s.staged) : x.2.id ∈ s.liveIds := by
  unfold St.liveIds St.liveOps
  refine List.mem_map_of_mem (List.mem_append.mpr ?_)
  rcases mem_staged.mp h with ⟨t, ht, hx⟩ | ⟨op, ho, rfl⟩
  · exact Or.inl (List.mem_filterMap.mpr ⟨t, ht, staged_op hx⟩)
  · exact Or.inr ho

/-- Nothing was added to the live operations. -/
theorem staged_of (ht : ∀ t ∈ s'.handlers.tasks, t ∈ s.handlers.tasks ∨ t.staged? = none)
    (hq : ∀ op ∈ s'.queuedOps, op ∈ s.queuedOps) (h : x ∈ s'.staged) : x ∈ s.staged := by
  rcases mem_staged.mp h with ⟨t, hm, hx⟩ | ⟨op, ho, rfl⟩
  · rcases ht t hm with h1 | h1
    · exact mem_staged.mpr (Or.inl ⟨t, h1, hx⟩)
    · rw [h1] at hx
      cases hx
  · exact mem_staged.mpr (Or.inr ⟨op, hq op ho, rfl⟩)

theorem staged_congr (ht : s'.handlers.tasks = s.handlers.tasks)
    (hq : s'.messageQueue = s.messageQueue) : s'.staged = s.staged := by
  unfold St.staged St.queuedOps
  rw [ht, hq]

/-- A handler was started. -/
theorem staged_append (ht : s'.handlers.tasks = s.handlers.tasks ++ [t])
    (hq : s'.messageQueue = s.messageQueue) (h : x ∈ s'.staged) :
    t.staged? = some x ∨ x ∈ s.staged := by
  unfold St.staged St.queuedOps at h ⊢
  rw [ht, hq, List.filterMap_append, List.append_assoc, List.mem_append, List.mem_append] at h
  rcases h with h | h | h
  · exact Or.inr (List.mem_append_left _ h)
  · obtain ⟨u, hu, hx⟩ := List.mem_filterMap.mp h
    rw [List.mem_singleton.mp hu] at hx
    exact Or.inl hx
  · exact Or.inr (List.mem_append_right _ h)

/-- A message was queued. -/
theorem staged_push (h : x ∈ (s.pushMessage id m).staged) :
    m.token.map (fun tok => (Phase.running, tok.op)) = some x ∨ x ∈ s.staged := by
  rcases mem_staged.mp h with ⟨t, ht, hx⟩ | ⟨op, ho, rfl⟩
  · rw [St.tasks_pushMessage] at ht
    rcases List.mem_append.mp ht with ht | ht
    · exact Or.inr (mem_staged.mpr (Or.inl ⟨t, ht, hx⟩))
    · split at ht
      · rw [List.mem_singleton.mp ht] at hx
        cases hx
      · cases ht
  · unfold St.queuedOps at ho
    rw [St.pushMessage_messageQueue, List.filterMap_append] at ho
    rcases List.mem_append.mp ho with ho | ho
    · exact Or.inr (mem_staged.mpr (Or.inr ⟨op, ho, rfl⟩))
    · left
      cases hm : m.token with
      | none => simp [hm] at ho
      | some tok =>
        simp only [List.filterMap_cons, hm, Option.map_some, List.filterMap_nil,
          List.mem_singleton] at ho
        rw [ho]
        rfl

theorem staged_destroyOp : (s.destroyOp cfg op).staged = s.staged :=
  staged_congr St.tasks_destroyOp (St.destroyOp_messageQueue ..)

theorem staged_take (i : Nat) (h : x ∈ (s.takeHandler i).staged) : x ∈ s.staged := by
  refine @staged_of s (s.takeHandler i) x (fun t ht => Or.inl ?_) (fun _ h => h) h
  obtain ⟨g, hg, rfl⟩ := Pool.mem_tasks.mp ht
  exact Pool.mem_tasks_of (Pool.mem_of_eraseIdx hg)

end

/-! ## 2. What an operation does -/

/-- **The splice loop** in the book: `k` are the data connections. -/
inductive Splices (d : DataSocket) : List Conn → Op → List Obs → List Conn → Op → Prop where
  | stop (k : List Conn) (op : Op) : Splices d k op [] k op
  | turn (k k' : List Conn) (op op' : Op) (n : Nat) (bytes : Bytes) (new : List Obs)
      (hb : bytes = ((k.getD d.conn {}).inbox).take n)
      (h : Splices d (k.modify d.conn fun q => { q with inbox := q.inbox.drop n })
        { op with fdOffset := op.fdOffset + bytes.length } new k' op') :
      Splices d k op (new ++ [.fs op.id (.wrote op.file op.fdOffset bytes),
        .payload op.id d.conn (.received bytes)]) k' op'

/-- What `completion_token_` does, where it is set. -/
def completionActs (op : Op) : List Obs :=
  if op.completionToken then
    [.reply op.id (Response.getCodeString .transferComplete), .complete op]
  else []

/-- **One turn of the operation `op`**: its handler `t` runs with the result `r` in the state
    `s`. It does the acts (newest first), the operation is handed on or not, and the data
    connections are as given. -/
inductive Turn (cfg : Config) (os : Os) (s : St) (op : Op) :
    Task → Result → List Obs → Option (Phase × Op) → List Conn → Prop where
  | unconnected (r : Result) (hr : ∀ c, r ≠ .conn c) :
      Turn cfg os s op (.accept op) r [.over op.id] none s.conns
  | accepted (c : ConnId) (hk : op.kind = .sendFile ∨ op.kind = .recvFile) :
      Turn cfg os s op (.accept op) (.conn c)
        [.reply op.id (Response.getCodeString .dataConn), .stored op.id c]
        (some (.running, op)) s.conns
  | listAccepted (c : ConnId) (response : Text) (hl : listFile cfg os.listing = .ok response)
      (hs : op.kind ≠ .sendFile) (hr : op.kind ≠ .recvFile) :
      Turn cfg os s op (.accept op) (.conn c)
        [.reply op.id (Response.getCodeString .dataConn), .target op.id s.currentPath,
          .stored op.id c] (some (.running, op)) s.conns
  | waitFailed (t : Task) (r : Result) (hr : r ≠ .ok)
      (ht : t = .limiter op ∨ ∃ c, t = .dataWait op c) :
      Turn cfg os s op t r [.over op.id] none s.conns
  | sendFailed (t : Task) (d : DataSocket) (ht : SendWait op t) (hd : s.dataSocket = some d)
      (hf : os.sendfile = .failed) :
      Turn cfg os s op t .ok [.over op.id, .touch op.id (some d.conn)] none s.conns
  | sendAgain (t : Task) (d : DataSocket) (ht : SendWait op t) (hd : s.dataSocket = some d) :
      Turn cfg os s op t .ok [.touch op.id (some d.conn), .touch op.id (some d.conn)]
        (some (.running, op)) s.conns
  /-- A part of the file was sent; the operation waits for the socket, or for the limiter. -/
  | sentPart (op' : Op) (t : Task) (d : DataSocket) (n : Nat) (last : List Obs)
      (ht : SendWait op t) (hd : s.dataSocket = some d) (hn : n ≤ SendFileOp.fileLeft op)
      (hop : op' = { op with fileOffset := op.fileOffset + n })
      (hl : 0 < SendFileOp.fileLeft op') (hlast : last = [] ∨ last = [.touch op.id (some d.conn)]) :
      Turn cfg os s op t .ok (last ++ [.payload op.id d.conn (.sent op.fileOffset n),
        .touch op.id (some d.conn)]) (some (.running, op')) s.conns
  | sentAll (op' : Op) (t : Task) (d : DataSocket) (n : Nat)
      (ht : SendWait op t) (hd : s.dataSocket = some d) (hn : n ≤ SendFileOp.fileLeft op)
      (hop : op' = { op with fileOffset := op.fileOffset + n })
      (hl : SendFileOp.fileLeft op' = 0) :
      Turn cfg os s op t .ok (.over op.id :: completionActs op' ++
        [.payload op.id d.conn (.sent op.fileOffset n), .touch op.id (some d.conn)]) none s.conns
  | receivedAll (c : ConnId) (d : DataSocket) (hk : op.kind = .recvFile)
      (hd : s.dataSocket = some d) (hi : RecvFileOp.inboxOf d.conn s = []) :
      Turn cfg os s op (.dataWait op c) .ok
        (.over op.id :: completionActs op ++ [.touch op.id (some d.conn)]) none s.conns
  | receiveFailed (op' : Op) (c : ConnId) (d : DataSocket) (new : List Obs) (k : List Conn)
      (hk : op.kind = .recvFile) (hd : s.dataSocket = some d)
      (hf : op.pipeFd = none ∨ .failed ∈ os.splices) (hl : Splices d s.conns op new k op') :
      Turn cfg os s op (.dataWait op c) .ok (.over op.id :: new ++ [.touch op.id (some d.conn)])
        none k
  | receiveAgain (op' : Op) (c : ConnId) (d : DataSocket) (new : List Obs) (k : List Conn)
      (hk : op.kind = .recvFile) (hd : s.dataSocket = some d) (hl : Splices d s.conns op new k op') :
      Turn cfg os s op (.dataWait op c) .ok
        (.touch op.id (some d.conn) :: new ++ [.touch op.id (some d.conn)])
        (some (.running, op')) k
  | listed (c : ConnId) (r : Result) :
      Turn cfg os s op (.listWrite op c) r [.over op.id,
        .reply op.id (Response.getCodeString .transferComplete), .complete op,
        .listed op.id c (r == .ok)] none s.conns

/-! ## 3. Handlers of operations do turns -/

/-- From `s` to `s₁` the acts `new` were done, `handed` was put among the live operations, and
    the data connections are `k` now. -/
structure Entered (s s₁ : St) (new : List Obs) (handed : Option (Phase × Op)) (k : List Conn) :
    Prop where
  acts : s₁.acts = new ++ s.acts
  staged : ∀ x ∈ s₁.staged, handed = some x ∨ x ∈ s.staged
  conns : s₁.conns = k

section

variable {cfg : Config} {os : Os} {id n i : Nat} {s s₁ s₂ s' : St} {op op' : Op} {t : Task}
  {r : Result} {o : Obs} {x : Phase × Op} {d : DataSocket} {new new' : List Obs}
  {handed : Option (Phase × Op)} {k k' : List Conn} {b : SharedConstBuffer}

namespace Entered

theorem trans (h : Entered s s₁ new none k) (h' : Entered s₁ s₂ new' handed k') :
    Entered s s₂ (new' ++ new) handed k' where
  acts := by rw [h'.acts, h.acts, List.append_assoc]
  staged _ hx := by
    rcases h'.staged _ hx with h1 | h1
    · exact Or.inl h1
    · rcases h.staged _ h1 with h2 | h2
      · cases h2
      · exact Or.inr h2
  conns := h'.conns

/-- A change that does not show in the book. -/
theorem same (ha : s'.acts = s.acts) (ht : s'.handlers.tasks = s.handlers.tasks)
    (hq : s'.messageQueue = s.messageQueue) (hc : s'.conns = s.conns) :
    Entered s s' [] none s.conns where
  acts := ha
  staged _ hx := Or.inr (staged_congr ht hq ▸ hx)
  conns := hc

theorem emit (ho : o.isAct = true) : Entered s (s.emit o) [o] none s.conns :=
  ⟨acts_emit ho, fun _ hx => Or.inr hx, rfl⟩

theorem push : Entered s (s.pushMessage id ⟨b, none⟩) [.reply id b] none s.conns :=
  ⟨acts_push, fun _ hx => Or.inr ((staged_push hx).resolve_left nofun), rfl⟩

theorem pushToken {tok : Token} : Entered s (s.pushMessage id ⟨b, some tok⟩) [.reply id b]
    (some (.running, tok.op)) s.conns := ⟨acts_push, fun _ hx => staged_push hx, rfl⟩

theorem clear : Entered s s.clearDataSocket [] none s.conns :=
  .same rfl St.tasks_clearDataSocket rfl rfl

theorem destroyOp (cfg : Config) (op : Op) :
    Entered s (s.destroyOp cfg op) [.over op.id] none s.conns :=
  ⟨acts_destroyOp, fun _ hx => Or.inr (staged_destroyOp ▸ hx), St.destroyOp_conns ..⟩

/-- The operation is destroyed at the end. -/
theorem finish (cfg : Config) (op : Op) (h : Entered s s₁ new none k) :
    Entered s (s₁.destroyOp cfg op) (.over op.id :: new) none k := by
  have h1 := h.trans (destroyOp cfg op)
  rwa [h.conns] at h1

theorem start (q : Option Result) (hx : t.staged? = some x) :
    Entered s (s.startWith t q) [] (some x) s.conns :=
  ⟨rfl, fun _ hy => (staged_append (St.tasks_startWith q) rfl hy).imp_left hx.symm.trans, rfl⟩

/-- A reply is queued at the end. -/
theorem reply (id : Nat) (b : SharedConstBuffer) (h : Entered s s₁ new none k) :
    Entered s (s₁.pushMessage id ⟨b, none⟩) (.reply id b :: new) none k := by
  have h1 : Entered s (s₁.pushMessage id ⟨b, none⟩) _ _ _ := h.trans .push
  rwa [h.conns] at h1

/-- The operation is handed on at the end. -/
theorem handOn (q : Option Result) (hx : t.staged? = some x) (h : Entered s s₁ new none k) :
    Entered s (s₁.startWith t q) new (some x) k := by
  have h1 := h.trans (start q hx)
  rwa [h.conns] at h1

theorem touch (op : Op) (d : DataSocket) :
    Entered s (s.touchSlot op d) [.touch op.id (some d.conn)] none s.conns := .emit rfl

theorem waitData : Entered s (s.waitData op d) [.touch op.id (some d.conn)]
    (some (.running, op)) s.conns :=
  (touch op d).trans (.start _ rfl)

theorem storeConn (op : Op) (c : ConnId) :
    Entered s (s.storeConn op c) [.stored op.id c] none s.conns := by
  have h1 : Entered s s.closeAcceptor [] none s.conns :=
    .same rfl St.tasks_closeAcceptor rfl rfl
  have h2 : Entered s.closeAcceptor (s.closeAcceptor.setDataSocket c) [] none s.conns :=
    .same rfl (St.tasks_setDataSocket c) rfl rfl
  exact (h1.trans h2).trans (.emit rfl)

theorem completion (op : Op) : Entered s (s.runCompletion op) (completionActs op) none s.conns := by
  unfold St.runCompletion completionActs
  split
  · have h1 : Entered s (s.emit (.complete op)) [.complete op] none s.conns := .emit rfl
    exact (h1.trans .push).trans clear
  · exact .same rfl rfl rfl rfl

end Entered

theorem Spliced.entered {s' : St} (h : Spliced d s op s' op') :
    ∃ new k, Splices d s.conns op new k op' ∧ Entered s s' new none k := by
  induction h with
  | stop s op => exact ⟨[], s.conns, .stop .., .same rfl rfl rfl rfl⟩
  | turn s s' op op' n bytes hb h ih =>
    obtain ⟨new, k, hs, he⟩ := ih
    refine ⟨_, k, .turn s.conns k op op' n bytes new hb hs, ?_⟩
    have h0 : Entered s (RecvFileOp.takeInbox d.conn n s) [] none _ :=
      ⟨rfl, fun _ hx => Or.inr hx, rfl⟩
    exact ((h0.trans (.emit rfl)).trans (.emit rfl)).trans he

/-- **A handler of an operation** does one turn. -/
theorem OpHandled.turn (h : OpHandled cfg os op t r s s₁) :
    ∃ new handed k, Turn cfg os s op t r new handed k ∧ Entered s s₁ new handed k := by
  cases h with
  | acceptAborted _ ha => exact ⟨_, _, _, .unconnected _ nofun, .destroyOp cfg op⟩
  | acceptFailed _ _ hr hr' =>
    have h1 : Entered s s.closeAcceptor [] none s.conns :=
      .same rfl St.tasks_closeAcceptor rfl rfl
    exact ⟨_, _, _, .unconnected _ hr', h1.finish cfg op⟩
  | accepted c _ tok htok =>
    have ht : tok.op = op := by
      rcases htok with ⟨_, rfl⟩ | ⟨_, rfl⟩ <;> rfl
    have hk : op.kind = .sendFile ∨ op.kind = .recvFile := htok.imp (·.1) (·.1)
    have h1 : Entered s ((s.storeConn op c).pushMessage op.id
        ⟨Response.getCodeString .dataConn, some tok⟩) _ _ _ :=
      (Entered.storeConn op c).trans .pushToken
    rw [ht] at h1
    exact ⟨_, _, _, .accepted c hk, h1⟩
  | listAccepted c _ response hl hs hr =>
    exact ⟨_, _, _, .listAccepted c response hl hs hr,
      ((Entered.storeConn op c).trans (.emit rfl)).trans .pushToken⟩
  | waitFailed _ _ _ hr hw => exact ⟨_, _, _, .waitFailed t r hr hw, .destroyOp cfg op⟩
  | sendFailed _ _ d hw hd ho hf =>
    exact ⟨_, _, _, .sendFailed t d hw hd hf, (Entered.touch op d).finish cfg op⟩
  | sendAgain _ _ d hw hd ho =>
    exact ⟨_, _, _, .sendAgain t d hw hd, (Entered.touch op d).trans .waitData⟩
  | sentMore op' _ _ d n hw hd ho hn hop hl =>
    subst hop
    exact ⟨_, _, _, .sentPart _ t d n _ hw hd hn rfl hl (Or.inr rfl),
      ((Entered.touch op d).trans (.emit rfl)).trans .waitData⟩
  | sentSlice op' _ _ d n hw hd ho hn hop hl =>
    exact ⟨_, _, _, .sentPart op' t d n [] hw hd hn hop hl (Or.inl rfl),
      ((Entered.touch op d).trans (.emit rfl)).trans (.start none rfl)⟩
  | sentAll op' _ _ d n hw hd ho hn hop hl =>
    have he : Entered s ((s.touchSlot op d).emit (.payload op.id d.conn (.sent op.fileOffset n)))
        [.payload op.id d.conn (.sent op.fileOffset n), .touch op.id (some d.conn)] none s.conns :=
      (Entered.touch op d).trans (.emit rfl)
    have hid : op'.id = op.id := by rw [hop]
    have h1 := (he.trans (.completion op')).finish cfg op'
    rw [hid] at h1
    exact ⟨_, _, _, .sentAll op' t d n hw hd hn hop hl, h1⟩
  | receivedAll c _ d hk hd ho hi =>
    exact ⟨_, _, _, .receivedAll c d hk hd hi,
      ((Entered.touch op d).trans (.completion op)).finish cfg op⟩
  | receiveFailed op' c _ s₂ d hk hd ho hf hl =>
    obtain ⟨new, k, hs, he⟩ := hl.entered
    have hid : op'.id = op.id := hl.quiet.2
    have h1 := ((Entered.touch op d).trans he).finish cfg op'
    rw [hid] at h1
    exact ⟨_, _, _, .receiveFailed op' c d new k hk hd hf hs, h1⟩
  | receiveAgain op' c _ s₂ d hk hd ho hl =>
    obtain ⟨new, k, hs, he⟩ := hl.entered
    have hid : op'.id = op.id := hl.quiet.2
    have h1 : Entered s (s₂.waitData op' d) _ _ _ := ((Entered.touch op d).trans he).trans .waitData
    rw [hid, he.conns] at h1
    exact ⟨_, _, _, .receiveAgain op' c d new k hk hd hs, h1⟩
  | listed c _ _ =>
    have h1 : Entered s ((s.emit (.listed op.id c (r == .ok))).emit (.complete op))
        [.complete op, .listed op.id c (r == .ok)] none s.conns :=
      (Entered.emit rfl).trans (.emit rfl)
    exact ⟨_, _, _, .listed c r, ((h1.trans .push).trans .clear).finish cfg op⟩

end

/-! ## 4. Requests launch operations -/

/-- What the constructor of STOR does after its open succeeded. -/
def openedActs (os : Os) (id : Nat) (op : Op) (p path : Path) (created : Bool) : List Obs :=
  (if os.pipe.isSome then [] else [.reply id RecvFileOp.failedReply]) ++
    [.fs id (.opened op.file path created), .target id p]

/-- **The launch of an operation** for the request `id`: what it does, and whether it is alive
    afterwards. -/
inductive Launch (cfg : Config) (os : Os) (id : Nat) (kind : OpKind) (s : St) :
    List Obs → Option (Phase × Op) → Prop where
  | answered (op : Op) (notes : List Obs) (b : SharedConstBuffer) (hf : Fresh id kind op)
      (hn : ∀ o ∈ notes, Note cfg id o) (hb : b.code.isFinal = true) :
      Launch cfg os id kind s (.over id :: .reply id b :: notes) none
  | silent (notes : List Obs) (file : FileId) (hk : kind = .sendFile)
      (hn : ∀ o ∈ notes, Note cfg id o) (ho : os.openFile = .ok (0, file)) :
      Launch cfg os id kind s (.over id :: notes) none
  | waiting (op : Op) (notes : List Obs) (hk : kind = .sendFile ∨ kind = .list)
      (hf : Fresh id kind op) (ht : kind = .sendFile → op.completionToken = true)
      (hn : ∀ o ∈ notes, Note cfg id o) :
      Launch cfg os id kind s notes (some (.waiting, op))
  | uploadNull (op : Op) (s₂ : St) (p path : Path) (created : Bool) (hk : kind = .recvFile)
      (hu : Uploaded os id s op s₂) (hfd : op.fd = 0) :
      Launch cfg os id kind s (.over id :: openedActs os id op p path created) none
  | uploadRefused (op : Op) (s₂ : St) (p path : Path) (created : Bool) (hk : kind = .recvFile)
      (hu : Uploaded os id s op s₂) (hfd : 0 < op.fd) :
      Launch cfg os id kind s (.over id :: .reply id (Response.getCodeString .invalidSeq) ::
        openedActs os id op p path created) none
  | uploadWaiting (op : Op) (s₂ : St) (p path : Path) (created : Bool) (hk : kind = .recvFile)
      (hu : Uploaded os id s op s₂) (hfd : 0 < op.fd) :
      Launch cfg os id kind s (openedActs os id op p path created)
        (some (.waiting, { op with completionToken := true }))

section

variable {cfg : Config} {os : Os} {id n i : Nat} {kind : OpKind} {s s₁ s₂ s' : St} {op op' : Op}
  {t : Task} {r : Result} {c₀ : UInt32}

theorem Prelude.entered (h : Prelude cfg id s.basicOp s₁) :
    ∃ notes, (∀ o ∈ notes, Note cfg id o) ∧ Entered s s₁ notes none s.conns := by
  obtain ⟨new, hl, hn⟩ := h.log
  refine ⟨new.filter Obs.isAct, fun o ho => hn o (List.mem_filter.mp ho).1, ?_, ?_, h.conns⟩
  · unfold St.acts
    rw [hl, List.filter_append]
    rfl
  · intro x hx
    have ht : s₁.handlers.tasks = s.basicOp.handlers.tasks := ?_
    · rw [staged_congr ht h.messageQueue] at hx
      exact Or.inr hx
    · rcases h.handlers with e | e
      · rw [e]
      · rw [e, Pool.tasks_cancel]

theorem Uploaded.entered (h : Uploaded os id s op s₂) :
    ∃ p path created, Entered s s₂ (openedActs os id op p path created) none s.conns := by
  obtain ⟨p, path, created, rfl⟩ := h.state
  refine ⟨p, path, created, ?_⟩
  have h0 : Entered s s.basicOp [] none s.conns := .same rfl rfl rfl rfl
  have h1 : Entered s ((s.basicOp.emit (.target id p)).emit (.fs id (.opened op.file path created)))
      [.fs id (.opened op.file path created), .target id p] none s.conns :=
    (h0.trans (.emit rfl)).trans (.emit rfl)
  unfold openedActs
  dsimp only
  split
  · exact h1
  · exact h1.trans .push

/-- **A request that creates an operation** launches it. -/
theorem Began.launch (h : Began cfg os id kind s s') :
    ∃ new handed, Launch cfg os id kind s new handed ∧ Entered s s' new handed s.conns := by
  cases h with
  | answered op s₁ b hf hp hb =>
    obtain ⟨notes, hn, he⟩ := hp.entered
    have h1 := (he.reply id b).finish cfg op
    rw [hf.id] at h1
    exact ⟨_, _, .answered op notes b hf hn hb, h1⟩
  | silent op s₁ file hk hf hp ho =>
    obtain ⟨notes, hn, he⟩ := hp.entered
    have h1 := he.finish cfg op
    rw [hf.id] at h1
    exact ⟨_, _, .silent notes file hk hn ho, h1⟩
  | waiting op s₁ hk hf ht hp ha =>
    obtain ⟨notes, hn, he⟩ := hp.entered
    exact ⟨_, _, .waiting op notes hk hf ht hn, he.handOn none rfl⟩
  | uploadNull op s₂ hk hu hfd =>
    obtain ⟨p, path, created, he⟩ := hu.entered
    have h1 := he.finish cfg op
    rw [hu.fresh.id] at h1
    exact ⟨_, _, .uploadNull op s₂ p path created hk hu hfd, h1⟩
  | uploadRefused op s₂ hk hu hfd ha =>
    obtain ⟨p, path, created, he⟩ := hu.entered
    have h1 := (he.reply id (Response.getCodeString .invalidSeq)).finish cfg op
    rw [hu.fresh.id] at h1
    exact ⟨_, _, .uploadRefused op s₂ p path created hk hu hfd, h1⟩
  | uploadWaiting op s₂ hk hu hfd ha =>
    obtain ⟨p, path, created, he⟩ := hu.entered
    exact ⟨_, _, .uploadWaiting op s₂ p path created hk hu hfd, he.handOn none rfl⟩

/-- The acts of a launch: notes, the open of an upload, replies, the end. -/
theorem Launch.cases {new : List Obs} {handed : Option (Phase × Op)} {o : Obs}
    (h : Launch cfg os id kind s new handed) (hm : o ∈ new) : o = .over id ∨
      (∃ b, o = .reply id b) ∨ Note cfg id o ∨
      ∃ file path created, o = .fs id (.opened file path created) := by
  have opened : ∀ {op : Op} {p path : Path} {created : Bool},
      o ∈ openedActs os id op p path created → o = .over id ∨ (∃ b, o = .reply id b) ∨
        Note cfg id o ∨ ∃ file path created, o = .fs id (.opened file path created) := by
    intro op p path created hm
    rcases List.mem_append.mp hm with h1 | h1
    · split at h1
      · cases h1
      · exact Or.inr (Or.inl ⟨_, List.mem_singleton.mp h1⟩)
    · rcases List.mem_cons.mp h1 with h2 | h2
      · exact Or.inr (Or.inr (Or.inr ⟨_, _, _, h2⟩))
      · exact Or.inr (Or.inr (Or.inl (List.mem_singleton.mp h2 ▸ .target p)))
  cases h with
  | answered op notes b hf hn hb =>
    rcases List.mem_cons.mp hm with h1 | h1
    · exact Or.inl h1
    · rcases List.mem_cons.mp h1 with h2 | h2
      · exact Or.inr (Or.inl ⟨b, h2⟩)
      · exact Or.inr (Or.inr (Or.inl (hn o h2)))
  | silent notes file hk hn ho =>
    exact (List.mem_cons.mp hm).imp_right fun h1 => Or.inr (Or.inl (hn o h1))
  | waiting op notes hk hf ht hn => exact Or.inr (Or.inr (Or.inl (hn o hm)))
  | uploadNull op s₂ p path created hk hu hfd =>
    exact (List.mem_cons.mp hm).elim Or.inl opened
  | uploadRefused op s₂ p path created hk hu hfd =>
    rcases List.mem_cons.mp hm with h1 | h1
    · exact Or.inl h1
    · rcases List.mem_cons.mp h1 with h2 | h2
      · exact Or.inr (Or.inl ⟨_, h2⟩)
      · exact opened h2
  | uploadWaiting op s₂ p path created hk hu hfd => exact opened hm

/-! ## 5. What a step writes into the book -/

/-- What is written about the peer of a data connection. -/
inductive PeerAct : List Conn → Obs → List Conn → Prop where
  | send (k : List Conn) (c : ConnId) (bytes : Bytes) (hc : c < k.length)
      (hp : (k.getD c {}).peer = .connected) : PeerAct k (.peerSent c bytes)
        (k.modify c fun q => { q with inbox := q.inbox ++ bytes })
  | shutdown (k : List Conn) (c : ConnId) (hc : c < k.length)
      (hp : (k.getD c {}).peer = .connected) : PeerAct k (.peerShutdown c)
        (k.modify c fun q => { q with peer := .shutdown })
  | reset (k : List Conn) (c : ConnId) (hc : c < k.length) :
      PeerAct k (.peerReset c) (k.modify c fun _ => { inbox := [], peer := .reset })

/-- The request line that the queued read at `i` has. -/
structure ReadsLine (s : St) (i : Nat) (req : FtpRequest) : Prop where
  read : s.handlers[i]? = some ⟨.read, some .ok⟩
  line : buildRequest (splitWords (s.buf.take ((lineEnd s.buf).getD 0))) = some req

/-- **What one step writes.** -/
inductive Booked (cfg : Config) (s : St) : Ev → St → Prop where
  /-- Nothing. -/
  | same (e : Ev) (s' : St) (h : Entered s s' [] none s.conns) (hn : s'.nextId = s.nextId) :
      Booked cfg s e s'
  /-- A peer connects. -/
  | connect (i : Nat) (c : ConnId) (s' : St) (h : Entered s s' [] none (s.conns ++ [({} : Conn)]))
      (hn : s'.nextId = s.nextId) : Booked cfg s (.complete i (.conn c)) s'
  | peer (e : Ev) (s' : St) (o : Obs) (k : List Conn) (hp : PeerAct s.conns o k)
      (h : Entered s s' [o] none k) (hn : s'.nextId = s.nextId) : Booked cfg s e s'
  /-- A request that creates no operation. -/
  | refused (i : Nat) (os : Os) (s' : St) (req : FtpRequest) (b : SharedConstBuffer)
      (hr : ReadsLine s i req) (hv : s.verified = true) (hc : createKind req.command = none)
      (hb : b.code.isFinal = true)
      (h : Entered s s' [.over s.nextId, .reply s.nextId b, .request s.nextId req s.currentPath]
        none s.conns) (hn : s'.nextId = s.nextId + 1) : Booked cfg s (.run i os) s'
  | launched (i : Nat) (os : Os) (s' : St) (req : FtpRequest) (kind : OpKind) (s₁ : St)
      (new : List Obs) (handed : Option (Phase × Op)) (hr : ReadsLine s i req)
      (hk : (s.verified = false ∧ kind = .auth) ∨
        (s.verified = true ∧ createKind req.command = some kind))
      (hs₁ : s₁.request = req ∧ s₁.isAnonymous = s.isAnonymous ∧ s₁.currentPath = s.currentPath)
      (hl : Launch cfg os s.nextId kind s₁ new handed)
      (h : Entered s s' (new ++ [.request s.nextId req s.currentPath]) handed s.conns)
      (hn : s'.nextId = s.nextId + 1) : Booked cfg s (.run i os) s'
  /-- A handler of the operation `op`, which was in the phase `ph`. -/
  | turned (i : Nat) (os : Os) (s' : St) (t : Task) (r : Result) (ph : Phase) (op : Op)
      (new : List Obs) (handed : Option (Phase × Op)) (k : List Conn)
      (hi : s.handlers[i]? = some ⟨t, some r⟩) (hp : t.staged? = some (ph, op))
      (hT : Turn cfg os (s.takeHandler i) op t r new handed k) (h : Entered s s' new handed k)
      (hgone : ∀ x ∈ s'.staged, handed = some x ∨ x.2.id ≠ op.id) (hn : s'.nextId = s.nextId) :
      Booked cfg s (.run i os) s'
  /-- The token of a message that was written. -/
  | token (i : Nat) (os : Os) (s' : St) (tok : Token) (d : DataSocket) (new : List Obs)
      (hi : s.handlers[i]? = some ⟨.ctlWrite, some .ok⟩) (ht : tok.op ∈ s.queuedOps)
      (hd : s.dataSocket = some d)
      (hnew : new = [.touch tok.op.id (some d.conn)] ∨ ∃ response,
        new = [.payload tok.op.id d.conn (.listing response), .touch tok.op.id (some d.conn)])
      (h : Entered s s' new none s.conns) (hn : s'.nextId = s.nextId) : Booked cfg s (.run i os) s'
  /-- A control write failed: the operations of the queue are gone. -/
  | dropped (i : Nat) (os : Os) (s' : St) (r : Result)
      (hi : s.handlers[i]? = some ⟨.ctlWrite, some r⟩) (hr : r ≠ .ok)
      (h : Entered s s' ((s.queuedOps.map fun op => .over op.id).reverse) none s.conns)
      (hgone : ∀ x ∈ s'.staged, ∀ op ∈ s.queuedOps, x.2.id ≠ op.id) (hn : s'.nextId = s.nextId) :
      Booked cfg s (.run i os) s'

namespace Entered

/-- A change of the session's own state. -/
theorem quiet (hl : s'.log = s.log) (ht : ∀ u ∈ s'.handlers.tasks, u ∈ s.handlers.tasks ∨ u.staged? = none)
    (hq : ∀ op ∈ s'.queuedOps, op ∈ s.queuedOps) (hc : s'.conns = s.conns) :
    Entered s s' [] none s.conns :=
  ⟨acts_congr hl, fun _ hx => Or.inr (staged_of ht hq hx), hc⟩

/-- What comes after does not show. -/
theorem then_same {new : List Obs} {handed : Option (Phase × Op)} {k : List Conn}
    (h : Entered s s₁ new handed k) (h' : Entered s₁ s₂ [] none s₁.conns) :
    Entered s s₂ new handed k where
  acts := h'.acts.trans h.acts
  staged x hx := h.staged x ((h'.staged x hx).resolve_left nofun)
  conns := h'.conns.trans h.conns

/-- What came before does not show. -/
theorem same_then {new : List Obs} {handed : Option (Phase × Op)} {k : List Conn}
    (h : Entered s s₁ [] none s.conns) (h' : Entered s₁ s₂ new handed k) :
    Entered s s₂ new handed k where
  acts := by rw [h'.acts, h.acts]; rfl
  staged x hx := (h'.staged x hx).imp_right fun h1 => (h.staged x h1).resolve_left nofun
  conns := h'.conns

theorem take (s : St) (i : Nat) : Entered s (s.takeHandler i) [] none s.conns :=
  ⟨rfl, fun _ hx => Or.inr (staged_take i hx), rfl⟩

theorem logged (o : Obs) (ho : o.isAct = false) : Entered s (s.emit o) [] none s.conns :=
  ⟨acts_emit_other ho, fun _ hx => Or.inr hx, rfl⟩

theorem release (t : Task) : Entered s (s.releaseSession t) [] none s.conns := .same rfl rfl rfl rfl

theorem neverExpire : Entered s s.neverExpire [] none s.conns :=
  .same rfl St.tasks_neverExpire rfl rfl

theorem updateIdleTimer : Entered s (s.updateIdleTimer cfg) [] none s.conns :=
  .same rfl St.tasks_updateIdleTimer rfl rfl

theorem close : Entered s s.close [] none s.conns :=
  .same (acts_emit_other rfl) St.tasks_close rfl rfl

/-- A handler of the session is started. -/
theorem started (q : Option Result) (ht : t.staged? = none) :
    Entered s (s.startWith t q) [] none s.conns :=
  .quiet rfl (fun u hu => by
    rw [St.tasks_startWith] at hu
    rcases List.mem_append.mp hu with hu | hu
    · exact Or.inl hu
    · rw [List.mem_singleton.mp hu]
      exact Or.inr ht)
    (fun _ h => h) rfl

theorem doRead : Entered s s.doRead [] none s.conns := .started _ rfl

theorem restartIdleTimer : Entered s (s.restartIdleTimer cfg) [] none s.conns :=
  .same (acts_congr (by simp)) (by simp) (by simp) (by simp)

theorem rearmIdle : Entered s (s.rearmIdle cfg) [] none s.conns := by
  unfold St.rearmIdle
  split
  · exact .same rfl rfl rfl rfl
  · exact updateIdleTimer

theorem takeLine (req : FtpRequest) : Entered s (s.takeLine n req) [] none s.conns :=
  .same rfl rfl rfl rfl

theorem newRequest : Entered s s.newRequest [.request s.nextId s.request s.currentPath] none
    s.conns := ⟨rfl, fun _ hx => Or.inr hx, rfl⟩

theorem writeNext {rest : List Message}
    (hq : ∀ op ∈ (s.withQueue rest).queuedOps, op ∈ s.queuedOps) :
    Entered s (s.writeNext cfg rest) [] none s.conns := by
  have h1 : Entered s (s.withQueue rest) [] none s.conns :=
    .quiet rfl (fun _ h => Or.inl h) hq rfl
  cases rest with
  | nil => exact h1.then_same restartIdleTimer
  | cons m rest => exact (h1.then_same (.logged _ rfl)).then_same (.started _ rfl)

/-- The token of a queued message. -/
theorem startToken {tok : Token} : ∃ new, (new = [.touch tok.op.id (some d.conn)] ∨ ∃ response,
    new = [.payload tok.op.id d.conn (.listing response), .touch tok.op.id (some d.conn)]) ∧
    Entered s (s.startToken d tok) new (some (.running, tok.op)) s.conns := by
  cases tok with
  | doSendFile op => exact ⟨_, Or.inl rfl, waitData⟩
  | doRecvFile op => exact ⟨_, Or.inl rfl, waitData⟩
  | writeListing op response =>
    exact ⟨_, Or.inr ⟨response, rfl⟩, ((touch op d).trans (.emit rfl)).handOn _ rfl⟩

end Entered

/-- The operations of the dropped queue are destroyed. -/
theorem dropQueue_entered : Entered s (s.dropQueue cfg)
    ((s.queuedOps.map fun op => .over op.id).reverse) none s.conns := by
  have fold : ∀ (ops : List Op) (s : St), Entered s (ops.foldl (fun t op => t.destroyOp cfg op) s)
      ((ops.map fun op => .over op.id).reverse) none s.conns := by
    intro ops
    induction ops with
    | nil => exact fun s => .same rfl rfl rfl rfl
    | cons op ops ih =>
      intro s
      have h1 := (Entered.destroyOp (s := s) cfg op).trans (ih (s.destroyOp cfg op))
      rw [St.destroyOp_conns] at h1
      simpa using h1
  have h0 : Entered s (s.withQueue []) [] none s.conns :=
    .quiet rfl (fun _ h => Or.inl h) (fun _ h => by cases h) rfl
  exact h0.same_then (fold s.queuedOps _)

/-- A handler of the session that does not run a line or the queue. -/
theorem session_same (hh : SessionHandled cfg os t r s s₁) (ht : t ≠ .ctlWrite)
    (hl : t = .read → r ≠ .ok) : Entered s s₁ [] none s.conns ∧ s₁.nextId = s.nextId := by
  cases hh with
  | banner _ =>
    exact ⟨(Entered.updateIdleTimer.then_same .doRead).then_same (.started _ rfl), rfl⟩
  | bannerFailed _ _ hr => exact ⟨.same rfl rfl rfl rfl, rfl⟩
  | readEof _ h0 => exact ⟨.close, rfl⟩
  | readEofBusy _ h0 =>
    exact ⟨(Entered.close.then_same .neverExpire).then_same (.started _ rfl), rfl⟩
  | readFailed _ _ hr hr' => exact ⟨.same rfl rfl rfl rfl, rfl⟩
  | readLine _ s₂ hline => exact absurd rfl (hl rfl)
  | idleStoped _ _ h0 => exact ⟨.same rfl rfl rfl rfl, rfl⟩
  | idleAgain _ _ h0 hx => exact ⟨.started _ rfl, rfl⟩
  | idleClose _ _ h0 hx => exact ⟨(Entered.logged _ rfl).then_same .close, rfl⟩
  | keepAlive _ _ => exact ⟨.same rfl rfl rfl rfl, rfl⟩
  | writeFailed _ _ hr => exact absurd rfl ht
  | written _ s₂ m rest hq htok => exact absurd rfl ht

theorem nextId_tokenRun {tok : Option Token} (h : TokenRun s tok s₁) : s₁.nextId = s.nextId := by
  cases h with
  | none => rfl
  | some tok d hd => cases tok <;> rfl

theorem nextId_writeNext {rest : List Message} : (s.writeNext cfg rest).nextId = s.nextId := by
  cases rest with
  | nil => exact St.restartIdleTimer_nextId ..
  | cons m rest => rfl

theorem nextId_dropQueue : (s.dropQueue cfg).nextId = s.nextId := by
  have fold : ∀ (ops : List Op) (s : St),
      (ops.foldl (fun t op => t.destroyOp cfg op) s).nextId = s.nextId := by
    intro ops
    induction ops with
    | nil => exact fun s => rfl
    | cons op ops ih => exact fun s => (ih _).trans (St.destroyOp_nextId ..)
  exact fold _ _

theorem OpRun.nextId (h : OpRun cfg id s s') : s'.nextId = s.nextId := by
  induction h with
  | quiet hq hr ih => exact ih.trans hq.nextId
  | reply b hr ih => exact ih
  | ended op hop => exact St.destroyOp_nextId ..
  | queued b tok hop => rfl
  | started t op r ht hop => rfl

/-- The operation a turn was done by is not among the others. -/
theorem gone_of_take {q : Option Result} {hand : Option (Phase × Op)} (ho : Ops c₀ [] s)
    (hi : s.handlers[i]? = some ⟨t, q⟩) (ht : t.op? = some op)
    (hst : ∀ x ∈ s'.staged, hand = some x ∨ x ∈ (s.takeHandler i).staged) :
    ∀ x ∈ s'.staged, hand = some x ∨ x.2.id ≠ op.id := by
  have hn := (ho.take hi).nodup
  rw [ht] at hn
  intro x hx
  refine (hst x hx).imp_right fun h1 he => (List.nodup_cons.mp hn).1 ?_
  have hl := staged_live h1
  rw [he] at hl
  exact hl

theorem tasks_dropQueue : (s.dropQueue cfg).handlers.tasks = s.handlers.tasks := by
  have fold : ∀ (ops : List Op) (s : St),
      (ops.foldl (fun t op => t.destroyOp cfg op) s).handlers.tasks = s.handlers.tasks := by
    intro ops
    induction ops with
    | nil => exact fun s => rfl
    | cons op ops ih => exact fun s => (ih _).trans St.tasks_destroyOp
  exact fold _ _

theorem messageQueue_dropQueue : (s.dropQueue cfg).messageQueue = [] := by
  have fold : ∀ (ops : List Op) (s : St),
      (ops.foldl (fun t op => t.destroyOp cfg op) s).messageQueue = s.messageQueue := by
    intro ops
    induction ops with
    | nil => exact fun s => rfl
    | cons op ops ih => exact fun s => (ih _).trans (St.destroyOp_messageQueue ..)
  exact fold _ _

/-- The operations of the queue are not among those that handlers hold. -/
theorem gone_of_drop {q : Option Result} (ho : Ops c₀ [] s)
    (hi : s.handlers[i]? = some ⟨.ctlWrite, q⟩)
    (ht : s'.handlers.tasks = (s.takeHandler i).handlers.tasks) (hq : s'.messageQueue = []) :
    ∀ x ∈ s'.staged, ∀ op ∈ s.queuedOps, x.2.id ≠ op.id := by
  have hn : (s.takeHandler i).liveIds.Nodup := (ho.take hi).nodup
  unfold St.liveIds St.liveOps at hn
  rw [List.map_append, List.nodup_append] at hn
  intro x hx op hop he
  rcases mem_staged.mp hx with ⟨t, hm, hs⟩ | ⟨y, hy, -⟩
  · rw [ht] at hm
    exact hn.2.2 _ (List.mem_map_of_mem (List.mem_filterMap.mpr ⟨t, hm, staged_op hs⟩)) _
      (List.mem_map_of_mem hop) he
  · unfold St.queuedOps at hy
    rw [hq] at hy
    cases hy

/-- `handle_read`. -/
theorem Line.booked (hi : s.handlers[i]? = some ⟨.read, some .ok⟩)
    (hl : Line cfg os ((lineEnd s.buf).getD 0) (s.takeHandler i).neverExpire s₁) :
    Booked cfg s (.run i os) (s₁.doRead.releaseSession .read) := by
  have h0 : Entered s (s.takeHandler i).neverExpire [] none s.conns :=
    (Entered.take s i).then_same .neverExpire
  have hend : ∀ {new : List Obs} {handed : Option (Phase × Op)} {k : List Conn},
      Entered s s₁ new handed k → Entered s (s₁.doRead.releaseSession .read) new handed k :=
    fun h => (h.then_same .doRead).then_same (.release _)
  have hnew : ∀ req, Entered s (((s.takeHandler i).neverExpire).takeLine ((lineEnd s.buf).getD 0)
      req).newRequest [.request s.nextId req s.currentPath] none s.conns := fun req =>
    (h0.then_same (.takeLine req)).same_then .newRequest
  cases hl with
  | blank hb =>
    refine .same _ _ (hend ((h0.then_same (.takeLine {})).then_same .rearmIdle)) ?_
    show (St.rearmIdle cfg _).nextId = _
    unfold St.rearmIdle
    split <;> rfl
  | refused req b hb hv hc hf =>
    have h1 := ((hnew req).reply s.nextId b).trans (.emit (o := .over s.nextId) rfl)
    refine .refused i os _ req b ⟨hi, hb⟩ hv hc hf (hend (h1.then_same .rearmIdle)) ?_
    show (St.rearmIdle cfg _).nextId = _
    unfold St.rearmIdle
    split <;> rfl
  | began req kind _ hb hk hs =>
    obtain ⟨new, handed, hL, he⟩ := hs.launch
    exact .launched i os _ req kind (((s.takeHandler i).neverExpire).takeLine _ req).newRequest
      new handed ⟨hi, hb⟩ hk ⟨rfl, rfl, rfl⟩ hL
      (hend ((hnew req).trans he))
      hs.opRun.nextId

/-- **Every step** writes into the book in one of the ways of `Booked`. -/
theorem booked_step {e : Ev} (hs : Stepped cfg s e s') (ho : Ops c₀ [] s) : Booked cfg s e s' := by
  cases hs with
  | clientSend chunk hr =>
    exact .same _ _ (.same rfl (St.tasks_receive chunk) rfl rfl) rfl
  | clientGone => exact .same _ _ (.same rfl rfl rfl rfl) rfl
  | peerSend c bytes hc hp =>
    exact .peer _ _ (.peerSent c bytes) _ (.send s.conns c bytes hc hp)
      ⟨acts_emit rfl, fun _ hx => Or.inr hx, rfl⟩ rfl
  | peerShutdown c hc hp =>
    exact .peer _ _ (.peerShutdown c) _ (.shutdown s.conns c hc hp)
      ⟨acts_emit rfl, fun _ hx => Or.inr hx, rfl⟩ rfl
  | peerReset c hc =>
    exact .peer _ _ (.peerReset c) _ (.reset s.conns c hc)
      ⟨acts_emit rfl, fun _ hx => Or.inr hx, rfl⟩ rfl
  | tick ms => exact .same _ _ (.same rfl rfl rfl rfl) rfl
  | complete i r t hi hc =>
    have hst : ∀ x ∈ (s.completeAt i r).staged, x ∈ s.staged := fun x hx =>
      @staged_congr s (s.completeAt i r) (St.tasks_completeAt i r) rfl ▸ hx
    cases r with
    | ok => exact .same _ _ ⟨rfl, fun x hx => Or.inr (hst x hx), rfl⟩ rfl
    | conn c => exact .connect i c _ ⟨rfl, fun x hx => Or.inr (hst x hx), rfl⟩ rfl
    | err ec => exact .same _ _ ⟨rfl, fun x hx => Or.inr (hst x hx), rfl⟩ rfl
  | run i os t r s₁ hi hh =>
    have htake := Entered.take s i
    cases hh with
    | operation op hop hh =>
      obtain ⟨new, handed, k, hT, he⟩ := hh.turn
      have hp : ∃ ph, t.staged? = some (ph, op) := by
        cases t <;> cases hop <;> exact ⟨_, rfl⟩
      obtain ⟨ph, hp⟩ := hp
      have h1 := he.then_same (.release t)
      exact .turned i os _ t r ph op new handed k hi hp hT (htake.same_then h1)
        (gone_of_take ho hi hop h1.staged) hh.opRun.nextId
    | session hh =>
      by_cases hr : t = .read ∧ r = .ok
      · obtain ⟨rfl, rfl⟩ := hr
        cases hh with
        | readLine _ s₂ hl => exact hl.booked hi
        | readFailed _ _ hr hr' => exact absurd rfl hr
      by_cases hw : t = .ctlWrite
      · subst hw
        cases hh with
        | writeFailed _ _ hr =>
          have h1 : Entered s (((s.takeHandler i).emit (.ctlDone false)).dropQueue cfg) _ _ _ :=
            (htake.then_same (.logged _ rfl)).same_then dropQueue_entered
          exact .dropped i os _ r hi hr (h1.then_same (.release _))
            (gone_of_drop ho hi tasks_dropQueue messageQueue_dropQueue) nextId_dropQueue
        | written _ s₂ m rest hq htok =>
          have hw : Entered s₂ (s₂.writeNext cfg rest) [] none s₂.conns := by
            refine .writeNext fun op ho => ?_
            have hq₂ : s₂.messageQueue = m :: rest := (messageQueue_tokenRun htok).trans hq
            unfold St.queuedOps at ho ⊢
            rw [hq₂, List.filterMap_cons]
            split
            · exact ho
            · exact List.mem_cons_of_mem _ ho
          have hend : ∀ {new : List Obs}, Entered s s₂ new none s.conns →
              Entered s ((s₂.writeNext cfg rest).releaseSession .ctlWrite) new none s.conns :=
            fun h => (h.then_same hw).then_same (.release _)
          have hn : ((s₂.writeNext cfg rest).releaseSession .ctlWrite).nextId = s.nextId :=
            nextId_writeNext.trans ((nextId_tokenRun htok).trans rfl)
          have h0 : Entered s ((s.takeHandler i).emit (.ctlDone true)) [] none s.conns :=
            htake.then_same (.logged _ rfl)
          have hu : ∀ tok, m.token = some tok → tok.op ∈ s.queuedOps := by
            intro tok hm
            unfold St.queuedOps
            rw [show s.messageQueue = m :: rest from hq]
            exact List.mem_filterMap.mpr ⟨m, List.mem_cons_self, by rw [hm]; rfl⟩
          generalize m.token = x at htok hu
          cases htok with
          | none => exact .same _ _ (hend h0) hn
          | some tok d hd =>
            obtain ⟨new, hnew, he⟩ := @Entered.startToken (((s.takeHandler i).emit
              (.ctlDone true)).emit (.tokenRun tok.op.id)) d tok
            have h1 := (h0.then_same (.logged (.tokenRun tok.op.id) rfl)).same_then he
            refine .token i os _ tok d new hi (hu tok rfl) hd hnew (hend ⟨h1.acts, ?_, h1.conns⟩) hn
            -- the operation was alive in the queue already
            intro x hx
            rcases h1.staged x hx with h2 | h2
            · cases h2
              exact Or.inr (mem_staged.mpr (Or.inr ⟨tok.op, hu tok rfl, rfl⟩))
            · exact Or.inr h2
      · obtain ⟨h1, hn⟩ := session_same hh hw fun h1 h2 => hr ⟨h1, h2⟩
        exact .same _ _ ((htake.then_same h1).then_same (.release t)) hn

end

end OrangeFtpd
