/-
  File:      OrangeFtpd/Session/Members.lean
  Subject:   Who changes the members of the session: requests, and nobody else.

  Login, working directory, type, stored request and line buffer are read and
  written by the code of requests. The handlers of transfers, of the timer and of
  the reply queue leave them as they are, log no request and announce no port.
-/
import OrangeFtpd.Session.Effects

namespace OrangeFtpd

/-- What only requests log. -/
def Obs.ofRequest : Obs → Bool
  | .request .. | .announced _ | .fs _ (.opened ..) | .fs _ (.madeDirectory _) => true
  | _ => false

/-- An accept handler stores its connection. -/
def Obs.isStored : Obs → Bool
  | .stored .. => true
  | _ => false

/-- What only requests change. -/
structure Members where
  buf : Text
  currentPath : Path
  verified : Bool
  user : Text
  password : Text
  request : FtpRequest
  isAnonymous : Bool
  type : TransportType
  nextId : Nat

def St.members (s : St) : Members :=
  ⟨s.buf, s.currentPath, s.verified, s.user, s.password, s.request, s.isAnonymous, s.type, s.nextId⟩

/-- **The members of the session are as they were.** The acceptor may be closed; a connection
    is stored only where it is. -/
structure SameMembers (s s' : St) : Prop where
  members : s'.members = s.members
  log : ∃ new, s'.log = new ++ s.log ∧ (∀ o ∈ new, o.ofRequest = false) ∧
    ((s'.acceptor = s.acceptor ∧ ∀ o ∈ new, o.isStored = false) ∨ s'.acceptor = ⟨false, none⟩)

section

variable {cfg : Config} {os : Os} {id n i : Nat} {kind : OpKind} {s s₁ s₂ s' : St} {op op' : Op}
  {t : Task} {r : Result} {m : Message} {d : DataSocket}

namespace SameMembers

theorem buf (h : SameMembers s s') : s'.buf = s.buf := congrArg Members.buf h.members

theorem currentPath (h : SameMembers s s') : s'.currentPath = s.currentPath :=
  congrArg Members.currentPath h.members

theorem verified (h : SameMembers s s') : s'.verified = s.verified :=
  congrArg Members.verified h.members

theorem user (h : SameMembers s s') : s'.user = s.user := congrArg Members.user h.members

theorem password (h : SameMembers s s') : s'.password = s.password :=
  congrArg Members.password h.members

theorem request (h : SameMembers s s') : s'.request = s.request :=
  congrArg Members.request h.members

theorem isAnonymous (h : SameMembers s s') : s'.isAnonymous = s.isAnonymous :=
  congrArg Members.isAnonymous h.members

theorem type (h : SameMembers s s') : s'.type = s.type := congrArg Members.type h.members

theorem nextId (h : SameMembers s s') : s'.nextId = s.nextId := congrArg Members.nextId h.members

/-- A change elsewhere. -/
theorem elsewhere (h : s'.members = s.members) (ha : s'.acceptor = s.acceptor)
    (hl : s'.log = s.log) : SameMembers s s' :=
  ⟨h, [], hl, List.forall_mem_nil _, Or.inl ⟨ha, List.forall_mem_nil _⟩⟩

theorem refl (s : St) : SameMembers s s := .elsewhere rfl rfl rfl

theorem trans (h : SameMembers s s₁) (h' : SameMembers s₁ s₂) : SameMembers s s₂ where
  members := h'.members.trans h.members
  log := by
    obtain ⟨new, hl, hn, hp⟩ := h.log
    obtain ⟨new', hl', hn', hp'⟩ := h'.log
    refine ⟨new' ++ new, by rw [hl', hl, List.append_assoc], fun o ho => ?_, ?_⟩
    · exact (List.mem_append.mp ho).elim (hn' o) (hn o)
    rcases hp' with ⟨ha', hs'⟩ | hc'
    · rcases hp with ⟨ha, hs⟩ | hc
      · exact Or.inl ⟨ha'.trans ha, fun o ho => (List.mem_append.mp ho).elim (hs' o) (hs o)⟩
      · exact Or.inr (ha'.trans hc)
    · exact Or.inr hc'

theorem emit {o : Obs} (ho : o.ofRequest = false) (hs : o.isStored = false) :
    SameMembers s (s.emit o) :=
  ⟨rfl, [o], rfl, List.forall_mem_singleton.mpr ho,
    Or.inl ⟨rfl, List.forall_mem_singleton.mpr hs⟩⟩

theorem startWith (q : Option Result) : SameMembers s (s.startWith t q) := .elsewhere rfl rfl rfl

theorem pushMessage : SameMembers s (s.pushMessage id m) := by
  refine ⟨rfl, (if s.messageQueue.isEmpty then [.ctlStarted m.buffer] else []) ++
    [.reply id m.buffer], ?_, ?_, Or.inl ⟨rfl, ?_⟩⟩
  · rw [St.pushMessage_log, List.append_assoc]
    rfl
  · split <;> simp [Obs.ofRequest]
  · split <;> simp [Obs.isStored]

theorem restartIdleTimer : SameMembers s (s.restartIdleTimer cfg) := by
  rw [St.restartIdleTimer_eq]
  exact .elsewhere rfl rfl rfl

theorem destroyOp : SameMembers s (s.destroyOp cfg op) := by
  rw [St.destroyOp_eq]
  refine trans ?_ restartIdleTimer
  exact ⟨rfl, [.over op.id], rfl, List.forall_mem_singleton.mpr rfl,
    Or.inl ⟨rfl, List.forall_mem_singleton.mpr rfl⟩⟩

theorem closeAcceptor : SameMembers s s.closeAcceptor := ⟨rfl, [], rfl, List.forall_mem_nil _, Or.inr rfl⟩

theorem clearDataSocket : SameMembers s s.clearDataSocket := .elsewhere rfl rfl rfl

theorem storeConn (c : ConnId) : SameMembers s (s.storeConn op c) :=
  ⟨rfl, [.stored op.id c], rfl, List.forall_mem_singleton.mpr rfl, Or.inr rfl⟩

theorem waitData : SameMembers s (s.waitData op d) :=
  trans (emit (o := .touch op.id (some d.conn)) rfl rfl) (startWith _)

theorem runCompletion : SameMembers s (s.runCompletion op) := by
  unfold St.runCompletion
  split
  · exact ((emit rfl rfl).trans pushMessage).trans clearDataSocket
  · exact refl s

theorem spliced (h : Spliced d s op s' op') : SameMembers s s' := by
  induction h with
  | stop s op => exact refl s
  | turn s s' op op' n bytes hb h ih =>
    have h1 : SameMembers s (RecvFileOp.takeInbox d.conn n s) := .elsewhere rfl rfl rfl
    exact ((h1.trans (emit rfl rfl)).trans (emit rfl rfl)).trans ih

theorem startToken {tok : Token} : SameMembers s (s.startToken d tok) := by
  cases tok with
  | doSendFile op => exact waitData
  | doRecvFile op => exact waitData
  | writeListing op response =>
    exact trans (trans (emit (o := .touch op.id (some d.conn)) rfl rfl) (emit rfl rfl)) (startWith _)

theorem tokenRun {tok : Option Token} (h : TokenRun s tok s₁) : SameMembers s s₁ := by
  cases h with
  | none => exact refl s
  | some tok d hd => exact trans (emit rfl rfl) startToken

theorem writeNext {rest : List Message} : SameMembers s (s.writeNext cfg rest) := by
  have h0 : SameMembers s (s.withQueue rest) := .elsewhere rfl rfl rfl
  cases rest with
  | nil => exact h0.trans restartIdleTimer
  | cons m rest => exact (h0.trans (emit (o := .ctlStarted m.buffer) rfl rfl)).trans (startWith _)

theorem dropQueue : SameMembers s (s.dropQueue cfg) := by
  have fold : ∀ (ops : List Op) (s : St),
      SameMembers s (ops.foldl (fun t op => t.destroyOp cfg op) s) := by
    intro ops
    induction ops with
    | nil => exact refl
    | cons op ops ih => exact fun s => destroyOp.trans (ih _)
  have h0 : SameMembers s (s.withQueue []) := .elsewhere rfl rfl rfl
  exact h0.trans (fold s.queuedOps _)

theorem close : SameMembers s s.close :=
  ⟨rfl, [.closed], rfl, List.forall_mem_singleton.mpr rfl,
    Or.inl ⟨rfl, List.forall_mem_singleton.mpr rfl⟩⟩

theorem rearmIdle : SameMembers s (s.rearmIdle cfg) := by
  unfold St.rearmIdle
  split
  · exact refl s
  · exact .elsewhere rfl rfl rfl

end SameMembers

/-- A handler of an operation. -/
theorem OpHandled.members (h : OpHandled cfg os op t r s s') : SameMembers s s' := by
  cases h with
  | acceptAborted _ ha => exact .destroyOp
  | acceptFailed _ _ hr hr' => exact .trans .closeAcceptor .destroyOp
  | accepted c _ tok htok => exact .trans (.storeConn c) .pushMessage
  | listAccepted c _ response hl hs hr =>
    exact .trans (.trans (.storeConn c) (.emit rfl rfl)) .pushMessage
  | waitFailed _ _ _ hr hw => exact .destroyOp
  | sendFailed _ _ d hw hd ho hf => exact .trans (.emit rfl rfl) .destroyOp
  | sendAgain _ _ d hw hd ho => exact .trans (.emit rfl rfl) .waitData
  | sentMore op' _ _ d n hw hd ho hn hop hl =>
    exact .trans (.trans (.emit rfl rfl) (.emit rfl rfl)) .waitData
  | sentSlice op' _ _ d n hw hd ho hn hop hl =>
    exact .trans (.trans (.emit rfl rfl) (.emit rfl rfl)) (.startWith none)
  | sentAll op' _ _ d n hw hd ho hn hop hl =>
    exact .trans (.trans (.trans (.emit rfl rfl) (.emit rfl rfl)) .runCompletion) .destroyOp
  | receivedAll c _ d hk hd ho hi => exact .trans (.trans (.emit rfl rfl) .runCompletion) .destroyOp
  | receiveFailed op' c _ s₁ d hk hd ho hf hl =>
    exact .trans (.trans (.emit rfl rfl) (.spliced hl)) .destroyOp
  | receiveAgain op' c _ s₁ d hk hd ho hl =>
    exact .trans (.trans (.emit rfl rfl) (.spliced hl)) .waitData
  | listed c _ _ =>
    exact .trans (.trans (.trans (.trans (.emit rfl rfl) (.emit rfl rfl)) .pushMessage) .clearDataSocket)
      .destroyOp

/-- A handler of the session, other than that of a line. -/
theorem SessionHandled.members (h : SessionHandled cfg os t r s s') (hl : t = .read → r ≠ .ok) :
    SameMembers s s' := by
  cases h with
  | banner _ => exact .elsewhere rfl rfl rfl
  | bannerFailed _ _ hr => exact .refl s
  | readEof _ h0 => exact .close
  | readEofBusy _ h0 => exact .trans .close (.elsewhere rfl rfl rfl)
  | readFailed _ _ hr hr' => exact .refl s
  | readLine _ s₁ hline => exact absurd rfl (hl rfl)
  | idleStoped _ _ h0 => exact .refl s
  | idleAgain _ _ h0 hx => exact .startWith none
  | idleClose _ _ h0 hx => exact .trans (.emit rfl rfl) .close
  | keepAlive _ _ => exact .refl s
  | writeFailed _ _ hr => exact .trans (.emit rfl rfl) .dropQueue
  | written _ s₁ m rest hq ht => exact .trans (.trans (.emit rfl rfl) (.tokenRun ht)) .writeNext

/-- A handler other than that of a line. -/
theorem Handled.members (h : Handled cfg os t r s s') (hl : t = .read → r ≠ .ok) :
    SameMembers s s' := by
  cases h with
  | session hs => exact hs.members hl
  | operation op hop ho => exact ho.members

/-- The request of the line that is first in the buffer. -/
def St.nextRequest (s : St) : Option FtpRequest :=
  buildRequest (splitWords (s.buf.take ((lineEnd s.buf).getD 0)))

/-- The class of operation that line asks for. -/
def St.nextKind (s : St) : Option OpKind := s.nextRequest.bind (createKind ·.command)

/-- The bytes an event brings from the client. -/
def Ev.chunk : Ev → Text
  | .clientSend chunk => chunk
  | _ => []

/-- **A step** handles a line, or leaves the members of the session alone, but for the bytes that
    it brings. -/
theorem step_members {e : Ev} (h : step cfg s e = .ok s') :
    (∃ i os s₁, e = .run i os ∧ s.handlers[i]? = some ⟨.read, some .ok⟩ ∧
      Dispatched cfg os ((lineEnd s.buf).getD 0) (s.takeHandler i).neverExpire s₁ ∧
      s' = s₁.doRead.releaseSession .read) ∨ SameMembers { s with buf := s.buf ++ e.chunk } s' := by
  have he : ∀ {e : Ev}, e.chunk = [] → s.buf ++ e.chunk = s.buf := fun h => by
    rw [h, List.append_nil]
  have quiet : ∀ {s₁ : St}, SameMembers s s₁ → e.chunk = [] →
      SameMembers { s with buf := s.buf ++ e.chunk } s₁ := fun h1 h2 => by rw [he h2]; exact h1
  have logs : ∀ {o : Obs} {s₁ : St}, s₁.members = s.members → s₁.acceptor = s.acceptor →
      s₁.log = o :: s.log → o.ofRequest = false → o.isStored = false → SameMembers s s₁ :=
    fun hm ha hl ho hs => ⟨hm, [_], hl, List.forall_mem_singleton.mpr ho,
      Or.inl ⟨ha, List.forall_mem_singleton.mpr hs⟩⟩
  cases step_cases h with
  | clientSend chunk hr => exact Or.inr (.elsewhere rfl rfl rfl)
  | clientGone => exact Or.inr (quiet (.elsewhere rfl rfl rfl) rfl)
  | peerSend c bytes hc hp => exact Or.inr (quiet (logs rfl rfl rfl rfl rfl) rfl)
  | peerShutdown c hc hp => exact Or.inr (quiet (logs rfl rfl rfl rfl rfl) rfl)
  | peerReset c hc => exact Or.inr (quiet (logs rfl rfl rfl rfl rfl) rfl)
  | tick ms => exact Or.inr (quiet (.elsewhere rfl rfl rfl) rfl)
  | complete i r t hi hc => exact Or.inr (quiet (.elsewhere rfl rfl rfl) rfl)
  | run i os t r s₁ hi hh =>
    by_cases hl : t = .read ∧ r = .ok
    · obtain ⟨rfl, rfl⟩ := hl
      obtain ⟨s₂, hd, e⟩ := step_read h hi
      exact Or.inl ⟨i, os, s₂, rfl, hi, hd, e⟩
    · have h1 : SameMembers s (s.takeHandler i) := .elsewhere rfl rfl rfl
      have h2 := hh.members fun ht hr => hl ⟨ht, hr⟩
      exact Or.inr (quiet ((h1.trans h2).trans (.elsewhere rfl rfl rfl)) rfl)

end

end OrangeFtpd
