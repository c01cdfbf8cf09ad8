/-
  File:      OrangeFtpd/Session/Posts.lean
  Subject:   What a handler does to the reply queue.

  Only the write of a reply takes messages out of the queue. Every other handler posts
  messages, one `write_message` after the other (`Posts`), and for the rest leaves the
  queue and what is logged about it alone.
-/
import OrangeFtpd.Session.Members

namespace OrangeFtpd

/-- An entry of the log that is about the reply queue. -/
def Obs.ofQueue : Obs → Bool
  | .reply .. | .ctlStarted _ | .ctlDone _ | .tokenRun _ => true
  | _ => false

/-- The queue, and what is logged about it, are as they were. -/
structure SameQueue (s s' : St) : Prop where
  queue : s'.messageQueue = s.messageQueue
  log : ∃ new, s'.log = new ++ s.log ∧ ∀ o ∈ new, o.ofQueue = false

/-- **Messages that meet `P` are queued**, one after the other, with changes elsewhere. -/
inductive Posts (P : Nat → Message → Prop) (s : St) : St → Prop where
  | refl : Posts P s s
  | andSame {s₁ s₂ : St} (h : Posts P s s₁) (hq : SameQueue s₁ s₂) : Posts P s s₂
  | andPush {s₁ : St} (h : Posts P s s₁) (id : Nat) (m : Message) (hm : P id m) :
      Posts P s (s₁.pushMessage id m)

/-- A final reply, which has no token. -/
def isAnswer (_ : Nat) (m : Message) : Prop := m.token = none ∧ m.buffer.code.isFinal = true

/-- What a transfer queues: its 150 with a token that holds it, or its 226. -/
inductive TransferPost (op : Op) (id : Nat) (m : Message) : Prop where
  | start (tok : Token) (hid : id = op.id) (ht : tok.op = op)
      (hm : m = ⟨Response.getCodeString .dataConn, some tok⟩)
  | complete (hid : id = op.id) (hm : m = ⟨Response.getCodeString .transferComplete, none⟩)

section

variable {cfg : Config} {os : Os} {id n i : Nat} {kind : OpKind} {s s₁ s₂ s' : St} {op op' : Op}
  {t : Task} {r : Result} {m : Message} {d : DataSocket} {e : Ev} {P Q : Nat → Message → Prop}

/-! ## 1. Changes elsewhere -/

namespace SameQueue

theorem refl (s : St) : SameQueue s s := ⟨rfl, [], rfl, List.forall_mem_nil _⟩

theorem trans (h : SameQueue s s₁) (h' : SameQueue s₁ s₂) : SameQueue s s₂ where
  queue := h'.queue.trans h.queue
  log := by
    obtain ⟨new, hl, hn⟩ := h.log
    obtain ⟨new', hl', hn'⟩ := h'.log
    refine ⟨new' ++ new, by rw [hl', hl, List.append_assoc], fun o ho => ?_⟩
    exact (List.mem_append.mp ho).elim (hn' o) (hn o)

theorem unlogged (hq : s'.messageQueue = s.messageQueue) (hl : s'.log = s.log) : SameQueue s s' :=
  ⟨hq, [], hl, List.forall_mem_nil _⟩

theorem emit {o : Obs} (ho : o.ofQueue = false) : SameQueue s (s.emit o) :=
  ⟨rfl, [o], rfl, List.forall_mem_singleton.mpr ho⟩

theorem startWith (q : Option Result) : SameQueue s (s.startWith t q) := .unlogged rfl rfl

theorem restartIdleTimer : SameQueue s (s.restartIdleTimer cfg) := by
  rw [St.restartIdleTimer_eq]
  exact .unlogged rfl rfl

theorem destroyOp : SameQueue s (s.destroyOp cfg op) :=
  ⟨St.destroyOp_messageQueue .., [.over op.id], St.destroyOp_log .., List.forall_mem_singleton.mpr rfl⟩

theorem rearmIdle : SameQueue s (s.rearmIdle cfg) := by
  unfold St.rearmIdle
  split
  · exact refl s
  · exact .unlogged rfl rfl

theorem close : SameQueue s s.close := ⟨rfl, [.closed], rfl, List.forall_mem_singleton.mpr rfl⟩

theorem storeConn (c : ConnId) : SameQueue s (s.storeConn op c) :=
  ⟨rfl, [.stored op.id c], rfl, List.forall_mem_singleton.mpr rfl⟩

theorem touch : SameQueue s (s.touchSlot op d) := .emit rfl

theorem waitData : SameQueue s (s.waitData op d) := touch.trans (.startWith _)

theorem spliced (h : Spliced d s op s' op') : SameQueue s s' := by
  induction h with
  | stop s op => exact refl s
  | turn s s' op op' n bytes hb h ih =>
    have h1 : SameQueue s (RecvFileOp.takeInbox d.conn n s) := .unlogged rfl rfl
    exact ((h1.trans (.emit rfl)).trans (.emit rfl)).trans ih

theorem startToken {tok : Token} : SameQueue s (s.startToken d tok) := by
  cases tok with
  | doSendFile op => exact waitData
  | doRecvFile op => exact waitData
  | writeListing op response => exact (touch.trans (.emit rfl)).trans (.startWith _)

theorem dropQueue : (s.dropQueue cfg).messageQueue = [] ∧
    ∃ new, (s.dropQueue cfg).log = new ++ s.log ∧ ∀ o ∈ new, o.ofQueue = false := by
  have fold : ∀ (ops : List Op) (s : St),
      SameQueue s (ops.foldl (fun t op => t.destroyOp cfg op) s) := by
    intro ops
    induction ops with
    | nil => exact refl
    | cons op ops ih => exact fun s => destroyOp.trans (ih _)
  have h1 := fold s.queuedOps (s.withQueue [])
  exact ⟨h1.queue, h1.log⟩

end SameQueue

/-! ## 2. Posts -/

namespace Posts

theorem same (h : SameQueue s s') : Posts P s s' := .andSame .refl h

theorem trans (h : Posts P s s₁) (h' : Posts P s₁ s₂) : Posts P s s₂ := by
  induction h' with
  | refl => exact h
  | andSame _ hq ih => exact .andSame ih hq
  | andPush _ id m hm ih => exact .andPush ih id m hm

/-- `completion_token_`, where it is set. -/
theorem andCompletion (h : Posts P s s₁) (ho : op.id = id)
    (hm : P id ⟨Response.getCodeString .transferComplete, none⟩) :
    Posts P s (s₁.runCompletion op) := by
  subst ho
  unfold St.runCompletion
  split
  · have h1 : Posts P s (s₁.emit (.complete op)) := h.andSame (.emit rfl)
    exact (h1.andPush op.id _ hm).andSame (.unlogged rfl rfl)
  · exact h

end Posts

/-- A handler of an operation. -/
theorem OpHandled.posts (h : OpHandled cfg os op t r s s') : Posts (TransferPost op) s s' := by
  have done : TransferPost op op.id ⟨Response.getCodeString .transferComplete, none⟩ :=
    .complete rfl rfl
  have sent : ∀ {d : DataSocket} {n : Nat}, SameQueue s
      ((s.touchSlot op d).emit (.payload op.id d.conn (.sent op.fileOffset n))) :=
    SameQueue.touch.trans (.emit rfl)
  cases h with
  | acceptAborted _ ha => exact .same .destroyOp
  | acceptFailed _ _ hr hr' =>
    have h1 : SameQueue s s.closeAcceptor := .unlogged rfl rfl
    exact .same (h1.trans .destroyOp)
  | accepted c _ tok htok =>
    have ht : tok.op = op := by
      rcases htok with ⟨_, rfl⟩ | ⟨_, rfl⟩ <;> rfl
    exact .andPush (.same (.storeConn c)) _ _ (.start tok rfl ht rfl)
  | listAccepted c _ response hl hs hr =>
    have h1 : SameQueue s ((s.storeConn op c).emit (.target op.id s.currentPath)) :=
      (SameQueue.storeConn c).trans (.emit rfl)
    exact .andPush (.same h1) _ _ (.start (.writeListing op response) rfl rfl rfl)
  | waitFailed _ _ _ hr hw => exact .same .destroyOp
  | sendFailed _ _ d hw hd ho hf => exact .same (SameQueue.touch.trans .destroyOp)
  | sendAgain _ _ d hw hd ho => exact .same (SameQueue.touch.trans .waitData)
  | sentMore op' _ _ d n hw hd ho hn hop hl => exact .same (sent.trans .waitData)
  | sentSlice op' _ _ d n hw hd ho hn hop hl => exact .same (sent.trans (.startWith none))
  | sentAll op' _ _ d n hw hd ho hn hop hl =>
    have hid : op'.id = op.id := by rw [hop]
    exact ((Posts.same sent).andCompletion hid done).andSame .destroyOp
  | receivedAll c _ d hk hd ho hi =>
    exact ((Posts.same .touch).andCompletion rfl done).andSame .destroyOp
  | receiveFailed op' c _ s₁ d hk hd ho hf hl =>
    exact .same ((SameQueue.touch.trans (.spliced hl)).trans .destroyOp)
  | receiveAgain op' c _ s₁ d hk hd ho hl =>
    exact .same ((SameQueue.touch.trans (.spliced hl)).trans .waitData)
  | listed c _ _ =>
    have h1 : SameQueue s ((s.emit (.listed op.id c (r == .ok))).emit (.complete op)) :=
      @SameQueue.trans s (s.emit (.listed op.id c (r == .ok))) _ (.emit rfl) (.emit rfl)
    have h2 := (Posts.same h1).andPush op.id _ done
    have h3 : ∀ s : St, SameQueue s s.clearDataSocket := fun _ => .unlogged rfl rfl
    exact (h2.andSame (h3 _)).andSame .destroyOp

/-- What an effect of a request queues is final. -/
theorem Effect.andPosts (h : Posts isAnswer s s₁) (he : Effect cfg os id kind s₁ s₂) :
    Posts isAnswer s s₂ := by
  cases he with
  | replied b hb => exact h.andPush id ⟨b, none⟩ ⟨rfl, hb.isFinal⟩
  | destroyed op hk => exact h.andSame .destroyOp
  | named p hp => exact h.andSame (.emit rfl)
  | madeDirectory p hk hw => exact h.andSame (.emit rfl)
  | opened fd file p hk ho => exact h.andSame (.emit rfl)
  | announced port hk => exact h.andSame (.emit rfl)
  | _ => exact h.andSame (.unlogged rfl rfl)

/-- A line. -/
theorem Dispatched.posts (h : Dispatched cfg os n s s') : Posts isAnswer s s' := by
  have recorded : ∀ req, SameQueue s (s.takeLine n req).newRequest := fun _ =>
    ⟨rfl, [_], rfl, List.forall_mem_singleton.mpr rfl⟩
  cases h with
  | blank h =>
    have h1 : SameQueue s (s.takeLine n {}) := .unlogged rfl rfl
    exact .same (h1.trans .rearmIdle)
  | refused req b h hv hb =>
    have h1 : Posts isAnswer s (s.takeLine n req).newRequest := .same (recorded req)
    exact ((h1.andPush s.nextId ⟨b, none⟩ ⟨rfl, hb.isFinal⟩).andSame (.emit rfl)).andSame .rearmIdle
  | ran req kind _ h hk hs =>
    exact (runOp_effects.ok rfl hs).invariant (fun _ _ he hI => Effect.andPosts hI he)
      (.same (recorded req))

/-- A handler of the session that neither handles a line nor writes. -/
theorem SessionHandled.sameQueue (h : SessionHandled cfg os t r s s') (hl : t = .read → r ≠ .ok)
    (hw : t ≠ .ctlWrite) : SameQueue s s' := by
  cases h with
  | banner _ => exact .unlogged rfl rfl
  | bannerFailed _ _ hr => exact .refl s
  | readEof _ h0 => exact .close
  | readEofBusy _ h0 => exact SameQueue.close.trans (.unlogged rfl rfl)
  | readFailed _ _ hr hr' => exact .refl s
  | readLine _ s₁ hline => exact absurd rfl (hl rfl)
  | idleStoped _ _ h0 => exact .refl s
  | idleAgain _ _ h0 hx => exact .startWith none
  | idleClose _ _ h0 hx => exact (SameQueue.emit rfl).trans .close
  | keepAlive _ _ => exact .refl s
  | writeFailed _ _ hr => exact absurd rfl hw
  | written _ s₁ m rest hq ht => exact absurd rfl hw

/-! ## 3. Steps -/

/-- **What a step does to the reply queue.** -/
inductive QueueStep (cfg : Config) (s : St) : Ev → St → Prop where
  | same (e : Ev) (s' : St) (h : SameQueue s s') : QueueStep cfg s e s'
  /-- A line is handled. -/
  | line (i : Nat) (os : Os) (s₁ : St) (hi : s.handlers[i]? = some ⟨.read, some .ok⟩)
      (hd : Dispatched cfg os ((lineEnd s.buf).getD 0) (s.takeHandler i).neverExpire s₁) :
      QueueStep cfg s (.run i os) (s₁.doRead.releaseSession .read)
  | turn (e : Ev) (op : Op) (s' : St) (h : Posts (TransferPost op) s s') : QueueStep cfg s e s'
  | written (i : Nat) (os : Os) (m : Message) (rest : List Message) (s₁ : St)
      (hi : s.handlers[i]? = some ⟨.ctlWrite, some .ok⟩) (hq : s.messageQueue = m :: rest)
      (ht : TokenRun ((s.takeHandler i).emit (.ctlDone true)) m.token s₁) :
      QueueStep cfg s (.run i os) ((s₁.writeNext cfg rest).releaseSession .ctlWrite)
  | failed (i : Nat) (os : Os) (r : Result) (hi : s.handlers[i]? = some ⟨.ctlWrite, some r⟩)
      (hr : r ≠ .ok) : QueueStep cfg s (.run i os)
        ((((s.takeHandler i).emit (.ctlDone false)).dropQueue cfg).releaseSession .ctlWrite)

theorem step_queue (h : step cfg s e = .ok s') : QueueStep cfg s e s' := by
  cases step_cases h with
  | clientSend chunk hr => exact .same _ _ (.unlogged rfl rfl)
  | clientGone => exact .same _ _ (.unlogged rfl rfl)
  | peerSend c bytes hc hp => exact .same _ _ ⟨rfl, [_], rfl, List.forall_mem_singleton.mpr rfl⟩
  | peerShutdown c hc hp => exact .same _ _ ⟨rfl, [_], rfl, List.forall_mem_singleton.mpr rfl⟩
  | peerReset c hc => exact .same _ _ ⟨rfl, [_], rfl, List.forall_mem_singleton.mpr rfl⟩
  | tick ms => exact .same _ _ (.unlogged rfl rfl)
  | complete i r t hi hc => exact .same _ _ (.unlogged rfl rfl)
  | run i os t r s₁ hi hh =>
    have taken : SameQueue s (s.takeHandler i) := .unlogged rfl rfl
    have released : SameQueue s₁ (s₁.releaseSession t) := .unlogged rfl rfl
    cases hh with
    | operation op hop hh =>
      exact .turn _ op _ (((Posts.same taken).trans hh.posts).andSame released)
    | session hh =>
      by_cases hl : t = .read ∧ r = .ok
      · obtain ⟨rfl, rfl⟩ := hl
        obtain ⟨s₂, hd, e⟩ := step_read h hi
        rw [e]
        exact .line i os s₂ hi hd
      by_cases hw : t = .ctlWrite
      · subst hw
        cases hh with
        | writeFailed _ _ hr => exact .failed i os r hi hr
        | written _ s₂ m rest hq ht => exact .written i os m rest s₂ hi hq ht
      · have h1 := hh.sameQueue (fun ht hr => hl ⟨ht, hr⟩) hw
        exact .same _ _ ((taken.trans h1).trans released)

end

end OrangeFtpd
