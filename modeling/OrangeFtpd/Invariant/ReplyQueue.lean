/-
  File:      OrangeFtpd/Invariant/ReplyQueue.lean
  Subject:   The reply queue is an outbox.

  `message_queue_` holds the messages in the order of their `write_message`; its front
  is being written, and a write in flight is there exactly when it is not empty. What
  the session does with it, and logs about it, is what an outbox does (`Mirrors`), so
  the log of every run has the order that outboxes keep.
-/
import OrangeFtpd.Lib.Outbox
import OrangeFtpd.Session.Posts
import OrangeFtpd.Invariant.Machinery

namespace OrangeFtpd

/-! ## 1. The outbox of a session -/

/-- A message, with the request it is sent for. -/
abbrev Sent := Nat × Message

def Sent.hasToken (x : Sent) : Bool := x.2.token.isSome

/-- The token holds the operation of the request. -/
def Sent.Owned (x : Sent) : Prop := ∀ tok, x.2.token = some tok → tok.op.id = x.1

/-- **A message of the server**: the 150 has a token, which holds the operation of its request, and
    no other message has one. So what is logged of a message says whether it has a token. -/
structure Sent.Genuine (x : Sent) : Prop where
  token : x.hasToken = (x.2.buffer.code == .dataConn)
  owned : x.Owned

/-- How an act of the outbox is logged. -/
def logged : OutboxAct Sent → Obs
  | .call x => .reply x.1 x.2.buffer
  | .start x => .ctlStarted x.2.buffer
  | .done ok => .ctlDone ok
  | .token x => .tokenRun x.1

/-- What was logged about the reply queue, the oldest first. -/
def St.queueLog (s : St) : List Obs := s.log.reverse.filter Obs.ofQueue

/-- The banner of `Session::start`. -/
def welcome (cfg : Config) : SharedConstBuffer :=
  Response.getCodeStringInfo .welcome
    (if cfg.ftpdBanner.isEmpty then "Welcome to ftpd.".toList else cfg.ftpdBanner)

/-- **The session does what the outbox does.** The write of the banner comes before. -/
structure Mirrors (cfg : Config) (o : Outbox Sent) (s : St) : Prop where
  queue : o.queue.map Prod.snd = s.messageQueue
  log : s.queueLog = .ctlStarted (welcome cfg) :: o.acts.map logged
  owned : ∀ x ∈ o.queue, Sent.Owned x

section

variable {cfg : Config} {os : Os} {id n i : Nat} {s s₁ s₂ s' : St} {op : Op} {t : Task} {r : Result}
  {m : Message} {e : Ev} {o : Outbox Sent} {P : Nat → Message → Prop} {Q : Sent → Prop}

theorem queueLog_append {new : List Obs} (h : s'.log = new ++ s.log) :
    s'.queueLog = s.queueLog ++ new.reverse.filter Obs.ofQueue := by
  unfold St.queueLog
  rw [h, List.reverse_append, List.filter_append]

theorem queueLog_of_none {new : List Obs} (h : s'.log = new ++ s.log)
    (hn : ∀ o ∈ new, o.ofQueue = false) : s'.queueLog = s.queueLog := by
  have hno : new.reverse.filter Obs.ofQueue = [] :=
    List.filter_eq_nil_iff.mpr fun o ho => by
      rw [hn o (List.mem_reverse.mp ho)]
      exact Bool.false_ne_true
  rw [queueLog_append h, hno, List.append_nil]

theorem SameQueue.queueLog (h : SameQueue s s') : s'.queueLog = s.queueLog := by
  obtain ⟨new, hl, hn⟩ := h.log
  exact queueLog_of_none hl hn

theorem queueLog_emit {o : Obs} (ho : o.ofQueue = true) : (s.emit o).queueLog = s.queueLog ++ [o] := by
  rw [@queueLog_append s (s.emit o) [o] rfl]
  exact congrArg _ (List.filter_cons_of_pos ho)

theorem queueLog_push : (s.pushMessage id m).queueLog = s.queueLog ++ .reply id m.buffer ::
    if s.messageQueue.isEmpty then [.ctlStarted m.buffer] else [] := by
  cases hq : s.messageQueue.isEmpty with
  | true =>
    rw [@queueLog_append s _ [.ctlStarted m.buffer, .reply id m.buffer]]
    · rfl
    · rw [St.pushMessage_log, hq]
      rfl
  | false =>
    rw [@queueLog_append s _ [.reply id m.buffer]]
    · rfl
    · rw [St.pushMessage_log, hq]
      rfl

/-! ## 2. Every change is one of the outbox -/

theorem Mirrors.same (h : Mirrors cfg o s) (hs : SameQueue s s') : Mirrors cfg o s' :=
  ⟨h.queue.trans hs.queue.symm, hs.queueLog.trans h.log, h.owned⟩

/-- `write_message`. -/
theorem Mirrors.push (h : Mirrors cfg o s) (hm : Sent.Owned (id, m)) :
    Mirrors cfg (o.write (id, m)) (s.pushMessage id m) where
  queue := by
    rw [St.pushMessage_messageQueue, ← h.queue]
    exact List.map_append
  log := by
    have he : s.messageQueue.isEmpty = o.queue.isEmpty := by
      rw [← h.queue]
      cases o.queue <;> rfl
    rw [queueLog_push, h.log, he]
    unfold Outbox.write
    cases o.queue.isEmpty <;> simp [logged]
  owned := by
    intro x hx
    rcases List.mem_append.mp hx with hx | hx
    · exact h.owned x hx
    · rw [List.mem_singleton.mp hx]
      exact hm

/-- The log after the token of the message just written. -/
theorem TokenRun.queueLog {tok : Option Token} (h : TokenRun s tok s₁) :
    s₁.messageQueue = s.messageQueue ∧
    s₁.queueLog = s.queueLog ++ (tok.map fun tok => .tokenRun tok.op.id).toList := by
  cases h with
  | none => exact ⟨rfl, (List.append_nil _).symm⟩
  | some tok d hd =>
    have h1 : SameQueue (s.emit (.tokenRun tok.op.id)) _ := @SameQueue.startToken _ d tok
    exact ⟨h1.queue, h1.queueLog.trans (queueLog_emit rfl)⟩

theorem queueLog_writeNext {rest : List Message} :
    (s.writeNext cfg rest).messageQueue = rest ∧
    (s.writeNext cfg rest).queueLog = s.queueLog ++ (rest.take 1).map (.ctlStarted ·.buffer) := by
  cases rest with
  | nil =>
    have h1 := @SameQueue.restartIdleTimer cfg (s.withQueue [])
    exact ⟨h1.queue, h1.queueLog.trans (List.append_nil _).symm⟩
  | cons m rest => exact ⟨rfl, @queueLog_append s _ [.ctlStarted m.buffer] rfl⟩

/-- The write of the front ended well; its token ran and asked for `calls`. -/
theorem Mirrors.written {rest : List Message} (h : Mirrors cfg o s)
    (hq : s.messageQueue = m :: rest) {calls : List Sent} (hc : ∀ x ∈ calls, Sent.Owned x)
    (hl : s₁.queueLog = s.queueLog ++ (.ctlDone true ::
      (m.token.map fun tok => .tokenRun tok.op.id).toList) ++ calls.map (logged ∘ .call)) :
    Mirrors cfg (o.succeed Sent.hasToken calls)
      (s₁.writeNext cfg (rest ++ calls.map Prod.snd)) := by
  obtain ⟨hq', hl'⟩ := @queueLog_writeNext cfg s₁ (rest ++ calls.map Prod.snd)
  obtain ⟨x, xs, ho⟩ : ∃ x xs, o.queue = x :: xs := by
    cases ho : o.queue with
    | nil =>
      have hmap := h.queue
      rw [ho, hq] at hmap
      cases hmap
    | cons x xs => exact ⟨x, xs, rfl⟩
  have hmap := h.queue
  rw [ho, hq] at hmap
  obtain ⟨rfl, rfl⟩ := List.cons.inj hmap
  have htok : (x.2.token.map fun tok => Obs.tokenRun tok.op.id).toList =
      (if Sent.hasToken x then [OutboxAct.token x] else []).map logged := by
    unfold Sent.hasToken
    cases ht : x.2.token with
    | none => rfl
    | some tok => exact congrArg (fun i => [Obs.tokenRun i]) (h.owned x (ho ▸ List.mem_cons_self) tok ht)
  have hstart : ((xs.map Prod.snd ++ calls.map Prod.snd).take 1).map (Obs.ctlStarted ·.buffer) =
      (startFront (xs ++ calls)).map logged := by
    rw [← List.map_append]
    cases xs ++ calls <;> rfl
  rw [Outbox.succeed_cons ho]
  refine ⟨by rw [hq']; exact List.map_append, ?_, fun y hy => ?_⟩
  · rw [hl', hl, h.log, htok, hstart]
    simp [logged]
  · rcases List.mem_append.mp hy with hy | hy
    · exact h.owned y (ho ▸ List.mem_cons_of_mem _ hy)
    · exact hc y hy

/-- The write of the front failed. -/
theorem Mirrors.failed (h : Mirrors cfg o s) :
    Mirrors cfg o.fail ((s.emit (.ctlDone false)).dropQueue cfg) := by
  obtain ⟨hq, new, hl, hn⟩ := @SameQueue.dropQueue cfg (s.emit (.ctlDone false))
  refine ⟨hq.symm, ?_, fun _ hx => absurd hx List.not_mem_nil⟩
  have h1 : (s.emit (.ctlDone false)).queueLog = s.queueLog ++ [.ctlDone false] :=
    queueLog_emit rfl
  rw [queueLog_of_none hl hn, h1, h.log]
  unfold Outbox.fail
  rw [List.map_append]
  rfl

/-- **The session sends its replies** as an outbox does; all messages that it was asked to send
    meet `Q`. -/
def Sends (Q : Sent → Prop) (cfg : Config) (s : St) : Prop :=
  ∃ o, Mirrors cfg o s ∧ o.InOrder Sent.hasToken ∧ ∀ x, .call x ∈ o.acts → Q x

theorem Sends.same (h : Sends Q cfg s) (hs : SameQueue s s') : Sends Q cfg s' := by
  obtain ⟨o, hm, ho⟩ := h
  exact ⟨o, hm.same hs, ho⟩

theorem Sends.posts (h : Sends Sent.Genuine cfg s) (hp : Posts P s s')
    (hP : ∀ id m, P id m → Sent.Genuine (id, m)) : Sends Sent.Genuine cfg s' := by
  induction hp with
  | refl => exact h
  | andSame _ hq ih => exact ih.same hq
  | andPush _ id m hm ih =>
    obtain ⟨o, hM, ho, hQ⟩ := ih
    refine ⟨_, hM.push (hP id m hm).owned, ho.write (id, m), fun x hx => ?_⟩
    rcases Outbox.called_write hx with h1 | rfl
    · exact hQ x h1
    · exact hP id m hm

theorem genuine_answer (h : isAnswer id m) : Sent.Genuine (id, m) := by
  obtain ⟨ht, hc⟩ := h
  refine ⟨?_, fun tok he => by cases ht.symm.trans he⟩
  rw [Sent.hasToken, ht]
  exact (beq_false_of_ne ((isFinal_iff _).mp hc)).symm

theorem genuine_transfer (h : TransferPost op id m) : Sent.Genuine (id, m) := by
  cases h with
  | start tok' hid ho hm =>
    subst hm
    refine ⟨rfl, fun tok ht => ?_⟩
    cases ht
    exact (congrArg Op.id ho).trans hid.symm
  | complete hid hm =>
    subst hm
    exact ⟨rfl, nofun⟩

/-! ## 3. Steps and runs -/

theorem Sends.step (h : Sends Sent.Genuine cfg s) (hm : Machinery s)
    (hs : OrangeFtpd.step cfg s e = .ok s') : Sends Sent.Genuine cfg s' := by
  cases step_queue hs with
  | same _ _ hq => exact h.same hq
  | line i os s₁ hi hd =>
    have h1 : Sends Sent.Genuine cfg (s.takeHandler i).neverExpire := h.same (.unlogged rfl rfl)
    have h2 := h1.posts hd.posts fun _ _ => genuine_answer
    exact h2.same (.unlogged rfl rfl)
  | turn _ op _ hp => exact h.posts hp fun _ _ => genuine_transfer
  | written i os m rest s₁ hi hq ht =>
    have h0 : Sends Sent.Genuine cfg (s.takeHandler i) := h.same (.unlogged rfl rfl)
    obtain ⟨o, hM, ho, hQ⟩ := h0
    have hl := ht.queueLog.2
    rw [queueLog_emit rfl, List.append_assoc] at hl
    have hW := @Mirrors.written cfg _ s₁ m o rest hM hq [] (List.forall_mem_nil _)
      (hl.trans (List.append_nil _).symm)
    rw [List.map_nil, List.append_nil] at hW
    have h1 : Sends Sent.Genuine cfg (s₁.writeNext cfg rest) := ⟨_, hW, ho.succeed [], fun x hx =>
      (Outbox.called_succeed hx).elim (hQ x) fun h0 => absurd h0 List.not_mem_nil⟩
    exact h1.same (.unlogged rfl rfl)
  | failed i os r hi hr =>
    have h0 : Sends Sent.Genuine cfg (s.takeHandler i) := h.same (.unlogged rfl rfl)
    obtain ⟨o, hM, ho, hQ⟩ := h0
    -- a write in flight has its message in the queue
    have hq : o.queue ≠ [] := by
      intro hn
      have hw := has_pos (Pool.mem_tasks_of (List.mem_of_getElem? hi))
      have hq : s.messageQueue = [] := by
        refine hM.queue.symm.trans ?_
        rw [hn]
        rfl
      exact hw (hm.writes.trans (if_pos hq))
    have h1 : Sends Sent.Genuine cfg (((s.takeHandler i).emit (.ctlDone false)).dropQueue cfg) :=
      ⟨_, hM.failed, ho.fail hq, fun x hx => hQ x (Outbox.called_fail hx)⟩
    exact h1.same (.unlogged rfl rfl)

theorem sends_init {home : Path} {c₀ : UInt32} {now : Int} :
    Sends Sent.Genuine cfg (St.init cfg home c₀ now) :=
  ⟨{}, ⟨rfl, rfl, fun _ hx => absurd hx List.not_mem_nil⟩, Outbox.inOrder_start,
    fun _ hx => absurd hx List.not_mem_nil⟩

theorem sends_reach {home : Path} {c₀ : UInt32} {now : Int} {ok : St → Ev → Prop}
    (h : Reach (OrangeFtpd.step cfg) ok (St.init cfg home c₀ now) s) : Sends Sent.Genuine cfg s :=
  h.invariant_of (fun _ => machinery_reach) sends_init fun _ _ _ hm hI _ hs => hI.step hm hs

/-- Without a failed write the history is one epoch. -/
theorem Sends.unbroken (h : Sends Q cfg s) (hf : .ctlDone false ∉ s.log) :
    ∃ (sent queue : List Sent) (acts : List (OutboxAct Sent)), queue.map Prod.snd = s.messageQueue ∧
      s.queueLog = .ctlStarted (welcome cfg) :: acts.map logged ∧
      Epoch Sent.hasToken sent queue acts ∧ ∀ x ∈ sent ++ queue, Q x := by
  obtain ⟨o, hM, ho, hQ⟩ := h
  have hno : .done false ∉ o.acts := by
    intro hd
    have h1 : Obs.ctlDone false ∈ s.queueLog := by
      rw [hM.log]
      exact List.mem_cons_of_mem _ (List.mem_map_of_mem (f := logged) hd)
    exact hf (List.mem_reverse.mp (List.mem_filter.mp h1).1)
  obtain ⟨sent, he⟩ := Orderly.epoch ho hno
  exact ⟨sent, o.queue, o.acts, hM.queue, hM.log, he, fun x hx => hQ x (he.called hx)⟩

/-! ## 4. Tokens that call `write_message` -/

/-- The handler of `do_write_message` after a write that ended well, where the token of the
    message at the front is `token`. -/
def writtenWith (cfg : Config) (token : Ftp Unit) : Ftp Unit := do
  .modify (St.emit (.ctlDone true))
  token
  .modify St.popMessage
  doWriteMessage cfg

theorem onWritten_eq {rest : List Message} (hq : s.messageQueue = m :: rest) :
    onWritten cfg .ok s = writtenWith cfg (runFront m.token) s := by
  unfold onWritten writtenWith
  rw [Act.modify_bind, Act.get_bind, Act.ite_run, if_neg (fun h => h rfl), Act.modify_bind]
  rw [St.emit_messageQueue, hq]
  rfl

/-- `write_message` for each of `calls`. -/
def writeAll (cfg : Config) (calls : List Sent) : Ftp Unit :=
  calls.forM fun x => writeMessage cfg x.1 x.2

/-- Calls while a message is being written are queued, and no more. -/
theorem writeAll_busy {calls : List Sent} {u : Unit} (hq : s.messageQueue ≠ [])
    (h : writeAll cfg calls s = .ok (u, s')) :
    s'.messageQueue = s.messageQueue ++ calls.map Prod.snd ∧
    s'.queueLog = s.queueLog ++ calls.map (logged ∘ .call) := by
  induction calls generalizing s with
  | nil =>
    obtain ⟨-, rfl⟩ := Act.pure_ok.mp h
    exact ⟨(List.append_nil _).symm, (List.append_nil _).symm⟩
  | cons x calls ih =>
    obtain ⟨_, s₁, h1, h2⟩ := Act.bind_ok.mp h
    obtain rfl := writeMessage_ok.mp h1
    have hb : s.messageQueue.isEmpty = false := by simpa using hq
    obtain ⟨hq', hl'⟩ := ih (by simp) h2
    constructor
    · rw [hq', St.pushMessage_messageQueue, List.append_assoc]
      rfl
    · rw [hl', queueLog_push, hb, List.append_assoc]
      rfl

theorem Sends.reentrant {rest : List Message} {calls : List Sent} {u : Unit}
    (h : Sends Sent.Genuine cfg s) (hq : s.messageQueue = m :: rest) (hc : ∀ x ∈ calls, Sent.Owned x)
    (hw : writtenWith cfg (do runFront m.token; writeAll cfg calls) s = .ok (u, s')) :
    Sends (fun x => x.Genuine ∨ x ∈ calls) cfg s' := by
  obtain ⟨o, hM, ho, hQ⟩ := h
  obtain ⟨_, s₁, h1, hw⟩ := Act.bind_ok.mp hw
  obtain rfl := Act.modify_ok.mp h1
  obtain ⟨_, s₂, h2, hw⟩ := Act.bind_ok.mp hw
  obtain ⟨_, s₃, h3, h2⟩ := Act.bind_ok.mp h2
  obtain ⟨_, s₄, h4, hw⟩ := Act.bind_ok.mp hw
  obtain rfl := Act.modify_ok.mp h4
  have ht := (runFront_triple (E := fun _ => True) fun _ _ => trivial).ok rfl h3
  obtain ⟨hq₁, hl₁⟩ := ht.queueLog
  have hq₃ : s₃.messageQueue = m :: rest := hq₁.trans hq
  obtain ⟨hq₂, hl₂⟩ := writeAll_busy (by rw [hq₃]; nofun) h2
  rw [hq₃] at hq₂
  have hn := (doWriteMessage_next hq₂).ok rfl hw
  rw [queueLog_emit rfl, List.append_assoc] at hl₁
  rw [hn]
  exact ⟨_, hM.written hq hc (hl₂.trans (by rw [hl₁]; rfl)), ho.succeed calls,
    fun x hx => (Outbox.called_succeed hx).imp_left (hQ x)⟩

/-! ## 5. The discipline of the queue -/

/-- One write of a reply at most, and none while the banner is written. -/
theorem Machinery.oneWrite (h : Machinery s) : s.has .banner + s.has .ctlWrite ≤ 1 := by
  have hw : s.has .ctlWrite ≤ 1 := by
    rw [h.writes]
    split <;> omega
  have hb : s.has .banner ≤ 1 := by
    have := h.strong
    split at this <;> omega
  by_cases h0 : s.has .banner = 0
  · omega
  · have := (h.banner h0).2.1
    omega

/-- A write that fails leaves an empty queue, and the next message is written at once. -/
theorem failed_write (hm : Machinery s) (hi : s.handlers[i]? = some ⟨.ctlWrite, some r⟩) (hr : r ≠ .ok)
    (h : OrangeFtpd.step cfg s (.run i os) = .ok s') :
    s'.messageQueue = [] ∧ s'.queueLog = s.queueLog ++ [.ctlDone false] ∧
    ∀ id m s'', writeMessage cfg id m s' = .ok ((), s'') → s''.has .ctlWrite = 1 ∧
      s''.queueLog = s'.queueLog ++ [.reply id m.buffer, .ctlStarted m.buffer] := by
  have hm' := hm.step (step_cases h) (step_ok.mp h).1
  obtain ⟨s₁, hh, rfl⟩ := step_run h hi
  cases hh with
  | operation op hop => cases hop
  | session hs =>
    cases hs with
    | written => exact absurd rfl hr
    | writeFailed _ _ _ =>
      obtain ⟨hq, new, hl, hn⟩ := @SameQueue.dropQueue cfg ((s.takeHandler i).emit (.ctlDone false))
      have hw := hm'.writes.trans (if_pos hq)
      refine ⟨hq, (queueLog_of_none hl hn).trans (queueLog_emit rfl), fun id m s'' hp => ?_⟩
      obtain rfl := writeMessage_ok.mp hp
      have he : ((((s.takeHandler i).emit (.ctlDone false)).dropQueue cfg).releaseSession
          .ctlWrite).messageQueue.isEmpty = true := List.isEmpty_iff.mpr hq
      have ht := @St.tasks_pushMessage ((((s.takeHandler i).emit (.ctlDone false)).dropQueue
        cfg).releaseSession .ctlWrite) id m
      rw [he, if_pos rfl] at ht
      constructor
      · rw [has_append ht, hw]
        rfl
      · rw [queueLog_push, he]
        rfl

/-- **The discipline of the reply queue** in the state `s`. -/
structure Discipline (cfg : Config) (s : St) : Prop where
  /-- One control write at most, that of the banner included. -/
  oneWrite : s.has .banner + s.has .ctlWrite ≤ 1
  /-- One is there whenever a message waits. -/
  writes : s.has .ctlWrite = if s.messageQueue = [] then 0 else 1
  /-- The session has done what an outbox does that is in order: since the last failed write the
      messages asked for are those sent, each by a whole cycle of start, end and token, and then
      those that wait, whose first is being written. Which messages have a token, and whose, is
      told by what is logged of them (`Sent.Genuine`). -/
  sends : Sends Sent.Genuine cfg s
  /-- Without a failed write that is the whole history. -/
  unbroken : .ctlDone false ∉ s.log →
    ∃ (sent queue : List Sent) (acts : List (OutboxAct Sent)), queue.map Prod.snd = s.messageQueue ∧
      s.queueLog = .ctlStarted (welcome cfg) :: acts.map logged ∧
      Epoch Sent.hasToken sent queue acts ∧ ∀ x ∈ sent ++ queue, Sent.Genuine x
  /-- A failed write drops the queue, runs no token, and the next message is written at once. -/
  failed : ∀ (i : Nat) (os : Os) (r : Result) (s' : St),
    s.handlers[i]? = some ⟨.ctlWrite, some r⟩ → r ≠ .ok →
    OrangeFtpd.step cfg s (.run i os) = .ok s' →
      s'.messageQueue = [] ∧ s'.queueLog = s.queueLog ++ [.ctlDone false] ∧
      ∀ id m s'', writeMessage cfg id m s' = .ok ((), s'') → s''.has .ctlWrite = 1 ∧
        s''.queueLog = s'.queueLog ++ [.reply id m.buffer, .ctlStarted m.buffer]
  /-- A write that ended well runs the token of its message, and all this stays so where a token
      calls `write_message` itself: the messages `calls` are sent like any other. -/
  reentrant : ∀ (i : Nat) (m : Message) (rest : List Message),
    s.handlers[i]? = some ⟨.ctlWrite, some .ok⟩ → s.messageQueue = m :: rest →
      onWritten cfg .ok (s.takeHandler i) = writtenWith cfg (runFront m.token) (s.takeHandler i) ∧
      ∀ (calls : List Sent) (s' : St), (∀ x ∈ calls, Sent.Owned x) →
        writtenWith cfg (do runFront m.token; writeAll cfg calls) (s.takeHandler i) = .ok ((), s') →
        Sends (fun x => x.Genuine ∨ x ∈ calls) cfg s'

/-- **Reply queue discipline** holds in every state that a session reaches. -/
theorem reply_queue_discipline {home : Path} {c₀ : UInt32} {now : Int}
    (h : Reach (OrangeFtpd.step cfg) (fun _ _ => True) (St.init cfg home c₀ now) s) :
    Discipline cfg s := by
  have hm := machinery_reach h
  have hS := sends_reach h
  exact {
    oneWrite := hm.oneWrite
    writes := hm.writes
    sends := hS
    unbroken := hS.unbroken
    failed := fun i os r s' hi hr hs => failed_write hm hi hr hs
    reentrant := fun i m rest hi hq => ⟨onWritten_eq hq, fun calls s' hc hw =>
      have taken : Sends Sent.Genuine cfg (s.takeHandler i) := hS.same (.unlogged rfl rfl)
      taken.reentrant hq hc hw⟩ }

end

/-- A download: the 150 was written, and its token has run. -/
theorem reply_queue_discipline_download : ∃ s, runAll (OrangeFtpd.step .shipped) .fresh download = .ok s ∧
    .reply 3 (Response.getCodeString .dataConn) ∈ s.log ∧ .tokenRun 3 ∈ s.log ∧
    Discipline .shipped s := by
  obtain ⟨s, run, asked, ran⟩ : ∃ s, runAll (OrangeFtpd.step .shipped) .fresh download = .ok s ∧
      .reply 3 (Response.getCodeString .dataConn) ∈ s.log ∧ .tokenRun 3 ∈ s.log :=
    exists_runAll (by decide +kernel)
  exact ⟨s, run, asked, ran, reply_queue_discipline
    (reach_runAll download .start (allOk_of_forall fun _ _ => trivial) run)⟩

end OrangeFtpd
