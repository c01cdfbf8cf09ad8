/-
  File:      OrangeFtpd/Session/Brings.lean
  Subject:   What a handler puts into the pool.

  Handlers start operations and abort others. None of them completes an operation without
  error, but for the read of a line that is there already, and none hands over a connection.
  Accepts are aborted by PASV and by the accept handlers only, which close the acceptor.

  * `Handled.brings`: what any handler but that of a line puts into the pool.
  * `Dispatched.brings`: what a line does.
-/
import OrangeFtpd.Session.Members

namespace OrangeFtpd

/-- What a handler puts into the pool; `aborts` says whether it aborts accepts. -/
inductive Brought (aborts : Bool) : Pending Task Result → Prop where
  | started (t : Task) : Brought aborts ⟨t, none⟩
  | refused (t : Task) : Brought aborts ⟨t, some (.err .badDescriptor)⟩
  | line : Brought aborts ⟨.read, some .ok⟩
  | aborted (t : Task) (h : t.isAccept = true → aborts = true) :
      Brought aborts ⟨t, some (.err .operationAborted)⟩

/-- The sockets of the session and the peer of its control connection. -/
structure Sockets where
  peerAlive : Bool
  acceptor : Acceptor
  controlOpen : Bool
  stoped : Bool

def St.sockets (s : St) : Sockets := ⟨s.peerAlive, s.acceptor, s.controlOpen, s.stoped⟩

/-- **The pool goes on**: with what handlers bring, the peer of the control connection as it was,
    and the control socket closed together with the session. -/
structure Brings (aborts : Bool) (s s' : St) : Prop where
  handlers : ∀ h ∈ s'.handlers, h ∈ s.handlers ∨ Brought aborts h
  peerAlive : s'.peerAlive = s.peerAlive
  acceptor : aborts = false → s'.acceptor = s.acceptor
  control : (s'.controlOpen = s.controlOpen ∧ s'.stoped = s.stoped) ∨
    (s'.controlOpen = false ∧ s'.stoped = true)

section

variable {cfg : Config} {os : Os} {id n i : Nat} {kind : OpKind} {s s₁ s₂ s' : St} {op op' : Op}
  {t : Task} {r : Result} {d : DataSocket} {m : Message} {ab : Bool}

namespace Brings

/-- Changes of the pool alone. -/
theorem pool (h : ∀ x ∈ s'.handlers, x ∈ s.handlers ∨ Brought ab x) (hs : s'.sockets = s.sockets) :
    Brings ab s s' :=
  ⟨h, congrArg Sockets.peerAlive hs, fun _ => congrArg Sockets.acceptor hs,
    Or.inl ⟨congrArg Sockets.controlOpen hs, congrArg Sockets.stoped hs⟩⟩

theorem of_eq (h : s'.handlers = s.handlers) (hs : s'.sockets = s.sockets) : Brings ab s s' :=
  pool (fun _ hm => Or.inl (h ▸ hm)) hs

theorem trans (h : Brings ab s s₁) (h' : Brings ab s₁ s₂) : Brings ab s s₂ where
  handlers x hm := (h'.handlers x hm).elim (h.handlers x) Or.inr
  peerAlive := h'.peerAlive.trans h.peerAlive
  acceptor ha := (h'.acceptor ha).trans (h.acceptor ha)
  control := by
    rcases h'.control with ⟨hc, hs⟩ | hc
    · rcases h.control with ⟨hc₁, hs₁⟩ | ⟨hc₁, hs₁⟩
      · exact Or.inl ⟨hc.trans hc₁, hs.trans hs₁⟩
      · exact Or.inr ⟨hc.trans hc₁, hs.trans hs₁⟩
    · exact Or.inr hc

/-- Who aborts no accepts does not do more than who does. -/
theorem weaken (h : Brings false s s') : Brings ab s s' where
  handlers x hm := by
    refine (h.handlers x hm).imp_right fun hb => ?_
    cases hb with
    | started t => exact .started t
    | refused t => exact .refused t
    | line => exact .line
    | aborted t ha => exact .aborted t fun ht => absurd (ha ht) Bool.false_ne_true
  peerAlive := h.peerAlive
  acceptor _ := h.acceptor rfl
  control := h.control

theorem cancelled {sel : Task → Bool} (hsel : ∀ t, sel t = true → t.isAccept = true → ab = true)
    (hp : s'.handlers = s.handlers.cancel sel (.err .operationAborted)) :
    ∀ x ∈ s'.handlers, x ∈ s.handlers ∨ Brought ab x := by
  rintro ⟨t, q⟩ hm
  rw [hp] at hm
  rcases Pool.mem_cancel hm with ⟨h1, _⟩ | ⟨h1, h2, _⟩
  · exact Or.inl h1
  · cases h1
    exact Or.inr (.aborted t (hsel t h2))

/-- Operations other than accepts are aborted. -/
theorem cancel {sel : Task → Bool} (hsel : ∀ t, sel t = true → t.isAccept = false)
    (hp : s'.handlers = s.handlers.cancel sel (.err .operationAborted))
    (hs : s'.sockets = s.sockets) : Brings ab s s' :=
  pool (cancelled (fun t h ha => absurd ha (by rw [hsel t h]; exact Bool.false_ne_true)) hp) hs

theorem append {ps : Pool Task Result} (hp : s'.handlers = s.handlers ++ ps)
    (hn : ∀ x ∈ ps, Brought ab x) (hs : s'.sockets = s.sockets) : Brings ab s s' := by
  refine pool (fun x hm => ?_) hs
  rw [hp] at hm
  exact (List.mem_append.mp hm).imp_right (hn x)

theorem take (i : Nat) : Brings ab s (s.takeHandler i) :=
  pool (fun _ hm => Or.inl (Pool.mem_of_eraseIdx hm)) rfl

theorem started : Brings ab s (s.start t) :=
  append rfl (List.forall_mem_singleton.mpr (.started t)) rfl

/-- An operation is started on a socket. -/
theorem startedOn {isOpen : Bool} : Brings ab s (s.startOn isOpen t) := by
  refine append rfl (List.forall_mem_singleton.mpr ?_) rfl
  cases isOpen with
  | true => exact .started t
  | false => exact .refused t

theorem push : Brings ab s (s.pushMessage id m) := by
  refine append (St.pushMessage_handlers ..) ?_ rfl
  split
  · refine List.forall_mem_singleton.mpr ?_
    split
    · exact .started _
    · exact .refused _
  · exact List.forall_mem_nil _

theorem isTimerWait_accept (t : Task) (h : t.isTimerWait = true) : t.isAccept = false := by
  cases t <;> first | rfl | cases h

theorem isControl_accept (t : Task) (h : t.isControl = true) : t.isAccept = false := by
  cases t <;> first | rfl | cases h

theorem onDataSocket_accept (t : Task) (h : s.onDataSocket t = true) : t.isAccept = false := by
  unfold St.onDataSocket at h
  cases hd : s.dataSocket with
  | none => rw [hd] at h; cases h
  | some d =>
    rw [hd] at h
    cases t <;> first | rfl | simp [Task.onConn] at h

theorem neverExpire : Brings ab s s.neverExpire := cancel isTimerWait_accept rfl rfl

theorem updateIdleTimer : Brings ab s (s.updateIdleTimer cfg) := cancel isTimerWait_accept rfl rfl

theorem restartIdleTimer : Brings ab s (s.restartIdleTimer cfg) := by
  have hs : (s.restartIdleTimer cfg).sockets = s.sockets := by
    rw [St.restartIdleTimer_eq]
    rfl
  by_cases hp : s.existsPendingOperator = true
  · exact of_eq ((St.restartIdleTimer_handlers cfg s).trans (if_pos hp)) hs
  · exact cancel isTimerWait_accept ((St.restartIdleTimer_handlers cfg s).trans (if_neg hp)) hs

theorem clearDataSocket : Brings ab s s.clearDataSocket := cancel onDataSocket_accept rfl rfl

theorem destroyOp : Brings ab s (s.destroyOp cfg op) := by
  rw [St.destroyOp_eq]
  refine trans ?_ restartIdleTimer
  by_cases hk : op.kind.isTransfer = true
  · exact cancel (s := s) onDataSocket_accept (if_pos hk) rfl
  · exact of_eq (if_neg hk) rfl

theorem close : Brings ab s s.close := by
  have h1 : Brings ab s (s.cancel Task.isControl) := cancel isControl_accept rfl rfl
  have h2 : Brings ab (s.cancel Task.isControl) ((s.cancel Task.isControl).cancel Task.isTimerWait) :=
    cancel isTimerWait_accept rfl rfl
  exact ⟨(h1.trans h2).handlers, rfl, fun _ => rfl, Or.inr ⟨rfl, rfl⟩⟩

theorem rearmIdle : Brings ab s (s.rearmIdle cfg) := by
  unfold St.rearmIdle
  split
  · exact of_eq rfl rfl
  · exact updateIdleTimer

theorem closeAcceptor : Brings true s s.closeAcceptor :=
  ⟨cancelled (fun _ _ _ => rfl) rfl, rfl, nofun, Or.inl ⟨rfl, rfl⟩⟩

/-- The connection is stored, once the acceptor is closed. -/
theorem storeConn (op : Op) (c : ConnId) : Brings ab s.closeAcceptor (s.storeConn op c) :=
  cancel (s := s.closeAcceptor) onDataSocket_accept rfl rfl

theorem waitData : Brings ab s (s.waitData op d) :=
  (of_eq rfl rfl : Brings ab s (s.touchSlot op d)).trans startedOn

theorem doRead : Brings ab s s.doRead := by
  refine append (St.doRead_handlers ..) (List.forall_mem_singleton.mpr ?_) rfl
  split
  · split
    · exact .line
    · exact .started _
  · exact .refused _

theorem startToken {tok : Token} : Brings ab s (s.startToken d tok) := by
  cases tok with
  | doSendFile op => exact waitData
  | doRecvFile op => exact waitData
  | writeListing op response =>
    have h1 : Brings ab s ((s.touchSlot op d).emit (.payload op.id d.conn (.listing response))) :=
      of_eq rfl rfl
    exact h1.trans startedOn

theorem tokenRun {tok : Option Token} (h : TokenRun s tok s₁) : Brings ab s s₁ := by
  cases h with
  | none => exact of_eq rfl rfl
  | some tok d hd => exact (of_eq rfl rfl : Brings ab s (s.emit _)).trans startToken

theorem writeNext {rest : List Message} : Brings ab s (s.writeNext cfg rest) := by
  have h0 : Brings ab s (s.withQueue rest) := of_eq rfl rfl
  cases rest with
  | nil => exact h0.trans restartIdleTimer
  | cons m rest =>
    have h1 : Brings ab (s.withQueue (m :: rest))
        ((s.withQueue (m :: rest)).emit (.ctlStarted m.buffer)) := of_eq rfl rfl
    exact (h0.trans h1).trans startedOn

theorem dropQueue : Brings ab s (s.dropQueue cfg) := by
  have fold : ∀ (ops : List Op) (s : St),
      Brings ab s (ops.foldl (fun t op => t.destroyOp cfg op) s) := by
    intro ops
    induction ops with
    | nil => exact fun s => of_eq rfl rfl
    | cons op ops ih => exact fun s => destroyOp.trans (ih _)
  have h0 : Brings ab s (s.withQueue []) := of_eq rfl rfl
  exact h0.trans (fold s.queuedOps _)

theorem runCompletion : Brings ab s (s.runCompletion op) := by
  unfold St.runCompletion
  split
  · exact ((of_eq rfl rfl : Brings ab s (s.emit (.complete op))).trans push).trans clearDataSocket
  · exact of_eq rfl rfl

theorem spliced (h : Spliced d s op s' op') : Brings ab s s' := by
  induction h with
  | stop s op => exact of_eq rfl rfl
  | turn s s' op op' n bytes hb h ih =>
    have h1 : Brings ab s (RecvFileOp.takeInbox d.conn n s) := of_eq rfl rfl
    have h2 : ∀ {s₁ : St} {o o' : Obs}, Brings ab s₁ ((s₁.emit o).emit o') := of_eq rfl rfl
    exact (h1.trans h2).trans ih

/-! ## 1. Handlers -/

theorem session (h : SessionHandled cfg os t r s s') (hl : t = .read → r ≠ .ok) :
    Brings ab s s' := by
  cases h with
  | banner _ => exact (updateIdleTimer.trans doRead).trans started
  | bannerFailed _ _ hr => exact of_eq rfl rfl
  | readEof _ h0 => exact close
  | readEofBusy _ h0 => exact (close.trans neverExpire).trans started
  | readFailed _ _ hr hr' => exact of_eq rfl rfl
  | readLine _ s₁ hline => exact absurd rfl (hl rfl)
  | idleStoped _ _ h0 => exact of_eq rfl rfl
  | idleAgain _ _ h0 hx => exact started
  | idleClose _ _ h0 hx => exact (of_eq rfl rfl : Brings ab s (s.emit .idleClose)).trans close
  | keepAlive _ _ => exact of_eq rfl rfl
  | writeFailed _ _ hr => exact (of_eq rfl rfl : Brings ab s (s.emit (.ctlDone false))).trans dropQueue
  | written _ s₁ m rest hq ht =>
    exact ((of_eq rfl rfl : Brings ab s (s.emit (.ctlDone true))).trans (tokenRun ht)).trans writeNext

/-- A handler of an operation. An accept handler that was not aborted closes the acceptor first. -/
theorem operation (h : OpHandled cfg os op t r s s') :
    Brings false s s' ∨ ((∃ op', t = .accept op') ∧ r ≠ .err .operationAborted ∧
      Brings false s.closeAcceptor s') := by
  have touched : ∀ {d : DataSocket} {o : Obs}, Brings false s ((s.touchSlot op d).emit o) :=
    of_eq rfl rfl
  have touch : ∀ {d : DataSocket}, Brings false s (s.touchSlot op d) := of_eq rfl rfl
  cases h with
  | acceptAborted _ ha => exact Or.inl destroyOp
  | acceptFailed _ _ hr hr' => exact Or.inr ⟨⟨op, rfl⟩, hr, destroyOp⟩
  | accepted c _ tok htok => exact Or.inr ⟨⟨op, rfl⟩, nofun, (storeConn op c).trans push⟩
  | listAccepted c _ response hl hk hk' =>
    have h1 : Brings false (s.storeConn op c) ((s.storeConn op c).emit (.target op.id s.currentPath)) :=
      of_eq rfl rfl
    exact Or.inr ⟨⟨op, rfl⟩, nofun, ((storeConn op c).trans h1).trans push⟩
  | waitFailed _ _ _ hr hw => exact Or.inl destroyOp
  | sendFailed _ _ d hw hd ho hf => exact Or.inl (touch.trans destroyOp)
  | sendAgain _ _ d hw hd ho => exact Or.inl (touch.trans waitData)
  | sentMore op' _ _ d n hw hd ho hn hop hl => exact Or.inl (touched.trans waitData)
  | sentSlice op' _ _ d n hw hd ho hn hop hl => exact Or.inl (touched.trans started)
  | sentAll op' _ _ d n hw hd ho hn hop hl =>
    exact Or.inl ((touched.trans runCompletion).trans destroyOp)
  | receivedAll c _ d hk hd ho hi => exact Or.inl ((touch.trans runCompletion).trans destroyOp)
  | receiveFailed op' c _ s₁ d hk hd ho hf hl =>
    exact Or.inl ((touch.trans (spliced hl)).trans destroyOp)
  | receiveAgain op' c _ s₁ d hk hd ho hl => exact Or.inl ((touch.trans (spliced hl)).trans waitData)
  | listed c _ _ =>
    have h1 : Brings false s ((s.emit (.listed op.id c (r == .ok))).emit (.complete op)) :=
      of_eq rfl rfl
    exact Or.inl (((h1.trans push).trans clearDataSocket).trans destroyOp)

/-! ## 2. Lines -/

theorem effect (he : Effect cfg os id kind s s') : Brings (kind == .passiveMode) s s' := by
  cases he with
  | replied b hb => exact push
  | destroyed op hop => exact destroyOp
  | portClosed hp =>
    subst hp
    exact closeAcceptor
  | portOpened a hp =>
    subst hp
    exact ⟨fun _ hm => Or.inl hm, rfl, nofun, Or.inl ⟨rfl, rfl⟩⟩
  | waits op hk => exact started
  | _ => exact of_eq rfl rfl

theorem effects (h : Effects cfg os id kind s s') : Brings (kind == .passiveMode) s s' :=
  h.invariant (fun _ _ he hI => hI.trans (effect he)) (of_eq rfl rfl)

end Brings

/-- **A handler** other than that of a line. -/
theorem Handled.brings (h : Handled cfg os t r s s') (hl : t = .read → r ≠ .ok) :
    Brings false s s' ∨ ((∃ op, t = .accept op) ∧ r ≠ .err .operationAborted ∧
      Brings false s.closeAcceptor s') := by
  cases h with
  | session hs => exact Or.inl (.session hs hl)
  | operation op hop ho => exact Brings.operation ho

/-- **A line** aborts accepts only where it is a PASV. -/
theorem Dispatched.brings (h : Dispatched cfg os n s s') (hab : ab = false →
    ∀ req, buildRequest (splitWords (s.buf.take n)) = some req → s.verified = true →
      createKind req.command ≠ some .passiveMode) : Brings ab s s' := by
  have recorded : ∀ {ab : Bool} req, Brings ab s (s.takeLine n req).newRequest := fun _ =>
    .of_eq rfl rfl
  cases h with
  | blank hb => exact (.of_eq rfl rfl : Brings ab s (s.takeLine n {})).trans .rearmIdle
  | refused req b hb hv hr =>
    have h1 : Brings ab s ((s.takeLine n req).newRequest.pushMessage s.nextId ⟨b, none⟩) :=
      (recorded req).trans .push
    have h2 : Brings ab s (((s.takeLine n req).newRequest.pushMessage s.nextId ⟨b, none⟩).emit
        (.over s.nextId)) := h1.trans (.of_eq rfl rfl)
    exact h2.trans .rearmIdle
  | ran req kind _ hb hk hs =>
    have h1 := (recorded req).trans (Brings.effects (runOp_effects.ok rfl hs))
    cases ab with
    | true =>
      cases hp : (kind == OpKind.passiveMode) with
      | true => exact hp ▸ h1
      | false => exact (hp ▸ h1 : Brings false s s').weaken
    | false =>
      have hne : (kind == OpKind.passiveMode) = false := by
        refine beq_false_of_ne ?_
        rintro rfl
        rcases hk with ⟨-, hk⟩ | ⟨hv, hk⟩
        · cases hk
        · exact hab rfl req hb hv hk
      exact hne ▸ h1

/-- **A step that runs a handler** takes it out of the pool and brings nothing else into it. -/
theorem run_brings (hs : step cfg s (.run i os) = .ok s') : Brings true (s.takeHandler i) s' := by
  have released : ∀ {s₁ : St} {t : Task}, Brings true s₁ (s₁.releaseSession t) := .of_eq rfl rfl
  cases step_cases hs with
  | run i os t r s₁ hi hh =>
    by_cases hl : t = .read ∧ r = .ok
    · obtain ⟨rfl, rfl⟩ := hl
      obtain ⟨s₂, hd, e⟩ := step_read hs hi
      rw [e]
      have h1 : Brings true (s.takeHandler i).neverExpire s₂ := hd.brings nofun
      exact ((Brings.neverExpire.trans h1).trans .doRead).trans released
    · rcases hh.brings fun ht hr => hl ⟨ht, hr⟩ with h1 | ⟨-, -, h1⟩
      · exact h1.weaken.trans released
      · exact (Brings.closeAcceptor.trans h1.weaken).trans released

end

end OrangeFtpd
