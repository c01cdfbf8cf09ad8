/-
  File:      OrangeFtpd/Session/Lemmas.lean
  Subject:   What each state change of Context.lean does to the parts of the state
             the invariants look at.

  Most state changes are one record update, with their field lemmas beside them.
  The two that decide something first (`restartIdleTimer`, `destroyOp`) get an
  equation as one record update here, and their field lemmas from it.
  The handlers of the pool are followed through `tasks` and `liveOps`.
-/
import OrangeFtpd.Session.Session

namespace OrangeFtpd

namespace St

variable {cfg : Config} {s : St} {t : Task} {op : Op} {id : Nat} {m : Message}

/-! ## 1. Equations -/

theorem restartIdleTimer_eq (cfg : Config) (s : St) : s.restartIdleTimer cfg =
    { s with
      idleExpiry := if s.existsPendingOperator || s.stoped then s.idleExpiry
        else some (s.now + 1000 * cfg.maxIdleTimeout)
      handlers := if s.existsPendingOperator then s.handlers
        else s.handlers.cancel Task.isTimerWait (.err .operationAborted) } := by
  unfold restartIdleTimer
  by_cases hp : s.existsPendingOperator = true
  · rw [if_pos hp, hp]
    rfl
  · rw [if_neg hp, eq_false_of_ne_true hp, Bool.false_or,
      if_neg (c := false = true) Bool.false_ne_true]
    by_cases hs : s.stoped = true
    · rw [if_pos hs, if_pos hs]
      rfl
    · rw [if_neg hs, if_neg hs]
      rfl

theorem destroyOp_eq (cfg : Config) (op : Op) (s : St) : s.destroyOp cfg op =
    restartIdleTimer cfg { s with
      activeOpNum := s.activeOpNum - 1
      dataSocket := if op.kind.isTransfer then s.closeDataSocket.dataSocket else s.dataSocket
      handlers := if op.kind.isTransfer then s.closeDataSocket.handlers else s.handlers
      log := .over op.id :: s.log } := by
  unfold destroyOp basicOpDestructor emit
  cases op.kind.isTransfer <;> rfl

/-! ## 2. The handlers of the pool -/

@[simp] theorem tasks_startWith (r : Option Result) :
    (s.startWith t r).handlers.tasks = s.handlers.tasks ++ [t] := Pool.tasks_append ..

@[simp] theorem tasks_start : (s.start t).handlers.tasks = s.handlers.tasks ++ [t] :=
  tasks_startWith _

@[simp] theorem tasks_startOn (b : Bool) :
    (s.startOn b t).handlers.tasks = s.handlers.tasks ++ [t] := tasks_startWith _

@[simp] theorem tasks_cancelled (sel : Task → Bool) :
    (s.cancel sel).handlers.tasks = s.handlers.tasks := Pool.tasks_cancel ..

@[simp] theorem tasks_doRead : s.doRead.handlers.tasks = s.handlers.tasks ++ [.read] :=
  tasks_startWith _

@[simp] theorem tasks_startIdleTimer :
    s.startIdleTimer.handlers.tasks = s.handlers.tasks ++ [.idleWait] := tasks_start

@[simp] theorem tasks_updateIdleTimer : (s.updateIdleTimer cfg).handlers.tasks = s.handlers.tasks :=
  tasks_cancelled _

@[simp] theorem tasks_neverExpire : s.neverExpire.handlers.tasks = s.handlers.tasks :=
  tasks_cancelled _

@[simp] theorem tasks_closeDataSocket : s.closeDataSocket.handlers.tasks = s.handlers.tasks :=
  tasks_cancelled _

@[simp] theorem tasks_clearDataSocket : s.clearDataSocket.handlers.tasks = s.handlers.tasks :=
  tasks_cancelled _

@[simp] theorem tasks_setDataSocket (c : ConnId) :
    (s.setDataSocket c).handlers.tasks = s.handlers.tasks := tasks_cancelled _

@[simp] theorem tasks_closeAcceptor : s.closeAcceptor.handlers.tasks = s.handlers.tasks :=
  tasks_cancelled _

@[simp] theorem tasks_close : s.close.handlers.tasks = s.handlers.tasks :=
  (tasks_cancelled _).trans (tasks_cancelled _)

@[simp] theorem tasks_pushMessage : (s.pushMessage id m).handlers.tasks =
    s.handlers.tasks ++ if s.messageQueue.isEmpty then [.ctlWrite] else [] := by
  rw [pushMessage_handlers, Pool.tasks_append]
  split <;> rfl

@[simp] theorem tasks_startWrite (b : SharedConstBuffer) :
    (s.startWrite b).handlers.tasks = s.handlers.tasks ++ [.ctlWrite] := tasks_startOn _

@[simp] theorem tasks_receive (chunk : Text) :
    (s.receive chunk).handlers.tasks = s.handlers.tasks := by
  rw [receive_handlers]
  split
  · exact Pool.tasks_cancel ..
  · rfl

@[simp] theorem tasks_completeAt (i : Nat) (r : Result) :
    (s.completeAt i r).handlers.tasks = s.handlers.tasks := Pool.tasks_complete ..

@[simp] theorem tasks_restartIdleTimer :
    (s.restartIdleTimer cfg).handlers.tasks = s.handlers.tasks := by
  rw [restartIdleTimer_eq]
  show Pool.tasks (if _ then _ else _) = _
  split
  · rfl
  · exact Pool.tasks_cancel ..

@[simp] theorem tasks_destroyOp : (s.destroyOp cfg op).handlers.tasks = s.handlers.tasks := by
  rw [destroyOp_eq, tasks_restartIdleTimer]
  show Pool.tasks (if _ then _ else _) = _
  split
  · exact tasks_closeDataSocket
  · rfl

/-! ## 3. What `restartIdleTimer` and `destroyOp` leave alone -/

section

variable (cfg : Config) (op : Op) (s : St)

@[simp] theorem restartIdleTimer_buf : (s.restartIdleTimer cfg).buf = s.buf := by
  rw [restartIdleTimer_eq]

@[simp] theorem restartIdleTimer_stoped : (s.restartIdleTimer cfg).stoped = s.stoped := by
  rw [restartIdleTimer_eq]

@[simp] theorem restartIdleTimer_destroyed : (s.restartIdleTimer cfg).destroyed = s.destroyed := by
  rw [restartIdleTimer_eq]

@[simp] theorem restartIdleTimer_messageQueue :
    (s.restartIdleTimer cfg).messageQueue = s.messageQueue := by rw [restartIdleTimer_eq]

@[simp] theorem restartIdleTimer_activeOpNum :
    (s.restartIdleTimer cfg).activeOpNum = s.activeOpNum := by rw [restartIdleTimer_eq]

@[simp] theorem restartIdleTimer_dataSocket :
    (s.restartIdleTimer cfg).dataSocket = s.dataSocket := by rw [restartIdleTimer_eq]

@[simp] theorem restartIdleTimer_controlOpen :
    (s.restartIdleTimer cfg).controlOpen = s.controlOpen := by rw [restartIdleTimer_eq]

@[simp] theorem restartIdleTimer_conns : (s.restartIdleTimer cfg).conns = s.conns := by
  rw [restartIdleTimer_eq]

@[simp] theorem restartIdleTimer_nextId : (s.restartIdleTimer cfg).nextId = s.nextId := by
  rw [restartIdleTimer_eq]

@[simp] theorem restartIdleTimer_now : (s.restartIdleTimer cfg).now = s.now := by
  rw [restartIdleTimer_eq]

@[simp] theorem restartIdleTimer_log : (s.restartIdleTimer cfg).log = s.log := by
  rw [restartIdleTimer_eq]

theorem restartIdleTimer_idleExpiry : (s.restartIdleTimer cfg).idleExpiry =
    if s.existsPendingOperator || s.stoped then s.idleExpiry
    else some (s.now + 1000 * cfg.maxIdleTimeout) := by rw [restartIdleTimer_eq]

theorem restartIdleTimer_handlers : (s.restartIdleTimer cfg).handlers =
    if s.existsPendingOperator then s.handlers
    else s.handlers.cancel Task.isTimerWait (.err .operationAborted) := by
  rw [restartIdleTimer_eq]

@[simp] theorem destroyOp_buf : (s.destroyOp cfg op).buf = s.buf := by rw [destroyOp_eq]; simp

@[simp] theorem destroyOp_stoped : (s.destroyOp cfg op).stoped = s.stoped := by
  rw [destroyOp_eq]; simp

@[simp] theorem destroyOp_destroyed : (s.destroyOp cfg op).destroyed = s.destroyed := by
  rw [destroyOp_eq]; simp

@[simp] theorem destroyOp_messageQueue : (s.destroyOp cfg op).messageQueue = s.messageQueue := by
  rw [destroyOp_eq]; simp

@[simp] theorem destroyOp_activeOpNum :
    (s.destroyOp cfg op).activeOpNum = s.activeOpNum - 1 := by rw [destroyOp_eq]; simp

@[simp] theorem destroyOp_dataSocket : (s.destroyOp cfg op).dataSocket =
    if op.kind.isTransfer then s.closeDataSocket.dataSocket else s.dataSocket := by
  rw [destroyOp_eq]; simp

@[simp] theorem destroyOp_controlOpen : (s.destroyOp cfg op).controlOpen = s.controlOpen := by
  rw [destroyOp_eq]; simp

@[simp] theorem destroyOp_conns : (s.destroyOp cfg op).conns = s.conns := by
  rw [destroyOp_eq]; simp

@[simp] theorem destroyOp_nextId : (s.destroyOp cfg op).nextId = s.nextId := by
  rw [destroyOp_eq]; simp

@[simp] theorem destroyOp_now : (s.destroyOp cfg op).now = s.now := by
  rw [destroyOp_eq]; simp

/-- The destructor looks whether anything is pending after it gave up its own place. -/
theorem destroyOp_idleExpiry : (s.destroyOp cfg op).idleExpiry =
    if (s.destroyOp cfg op).existsPendingOperator || s.stoped then s.idleExpiry
    else some (s.now + 1000 * cfg.maxIdleTimeout) := by
  rw [destroyOp_eq, restartIdleTimer_idleExpiry]
  unfold existsPendingOperator
  simp

@[simp] theorem destroyOp_log : (s.destroyOp cfg op).log = .over op.id :: s.log := by
  rw [destroyOp_eq]; simp

end

/-! ## 4. The live operations -/

theorem liveOps_congr {s s' : St} (ht : s'.handlers.tasks = s.handlers.tasks)
    (hq : s'.messageQueue = s.messageQueue) : s'.liveOps = s.liveOps := by
  unfold liveOps queuedOps
  rw [ht, hq]

/-- The session's own handlers hold no operation. -/
theorem liveOps_of_control {s s' : St} {ts : List Task}
    (ht : s'.handlers.tasks = s.handlers.tasks ++ ts) (hts : ts.filterMap Task.op? = [])
    (hq : s'.messageQueue = s.messageQueue) : s'.liveOps = s.liveOps := by
  unfold liveOps queuedOps
  rw [ht, hq, List.filterMap_append, hts, List.append_nil]

/-- A started handler keeps the operation it captures alive. -/
theorem liveOps_of_tasks {s s' : St} (ht : s'.handlers.tasks = s.handlers.tasks ++ [t])
    (hq : s'.messageQueue = s.messageQueue) : s'.liveOps.Perm (t.op?.toList ++ s.liveOps) := by
  unfold liveOps queuedOps
  rw [ht, hq, List.filterMap_append]
  have e : [t].filterMap Task.op? = t.op?.toList := by cases h : t.op? <;> simp [h]
  rw [e, List.append_assoc]
  exact List.perm_append_comm_assoc _ _ _

theorem liveOps_start : (s.start t).liveOps.Perm (t.op?.toList ++ s.liveOps) :=
  liveOps_of_tasks tasks_start rfl

theorem liveOps_startOn (b : Bool) : (s.startOn b t).liveOps.Perm (t.op?.toList ++ s.liveOps) :=
  liveOps_of_tasks (tasks_startOn b) rfl

@[simp] theorem liveOps_doRead : s.doRead.liveOps = s.liveOps :=
  liveOps_of_control tasks_doRead rfl rfl

@[simp] theorem liveOps_startIdleTimer : s.startIdleTimer.liveOps = s.liveOps :=
  liveOps_of_control tasks_startIdleTimer rfl rfl

@[simp] theorem liveOps_startWrite (b : SharedConstBuffer) :
    (s.startWrite b).liveOps = s.liveOps :=
  liveOps_of_control (tasks_startWrite b) rfl rfl

@[simp] theorem liveOps_updateIdleTimer : (s.updateIdleTimer cfg).liveOps = s.liveOps :=
  liveOps_congr tasks_updateIdleTimer rfl

@[simp] theorem liveOps_neverExpire : s.neverExpire.liveOps = s.liveOps :=
  liveOps_congr tasks_neverExpire rfl

@[simp] theorem liveOps_close : s.close.liveOps = s.liveOps := liveOps_congr tasks_close rfl

@[simp] theorem liveOps_restartIdleTimer : (s.restartIdleTimer cfg).liveOps = s.liveOps :=
  liveOps_congr tasks_restartIdleTimer (restartIdleTimer_messageQueue ..)

/-- A queued message keeps the operation of its token alive. -/
theorem liveOps_pushMessage :
    (s.pushMessage id m).liveOps = s.liveOps ++ (m.token.map Token.op).toList := by
  unfold liveOps queuedOps
  rw [tasks_pushMessage, pushMessage_messageQueue, List.filterMap_append, List.filterMap_append]
  have e1 : (if s.messageQueue.isEmpty then [Task.ctlWrite] else []).filterMap Task.op? = [] := by
    split <;> rfl
  have e2 : [m].filterMap (fun m => m.token.map Token.op) = (m.token.map Token.op).toList := by
    cases h : m.token <;> simp [h]
  rw [e1, e2, List.append_nil, List.append_assoc]

@[simp] theorem liveOps_destroyOp : (s.destroyOp cfg op).liveOps = s.liveOps :=
  liveOps_congr tasks_destroyOp (destroyOp_messageQueue ..)

/-- Running a handler takes it, and what it captures, out of the pool. -/
theorem liveOps_erase {i : Nat} {r : Option Result} (hi : s.handlers[i]? = some ⟨t, r⟩) :
    (t.op?.toList ++ (s.takeHandler i).liveOps).Perm s.liveOps := by
  unfold liveOps
  have h := (Pool.tasks_eraseIdx hi).filterMap Task.op?
  have e : (t :: Pool.tasks (s.handlers.eraseIdx i)).filterMap Task.op? =
      t.op?.toList ++ (Pool.tasks (s.handlers.eraseIdx i)).filterMap Task.op? := by
    cases h : t.op? <;> simp [h]
  rw [e] at h
  rw [← List.append_assoc]
  exact h.append_right _

end St

end OrangeFtpd
