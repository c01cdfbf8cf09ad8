/-
  File:      OrangeFtpd/Invariant/Machinery.lean
  Subject:   The handlers of the session itself: who is in the pool, and when.

  One handler holds the session (the banner's write, the read, or the wait after
  end of file), at most one wait of the idle timer and at most one write of a
  reply are there. All of it is independent of what the operations do: of those
  it is enough that they run as in OpRun.lean.
-/
import OrangeFtpd.Invariant.Operations

namespace OrangeFtpd

/-- How many handlers `t` the pool holds. -/
def St.has (t : Task) (s : St) : Nat := s.handlers.tasks.count t

/-- **The session's own handlers.** -/
structure Machinery (s : St) : Prop where
  /-- A reply is being written exactly when one is queued. -/
  writes : s.has .ctlWrite = if s.messageQueue = [] then 0 else 1
  /-- One handler holds the session, until it is gone. -/
  strong : s.has .banner + s.has .read + s.has .keepAlive = if s.destroyed then 0 else 1
  waits : s.has .idleWait ≤ 1
  /-- Nothing else happens before the banner is written. -/
  banner : s.has .banner ≠ 0 →
    s.has .idleWait = 0 ∧ s.has .ctlWrite = 0 ∧ s.stoped = false ∧ s.liveOps = []
  /-- A session that is stoped while it reads has lost its idle timer. -/
  stoped : s.stoped = true → s.has .read ≠ 0 → s.has .idleWait = 0
  keepAlive : s.has .keepAlive ≠ 0 → s.stoped = true ∧ s.idleExpiry = none

section

variable {cfg : Config} {os : Os} {id n i : Nat} {s s₁ s' : St} {op : Op} {t u : Task} {r : Result}

/-! ## 1. Counting handlers -/

theorem has_congr (h : s'.handlers.tasks = s.handlers.tasks) : s'.has t = s.has t := by
  unfold St.has
  rw [h]

theorem has_append (h : s'.handlers.tasks = s.handlers.tasks ++ [u]) :
    s'.has t = s.has t + if u = t then 1 else 0 := by
  unfold St.has
  rw [h, List.count_append, List.count_singleton]
  simp

theorem has_take {q : Option Result} (hi : s.handlers[i]? = some ⟨t, q⟩) :
    s.has u = (s.takeHandler i).has u + if t = u then 1 else 0 := by
  unfold St.has
  rw [← (Pool.tasks_eraseIdx hi).count_eq u, List.count_cons]
  simp

theorem has_pos (h : t ∈ s.handlers.tasks) : s.has t ≠ 0 := by
  unfold St.has
  rw [← List.one_le_count_iff] at h
  omega

theorem mem_of_has (h : s.has t ≠ 0) : t ∈ s.handlers.tasks :=
  List.one_le_count_iff.mp (Nat.one_le_iff_ne_zero.mpr h)

@[simp] theorem has_doRead : s.doRead.has u = s.has u + if .read = u then 1 else 0 :=
  has_append St.tasks_doRead

@[simp] theorem has_start : (s.start t).has u = s.has u + if t = u then 1 else 0 :=
  has_append St.tasks_start

@[simp] theorem has_startIdleTimer :
    s.startIdleTimer.has u = s.has u + if .idleWait = u then 1 else 0 :=
  has_append St.tasks_startIdleTimer

@[simp] theorem has_updateIdleTimer : (s.updateIdleTimer cfg).has u = s.has u :=
  has_congr St.tasks_updateIdleTimer

@[simp] theorem has_neverExpire : s.neverExpire.has u = s.has u := has_congr St.tasks_neverExpire

@[simp] theorem has_close : s.close.has u = s.has u := has_congr St.tasks_close

@[simp] theorem has_emit (o : Obs) : (s.emit o).has u = s.has u := rfl

/-! ## 2. Operations do not disturb the session's handlers -/

/-- What a request and its operation leave as it was. -/
structure Kept (s s' : St) : Prop where
  banner : s'.has .banner = s.has .banner
  read : s'.has .read = s.has .read
  idleWait : s'.has .idleWait = s.has .idleWait
  keepAlive : s'.has .keepAlive = s.has .keepAlive
  stoped : s'.stoped = s.stoped
  destroyed : s'.destroyed = s.destroyed
  writes : (s.has .ctlWrite = if s.messageQueue = [] then 0 else 1) →
    s'.has .ctlWrite = if s'.messageQueue = [] then 0 else 1

/-- What an operation that runs leaves as it was. -/
structure Undisturbed (s s' : St) : Prop extends Kept s s' where
  idleExpiry : s.stoped = true → s'.idleExpiry = s.idleExpiry

theorem Kept.trans {s₂ : St} (h : Kept s s₁) (h' : Kept s₁ s₂) : Kept s s₂ where
  banner := h'.banner.trans h.banner
  read := h'.read.trans h.read
  idleWait := h'.idleWait.trans h.idleWait
  keepAlive := h'.keepAlive.trans h.keepAlive
  stoped := h'.stoped.trans h.stoped
  destroyed := h'.destroyed.trans h.destroyed
  writes hw := h'.writes (h.writes hw)

theorem Undisturbed.trans {s₂ : St} (h : Undisturbed s s₁) (h' : Undisturbed s₁ s₂) :
    Undisturbed s s₂ where
  toKept := h.toKept.trans h'.toKept
  idleExpiry hs := (h'.idleExpiry (h.stoped.trans hs)).trans (h.idleExpiry hs)

/-- A change that starts no handler and queues no reply. -/
theorem Kept.of_same (ht : s'.handlers.tasks = s.handlers.tasks)
    (hq : s'.messageQueue = s.messageQueue) (hs : s'.stoped = s.stoped)
    (hd : s'.destroyed = s.destroyed) : Kept s s' :=
  ⟨has_congr ht, has_congr ht, has_congr ht, has_congr ht, hs, hd,
    fun hw => by rw [has_congr ht, hq]; exact hw⟩

theorem Quiet.undisturbed (h : Quiet id s s₁) : Undisturbed s s₁ :=
  ⟨.of_same h.tasks h.messageQueue h.stoped h.destroyed, fun _ => h.idleExpiry⟩

theorem undisturbed_push (m : Message) : Undisturbed s (s.pushMessage id m) := by
  have ht := @St.tasks_pushMessage s id m
  have hn : s.messageQueue ++ [m] ≠ [] := by simp
  by_cases hq : s.messageQueue = []
  · rw [hq] at ht
    refine ⟨⟨has_append ht, has_append ht, has_append ht, has_append ht, rfl, rfl, fun hw => ?_⟩,
      fun _ => rfl⟩
    rw [if_pos hq] at hw
    rw [has_append ht, hw, St.pushMessage_messageQueue, if_pos rfl, if_neg hn]
  · have he : s.messageQueue.isEmpty = false := by simpa using hq
    rw [he, if_neg Bool.false_ne_true, List.append_nil] at ht
    refine ⟨⟨has_congr ht, has_congr ht, has_congr ht, has_congr ht, rfl, rfl, fun hw => ?_⟩,
      fun _ => rfl⟩
    rw [if_neg hq] at hw
    rw [has_congr ht, hw, St.pushMessage_messageQueue, if_neg hn]

theorem undisturbed_restartIdleTimer : Undisturbed s (s.restartIdleTimer cfg) := by
  refine ⟨.of_same (by simp) (by simp) (by simp) (by simp), fun hs => ?_⟩
  rw [St.restartIdleTimer_idleExpiry, hs, Bool.or_true, if_pos rfl]

theorem undisturbed_destroyOp : Undisturbed s (s.destroyOp cfg op) := by
  refine ⟨.of_same (by simp) (by simp) (by simp) (by simp), fun hs => ?_⟩
  rw [St.destroyOp_idleExpiry, hs, Bool.or_true, if_pos rfl]

/-- A handler that holds an operation is none of the session's. -/
theorem has_started {q : Option Result} (ht : t.op? = some op) (hu : u.op? = none) :
    (s.startWith t q).has u = s.has u := by
  rw [has_append (St.tasks_startWith q), if_neg (fun h => ?_), Nat.add_zero]
  rw [h, hu] at ht
  cases ht

theorem undisturbed_started {q : Option Result} (ht : t.op? = some op) :
    Undisturbed s (s.startWith t q) :=
  ⟨⟨has_started ht rfl, has_started ht rfl, has_started ht rfl, has_started ht rfl, rfl, rfl,
    fun hw => (has_started ht rfl).trans hw⟩, fun _ => rfl⟩

/-- **An operation that runs** leaves the session's handlers alone. -/
theorem OpRun.undisturbed (h : OpRun cfg id s s') : Undisturbed s s' := by
  induction h with
  | quiet hq hr ih => exact hq.undisturbed.trans ih
  | reply b hr ih => exact (undisturbed_push _).trans ih
  | ended op hop => exact undisturbed_destroyOp
  | queued b tok hop => exact undisturbed_push _
  | started t op r ht hop => exact undisturbed_started ht

theorem kept_rearmIdle : Kept s (s.rearmIdle cfg) := by
  unfold St.rearmIdle
  split
  · exact .of_same rfl rfl rfl rfl
  · exact .of_same St.tasks_updateIdleTimer rfl rfl rfl

theorem Line.kept (h : Line cfg os n s s') : Kept s s' := by
  cases h with
  | blank hb =>
    have h0 : Kept s (s.takeLine n {}) := .of_same rfl rfl rfl rfl
    exact h0.trans kept_rearmIdle
  | refused req b hb hv hc hf =>
    have h1 : Kept s (s.takeLine n req).newRequest := .of_same rfl rfl rfl rfl
    have h2 := h1.trans (@undisturbed_push s.nextId _ ⟨b, none⟩).toKept
    have h3 : Kept s ((((s.takeLine n req).newRequest).pushMessage s.nextId ⟨b, none⟩).emit
      (.over s.nextId)) := h2.trans (.of_same rfl rfl rfl rfl)
    exact h3.trans kept_rearmIdle
  | began req kind _ hb hk hs =>
    have h1 : Kept s (s.takeLine n req).newRequest.basicOp := .of_same rfl rfl rfl rfl
    exact h1.trans hs.opRun.undisturbed.toKept

theorem undisturbed_dropQueue (hw : s.has .ctlWrite = 0) : Undisturbed s (s.dropQueue cfg) ∧
    (s.dropQueue cfg).has .ctlWrite = if (s.dropQueue cfg).messageQueue = [] then 0 else 1 := by
  have fold : ∀ (ops : List Op) (s : St),
      Undisturbed s (ops.foldl (fun t op => t.destroyOp cfg op) s) := by
    intro ops
    induction ops with
    | nil => exact fun s => ⟨.of_same rfl rfl rfl rfl, fun _ => rfl⟩
    | cons op ops ih => exact fun s => undisturbed_destroyOp.trans (ih _)
  have h := fold s.queuedOps (s.withQueue [])
  have hw' := h.writes (hw.trans (if_pos rfl).symm)
  exact ⟨⟨⟨h.banner, h.read, h.idleWait, h.keepAlive, h.stoped, h.destroyed, fun _ => hw'⟩,
    h.idleExpiry⟩, hw'⟩

/-- The token of a written message starts no handler of the session. -/
theorem tokenRun_kept {tok : Option Token} (h : TokenRun s tok s₁) :
    (∀ u : Task, u.op? = none → s₁.has u = s.has u) ∧ s₁.stoped = s.stoped ∧
      s₁.destroyed = s.destroyed ∧ s₁.idleExpiry = s.idleExpiry := by
  cases h with
  | none => exact ⟨fun _ _ => rfl, rfl, rfl, rfl⟩
  | some tok d hd =>
    cases tok with
    | doSendFile op => exact ⟨fun u hu => @has_started _ op _ u _ rfl hu, rfl, rfl, rfl⟩
    | doRecvFile op => exact ⟨fun u hu => @has_started _ op _ u _ rfl hu, rfl, rfl, rfl⟩
    | writeListing op resp => exact ⟨fun u hu => @has_started _ op _ u _ rfl hu, rfl, rfl, rfl⟩

theorem undisturbed_writeNext {m : Message} {rest : List Message}
    (hw : s.has .ctlWrite = 0) (ht : TokenRun s m.token s₁) :
    Undisturbed s (s₁.writeNext cfg rest) ∧ (s₁.writeNext cfg rest).has .ctlWrite =
      if (s₁.writeNext cfg rest).messageQueue = [] then 0 else 1 := by
  obtain ⟨hu, hs, hd, hx⟩ := tokenRun_kept ht
  have hw₁ : (s₁.withQueue rest).has .ctlWrite = 0 := (hu _ rfl).trans hw
  cases rest with
  | nil =>
    have h := @undisturbed_restartIdleTimer cfg (s₁.withQueue [])
    have hw' := h.writes (hw₁.trans (if_pos rfl).symm)
    refine ⟨⟨⟨h.banner.trans (hu _ rfl), h.read.trans (hu _ rfl), h.idleWait.trans (hu _ rfl),
      h.keepAlive.trans (hu _ rfl), h.stoped.trans hs, h.destroyed.trans hd, fun _ => hw'⟩,
      fun h0 => (h.idleExpiry (hs.trans h0)).trans hx⟩, hw'⟩
  | cons m' rest =>
    have ht' := St.tasks_startWrite (s := s₁.withQueue (m' :: rest)) m'.buffer
    have hw' : ((s₁.withQueue (m' :: rest)).startWrite m'.buffer).has .ctlWrite = 1 := by
      rw [has_append ht', hw₁, if_pos rfl]
    exact ⟨⟨⟨(has_append ht').trans (hu _ rfl), (has_append ht').trans (hu _ rfl),
      (has_append ht').trans (hu _ rfl), (has_append ht').trans (hu _ rfl), hs, hd, fun _ => hw'⟩,
      fun _ => hx⟩, hw'⟩

/-! ## 3. The invariant -/

/-- A handler of an operation keeps the invariant. -/
theorem Machinery.operation (h : Machinery s) (hi : s.handlers[i]? = some ⟨t, some r⟩)
    (ht : t.op? = some op) (hk : Undisturbed (s.takeHandler i) s₁) :
    Machinery s₁ := by
  have hu : ∀ u : Task, u.op? = none → s.has u = (s.takeHandler i).has u := by
    intro u hu
    rw [has_take hi, if_neg (fun e => ?_), Nat.add_zero]
    rw [e, hu] at ht
    cases ht
  have hlive : op ∈ s.liveOps :=
    (St.liveOps_erase hi).mem_iff.mp (List.mem_append_left _ (by rw [ht]; simp))
  refine ⟨hk.writes ?_, ?_, ?_, ?_, ?_, ?_⟩
  · rw [← hu _ rfl]
    exact h.writes
  · rw [hk.banner, hk.read, hk.keepAlive, hk.destroyed, ← hu _ rfl, ← hu _ rfl, ← hu _ rfl]
    exact h.strong
  · rw [hk.idleWait, ← hu _ rfl]
    exact h.waits
  · rw [hk.banner, ← hu _ rfl]
    intro hb
    rw [(h.banner hb).2.2.2] at hlive
    cases hlive
  · rw [hk.stoped, hk.read, hk.idleWait, ← hu _ rfl, ← hu _ rfl]
    exact h.stoped
  · rw [hk.keepAlive, hk.stoped, ← hu _ rfl]
    intro hka
    obtain ⟨h1, h2⟩ := h.keepAlive hka
    exact ⟨h1, (hk.idleExpiry h1).trans h2⟩

theorem any_strong : s.handlers.tasks.any Task.isStrong = true ↔
    s.has .banner + s.has .read + s.has .keepAlive ≠ 0 := by
  have hp : ∀ u : Task, s.has u ≠ 0 ↔ u ∈ s.handlers.tasks := fun u => ⟨mem_of_has, has_pos⟩
  rw [List.any_eq_true]
  constructor
  · rintro ⟨u, hm, hu⟩
    have h0 := (hp u).mpr hm
    cases u with
    | banner => omega
    | read => omega
    | keepAlive => omega
    | _ => cases hu
  · intro h
    have hor : s.has .banner ≠ 0 ∨ s.has .read ≠ 0 ∨ s.has .keepAlive ≠ 0 := by omega
    rcases hor with h | h | h
    · exact ⟨_, mem_of_has h, rfl⟩
    · exact ⟨_, mem_of_has h, rfl⟩
    · exact ⟨_, mem_of_has h, rfl⟩

/-- The end of a handler `t` of the session. -/
theorem Machinery.release (hd : s.destroyed = false)
    (hw : s.has .ctlWrite = if s.messageQueue = [] then 0 else 1) (hb : s.has .banner = 0)
    (hs : s.has .read + s.has .keepAlive ≤ 1)
    (hs' : t.isStrong = false → s.has .read + s.has .keepAlive = 1)
    (hwt : s.has .idleWait ≤ 1)
    (hst : s.stoped = true → s.has .read ≠ 0 → s.has .idleWait = 0)
    (hka : s.has .keepAlive ≠ 0 → s.stoped = true ∧ s.idleExpiry = none) :
    Machinery (s.releaseSession t) where
  writes := hw
  waits := hwt
  banner h := absurd hb h
  stoped := hst
  keepAlive := hka
  strong := by
    show s.has .banner + s.has .read + s.has .keepAlive = _
    rw [St.releaseSession_destroyed, hd, Bool.false_or]
    cases ht : t.isStrong with
    | false =>
      have h1 := hs' ht
      simp only [Bool.false_and, Bool.false_eq_true, if_false]
      omega
    | true =>
      by_cases ha : s.handlers.tasks.any Task.isStrong = true
      · have h1 := any_strong.mp ha
        simp only [ha, Bool.not_true, Bool.and_false, Bool.false_eq_true, if_false]
        omega
      · have h1 := mt any_strong.mpr ha
        simp only [eq_false_of_ne_true ha, Bool.not_false, Bool.and_self, if_true]
        omega

/-- A handler that holds the session runs: no other one does. -/
structure Alone (s : St) : Prop where
  destroyed : s.destroyed = false
  banner : s.has .banner = 0
  read : s.has .read = 0
  keepAlive : s.has .keepAlive = 0
  waits : s.has .idleWait ≤ 1
  writes : s.has .ctlWrite = if s.messageQueue = [] then 0 else 1

/-- Another handler of the session runs: one that holds the session is still there. -/
structure Held (s : St) : Prop where
  destroyed : s.destroyed = false
  banner : s.has .banner = 0
  strong : s.has .read + s.has .keepAlive = 1
  waits : s.has .idleWait ≤ 1
  stoped : s.stoped = true → s.has .read ≠ 0 → s.has .idleWait = 0
  keepAlive : s.has .keepAlive ≠ 0 → s.stoped = true ∧ s.idleExpiry = none

theorem Machinery.alone (h : Machinery s) (hd : s.destroyed = false)
    (hi : s.handlers[i]? = some ⟨t, some r⟩) (ht : t.isStrong = true) :
    Alone (s.takeHandler i) := by
  have hs := h.strong
  have hwt := h.waits
  have hw := h.writes
  have hu := fun u => has_take (u := u) hi
  rw [hd, if_neg Bool.false_ne_true, hu .banner, hu .read, hu .keepAlive] at hs
  rw [hu] at hwt hw
  have h1 : (if t = .banner then 1 else 0) + (if t = .read then 1 else 0) +
      (if t = .keepAlive then 1 else 0) = 1 := by
    cases t <;> first | rfl | cases ht
  have h2 : ¬ t = .idleWait := by rintro rfl; cases ht
  have h3 : ¬ t = .ctlWrite := by rintro rfl; cases ht
  rw [if_neg h2] at hwt
  rw [if_neg h3] at hw
  exact ⟨hd, by omega, by omega, by omega, hwt, hw⟩

theorem Machinery.held (h : Machinery s) (hd : s.destroyed = false)
    (hi : s.handlers[i]? = some ⟨t, some r⟩) (ht : t = .idleWait ∨ t = .ctlWrite) :
    Held (s.takeHandler i) := by
  have hs := h.strong
  have hb := h.banner
  have hka := h.keepAlive
  have hwt := h.waits
  have hst := h.stoped
  have hu := fun u => has_take (u := u) hi
  rw [hd, if_neg Bool.false_ne_true] at hs
  rw [hu .keepAlive] at hka
  rw [hu .idleWait] at hwt
  rw [hu .read, hu .idleWait] at hst
  have hb0 : s.has .banner = 0 := by
    by_contra h0
    obtain ⟨h1, h2, -⟩ := hb h0
    rcases ht with rfl | rfl
    · rw [hu .idleWait, if_pos rfl] at h1
      omega
    · rw [hu .ctlWrite, if_pos rfl] at h2
      omega
  rw [hu .banner, hu .read, hu .keepAlive] at hs
  rw [hu .banner] at hb0
  have h1 : ¬ t = .banner ∧ ¬ t = .read ∧ ¬ t = .keepAlive := by
    rcases ht with rfl | rfl <;> exact ⟨nofun, nofun, nofun⟩
  rw [if_neg h1.1] at hs hb0
  rw [if_neg h1.2.1, if_neg h1.2.2] at hs
  rw [if_neg h1.2.2] at hka
  rw [if_neg h1.2.1] at hst
  refine ⟨hd, by omega, by omega, by omega, fun h0 hr => ?_, hka⟩
  have := hst h0 (by omega)
  omega

theorem Held.emit (o : Obs) (h : Held s) : Held (s.emit o) :=
  ⟨h.destroyed, h.banner, h.strong, h.waits, h.stoped, h.keepAlive⟩

/-- The last handler that held the session ends. -/
theorem Alone.release (h : Alone s) (ht : t.isStrong = true) : Machinery (s.releaseSession t) := by
  refine .release h.destroyed h.writes h.banner ?_ ?_ h.waits ?_ ?_
  · rw [h.read, h.keepAlive]
    omega
  · intro hf
    rw [ht] at hf
    cases hf
  · exact fun _ hr => absurd h.read hr
  · exact fun hk => absurd h.keepAlive hk

theorem Alone.close (h : Alone s) : Alone s.close :=
  ⟨h.destroyed, has_close.trans h.banner, has_close.trans h.read, has_close.trans h.keepAlive,
    by rw [has_close]; exact h.waits, has_close.trans h.writes⟩

/-- A handler that does not hold the session ends; the session's handlers were left alone. -/
theorem Held.release (h : Held s) (hk : Undisturbed s s₁)
    (hw : s₁.has .ctlWrite = if s₁.messageQueue = [] then 0 else 1) :
    Machinery (s₁.releaseSession t) := by
  have hs := h.strong
  have hwt := h.waits
  rw [← hk.read, ← hk.keepAlive] at hs
  rw [← hk.idleWait] at hwt
  refine .release (hk.destroyed.trans h.destroyed) hw (hk.banner.trans h.banner) (by omega)
    (fun _ => hs) hwt ?_ ?_
  · rw [hk.stoped, hk.read, hk.idleWait]
    exact h.stoped
  · rw [hk.keepAlive, hk.stoped]
    intro hka
    obtain ⟨h1, h2⟩ := h.keepAlive hka
    exact ⟨h1, (hk.idleExpiry h1).trans h2⟩

theorem Machinery.write_taken (h : Machinery s) (hi : s.handlers[i]? = some ⟨.ctlWrite, some r⟩) :
    (s.takeHandler i).has .ctlWrite = 0 := by
  have hw := h.writes
  rw [has_take hi, if_pos rfl] at hw
  split at hw <;> omega

theorem Machinery.wait_taken (h : Machinery s) (hi : s.handlers[i]? = some ⟨.idleWait, some r⟩) :
    (s.takeHandler i).has .idleWait = 0 := by
  have hw := h.waits
  rw [has_take hi, if_pos rfl] at hw
  omega

/-- A handler of the session keeps the invariant, once `~Session` ran where it was the
    last that held the session. -/
theorem Machinery.session (h : Machinery s) (hd : s.destroyed = false)
    (hi : s.handlers[i]? = some ⟨t, some r⟩)
    (hh : SessionHandled cfg os t r (s.takeHandler i) s₁) :
    Machinery (s₁.releaseSession t) := by
  have hu := fun u => has_take (u := u) hi
  have hst : (s.takeHandler i).stoped = true → s.has .read ≠ 0 → s.has .idleWait = 0 := h.stoped
  cases hh with
  | banner _ =>
    have ha := h.alone hd hi rfl
    have hbn : s.has .banner ≠ 0 := by rw [hu, if_pos rfl]; omega
    obtain ⟨hw0, -, hs0, -⟩ := h.banner hbn
    rw [hu, if_neg nofun] at hw0
    have hs0' : (s.takeHandler i).stoped = false := hs0
    refine .release ha.destroyed ?_ ?_ ?_ nofun ?_ ?_ ?_
    · simpa using ha.writes
    · simpa using ha.banner
    · simp [ha.read, ha.keepAlive]
    · simpa using hw0
    · exact fun hs1 => by cases hs0'.symm.trans hs1
    · exact fun hk => absurd (by simpa using ha.keepAlive) hk
  | bannerFailed _ _ hr => exact (h.alone hd hi rfl).release rfl
  | readEof _ h0 => exact (h.alone hd hi rfl).close.release rfl
  | readEofBusy _ h0 =>
    have ha := (h.alone hd hi rfl).close
    refine .release ha.destroyed ?_ ?_ ?_ nofun ?_ ?_ ?_
    · simpa using ha.writes
    · simpa using ha.banner
    · simp [(h.alone hd hi rfl).read, (h.alone hd hi rfl).keepAlive]
    · simpa using ha.waits
    · exact fun _ hr => absurd (by simpa using ha.read) hr
    · exact fun _ => ⟨rfl, rfl⟩
  | readFailed _ _ hr hr' => exact (h.alone hd hi rfl).release rfl
  | readLine _ s₁ hl =>
    have ha := h.alone hd hi rfl
    have hk := hl.kept
    have hrd : s.has .read ≠ 0 := by rw [hu, if_pos rfl]; omega
    refine .release (hk.destroyed.trans ha.destroyed) ?_ ?_ ?_ nofun ?_ ?_ ?_
    · simpa using hk.writes (by simpa using ha.writes)
    · simpa using hk.banner.trans (by simpa using ha.banner)
    · simp [hk.read, hk.keepAlive, ha.read, ha.keepAlive]
    · simpa [hk.idleWait] using ha.waits
    · intro hs1 _
      have h1 := hst (hk.stoped.symm.trans hs1) hrd
      rw [hu, if_neg nofun] at h1
      simpa using hk.idleWait.trans (by simpa using h1)
    · exact fun hk' => absurd (by simp [hk.keepAlive, ha.keepAlive]) hk'
  | idleStoped _ _ h0 =>
    have hw := h.writes
    rw [hu, if_neg nofun] at hw
    exact (h.held hd hi (Or.inl rfl)).release ⟨.of_same rfl rfl rfl rfl, fun _ => rfl⟩ hw
  | idleAgain _ _ h0 hx =>
    have h1 := h.wait_taken hi
    have hh := h.held hd hi (Or.inl rfl)
    have hw := h.writes
    rw [hu, if_neg nofun] at hw
    refine .release hh.destroyed ?_ ?_ ?_ (fun _ => ?_) ?_ ?_ ?_
    · simpa using hw
    · simpa using hh.banner
    · simp [hh.strong]
    · simpa using hh.strong
    · simp [h1]
    · exact fun hs1 => by cases h0.symm.trans hs1
    · simpa using hh.keepAlive
  | idleClose _ _ h0 hx =>
    have h1 := h.wait_taken hi
    have hh := h.held hd hi (Or.inl rfl)
    have hw := h.writes
    rw [hu, if_neg nofun] at hw
    have hka : (s.takeHandler i).has .keepAlive = 0 := by
      by_contra hk
      cases h0.symm.trans (hh.keepAlive hk).1
    refine .release hh.destroyed ?_ ?_ ?_ (fun _ => ?_) ?_ ?_ ?_
    · simpa using hw
    · simpa using hh.banner
    · simp [hh.strong]
    · simpa using hh.strong
    · simp [h1]
    · exact fun _ _ => by simpa using h1
    · exact fun hk => absurd (by simpa using hka) hk
  | keepAlive _ _ => exact (h.alone hd hi rfl).release rfl
  | writeFailed _ _ hr =>
    have h0 : ((s.takeHandler i).emit (.ctlDone false)).has .ctlWrite = 0 := h.write_taken hi
    obtain ⟨hk, hw⟩ := @undisturbed_dropQueue cfg _ h0
    exact ((h.held hd hi (Or.inr rfl)).emit _).release hk hw
  | written _ s₁ m rest hq ht =>
    have h0 : ((s.takeHandler i).emit (.ctlDone true)).has .ctlWrite = 0 := h.write_taken hi
    obtain ⟨hk, hw⟩ := @undisturbed_writeNext cfg _ _ m rest h0 ht
    exact ((h.held hd hi (Or.inr rfl)).emit _).release hk hw

theorem Machinery.env (h : Machinery s) (ht : s'.handlers.tasks = s.handlers.tasks)
    (hl : s'.messageQueue = s.messageQueue) (hs : s'.stoped = s.stoped)
    (hd : s'.destroyed = s.destroyed) (hx : s'.idleExpiry = s.idleExpiry) : Machinery s' where
  writes := by rw [has_congr ht, hl]; exact h.writes
  strong := by rw [has_congr ht, has_congr ht, has_congr ht, hd]; exact h.strong
  waits := by rw [has_congr ht]; exact h.waits
  banner := by
    rw [has_congr ht, has_congr ht, has_congr ht, hs, St.liveOps_congr ht hl]
    exact h.banner
  stoped := by rw [hs, has_congr ht, has_congr ht]; exact h.stoped
  keepAlive := by rw [has_congr ht, hs, hx]; exact h.keepAlive

/-- **A step** keeps the invariant. -/
theorem Machinery.step {e : Ev} (hs : Stepped cfg s e s') (hd : s.destroyed = false)
    (h : Machinery s) : Machinery s' := by
  cases hs with
  | clientSend chunk hr => exact h.env (St.tasks_receive chunk) rfl rfl rfl rfl
  | clientGone => exact h.env rfl rfl rfl rfl rfl
  | peerSend c bytes hc hp => exact h.env rfl rfl rfl rfl rfl
  | peerShutdown c hc hp => exact h.env rfl rfl rfl rfl rfl
  | peerReset c hc => exact h.env rfl rfl rfl rfl rfl
  | tick ms => exact h.env rfl rfl rfl rfl rfl
  | complete i r t hi hc => exact h.env (St.tasks_completeAt i r) rfl rfl rfl rfl
  | run i os t r s₁ hi hh =>
    cases hh with
    | session hs => exact h.session hd hi hs
    | operation op ht ho =>
      have h1 := h.operation hi ht ho.opRun.undisturbed
      have hw : t.isStrong = false := by cases t <;> first | rfl | cases ht
      refine h1.env rfl rfl rfl ?_ rfl
      rw [St.releaseSession_destroyed, hw, Bool.false_and, Bool.or_false]

/-- **In every state reached** the session's own handlers are as they should be. -/
theorem machinery_reach {home : Path} {c₀ : UInt32} {now : Int} {ok : St → Ev → Prop}
    (h : Reach (OrangeFtpd.step cfg) ok (St.init cfg home c₀ now) s) : Machinery s := by
  refine h.invariant ⟨rfl, rfl, Nat.zero_le _, fun _ => ⟨rfl, rfl, rfl, rfl⟩,
    fun h0 => absurd h0 Bool.false_ne_true, ?_⟩ ?_
  · exact fun h0 => absurd rfl h0
  · exact fun s e s' hI _ hs => hI.step (step_cases hs) (step_ok.mp hs).1

end

end OrangeFtpd
