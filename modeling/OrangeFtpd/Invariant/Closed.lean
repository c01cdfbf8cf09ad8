/-
  File:      OrangeFtpd/Invariant/Closed.lean
  Subject:   After the close no request is handled.

  `close` aborts the outstanding read, so that nothing more is read. What it does
  not see is a read that has completed already and whose handler is still to come:
  the idle timer's handler must not close the session in front of one.
-/
import OrangeFtpd.Invariant.Reading

namespace OrangeFtpd

/-- No read is outstanding, and none has brought a line. -/
def St.ReadsOver (s : St) : Prop :=
  ∀ q, ⟨.read, q⟩ ∈ s.handlers → q ≠ none ∧ q ≠ some .ok

/-- What holds in `s'`, some time after the stoped state `s`. -/
structure OverSince (c₀ : UInt32) (s s' : St) : Prop where
  machinery : Machinery s'
  ops : Ops c₀ [] s'
  stoped : s'.stoped = true
  reads : s'.ReadsOver
  nextId : s'.nextId = s.nextId
  log : ∃ new, s'.log = new ++ s.log ∧ ∀ o ∈ new, o.ofRequest = false

/-- The idle timer's handler closes the session only where no completed read is queued. -/
def closesBetweenReads (s : St) (_ : Os) (t : Task) (_ : Result) : Prop :=
  t = .idleWait → s.stoped = false → s.timerExpired = true → ⟨.read, some .ok⟩ ∉ s.handlers

instance {s : St} {os : Os} {t : Task} {r : Result} : Decidable (closesBetweenReads s os t r) :=
  inferInstanceAs (Decidable (_ → _ → _ → _ ∉ _))

section

variable {cfg : Config} {os : Os} {c₀ : UInt32} {id n i : Nat} {s s₁ s' : St} {op : Op} {t : Task}
  {r : Result} {e : Ev}

theorem St.ReadsOver.congr (h : s.ReadsOver) (hr : NoNewRead s s') : s'.ReadsOver := by
  intro q hm
  rcases hr q hm with h1 | ⟨ec, rfl⟩
  · exact h q h1
  · exact ⟨nofun, nofun⟩

theorem St.ReadsOver.of_none (h : s.has .read = 0) : s.ReadsOver :=
  fun _ hm => absurd h (has_pos (Pool.mem_tasks_of hm))

/-- `close` aborts the read. -/
theorem readsOver_close (h : ⟨.read, some .ok⟩ ∉ s.handlers) : s.close.ReadsOver := by
  intro q hm
  rw [St.close_handlers, Pool.mem_cancel_iff (show Task.isTimerWait .read = false from rfl)] at hm
  refine ⟨?_, ?_⟩
  · rintro rfl
    exact Pool.cancel_done hm rfl rfl
  · rintro rfl
    rcases Pool.mem_cancel hm with ⟨h1, _⟩ | ⟨h1, _⟩
    · exact h h1
    · cases h1

theorem stoped_dropQueue : (s.dropQueue cfg).stoped = s.stoped := by
  have fold : ∀ (ops : List Op) (s : St),
      (ops.foldl (fun t op => t.destroyOp cfg op) s).stoped = s.stoped := by
    intro ops
    induction ops with
    | nil => exact fun _ => rfl
    | cons op ops ih => exact fun s => (ih _).trans (St.destroyOp_stoped ..)
  exact fold _ _

theorem stoped_written {tok : Option Token} {rest : List Message} (ht : TokenRun s tok s₁) :
    (s₁.writeNext cfg rest).stoped = s.stoped := by
  have h1 := (tokenRun_kept ht).2.1
  cases rest with
  | nil => exact (St.restartIdleTimer_stoped ..).trans h1
  | cons m rest => exact h1

/-- A handler does not start a stoped session again. -/
theorem Handled.stoped (h : Handled cfg os t r s s') (hst : s.stoped = true) :
    s'.stoped = true := by
  cases h with
  | operation op hop ho => exact ho.opRun.undisturbed.stoped.trans hst
  | session hs =>
    cases hs with
    | readEof _ h0 => rfl
    | readEofBusy _ h0 => rfl
    | readLine _ s₁ hline => exact hline.kept.stoped.trans hst
    | idleClose _ _ h0 hx => rfl
    | writeFailed _ _ hr => exact stoped_dropQueue.trans hst
    | written _ s₁ m rest hq ht => exact (stoped_written ht).trans hst
    | _ => exact hst

/-! ## Steps and runs -/

/-- **A step of a stoped session** handles no line, and leaves it stoped. -/
theorem step_stoped (hm : Machinery s) (hst : s.stoped = true) (h : s.ReadsOver)
    (hs : step cfg s e = .ok s') :
    s'.stoped = true ∧ s'.ReadsOver ∧ SameMembers { s with buf := s.buf ++ e.chunk } s' := by
  have hmem : SameMembers { s with buf := s.buf ++ e.chunk } s' := by
    rcases step_members hs with ⟨i, os, s₁, rfl, hi, -, -⟩ | hmem
    · exact absurd rfl (h _ (List.mem_of_getElem? hi)).2
    · exact hmem
  refine ⟨?_, ?_, hmem⟩
  · cases step_cases hs with
    | run i os t r s₁ hi hh => exact hh.stoped (s := s.takeHandler i) hst
    | _ => exact hst
  cases step_cases hs with
  | clientSend chunk hr => exact absurd rfl (h none hr).1
  | clientGone => exact h
  | peerSend c bytes hc hp => exact h
  | peerShutdown c hc hp => exact h
  | peerReset c hc => exact h
  | tick ms => exact h
  | complete i r t hi hc =>
    intro q hq
    rcases Pool.mem_complete hq with h1 | ⟨h1, h2⟩
    · exact h q h1
    · rw [hi] at h2
      cases h2
      exact absurd rfl (h none (List.mem_of_getElem? hi)).1
  | run i os t r s₁ hi hh =>
    have h0 : (s.takeHandler i).ReadsOver := h.congr (.take i)
    have hl : t = .read → r ≠ .ok := by
      rintro rfl rfl
      exact absurd rfl (h _ (List.mem_of_getElem? hi)).2
    have hb : t ≠ .banner := by
      rintro rfl
      have hp := has_pos (Pool.mem_tasks_of (List.mem_of_getElem? hi))
      cases hst.symm.trans (hm.banner hp).2.2.1
    exact h0.congr (hh.noNewRead hb hl)

/-- **A handler that closes the session** is that of a read, with which no other is there, or that
    of the idle timer. -/
theorem Handled.closes (hm : Machinery s) (hd : s.destroyed = false)
    (hi : s.handlers[i]? = some ⟨t, some r⟩) (hh : Handled cfg os t r (s.takeHandler i) s₁)
    (hst : s.stoped = false) (hst' : s₁.stoped = true) :
    s₁.has .read = 0 ∨ (t = .idleWait ∧ s.timerExpired = true ∧
      s₁ = ((s.takeHandler i).emit .idleClose).close) := by
  have hst₁ : (s.takeHandler i).stoped = false := hst
  have same : ∀ {p : Prop}, s₁.stoped = (s.takeHandler i).stoped → p := fun he => by
    cases hst'.symm.trans (he.trans hst₁)
  cases hh with
  | operation op hop ho => exact same ho.opRun.undisturbed.stoped
  | session hs =>
    cases hs with
    | readEof _ h0 => exact Or.inl (has_close.trans (hm.alone hd hi rfl).read)
    | readEofBusy _ h0 =>
      refine Or.inl ?_
      rw [has_start, has_neverExpire, has_close, (hm.alone hd hi rfl).read]
      rfl
    | idleClose _ _ h0 hx => exact Or.inr ⟨rfl, hx, rfl⟩
    | readLine _ s₂ hline => exact same hline.kept.stoped
    | writeFailed _ _ hr => exact same stoped_dropQueue
    | written _ s₂ m rest hq ht => exact same ((stoped_written ht).trans rfl)
    | _ => exact same rfl

/-- The step that closes the session leaves no read. -/
theorem step_closes (hm : Machinery s) (hst : s.stoped = false) (hg : WhenRun closesBetweenReads s e)
    (hs : step cfg s e = .ok s') (hst' : s'.stoped = true) : s'.ReadsOver := by
  have hd := (step_ok.mp hs).1
  cases step_cases hs with
  | run i os t r s₁ hi hh =>
    refine St.ReadsOver.congr (s := s₁) ?_ (.of_eq rfl)
    rcases hh.closes hm hd hi hst hst' with hz | ⟨rfl, hx, rfl⟩
    · exact .of_none hz
    · refine readsOver_close fun hmem => ?_
      exact hg.at hi rfl hst hx (Pool.mem_of_eraseIdx hmem)
  | _ => cases hst'.symm.trans hst

theorem closed_reach {home : Path} {now : Int}
    (h : Reach (OrangeFtpd.step cfg) (WhenRun closesBetweenReads) (St.init cfg home c₀ now) s) :
    s.stoped = true → s.ReadsOver := by
  refine h.invariant_of (J := Machinery) (I := fun s => s.stoped = true → s.ReadsOver)
    (fun _ => machinery_reach) (fun h0 => absurd h0 Bool.false_ne_true) ?_
  intro s e s' hm hI hg hs hst'
  cases hst : s.stoped with
  | false => exact step_closes hm hst hg hs hst'
  | true => exact (step_stoped hm hst (hI hst) hs).2.1

theorem OverSince.step {s₂ : St} (h : OverSince c₀ s s₁) (hs : step cfg s₁ e = .ok s₂) :
    OverSince c₀ s s₂ := by
  obtain ⟨hst, hr, hm⟩ := step_stoped h.machinery h.stoped h.reads hs
  obtain ⟨new, hl, hn⟩ := h.log
  obtain ⟨new', hl', hn', -⟩ := hm.log
  refine ⟨h.machinery.step (step_cases hs) (step_ok.mp hs).1, h.ops.step (step_cases hs), hst, hr,
    hm.nextId.trans h.nextId, new' ++ new, ?_, ?_⟩
  · rw [hl', List.append_assoc]
    exact congrArg _ hl
  · exact fun o ho => (List.mem_append.mp ho).elim (hn' o) (hn o)

/-- **Nothing is executed after the close**, in every run in which the idle timer's handler never
    closes the session in front of a completed read. From a stoped state on, whatever happens,
    `handle_read` is not run, no request is numbered, and what is logged belongs to requests that
    were there before: no file is opened and no directory made. -/
theorem nothing_after_close {home : Path} {now : Int}
    (h : Reach (step cfg) (WhenRun closesBetweenReads) (St.init cfg home c₀ now) s)
    (hst : s.stoped = true) (hr : Reach (step cfg) (fun _ _ => True) s s') :
    s'.stoped = true ∧ (∀ i : Nat, s'.handlers[i]? ≠ some ⟨.read, some .ok⟩) ∧ s'.nextId = s.nextId ∧
      ∃ new, s'.log = new ++ s.log ∧
        ∀ o ∈ new, o.ofRequest = false ∧ ∀ id, o.id? = some id → id < s.nextId := by
  have h0 : OverSince c₀ s s :=
    ⟨machinery_reach h, ops_reach h, hst, closed_reach h hst, rfl, [], rfl, List.forall_mem_nil _⟩
  have hI : OverSince c₀ s s' := hr.invariant h0 fun s₁ e s₂ h1 _ hs => h1.step hs
  obtain ⟨new, hl, hn⟩ := hI.log
  refine ⟨hI.stoped, fun i hi => absurd rfl (hI.reads _ (List.mem_of_getElem? hi)).2, hI.nextId,
    new, hl, fun o hmem => ⟨hn o hmem, fun id hid => ?_⟩⟩
  rw [← hI.nextId]
  exact hI.ops.log o (hl ▸ List.mem_append_left _ hmem) id hid

end

/-- A client that says nothing is closed by the idle timer. -/
def closedInSilence : List Ev :=
  [.complete 0 .ok, .run 0 {}, .tick 60000, .complete 1 .ok, .run 1 {}]

/-- After the close of a silent session its aborted read runs. -/
theorem nothing_after_close_silence : ∃ s s' : St,
    runAll (step .shipped) .fresh closedInSilence = .ok s ∧ s.stoped = true ∧
    step .shipped s (.run 0 {}) = .ok s' ∧ s'.stoped = true ∧ s'.nextId = s.nextId := by
  have reached : ∀ s : St, runAll (step .shipped) .fresh closedInSilence = .ok s →
      Reach (step .shipped) (WhenRun closesBetweenReads) .fresh s := fun s =>
    reach_runAll closedInSilence .start (by decide)
  have done : ∀ s s' : St, runAll (step .shipped) .fresh closedInSilence = .ok s →
      s.stoped = true → step .shipped s (.run 0 {}) = .ok s' →
      s'.stoped = true ∧ s'.nextId = s.nextId := fun s s' hr hst hs => by
    have h1 := nothing_after_close (reached s hr) hst (.step (.run 0 {}) .start trivial hs)
    exact ⟨h1.1, h1.2.2.1⟩
  exact ⟨_, _, rfl, by decide, rfl, done _ _ rfl (by decide) rfl⟩

/-- A line arrives before the idle timer's handler has run. -/
def lineInFrontOfTimer : List Ev :=
  [.complete 0 .ok, .run 0 {}, .tick 60000, .complete 1 .ok, .clientSend "NOOP\r\n".toList, .run 1 {}]

/-- **The idle timer's handler closes the session in front of a completed read**: the line is
    dispatched afterwards. -/
theorem line_after_close : ¬ ∀ (cfg : Config) (home : Path) (c₀ : UInt32) (now : Int) (s s' : St),
    Reach (step cfg) (fun _ _ => True) (St.init cfg home c₀ now) s → s.stoped = true →
    Reach (step cfg) (fun _ _ => True) s s' → s'.nextId = s.nextId := by
  intro h
  have reached : ∀ s : St, runAll (step .shipped) .fresh lineInFrontOfTimer = .ok s →
      Reach (step .shipped) (fun _ _ => True) .fresh s := fun s =>
    reach_runAll lineInFrontOfTimer .start (by decide)
  have next : ∀ s s' : St, runAll (step .shipped) .fresh lineInFrontOfTimer = .ok s →
      s.stoped = true → step .shipped s (.run 0 {}) = .ok s' → s'.nextId = s.nextId :=
    fun s s' hr hst hs => h _ _ _ _ _ _ (reached s hr) hst (.step _ .start trivial hs)
  exact absurd (next _ _ rfl (by decide) rfl) (by decide)

end OrangeFtpd
