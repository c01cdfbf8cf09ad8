/-
  File:      OrangeFtpd/Invariant/Ownership.lean
  Subject:   Who holds the session.

  The handlers of the idle timer and of control writes, and the operations, use
  the session through raw pointers. Another handler has to hold it: the read, or
  after end of file the wait on the timer. A read that ends with an error passes
  its hold on in one of its branches only.
-/
import OrangeFtpd.Invariant.Idle

namespace OrangeFtpd

/-- Something in the pool, or an operation, uses the session through a raw pointer. -/
def St.InUse (s : St) : Prop :=
  .idleWait ∈ s.handlers.tasks ∨ .ctlWrite ∈ s.handlers.tasks ∨ s.liveOps ≠ []

/-- The runs in which a holder of the session ends only where it passes its hold on or
    nothing uses the session any more: a read error other than end of file with an
    operation counted, and the end of the wait that holds the session, come after the
    handler of the idle timer; such a read error also after all replies and operations. -/
def holdPassed (s : St) (_ : Os) (t : Task) (r : Result) : Prop :=
  (t = .read → r ≠ .ok → (r = .err .eof ∧ s.activeOpNum ≠ 0) ∨
    (.idleWait ∉ s.handlers.tasks ∧ s.messageQueue = [] ∧ s.liveOps = [])) ∧
  (t = .keepAlive → .idleWait ∉ s.handlers.tasks)

instance (s : St) (os : Os) (t : Task) (r : Result) : Decidable (holdPassed s os t r) :=
  inferInstanceAs (Decidable (
    (t = .read → r ≠ .ok → (r = .err .eof ∧ s.activeOpNum ≠ 0) ∨
      (.idleWait ∉ s.handlers.tasks ∧ s.messageQueue = [] ∧ s.liveOps = [])) ∧
    (t = .keepAlive → .idleWait ∉ s.handlers.tasks)))

section

variable {cfg : Config} {os : Os} {i : Nat} {s s₁ s' : St} {t : Task} {r : Result}

/-- Nothing is left that uses the session. -/
theorem not_inUse (hm : Machinery s) (hw : .idleWait ∉ s.handlers.tasks)
    (hq : s.messageQueue = []) (hl : s.liveOps = []) : ¬ s.InUse := by
  intro h
  rcases h with h | h | h
  · exact hw h
  · exact hm.not_writing hq h
  · exact h hl

theorem not_inUse_take (hi : s.handlers[i]? = some ⟨t, some r⟩) (h : ¬ s.InUse) :
    ¬ (s.takeHandler i).InUse := by
  have hsub : ∀ u ∈ (s.takeHandler i).handlers.tasks, u ∈ s.handlers.tasks := fun u hu =>
    (Pool.tasks_eraseIdx hi).mem_iff.mp (List.mem_cons_of_mem _ hu)
  intro hu
  rcases hu with hu | hu | hu
  · exact h (Or.inl (hsub _ hu))
  · exact h (Or.inr (Or.inl (hsub _ hu)))
  · refine h (Or.inr (Or.inr fun hl => hu ?_))
    have hp := St.liveOps_erase hi
    rw [hl] at hp
    exact (List.append_eq_nil_iff.mp hp.eq_nil).2

theorem not_inUse_close (h : ¬ s.InUse) : ¬ s.close.InUse := by
  unfold St.InUse at h ⊢
  rw [St.tasks_close, St.liveOps_close]
  exact h

/-- A handler that holds the session is left in the pool. -/
theorem not_released (hd : s.destroyed = false) (h : ∃ u ∈ s.handlers.tasks, u.isStrong = true) :
    (s.releaseSession t).destroyed = false := by
  rw [St.releaseSession_destroyed, hd, List.any_eq_true.mpr h]
  simp

theorem not_released_weak (hd : s.destroyed = false) (ht : t.isStrong = false) :
    (s.releaseSession t).destroyed = false := by
  rw [St.releaseSession_destroyed, hd, ht]
  rfl

/-- A handler of the session destroys it only where nothing uses it. -/
theorem session_unused (hd : s.destroyed = false) (hm : Machinery s) (hx : Idle [] s)
    (hi : s.handlers[i]? = some ⟨t, some r⟩) (hg : holdPassed s os t r)
    (hh : SessionHandled cfg os t r (s.takeHandler i) s₁)
    (hd' : (s₁.releaseSession t).destroyed = true) : ¬ s₁.InUse := by
  have hin : t ∈ s.handlers.tasks := Pool.mem_tasks_of (List.mem_of_getElem? hi)
  have kept : ∀ {u : St}, (u.releaseSession t).destroyed = false →
      (u.releaseSession t).destroyed = true → ¬ u.InUse := fun h h' => by
    rw [h] at h'
    cases h'
  cases hh with
  | banner _ =>
    refine kept (not_released hd ⟨.read, ?_, rfl⟩) hd'
    simp
  | bannerFailed _ _ hr =>
    obtain ⟨hw, hc, -, hl⟩ := hm.banner (has_pos hin)
    refine not_inUse_take hi fun hu => ?_
    rcases hu with hu | hu | hu
    · exact has_pos hu hw
    · exact has_pos hu hc
    · exact hu hl
  | readEof _ h0 =>
    rcases hg.1 rfl nofun with ⟨_, ha⟩ | ⟨hw, hq, hl⟩
    · exact absurd h0 ha
    · exact not_inUse_close (not_inUse_take hi (not_inUse hm hw hq hl))
  | readEofBusy _ h0 =>
    refine kept (not_released hd ⟨.keepAlive, ?_, rfl⟩) hd'
    simp
  | readFailed _ _ hr hr' =>
    rcases hg.1 rfl hr with ⟨he, _⟩ | ⟨hw, hq, hl⟩
    · exact absurd he hr'
    · exact not_inUse_take hi (not_inUse hm hw hq hl)
  | readLine _ s₂ hl =>
    have hd₂ : s₂.destroyed = false := hl.kept.destroyed.trans hd
    refine kept (not_released hd₂ ⟨.read, ?_, rfl⟩) hd'
    simp
  | idleStoped _ _ h0 => exact kept (not_released_weak hd rfl) hd'
  | idleAgain _ _ h0 hx => exact kept (not_released_weak hd rfl) hd'
  | idleClose _ _ h0 hx => exact kept (not_released_weak hd rfl) hd'
  | keepAlive _ _ =>
    obtain ⟨hl, hq⟩ := hx (Or.inr ⟨r, List.mem_of_getElem? hi⟩)
    exact not_inUse_take hi (not_inUse hm (hg.2 rfl) hq (List.map_eq_nil_iff.mp hl))
  | writeFailed _ _ hr =>
    have h0 : ((s.takeHandler i).emit (.ctlDone false)).has .ctlWrite = 0 := hm.write_taken hi
    have hk := (@undisturbed_dropQueue cfg _ h0).1
    exact kept (not_released_weak (hk.destroyed.trans hd) rfl) hd'
  | written _ s₂ m rest hq ht =>
    have h0 : ((s.takeHandler i).emit (.ctlDone true)).has .ctlWrite = 0 := hm.write_taken hi
    have hk := (@undisturbed_writeNext cfg _ _ m rest h0 ht).1
    exact kept (not_released_weak (hk.destroyed.trans hd) rfl) hd'

/-- **A step** destroys the session only where nothing uses it. -/
theorem destroyed_unused {e : Ev} (hs : Stepped cfg s e s') (hd : s.destroyed = false)
    (hm : Machinery s) (hx : Idle [] s) (hg : WhenRun holdPassed s e)
    (hd' : s'.destroyed = true) : ¬ s'.InUse := by
  have same : s.destroyed ≠ true := by rw [hd]; nofun
  cases hs with
  | clientSend chunk hr => exact absurd hd' same
  | clientGone => exact absurd hd' same
  | peerSend c bytes hc hp => exact absurd hd' same
  | peerShutdown c hc hp => exact absurd hd' same
  | peerReset c hc => exact absurd hd' same
  | tick ms => exact absurd hd' same
  | complete i r t hi hc => exact absurd hd' same
  | run i os t r s₁ hi hh =>
    cases hh with
    | session hs =>
      have h1 : ¬ s₁.InUse := session_unused hd hm hx hi (hg.at hi) hs hd'
      exact h1
    | operation op ht hop =>
      have hw : t.isStrong = false := by cases t <;> first | rfl | cases ht
      have hk : s₁.destroyed = false := hop.opRun.undisturbed.destroyed.trans hd
      rw [not_released_weak hk hw] at hd'
      cases hd'

/-! ## Runs -/

/-- **The session is held while it is used**, in every run that starts with a zero counter,
    has fewer than `2 ^ 32` operations at a time and meets `holdPassed`: while a wait of the
    idle timer, a control write or an operation is there, the session is not destroyed and
    another handler holds it. -/
theorem session_held_while_used {home : Path} {now : Int}
    (h : Reach (step cfg) (fun s e => fewOps s e ∧ WhenRun holdPassed s e)
      (St.init cfg home 0 now) s) (hu : s.InUse) :
    s.destroyed = false ∧ ∃ t ∈ s.handlers.tasks, t.isStrong = true := by
  have hm := machinery_reach h
  have hd : s.destroyed = false := by
    have hI : s.destroyed = true → ¬ s.InUse := by
      refine h.invariant_of (J := fun s => Machinery s ∧ Idle [] s)
        (I := fun s => s.destroyed = true → ¬ s.InUse) (fun s hs =>
        ⟨machinery_reach hs, idle_reach (hs.mono fun _ _ h => h.1)⟩)
        (fun h0 => absurd h0 Bool.false_ne_true) ?_
      intro s e s' hJ _ hok hs
      exact destroyed_unused (step_cases hs) (step_ok.mp hs).1 hJ.1 hJ.2 hok.2
    by_contra hd
    exact hI (eq_true_of_ne_false hd) hu
  refine ⟨hd, List.any_eq_true.mp (any_strong.mpr ?_)⟩
  rw [hm.strong, hd]
  nofun

end

/-- The client goes while a LIST waits for its data connection. -/
def goneWhileListing : List Ev :=
  login "PASV\r\nLIST\r\n".toList ++
    [.run 2 { bind := some 1025 }, .run 2 {}, .complete 3 (.err .eof), .run 3 {}]

theorem session_held_goneWhileListing : ∃ s : St,
    runAll (step .shipped) .fresh goneWhileListing = .ok s ∧
    s.InUse ∧ s.destroyed = false ∧ ∃ t ∈ s.handlers.tasks, t.isStrong = true := by
  have reached : ∀ s : St, runAll (step .shipped) .fresh goneWhileListing = .ok s →
      Reach (step .shipped) (fun s e => fewOps s e ∧ WhenRun holdPassed s e) .fresh s := fun s =>
    reach_runAll goneWhileListing .start (by decide)
  have hu : ∀ s : St, s.liveOps ≠ [] → s.InUse := fun s h => Or.inr (Or.inr h)
  exact ⟨_, rfl, hu _ (by decide), session_held_while_used (reached _ rfl) (hu _ (by decide))⟩

/-- A client that connects and goes. -/
def comeAndGo : List Ev := [.complete 0 .ok, .run 0 {}, .complete 0 (.err .eof), .run 0 {}]

/-- **End of file without an operation drops the session** while the handler of the idle
    timer is still to come. -/
theorem eof_drops_session : ¬ ∀ (cfg : Config) (home : Path) (now : Int) (s : St),
    Reach (step cfg) (fun _ _ => True) (St.init cfg home 0 now) s → s.InUse →
    s.destroyed = false ∧ ∃ t ∈ s.handlers.tasks, t.isStrong = true := by
  intro h
  have reached : ∀ s : St, runAll (step .shipped) .fresh comeAndGo = .ok s →
      Reach (step .shipped) (fun _ _ => True) .fresh s := fun s =>
    reach_runAll comeAndGo .start (by decide)
  have hu : ∀ s : St, .idleWait ∈ s.handlers.tasks → s.InUse := fun s => Or.inl
  cases (h _ _ _ _ (reached _ rfl) (hu _ (by decide))).1

end OrangeFtpd
