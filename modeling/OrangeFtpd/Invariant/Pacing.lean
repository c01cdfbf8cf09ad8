/-
  File:      OrangeFtpd/Invariant/Pacing.lean
  Subject:   The download limit over any window of time.

  With a limit every piece that leaves bytes to send is followed by a wait on
  `limiter_timer_`; the readiness wait after a would-block does not shorten it. The
  session runs beside a record of the timers and of the times of the pieces
  (`Clocked`), in runs whose timers are not early (`notEarly`).

  * `step_stays`: a handler stays until it is run.
  * `Paced`: the invariant. A RETR has rested since its last piece, or it waits on its
    timer.
  * `download_limited`: the pieces of a RETR are 100 ms apart, and no second holds more
    than the limit.
-/
import OrangeFtpd.Lib.Spaced
import OrangeFtpd.Invariant.Endless

namespace OrangeFtpd

/-- Handlers stay, and the clock stands still. -/
structure Stays (s s' : St) : Prop where
  tasks : s.handlers.tasks ⊆ s'.handlers.tasks
  now : s'.now = s.now

section

variable {cfg : Config} {os : Os} {id n i : Nat} {s s₁ s₂ s' : St} {op op' : Op} {e : Ev} {t : Task}
  {r : Result} {c₀ : UInt32}

/-! ## 1. Handlers stay until they are run -/

namespace Stays

theorem of_eq (ht : s'.handlers.tasks = s.handlers.tasks) (hn : s'.now = s.now) : Stays s s' :=
  ⟨ht ▸ List.Subset.refl _, hn⟩

theorem append {ts : List Task} (ht : s'.handlers.tasks = s.handlers.tasks ++ ts)
    (hn : s'.now = s.now) : Stays s s' := ⟨ht ▸ List.subset_append_left _ _, hn⟩

theorem trans (h : Stays s s₁) (h' : Stays s₁ s₂) : Stays s s₂ :=
  ⟨List.Subset.trans h.tasks h'.tasks, h'.now.trans h.now⟩

theorem push {m : Message} : Stays s (s.pushMessage id m) := .append St.tasks_pushMessage rfl

theorem destroyOp : Stays s (s.destroyOp cfg op) := .of_eq St.tasks_destroyOp (St.destroyOp_now ..)

theorem restartIdleTimer : Stays s (s.restartIdleTimer cfg) :=
  .of_eq St.tasks_restartIdleTimer (St.restartIdleTimer_now ..)

theorem rearmIdle : Stays s (s.rearmIdle cfg) := by
  unfold St.rearmIdle
  split
  · exact .of_eq rfl rfl
  · exact .of_eq St.tasks_updateIdleTimer rfl

theorem writeNext {rest : List Message} : Stays s (s.writeNext cfg rest) := by
  have h0 : Stays s (s.withQueue rest) := .of_eq rfl rfl
  cases rest with
  | nil => exact h0.trans .restartIdleTimer
  | cons m rest => exact h0.trans (.append (St.tasks_startWrite m.buffer) rfl)

theorem dropQueue : Stays s (s.dropQueue cfg) := by
  have fold : ∀ (ops : List Op) (s : St), Stays s (ops.foldl (fun t op => t.destroyOp cfg op) s) := by
    intro ops
    induction ops with
    | nil => exact fun s => .of_eq rfl rfl
    | cons op ops ih => exact fun s => destroyOp.trans (ih _)
  have h0 : Stays s (s.withQueue []) := .of_eq rfl rfl
  exact h0.trans (fold s.queuedOps _)

end Stays

theorem OpRun.stays (h : OpRun cfg id s s') : Stays s s' := by
  induction h with
  | quiet hq hr ih => exact Stays.trans (.of_eq hq.tasks hq.now) ih
  | reply b hr ih => exact Stays.push.trans ih
  | ended op hop => exact .destroyOp
  | queued b tok hop => exact .push
  | started t op r ht hop => exact .append (St.tasks_startWith r) rfl

theorem Line.stays (h : Line cfg os n s s') : Stays s s' := by
  have line : ∀ req, Stays s (s.takeLine n req) := fun req => .of_eq rfl rfl
  cases h with
  | blank hb => exact (line {}).trans .rearmIdle
  | refused req b hb hv hc hf =>
    have h1 : Stays s (s.takeLine n req).newRequest := (line req).trans (.of_eq rfl rfl)
    let s₁ := (s.takeLine n req).newRequest.pushMessage s.nextId ⟨b, none⟩
    have h2 : Stays s s₁ := h1.trans .push
    have h3 : Stays s (s₁.emit (.over s.nextId)) := h2.trans (.of_eq rfl rfl)
    exact h3.trans .rearmIdle
  | began req kind _ hb hk hs =>
    have h1 : Stays s (s.takeLine n req).newRequest.basicOp := (line req).trans (.of_eq rfl rfl)
    exact h1.trans hs.opRun.stays

theorem TokenRun.stays {tok : Option Token} (h : TokenRun s tok s₁) : Stays s s₁ := by
  cases h with
  | none => exact .of_eq rfl rfl
  | some tok d hd => cases tok <;> exact .append (St.tasks_startWith _) rfl

theorem SessionHandled.stays (h : SessionHandled cfg os t r s s') : Stays s s' := by
  cases h with
  | banner _ =>
    have h1 : Stays s (s.updateIdleTimer cfg) := .of_eq St.tasks_updateIdleTimer rfl
    have h2 := h1.trans (.append St.tasks_doRead rfl)
    exact h2.trans (.append St.tasks_startIdleTimer rfl)
  | bannerFailed _ _ hr => exact .of_eq rfl rfl
  | readEof _ h0 => exact .of_eq St.tasks_close rfl
  | readEofBusy _ h0 =>
    have h1 : Stays s s.close.neverExpire := .of_eq (St.tasks_neverExpire.trans St.tasks_close) rfl
    exact h1.trans (.append St.tasks_start rfl)
  | readFailed _ _ hr hr' => exact .of_eq rfl rfl
  | readLine _ s₁ hline =>
    have h1 : Stays s s.neverExpire := .of_eq St.tasks_neverExpire rfl
    exact (h1.trans hline.stays).trans (.append St.tasks_doRead rfl)
  | idleStoped _ _ h0 => exact .of_eq rfl rfl
  | idleAgain _ _ h0 hx => exact .append St.tasks_startIdleTimer rfl
  | idleClose _ _ h0 hx =>
    have h1 : Stays s (s.emit .idleClose) := .of_eq rfl rfl
    exact h1.trans (.of_eq St.tasks_close rfl)
  | keepAlive _ _ => exact .of_eq rfl rfl
  | writeFailed _ _ hr =>
    have h1 : Stays s (s.emit (.ctlDone false)) := .of_eq rfl rfl
    exact h1.trans .dropQueue
  | written _ s₁ m rest hq ht =>
    have h1 : Stays s (s.emit (.ctlDone true)) := .of_eq rfl rfl
    exact (h1.trans ht.stays).trans .writeNext

theorem Handled.stays (h : Handled cfg os t r s s') : Stays s s' := by
  cases h with
  | session hs => exact hs.stays
  | operation op hop ho => exact ho.opRun.stays

/-- **A handler stays** until it is run. -/
theorem step_stays (hs : step cfg s e = .ok s') (ht : t ∈ s.handlers.tasks) :
    t ∈ s'.handlers.tasks ∨ ∃ i os r, e = .run i os ∧ s.handlers[i]? = some ⟨t, some r⟩ := by
  cases step_cases hs with
  | clientSend chunk hr => exact Or.inl ((@St.tasks_receive s chunk).symm ▸ ht)
  | clientGone => exact Or.inl ht
  | peerSend c bytes hc hp => exact Or.inl ht
  | peerShutdown c hc hp => exact Or.inl ht
  | peerReset c hc => exact Or.inl ht
  | tick ms => exact Or.inl ht
  | complete i r u hi hc => exact Or.inl ((@St.tasks_completeAt s i r).symm ▸ ht)
  | run i os u r s₁ hi hh =>
    rcases List.mem_cons.mp ((Pool.tasks_eraseIdx hi).mem_iff.mpr ht) with rfl | h1
    · exact Or.inr ⟨i, os, r, rfl, hi⟩
    · exact Or.inl (hh.stays.tasks h1)

/-- The clock does not go back. -/
theorem step_now (hs : step cfg s e = .ok s') : s.now ≤ s'.now := by
  cases step_cases hs with
  | tick ms => exact Int.le_add_of_nonneg_right (Int.natCast_nonneg ms)
  | run i os u r s₁ hi hh => exact Int.le_of_eq hh.stays.now.symm
  | clientSend chunk hr => exact Int.le_refl _
  | clientGone => exact Int.le_refl _
  | peerSend c bytes hc hp => exact Int.le_refl _
  | peerShutdown c hc hp => exact Int.le_refl _
  | peerReset c hc => exact Int.le_refl _
  | complete i r u hi hc => exact Int.le_refl _

/-- A live operation was alive before, or it is that of the request handled now. -/
theorem step_live (ho : Ops c₀ [] s) (hs : step cfg s e = .ok s') {y : Phase × Op}
    (hy : y ∈ s'.staged) : (∃ z ∈ s.staged, z.2.id = y.2.id) ∨ y.2.id = s.nextId := by
  have old : y ∈ s.staged → (∃ z ∈ s.staged, z.2.id = y.2.id) ∨ y.2.id = s.nextId :=
    fun h => Or.inl ⟨y, h, rfl⟩
  cases booked_step (step_cases hs) ho with
  | same _ _ he hn => exact old ((he.staged y hy).resolve_left nofun)
  | connect i c _ he hn => exact old ((he.staged y hy).resolve_left nofun)
  | peer _ _ o k hp he hn => exact old ((he.staged y hy).resolve_left nofun)
  | token i os _ tok d new hi ht hd hnew he hn => exact old ((he.staged y hy).resolve_left nofun)
  | refused i os _ req b hr hv hc hb he hn => exact old ((he.staged y hy).resolve_left nofun)
  | dropped i os _ r hi hr he hgone hn => exact old ((he.staged y hy).resolve_left nofun)
  | launched i os _ req kind s₁ new handed hr hk hs₁ hl he hn =>
    rcases he.staged y hy with h1 | h1
    · exact Or.inr (hl.handed_fresh h1).1
    · exact old h1
  | turned i os _ t r ph op new handed k hi hp hT he hgone hn =>
    rcases he.staged y hy with h1 | h1
    · exact Or.inl ⟨_, staged_handler hi hp, (hT.handedOn h1).1.symm⟩
    · exact old h1

end

/-! ## 2. Timers and times -/

/-- A piece of a file: when `sendfile` passed it, and how many bytes it has. -/
structure Slice where
  time : Int
  count : Nat
  deriving DecidableEq, Repr

/-- The session, with the expiry of the `limiter_timer_` of each operation and the pieces that
    were sent for it, newest first. -/
structure Clocked where
  st : St
  expiry : Nat → Int := fun _ => 0
  slices : Nat → List Slice := fun _ => []

/-- How long the limiter waits, in milliseconds. -/
def restTime : Int := 1000 / SendFileOp.timeSplice

/-- The operation whose handler the event runs. -/
def St.turnOf (s : St) : Ev → Option Nat
  | .run i _ => s.handlers[i]?.bind fun h => h.task.op?.map (·.id)
  | _ => none

/-- The operation waits on its limiter. -/
def St.limited (s : St) (id : Nat) : Bool :=
  s.handlers.tasks.any fun t =>
    match t with
    | .limiter op => op.id == id
    | _ => false

/-- The pieces that a step sent for the request `id`. -/
def newPieces (id : Nat) (s s' : St) : List Span :=
  (sentIn id s'.log).take ((sentIn id s'.log).length - (sentIn id s.log).length)

namespace Clocked

/-- A step of the session. Where it starts the wait on a limiter, `expires_after` sets the timer. -/
def step (cfg : Config) (c : Clocked) (e : Ev) : Except Fault Clocked :=
  match OrangeFtpd.step cfg c.st e with
  | .error f => .error f
  | .ok s' => .ok
    { st := s'
      expiry := fun id =>
        if c.st.turnOf e = some id ∧ s'.limited id = true then c.st.now + restTime else c.expiry id
      slices := fun id =>
        (newPieces id c.st s').map (fun x => ⟨c.st.now, x.size⟩) ++ c.slices id }

/-- The wait on a limiter is over no earlier than its timer says. -/
def restOver (c : Clocked) : Task → Result → Prop
  | .limiter op, .ok => c.expiry op.id ≤ c.st.now
  | _, _ => True

instance {c : Clocked} : ∀ t r, Decidable (c.restOver t r)
  | .limiter op, .ok => inferInstanceAs (Decidable (c.expiry op.id ≤ c.st.now))
  | .limiter _, .conn _ | .limiter _, .err _ => isTrue trivial
  | .banner, _ | .read, _ | .idleWait, _ | .keepAlive, _ | .ctlWrite, _ | .accept _, _
  | .dataWait .., _ | .listWrite .., _ => isTrue trivial

/-- **Timers are not early.** -/
def notEarly (c : Clocked) (e : Ev) : Prop := WhenRun (fun _ _ => c.restOver) c.st e

instance {c : Clocked} (e : Ev) : Decidable (c.notEarly e) :=
  inferInstanceAs (Decidable (WhenRun (fun _ _ => c.restOver) c.st e))

/-- The request `id` has rested since its last piece. -/
def Rested (c : Clocked) (id : Nat) : Prop := ∀ x ∈ c.slices id, x.time + restTime ≤ c.st.now

/-- Its timer expires no earlier. -/
def Resting (c : Clocked) (id : Nat) : Prop := ∀ x ∈ c.slices id, x.time + restTime ≤ c.expiry id

end Clocked

/-- **Pieces are sent at intervals.** -/
structure Paced (cfg : Config) (c : Clocked) : Prop where
  record : ∀ id, (c.slices id).map (·.count) = (sentIn id c.st.log).map (·.size)
  past : ∀ id, ∀ x ∈ c.slices id, x.time ≤ c.st.now
  small : ∀ id, ∀ x ∈ c.slices id, x.count ≤ SendFileOp.sliceSize cfg
  spaced : ∀ id, Spaced restTime Slice.time (c.slices id)
  alive : ∀ y ∈ c.st.staged, c.Rested y.2.id ∨ (c.Resting y.2.id ∧ c.st.limited y.2.id = true)

/-! ## 3. One step -/

section

variable {cfg : Config} {os : Os} {id i : Nat} {s s' : St} {op : Op} {e : Ev} {t : Task} {r : Result}
  {c₀ : UInt32} {c c' : Clocked} {y : Phase × Op} {l : List Span}

theorem limited_iff : s.limited id = true ↔ ∃ op, .limiter op ∈ s.handlers.tasks ∧ op.id = id := by
  unfold St.limited
  rw [List.any_eq_true]
  constructor
  · rintro ⟨t, ht, h⟩
    cases t with
    | limiter op => exact ⟨op, ht, beq_iff_eq.mp h⟩
    | _ => cases h
  · rintro ⟨op, ht, h⟩
    exact ⟨_, ht, beq_iff_eq.mpr h⟩

theorem turnOf_run (h : s.turnOf e = some id) : ∃ i os t q op, e = .run i os ∧
    s.handlers[i]? = some ⟨t, q⟩ ∧ t.op? = some op ∧ op.id = id := by
  cases e with
  | run i os =>
    obtain ⟨⟨t, q⟩, hi, hx⟩ := Option.bind_eq_some_iff.mp h
    obtain ⟨op, ho, hid⟩ := Option.map_eq_some_iff.mp hx
    exact ⟨i, os, t, q, op, rfl, hi, ho, hid⟩
  | _ => cases h

theorem turnOf_of {q : Option Result} (hi : s.handlers[i]? = some ⟨t, q⟩) (hop : t.op? = some op) :
    s.turnOf (.run i os) = some op.id := by
  have h1 : s.turnOf (.run i os) = s.handlers[i]?.bind fun h => h.task.op?.map (·.id) := rfl
  rw [h1, hi, Option.bind_some, hop]
  rfl

/-- An operation on its limiter has no other handler. -/
theorem limiter_turn {q : Option Result} (ho : Ops c₀ [] s) (hi : s.handlers[i]? = some ⟨t, q⟩)
    (hop : t.op? = some op) (hl : s.limited op.id = true) : t = .limiter op := by
  obtain ⟨op', ht, hid⟩ := limited_iff.mp hl
  rcases List.mem_cons.mp ((Pool.tasks_eraseIdx hi).mem_iff.mpr ht) with rfl | h1
  · cases hop
    rfl
  · have hn := (ho.take hi).nodup
    rw [hop] at hn
    have hm : op'.id ∈ (s.takeHandler i).liveIds :=
      List.mem_map_of_mem (List.mem_append_left _ (List.mem_filterMap.mpr ⟨_, h1, rfl⟩))
    have hn' : op.id ∉ (s.takeHandler i).liveIds := (List.nodup_cons.mp hn).1
    exact absurd (hid ▸ hm) hn'

/-- An operation whose limiter was cancelled is destroyed. -/
theorem limiter_failed (hs : step cfg s (.run i os) = .ok s')
    (hi : s.handlers[i]? = some ⟨.limiter op, some r⟩) (hr : r ≠ .ok) : .over op.id ∈ s'.acts := by
  obtain ⟨s₁, hh, rfl⟩ := step_run hs hi
  cases hh with
  | session h => cases h
  | operation op' hop h =>
    cases hop
    cases h with
    | waitFailed _ _ _ hr' ht =>
      show _ ∈ ((s.takeHandler i).destroyOp cfg op).acts
      rw [acts_destroyOp]
      exact List.mem_cons_self
    | sendFailed => exact absurd rfl hr
    | sendAgain => exact absurd rfl hr
    | sentMore => exact absurd rfl hr
    | sentSlice => exact absurd rfl hr
    | sentAll => exact absurd rfl hr

theorem newPieces_eq (h : sentIn id s'.log = l ++ sentIn id s.log) : newPieces id s s' = l := by
  unfold newPieces
  rw [h, List.length_append, Nat.add_sub_cancel, List.take_left]

namespace Clocked

theorem step_ok (h : c.step cfg e = .ok c') : OrangeFtpd.step cfg c.st e = .ok c'.st ∧
    (∀ id, c'.expiry id = if c.st.turnOf e = some id ∧ c'.st.limited id = true
      then c.st.now + restTime else c.expiry id) ∧
    ∀ id, c'.slices id =
      (newPieces id c.st c'.st).map (fun x => ⟨c.st.now, x.size⟩) ++ c.slices id := by
  unfold Clocked.step at h
  cases hs : OrangeFtpd.step cfg c.st e with
  | error f => rw [hs] at h; cases h
  | ok s' =>
    rw [hs] at h
    cases h
    exact ⟨rfl, fun _ => rfl, fun _ => rfl⟩

theorem reach {home : Path} {now : Int} {ok : Clocked → Ev → Prop}
    (h : Reach (Clocked.step cfg) ok { st := St.init cfg home c₀ now } c) :
    Reach (OrangeFtpd.step cfg) (fun _ _ => True) (St.init cfg home c₀ now) c.st := by
  induction h with
  | start => exact .start
  | step e _ hok hs ih => exact .step e ih trivial (step_ok hs).1

end Clocked

/-- **Whoever has a turn has rested**, unless its limiter was cancelled. -/
theorem Paced.rested {ph : Phase} (hP : Paced cfg c) (ho : Ops c₀ [] c.st)
    (hn : c.notEarly (.run i os)) (hi : c.st.handlers[i]? = some ⟨t, some r⟩)
    (hst : t.staged? = some (ph, op)) (hr : t = .limiter op → r = .ok) : c.Rested op.id := by
  rcases hP.alive _ (staged_handler hi hst) with h1 | ⟨h1, h2⟩
  · exact h1
  · obtain rfl := limiter_turn ho hi (staged_op hst) h2
    obtain rfl := hr rfl
    have hx : c.expiry op.id ≤ c.st.now := WhenRun.at hn hi
    exact fun x hm => Int.le_trans (h1 x hm) hx

theorem Paced.rested_alive (hP : Paced cfg c) (ho : Ops c₀ [] c.st) (hn : c.notEarly e)
    (hs : step cfg c.st e = .ok s') (hE : Endings s') (ht : c.st.turnOf e = some y.2.id)
    (hy : y ∈ s'.staged) : c.Rested y.2.id := by
  obtain ⟨i, os, t, q, op, rfl, hi, hop, hid⟩ := turnOf_run ht
  have hrun : runHandler cfg c.st i os = .ok s' := (step_ok.mp hs).2
  obtain ⟨t', r, hi'⟩ := @runHandler_entry cfg c.st i os (by rw [hrun]; nofun)
  rw [hi] at hi'
  cases hi'
  have hst : ∃ ph, t.staged? = some (ph, op) := by
    cases t <;> cases hop <;> exact ⟨_, rfl⟩
  obtain ⟨ph, hst⟩ := hst
  rw [← hid]
  refine hP.rested ho hn hi hst fun hl => ?_
  subst hl
  by_contra hr
  exact absurd (hid ▸ limiter_failed hs hi hr) (hE.alive y hy).1

/-- What a step adds to the pieces of a request: nothing, or one piece, now. Where the request
    stays alive after its piece, it waits on its limiter. -/
inductive Grows (cfg : Config) (c c' : Clocked) (id : Nat) : Prop where
  | same (hs : sentIn id c'.st.log = sentIn id c.st.log) (hc : c'.slices id = c.slices id)
  | piece (x : Span) (hs : sentIn id c'.st.log = x :: sentIn id c.st.log)
      (hc : c'.slices id = ⟨c.st.now, x.size⟩ :: c.slices id)
      (hx : x.size ≤ SendFileOp.sliceSize cfg) (hr : c.Rested id)
      (ha : ∀ y ∈ c'.st.staged, y.2.id = id →
        c'.expiry id = c.st.now + restTime ∧ c'.st.limited id = true)

/-- A send wait that stays alive with bytes to send is on its limiter. -/
theorem Dealt.limited {slice : Nat} {d : DataSocket} (h : Dealt cfg os op slice s d s')
    (h0 : slice ≠ 0) {k : Nat} (hk : os.sendfile = .sent k) :
    s'.limited op.id = true ∨ .over op.id ∈ s'.acts := by
  cases h with
  | failed hf => rw [hf] at hk; cases hk
  | again hw => rw [hw] at hk; cases hk
  | more op' k n hk' hn hop hl h0' => exact absurd h0' h0
  | slice op' k n hk' hn hop hl h0' =>
    left
    refine limited_iff.mpr ⟨op', ?_, by rw [hop]⟩
    rw [St.tasks_start]
    exact List.mem_append_right _ (List.mem_singleton_self _)
  | all op' k n hk' hn hop hl =>
    right
    have hid : op'.id = op.id := by rw [hop]
    rw [acts_destroyOp, hid]
    exact List.mem_cons_self

theorem Paced.grows {home : Path} {now : Int} {ok : St → Ev → Prop} (hP : Paced cfg c)
    (hR : Reach (step cfg) ok (St.init cfg home c₀ now) c.st)
    (h0 : SendFileOp.sliceSize cfg ≠ 0) (hok : ok c.st e) (hn : c.notEarly e)
    (hs : c.step cfg e = .ok c') (id : Nat) : Grows cfg c c' id := by
  obtain ⟨hst, hexp, hsl⟩ := Clocked.step_ok hs
  rcases sentIn_step id hR hst with h1 | ⟨k, i, os, t, op, rfl, hi, hw, rfl, hk⟩
  · refine .same h1 ?_
    rw [hsl, @newPieces_eq _ _ _ [] h1]
    rfl
  · obtain ⟨d, s₁, hD, hs₁⟩ := step_dealt hst hi hw
    have hsent : sentIn op.id c'.st.log =
        [⟨op.fileOffset, min k (SendFileOp.sendCount op (SendFileOp.sliceSize cfg))⟩] ++
          sentIn op.id c.st.log := by
      rw [hs₁, ← answered_sent hk]
      exact hD.sentIn
    have hstaged : ∃ ph, t.staged? = some (ph, op) := by
      cases hw <;> exact ⟨_, rfl⟩
    obtain ⟨ph, hp⟩ := hstaged
    have hcount : SendFileOp.sendCount op (SendFileOp.sliceSize cfg) ≤ SendFileOp.sliceSize cfg := by
      unfold SendFileOp.sendCount
      rw [if_neg h0]
      exact Nat.min_le_right ..
    refine .piece _ hsent ?_ (Nat.le_trans (Nat.min_le_right ..) hcount)
      (hP.rested (ops_reach hR) hn hi hp fun _ => rfl) fun y hy hid => ?_
    · rw [hsl, newPieces_eq hsent]
      rfl
    · have hl : c'.st.limited op.id = true := by
        rcases hD.limited h0 hk with h1 | h1
        · rw [hs₁]
          exact h1
        · have hE : Endings c'.st := endings_reach (hR.step _ hok hst)
          have h2 : .over y.2.id ∈ c'.st.acts := by
            rw [hs₁, hid]
            exact h1
          exact absurd h2 (hE.alive y hy).1
      exact ⟨by rw [hexp, if_pos ⟨turnOf_of hi (staged_op hp), hl⟩], hl⟩

theorem Paced.step {home : Path} {now : Int} {ok : St → Ev → Prop} (hP : Paced cfg c)
    (hR : Reach (OrangeFtpd.step cfg) ok (St.init cfg home c₀ now) c.st)
    (h0 : SendFileOp.sliceSize cfg ≠ 0) (hok : ok c.st e) (hn : c.notEarly e)
    (hs : c.step cfg e = .ok c') : Paced cfg c' := by
  obtain ⟨hst, hexp, -⟩ := Clocked.step_ok hs
  have hnow := step_now hst
  have hE : Endings c'.st := endings_reach (hR.step _ hok hst)
  have grows := hP.grows hR h0 hok hn hs
  -- a request that has rested and sends nothing goes on resting
  have still : ∀ {id : Nat}, c'.slices id = c.slices id → c.Rested id → c'.Rested id :=
    fun hc h x hx => Int.le_trans (h x (hc ▸ hx)) hnow
  constructor
  case record =>
    intro id
    cases grows id with
    | same h1 hc => rw [h1, hc, hP.record]
    | piece x h1 hc hx hr ha => rw [h1, hc, List.map_cons, List.map_cons, hP.record]
  case past =>
    intro id x hm
    cases grows id with
    | same h1 hc => exact Int.le_trans (hP.past id x (hc ▸ hm)) hnow
    | piece y h1 hc hx hr ha =>
      rw [hc] at hm
      rcases List.mem_cons.mp hm with rfl | hm
      · exact hnow
      · exact Int.le_trans (hP.past id x hm) hnow
  case small =>
    intro id x hm
    cases grows id with
    | same h1 hc => exact hP.small id x (hc ▸ hm)
    | piece y h1 hc hx hr ha =>
      rw [hc] at hm
      rcases List.mem_cons.mp hm with rfl | hm
      · exact hx
      · exact hP.small id x hm
  case spaced =>
    intro id
    cases grows id with
    | same h1 hc => exact hc ▸ hP.spaced id
    | piece y h1 hc hx hr ha => exact hc ▸ (hP.spaced id).cons hr
  case alive =>
    intro y hy
    cases grows y.2.id with
    | same h1 hc =>
      rcases step_live (ops_reach hR) hst hy with ⟨z, hz, hid⟩ | hnew
      · rcases hP.alive z hz with h2 | ⟨h2, h3⟩
        · exact Or.inl (still hc (hid ▸ h2))
        · rw [hid] at h2 h3
          by_cases ht : c.st.turnOf e = some y.2.id
          · exact Or.inl (still hc (hP.rested_alive (ops_reach hR) hn hst hE ht hy))
          · -- somebody else's turn: the wait and its timer stay
            have hx : c'.expiry y.2.id = c.expiry y.2.id := by
              rw [hexp, if_neg fun h4 => ht h4.1]
            refine Or.inr ⟨fun x hm => hx ▸ h2 x (hc ▸ hm), ?_⟩
            obtain ⟨op, hop, he⟩ := limited_iff.mp h3
            rcases step_stays hst hop with h5 | ⟨i, os, r, rfl, hi⟩
            · exact limited_iff.mpr ⟨op, h5, he⟩
            · exact absurd (he ▸ turnOf_of hi rfl) ht
      · -- a new request has no pieces
        left
        have hnil : c.slices y.2.id = [] := by
          have h2 := hP.record y.2.id
          rw [hnew, ← sentIn_acts, (ops_reach hR).sentIn_next] at h2
          rw [hnew]
          exact List.map_eq_nil_iff.mp h2
        exact still hc fun x hx => absurd (hnil ▸ hx) List.not_mem_nil
    | piece x h1 hc hx hr ha =>
      obtain ⟨hexp', hl⟩ := ha y hy rfl
      refine Or.inr ⟨fun z hz => ?_, hl⟩
      rw [hc] at hz
      rw [hexp']
      rcases List.mem_cons.mp hz with rfl | hz
      · exact Int.le_refl _
      · have h2 := hr z hz
        have h3 : (0 : Int) ≤ restTime := by decide
        omega

/-! ## 4. The limit -/

/-- **The download limit is respected**: with a limit of `L` kB/s and timers that are not early,
    the size of a slice does not overflow and is positive, the pieces of a RETR are a tenth of
    a second apart, and no second holds more than `L * 1024` bytes. -/
theorem download_limited {home : Path} {now : Int}
    (hL : 1 ≤ cfg.downloadSpeedLimitInKbPerS.toNat)
    (h : Reach (Clocked.step cfg) Clocked.notEarly { st := St.init cfg home c₀ now } c) (id : Nat) :
    cfg.downloadSpeedLimitInKbPerS.toNat * 1024 < 2 ^ 31 ∧ 0 < SendFileOp.sliceSize cfg ∧
    (c.slices id).map (·.count) = (sentIn id c.st.log).map (·.size) ∧
    (c.slices id).Pairwise (fun later earlier => earlier.time + 1000 / 10 ≤ later.time) ∧
    ∀ T : Int, (((c.slices id).filter fun x => T ≤ x.time ∧ x.time < T + 1000).map (·.count)).sum ≤
      cfg.downloadSpeedLimitInKbPerS.toNat * 1024 := by
  have hlt : cfg.downloadSpeedLimitInKbPerS.toNat < 65536 := cfg.downloadSpeedLimitInKbPerS.toNat_lt
  have h0 : 0 < SendFileOp.sliceSize cfg := by
    unfold SendFileOp.sliceSize SendFileOp.timeSplice
    omega
  have hP : Paced cfg c := by
    refine h.invariant_of (fun _ => Clocked.reach) ?_ fun d e d' hR hP hn hs =>
      hP.step hR (Nat.ne_of_gt h0) trivial hn hs
    exact ⟨fun _ => rfl, fun _ => nofun, fun _ => nofun, fun _ => .nil _ _, nofun⟩
  refine ⟨by omega, h0, hP.record id, hP.spaced id, fun T => ?_⟩
  have hsum := (hP.spaced id).sum_window (T := T) (k := 10) (hP.small id)
  refine Nat.le_trans hsum ?_
  unfold SendFileOp.sliceSize SendFileOp.timeSplice
  omega

end

/-- The rest of a download, a tenth of a second after its first slice. -/
def secondSlice : List Ev :=
  download ++ [.tick 100, .complete 2 .ok, .run 2 { sendfile := .sent 9760 }]

set_option maxRecDepth 4000 in
theorem download_limited_slices : ∃ c,
    runAll (Clocked.step .shipped) { st := St.fresh } secondSlice = .ok c ∧
    c.slices 3 = [⟨100, 9760⟩, ⟨0, 10240⟩] ∧
    ∀ T : Int, (((c.slices 3).filter fun x => T ≤ x.time ∧ x.time < T + 1000).map (·.count)).sum ≤
      Config.shipped.downloadSpeedLimitInKbPerS.toNat * 1024 := by
  obtain ⟨c, run, slices⟩ : ∃ c,
      runAll (Clocked.step .shipped) { st := St.fresh } secondSlice = .ok c ∧
      c.slices 3 = [⟨100, 9760⟩, ⟨0, 10240⟩] := ⟨_, rfl, rfl⟩
  have h := download_limited (by decide) (reach_runAll secondSlice .start (by decide) run) 3
  exact ⟨c, run, slices, h.2.2.2.2⟩

end OrangeFtpd
