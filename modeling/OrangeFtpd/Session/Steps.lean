/-
  File:      OrangeFtpd/Session/Steps.lean
  Subject:   What one step of the event loop does.

  `Stepped cfg s e s'` has one constructor for each event. The invariants of the
  session are proved by cases on it, and on `Handled` where a handler runs.
-/
import OrangeFtpd.Lib.Run
import OrangeFtpd.Session.Handlers

namespace OrangeFtpd

/-- **One step that the machine makes.** -/
inductive Stepped (cfg : Config) (s : St) : Ev → St → Prop where
  | clientSend (chunk : Text) (h : ⟨.read, none⟩ ∈ s.handlers) :
      Stepped cfg s (.clientSend chunk) (s.receive chunk)
  | clientGone : Stepped cfg s .clientGone { s with peerAlive := false }
  | peerSend (c : ConnId) (bytes : Bytes) (hc : c < s.conns.length)
      (hp : peerOf c s = .connected) :
      Stepped cfg s (.peerSend c bytes)
        ((s.updateConn c fun k => { k with inbox := k.inbox ++ bytes }).emit (.peerSent c bytes))
  | peerShutdown (c : ConnId) (hc : c < s.conns.length) (hp : peerOf c s = .connected) :
      Stepped cfg s (.peerShutdown c)
        ((s.updateConn c fun k => { k with peer := .shutdown }).emit (.peerShutdown c))
  | peerReset (c : ConnId) (hc : c < s.conns.length) :
      Stepped cfg s (.peerReset c)
        ((s.updateConn c fun _ => { inbox := [], peer := .reset }).emit (.peerReset c))
  | tick (ms : Nat) : Stepped cfg s (.tick ms) { s with now := s.now + ms }
  | complete (i : Nat) (r : Result) (t : Task) (hi : s.handlers[i]? = some ⟨t, none⟩)
      (hc : canComplete s t r = true) : Stepped cfg s (.complete i r) (s.completeAt i r)
  | run (i : Nat) (os : Os) (t : Task) (r : Result) (s₁ : St)
      (hi : s.handlers[i]? = some ⟨t, some r⟩) (h : Handled cfg os t r (s.takeHandler i) s₁) :
      Stepped cfg s (.run i os) (s₁.releaseSession t)

/-- A condition on the handlers that run, in the state they run in. -/
def WhenRun (P : St → Os → Task → Result → Prop) (s : St) : Ev → Prop
  | .run i os =>
    match s.handlers[i]? with
    | some ⟨t, some r⟩ => P s os t r
    | _ => True
  | _ => True

instance {P : St → Os → Task → Result → Prop} [∀ s os t r, Decidable (P s os t r)] {s : St} :
    ∀ e, Decidable (WhenRun P s e)
  | .run i os =>
    match h : s.handlers[i]? with
    | some ⟨t, some r⟩ => decidable_of_iff (P s os t r) (by simp [WhenRun, h])
    | some ⟨_, none⟩ | none => isTrue (by simp [WhenRun, h])
  | .clientSend _ | .clientGone | .peerSend .. | .peerShutdown _ | .peerReset _ | .tick _
  | .complete .. => isTrue trivial

theorem WhenRun.at {P : St → Os → Task → Result → Prop} {s : St} {i : Nat} {os : Os} {t : Task}
    {r : Result} (h : WhenRun P s (.run i os)) (hi : s.handlers[i]? = some ⟨t, some r⟩) :
    P s os t r := by
  simp only [WhenRun, hi] at h
  exact h

/-- A weaker condition. -/
theorem WhenRun.mono {P Q : St → Os → Task → Result → Prop} {s : St} {e : Ev}
    (hpq : ∀ os t r, P s os t r → Q s os t r) (h : WhenRun P s e) : WhenRun Q s e := by
  cases e with
  | run i os =>
    rcases hi : s.handlers[i]? with _ | ⟨t, _ | r⟩
    · simp [WhenRun, hi]
    · simp [WhenRun, hi]
    · simp only [WhenRun, hi] at h ⊢
      exact hpq os t r h
  | _ => trivial

section

variable {cfg : Config} {s s' : St} {e : Ev} {i : Nat} {os : Os} {t : Task} {r : Result}

theorem step_ok : step cfg s e = .ok s' ↔ s.destroyed = false ∧ happen cfg s e = .ok s' := by
  unfold step
  cases s.destroyed <;> simp

theorem runHandler_eq (hi : s.handlers[i]? = some ⟨t, some r⟩) :
    runHandler cfg s i os = match runTask cfg os t r (s.takeHandler i) with
      | .ok (_, s') => .ok (s'.releaseSession t)
      | .error f => .error f := by
  unfold runHandler
  exact hi ▸ rfl

/-- A handler runs only when its operation has completed. -/
theorem runHandler_entry (h : runHandler cfg s i os ≠ .error .disabled) :
    ∃ t r, s.handlers[i]? = some ⟨t, some r⟩ := by
  unfold runHandler at h
  rcases hi : s.handlers[i]? with _ | ⟨t, _ | r⟩
  · rw [hi] at h
    exact absurd rfl h
  · rw [hi] at h
    exact absurd rfl h
  · exact ⟨t, r, rfl⟩

theorem runHandler_cases (h : runHandler cfg s i os = .ok s') :
    Stepped cfg s (.run i os) s' := by
  obtain ⟨t, r, hi⟩ := @runHandler_entry cfg s i os (by rw [h]; nofun)
  rw [runHandler_eq hi] at h
  cases hr : runTask cfg os t r (s.takeHandler i) with
  | error f => rw [hr] at h; cases h
  | ok x =>
    rw [hr] at h
    cases h
    exact .run i os t r x.2 hi (runTask_handled.ok rfl hr)

theorem completeHandler_cases (h : completeHandler s i r = .ok s') :
    Stepped cfg s (.complete i r) s' := by
  unfold completeHandler at h
  rcases hi : s.handlers[i]? with _ | ⟨t, _ | r'⟩
  · rw [hi] at h; cases h
  · rw [hi] at h
    dsimp only at h
    by_cases hc : canComplete s t r = true
    · rw [if_pos hc] at h
      cases h
      exact .complete i r t hi hc
    · rw [if_neg hc] at h; cases h
  · rw [hi] at h; cases h

theorem guarded_ok {c : Prop} [Decidable c] {s₁ : St} :
    (if c then .ok s₁ else .error .disabled : Except Fault St) = .ok s' ↔ c ∧ s₁ = s' := by
  split <;> simp_all

/-- **Every step** is one of the steps of `Stepped`. -/
theorem step_cases (h : step cfg s e = .ok s') : Stepped cfg s e s' := by
  obtain ⟨_, h⟩ := step_ok.mp h
  cases e with
  | run i os => exact runHandler_cases h
  | complete i r => exact completeHandler_cases h
  | clientSend chunk =>
    obtain ⟨ha, rfl⟩ := guarded_ok.mp h
    obtain ⟨⟨t, r⟩, hm, hx⟩ := List.any_eq_true.mp ha
    simp only [Bool.and_eq_true, beq_iff_eq] at hx
    obtain ⟨rfl, rfl⟩ := hx
    exact .clientSend chunk hm
  | clientGone => cases h; exact .clientGone
  | peerSend c bytes =>
    obtain ⟨hc, rfl⟩ := guarded_ok.mp h
    exact .peerSend c bytes hc.1 hc.2
  | peerShutdown c =>
    obtain ⟨hc, rfl⟩ := guarded_ok.mp h
    exact .peerShutdown c hc.1 hc.2
  | peerReset c =>
    obtain ⟨hc, rfl⟩ := guarded_ok.mp h
    exact .peerReset c hc.1
  | tick ms => cases h; exact .tick ms

/-- The step that runs a known handler. -/
theorem step_run (h : step cfg s (.run i os) = .ok s') (hi : s.handlers[i]? = some ⟨t, some r⟩) :
    ∃ s₁, Handled cfg os t r (s.takeHandler i) s₁ ∧ s' = s₁.releaseSession t := by
  cases step_cases h with
  | run i os t' r' s₁ hi' hh =>
    rw [hi] at hi'
    cases hi'
    exact ⟨s₁, hh, rfl⟩

theorem guarded_error {c : Prop} [Decidable c] {s₁ : St} {f : Fault}
    (h : (if c then .ok s₁ else .error .disabled : Except Fault St) = .error f) :
    f = .disabled := by
  split at h <;> cases h
  rfl

/-- A step that stops with a null data socket is the run of a handler that uses it. -/
theorem step_nullDataSocket (h : step cfg s e = .error .nullDataSocket) :
    s.dataSocket = none ∧ ∃ (i : Nat) (t : Task) (r : Result),
      s.handlers[i]? = some ⟨t, some r⟩ ∧ UsesSlot s t r := by
  unfold step at h
  split at h
  · cases h
  cases e with
  | run i os =>
    have h' : runHandler cfg s i os = .error .nullDataSocket := h
    obtain ⟨t, r, hi⟩ := @runHandler_entry cfg s i os (by rw [h']; nofun)
    rw [runHandler_eq hi] at h'
    cases hr : runTask cfg os t r (s.takeHandler i) with
    | ok x => rw [hr] at h'; cases h'
    | error f =>
      rw [hr] at h'
      cases h'
      obtain ⟨hn, hu⟩ := runTask_handled.error rfl hr rfl
      refine ⟨hn, i, t, r, hi, ?_⟩
      cases hu with
      | ready op c => exact .ready op c
      | limiter op => exact .limiter op
      | token m rest tok hq ht => exact .token m rest tok hq ht
  | complete i r =>
    have h' : completeHandler s i r = .error .nullDataSocket := h
    unfold completeHandler at h'
    split at h'
    · cases guarded_error h'
    · cases h'
  | clientSend chunk => cases guarded_error h
  | clientGone => cases h
  | peerSend c bytes => cases guarded_error h
  | peerShutdown c => cases guarded_error h
  | peerReset c => cases guarded_error h
  | tick ms => cases h

end

/-! ## Sessions for concrete runs -/

/-- The state a run starts in. -/
def St.fresh : St := .init .shipped "/root".toList 0 0

/-- A client logs in and sends `lines` along; its two login lines are handled. -/
def login (lines : Text) : List Ev :=
  [.complete 0 .ok, .run 0 {}, .clientSend ("USER u\r\nPASS p\r\n".toList ++ lines), .run 0 {},
    .run 2 {}]

/-- `RETR` finds a regular file. -/
def regularFile (file : FileId) (size : UInt64) : Os :=
  { stat := fun _ => .ok ⟨.regular, 0o644, size⟩, openFile := .ok (7 + file, file) }

/-- A client logs in, asks for a port, gets its replies, and sends `line`: request 3. -/
def withPort (line : Text) : List Ev :=
  login "PASV\r\n".toList ++ [.run 2 { bind := some 1025 }, .complete 1 .ok, .run 1 {},
    .complete 2 .ok, .run 2 {}, .complete 2 .ok, .run 2 {}, .clientSend line]

/-- The client downloads 20000 bytes: its connection is accepted, the 150 written, and the
    first slice of 10240 bytes sent. -/
def download : List Ev :=
  withPort "RETR a\r\n".toList ++ [.run 1 (regularFile 1 20000), .complete 1 (.conn 0),
    .run 1 {}, .complete 2 .ok, .run 2 {}, .complete 2 .ok, .run 2 { sendfile := .sent 10240 }]

end OrangeFtpd
