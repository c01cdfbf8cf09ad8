/-
  File:      OrangeFtpd/Invariant/Reading.lean
  Subject:   The read of the control connection: who starts one, and how it stands.

  A read is started by the banner's handler and by the read's own handler, and by
  nobody else (`NoNewRead`). Where one is outstanding the buffer has no whole line;
  where one has completed it has (`Reading`).
-/
import OrangeFtpd.Session.Members
import OrangeFtpd.Invariant.Machinery

namespace OrangeFtpd

/-- A read of `s'` was there in `s`, or was aborted. -/
def NoNewRead (s s' : St) : Prop :=
  ∀ q, ⟨.read, q⟩ ∈ s'.handlers → ⟨.read, q⟩ ∈ s.handlers ∨ ∃ ec, q = some (.err ec)

section

variable {cfg : Config} {os : Os} {id n i : Nat} {s s₁ s₂ s' : St} {op : Op} {t : Task} {r : Result}
  {e : Ev}

/-! ## 1. Nobody else starts a read -/

namespace NoNewRead

theorem of_eq (h : s'.handlers = s.handlers) : NoNewRead s s' := fun _ hm => Or.inl (h ▸ hm)

theorem trans (h : NoNewRead s s₁) (h' : NoNewRead s₁ s₂) : NoNewRead s s₂ := fun q hm =>
  (h' q hm).elim (h q) Or.inr

theorem cancel {sel : Task → Bool} {ec : ErrorCode}
    (hp : s'.handlers = s.handlers.cancel sel (.err ec)) : NoNewRead s s' := by
  intro q hm
  rw [hp] at hm
  rcases Pool.mem_cancel hm with ⟨h1, _⟩ | ⟨h1, _⟩
  · exact Or.inl h1
  · exact Or.inr ⟨ec, h1⟩

theorem append {ps : Pool Task Result} (hp : s'.handlers = s.handlers ++ ps)
    (ht : ∀ h ∈ ps, h.task ≠ .read) : NoNewRead s s' := by
  intro q hm
  rw [hp] at hm
  exact Or.inl ((List.mem_append.mp hm).resolve_right fun h => ht _ h rfl)

theorem take (i : Nat) : NoNewRead s (s.takeHandler i) := fun _ hm => Or.inl (Pool.mem_of_eraseIdx hm)

theorem started (q : Option Result) (ht : t ≠ .read) : NoNewRead s (s.startWith t q) :=
  append rfl (List.forall_mem_singleton.mpr ht)

theorem push {m : Message} : NoNewRead s (s.pushMessage id m) := by
  refine append rfl ?_
  split
  · exact List.forall_mem_singleton.mpr nofun
  · exact List.forall_mem_nil _

theorem restartIdleTimer : NoNewRead s (s.restartIdleTimer cfg) := by
  by_cases hp : s.existsPendingOperator = true
  · exact of_eq ((St.restartIdleTimer_handlers cfg s).trans (if_pos hp))
  · exact cancel ((St.restartIdleTimer_handlers cfg s).trans (if_neg hp))

theorem destroyOp : NoNewRead s (s.destroyOp cfg op) := by
  rw [St.destroyOp_eq]
  refine trans ?_ restartIdleTimer
  by_cases hk : op.kind.isTransfer = true
  · exact cancel (if_pos hk)
  · exact of_eq (if_neg hk)

theorem close : NoNewRead s s.close := by
  have h1 : NoNewRead s (s.cancel Task.isControl) := cancel rfl
  exact h1.trans (cancel rfl)

theorem neverExpire : NoNewRead s s.neverExpire := cancel rfl

theorem updateIdleTimer : NoNewRead s (s.updateIdleTimer cfg) := cancel rfl

theorem rearmIdle : NoNewRead s (s.rearmIdle cfg) := by
  unfold St.rearmIdle
  split
  · exact of_eq rfl
  · exact updateIdleTimer

/-- The session's own handlers stay as they are. -/
theorem quiet (h : Quiet id s s₁) : NoNewRead s s₁ := fun q hm =>
  Or.inl ((h.control ⟨.read, q⟩ rfl).mp hm)

end NoNewRead

/-- **The code of an operation** starts no read. -/
theorem OpRun.noNewRead (h : OpRun cfg id s s') : NoNewRead s s' := by
  induction h with
  | quiet hq hr ih => exact (NoNewRead.quiet hq).trans ih
  | reply b hr ih => exact NoNewRead.push.trans ih
  | ended op hop => exact .destroyOp
  | queued b tok hop => exact .push
  | started t op r ht hop => exact .started r fun he => by rw [he] at ht; cases ht

theorem Line.noNewRead (h : Line cfg os n s s') : NoNewRead s s' := by
  cases h with
  | blank hb => exact @NoNewRead.trans s (s.takeLine n {}) _ (.of_eq rfl) .rearmIdle
  | refused req b hb hv hc hf =>
    have h1 : NoNewRead s ((s.takeLine n req).newRequest.pushMessage s.nextId ⟨b, none⟩) :=
      @NoNewRead.trans s (s.takeLine n req).newRequest _ (.of_eq rfl) .push
    exact (h1.trans (.of_eq rfl)).trans .rearmIdle
  | began req kind _ hb hk hs =>
    exact @NoNewRead.trans s (s.takeLine n req).newRequest.basicOp _ (.of_eq rfl)
      hs.opRun.noNewRead

theorem noNewRead_startToken {d : DataSocket} {tok : Token} : NoNewRead s (s.startToken d tok) := by
  cases tok <;> exact .append rfl (List.forall_mem_singleton.mpr nofun)

theorem TokenRun.noNewRead {tok : Option Token} (h : TokenRun s tok s₁) : NoNewRead s s₁ := by
  cases h with
  | none => exact .of_eq rfl
  | some tok d hd => exact noNewRead_startToken

theorem noNewRead_writeNext {rest : List Message} : NoNewRead s (s.writeNext cfg rest) := by
  have h0 : NoNewRead s (s.withQueue rest) := .of_eq rfl
  cases rest with
  | nil => exact h0.trans .restartIdleTimer
  | cons m rest => exact h0.trans (.append rfl (List.forall_mem_singleton.mpr nofun))

theorem noNewRead_dropQueue : NoNewRead s (s.dropQueue cfg) := by
  have fold : ∀ (ops : List Op) (s : St),
      NoNewRead s (ops.foldl (fun t op => t.destroyOp cfg op) s) := by
    intro ops
    induction ops with
    | nil => exact fun s => .of_eq rfl
    | cons op ops ih => exact fun s => NoNewRead.destroyOp.trans (ih _)
  have h0 : NoNewRead s (s.withQueue []) := .of_eq rfl
  exact h0.trans (fold s.queuedOps _)

/-- The handlers of the session, other than those of the banner and of a line. -/
theorem SessionHandled.noNewRead (h : SessionHandled cfg os t r s s')
    (hb : t ≠ .banner) (hl : t = .read → r ≠ .ok) : NoNewRead s s' := by
  cases h with
  | banner _ => exact absurd rfl hb
  | bannerFailed _ _ hr => exact .of_eq rfl
  | readEof _ h0 => exact .close
  | readEofBusy _ h0 => exact (NoNewRead.close.trans .neverExpire).trans (.started none nofun)
  | readFailed _ _ hr hr' => exact .of_eq rfl
  | readLine _ s₁ hline => exact absurd rfl (hl rfl)
  | idleStoped _ _ h0 => exact .of_eq rfl
  | idleAgain _ _ h0 hx => exact .started none nofun
  | idleClose _ _ h0 hx => exact @NoNewRead.trans s (s.emit .idleClose) _ (.of_eq rfl) .close
  | keepAlive _ _ => exact .of_eq rfl
  | writeFailed _ _ hr =>
    exact @NoNewRead.trans s (s.emit (.ctlDone false)) _ (.of_eq rfl) noNewRead_dropQueue
  | written _ s₁ m rest hq ht =>
    have h1 := ht.noNewRead.trans (@noNewRead_writeNext cfg s₁ rest)
    exact @NoNewRead.trans s (s.emit (.ctlDone true)) _ (.of_eq rfl) h1

/-- **A handler** other than those two starts no read. -/
theorem Handled.noNewRead (h : Handled cfg os t r s s') (hb : t ≠ .banner)
    (hl : t = .read → r ≠ .ok) : NoNewRead s s' := by
  cases h with
  | session hs => exact hs.noNewRead hb hl
  | operation op hop ho => exact ho.opRun.noNewRead

/-! ## 2. How the read stands -/

/-- **The read and the buffer.** -/
structure Reading (s : St) : Prop where
  /-- An outstanding read waits for a line. -/
  waits : ⟨.read, none⟩ ∈ s.handlers → lineEnd s.buf = none
  /-- A completed read has its line. -/
  has : ⟨.read, some .ok⟩ ∈ s.handlers → lineEnd s.buf ≠ none

theorem Reading.congr (h : Reading s) (hb : s'.buf = s.buf) (hr : NoNewRead s s') : Reading s' := by
  have old : ∀ q, (∀ ec, q ≠ some (.err ec)) → ⟨.read, q⟩ ∈ s'.handlers → ⟨.read, q⟩ ∈ s.handlers :=
    fun q hq hm => (hr q hm).resolve_right fun ⟨ec, he⟩ => hq ec he
  refine ⟨fun hm => ?_, fun hm => ?_⟩
  · rw [hb]
    exact h.waits (old none nofun hm)
  · rw [hb]
    exact h.has (old (some .ok) nofun hm)

/-- `do_read` starts a read that stands right. -/
theorem Reading.doRead (h : Reading s) : Reading s.doRead := by
  have new : ∀ q, ⟨.read, q⟩ ∈ s.doRead.handlers → ⟨.read, q⟩ ∈ s.handlers ∨
      q = if s.controlOpen then if (lineEnd s.buf).isSome then some .ok else none
        else some (.err .badDescriptor) := by
    intro q hm
    rw [St.doRead_handlers] at hm
    refine (List.mem_append.mp hm).imp_right fun h1 => ?_
    cases List.mem_singleton.mp h1
    rfl
  refine ⟨fun hm => ?_, fun hm hn => ?_⟩
  · rcases new none hm with h1 | h1
    · exact h.waits h1
    · by_contra hn
      have hs : (lineEnd s.buf).isSome = true := Option.isSome_iff_ne_none.mpr hn
      rw [if_pos hs] at h1
      split at h1 <;> cases h1
  · rcases new _ hm with h1 | h1
    · exact h.has h1 hn
    · have hs : (lineEnd s.buf).isSome = false := by
        rw [show lineEnd s.buf = none from hn]
        rfl
      rw [hs, if_neg Bool.false_ne_true] at h1
      split at h1 <;> cases h1

/-- Without a read there is nothing to stand right. -/
theorem Reading.of_none (h : s.has .read = 0) : Reading s :=
  ⟨fun hm => absurd h (has_pos (Pool.mem_tasks_of hm)), fun hm => absurd h (has_pos (Pool.mem_tasks_of hm))⟩

theorem Reading.receive {chunk : Text} (h : Reading s) : Reading (s.receive chunk) := by
  by_cases hl : (lineEnd (s.buf ++ chunk)).isSome = true
  · have hp : (s.receive chunk).handlers = s.handlers.cancel (· == .read) .ok := by
      rw [St.receive_handlers, if_pos hl]
    refine ⟨fun hm => ?_, fun _ => Option.isSome_iff_ne_none.mp hl⟩
    rw [hp] at hm
    exact absurd rfl (Pool.cancel_done hm rfl)
  · have hp : (s.receive chunk).handlers = s.handlers := by rw [St.receive_handlers, if_neg hl]
    have hn : lineEnd (s.buf ++ chunk) = none := Option.not_isSome_iff_eq_none.mp hl
    refine ⟨fun _ => hn, fun hm => ?_⟩
    rw [hp] at hm
    obtain ⟨k, hk⟩ := Option.ne_none_iff_exists'.mp (h.has hm)
    cases (lineEnd_more chunk hk).symm.trans hn

theorem Reading.complete (h : Reading s) (hi : s.handlers[i]? = some ⟨t, none⟩)
    (hc : canComplete s t r = true) : Reading (s.completeAt i r) := by
  refine ⟨fun hm => ?_, fun hm => ?_⟩
  · rcases Pool.mem_complete hm with h1 | ⟨h1, _⟩
    · exact h.waits h1
    · cases h1
  · rcases Pool.mem_complete hm with h1 | ⟨h1, h2⟩
    · exact h.has h1
    · -- a read completes by itself only with an error
      cases h1
      rw [hi] at h2
      cases h2
      cases hc

theorem Reading.step (h : Reading s) (hm : Machinery s) (hs : step cfg s e = .ok s') :
    Reading s' := by
  have hd := (step_ok.mp hs).1
  cases step_cases hs with
  | clientSend chunk hr => exact h.receive
  | clientGone => exact h.congr rfl (.of_eq rfl)
  | peerSend c bytes hc hp => exact h.congr rfl (.of_eq rfl)
  | peerShutdown c hc hp => exact h.congr rfl (.of_eq rfl)
  | peerReset c hc => exact h.congr rfl (.of_eq rfl)
  | tick ms => exact h.congr rfl (.of_eq rfl)
  | complete i r t hi hc => exact h.complete hi hc
  | run i os t r s₁ hi hh =>
    have h0 : Reading (s.takeHandler i) := h.congr rfl (.take i)
    refine Reading.congr (s := s₁) ?_ rfl (.of_eq rfl)
    by_cases hl : t = .read ∧ r = .ok
    · obtain ⟨rfl, rfl⟩ := hl
      obtain ⟨s₂, hline, rfl⟩ : ∃ s₂, Line cfg os _ (s.takeHandler i).neverExpire s₂ ∧
          s₁ = s₂.doRead := by
        cases hh with
        | operation op hop ho => cases hop
        | session hs =>
          cases hs with
          | readFailed _ _ hr hr' => exact absurd rfl hr
          | readLine _ s₂ hline => exact ⟨s₂, hline, rfl⟩
      have hz : s₂.has .read = 0 :=
        hline.kept.read.trans (has_neverExpire.trans (hm.alone hd hi rfl).read)
      exact (Reading.of_none hz).doRead
    have hl' : t = .read → r ≠ .ok := fun h1 h2 => hl ⟨h1, h2⟩
    by_cases hb : t = .banner
    · subst hb
      cases hh with
      | operation op hop ho => cases hop
      | session hs =>
        cases hs with
        | banner _ =>
          have h1 : Reading ((s.takeHandler i).updateIdleTimer cfg) := h0.congr rfl .updateIdleTimer
          exact h1.doRead.congr rfl (.started none nofun)
        | bannerFailed _ _ hr => exact h0
    · exact h0.congr (hh.members hl').buf (hh.noNewRead hb hl')

theorem reading_reach {home : Path} {c₀ : UInt32} {now : Int} {ok : St → Ev → Prop}
    (h : Reach (OrangeFtpd.step cfg) ok (St.init cfg home c₀ now) s) : Reading s :=
  h.invariant_of (fun _ => machinery_reach) (.of_none rfl) fun _ _ _ hm hI _ hs => hI.step hm hs

end

end OrangeFtpd
