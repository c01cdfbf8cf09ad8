/-
  File:      OrangeFtpd/Lib/Outbox.lean
  Subject:   A queue of messages that are written one at a time.

  The front of the queue is the message that is being written; it stays there until
  its write has ended and its token, where it has one, has run. What a token calls is
  queued like anything else. A write that fails drops the queue.

  `Epoch` says what such a queue has done since it was last dropped: the messages
  asked for are those sent, then those queued, and the writes are a whole cycle for
  each one sent and the start of the front. `Orderly` puts the epochs of a history
  together; `write`, `succeed` and `fail` keep it.
-/

namespace OrangeFtpd

variable {μ : Type}

/-- What an outbox does. -/
inductive OutboxAct (μ : Type) where
  /-- A message is asked to be sent. -/
  | call (m : μ)
  | start (m : μ)
  /-- The write ends, without error or with one. -/
  | done (ok : Bool)
  | token (m : μ)

namespace OutboxAct

/-- The message that is asked for. -/
def called? : OutboxAct μ → Option μ
  | call m => some m
  | _ => none

/-- All that is not a call. -/
def ofWrite : OutboxAct μ → Bool
  | call _ => false
  | _ => true

end OutboxAct

open OutboxAct

structure Outbox (μ : Type) where
  queue : List μ := []
  /-- Oldest first. -/
  acts : List (OutboxAct μ) := []

/-- The whole cycle of one message. -/
def cycle (hasToken : μ → Bool) (m : μ) : List (OutboxAct μ) :=
  [.start m, .done true] ++ if hasToken m then [.token m] else []

/-- The front of the queue is being written. -/
def startFront (queue : List μ) : List (OutboxAct μ) := (queue.take 1).map .start

/-- **What was done since the queue was dropped last**: `sent` was written, `queue` waits. -/
structure Epoch (hasToken : μ → Bool) (sent queue : List μ) (acts : List (OutboxAct μ)) : Prop where
  calls : acts.filterMap called? = sent ++ queue
  writes : acts.filter ofWrite = sent.flatMap (cycle hasToken) ++ startFront queue

/-- An epoch that a failed write ended; the messages that waited are dropped. -/
def Broken (hasToken : μ → Bool) (acts : List (OutboxAct μ)) : Prop :=
  ∃ sent dropped before, acts = before ++ [.done false] ∧ dropped ≠ [] ∧
    Epoch hasToken sent dropped before

/-- **The history of an outbox.** -/
def Orderly (hasToken : μ → Bool) (queue : List μ) (acts : List (OutboxAct μ)) : Prop :=
  ∃ (broken : List (List (OutboxAct μ))) (recent : List (OutboxAct μ)) (sent : List μ),
    acts = broken.flatten ++ recent ∧ (∀ e ∈ broken, Broken hasToken e) ∧
      Epoch hasToken sent queue recent

section

variable {hasToken : μ → Bool} {sent queue calls : List μ} {acts new : List (OutboxAct μ)} {m : μ}

/-! ## 1. Epochs -/

theorem Epoch.start : Epoch hasToken [] [] [] := ⟨rfl, rfl⟩

theorem startFront_append (h : queue ≠ []) : startFront (queue ++ calls) = startFront queue := by
  cases queue with
  | nil => exact absurd rfl h
  | cons m rest => rfl

theorem called_calls (calls : List μ) : (calls.map .call).filterMap called? = calls := by
  induction calls with
  | nil => rfl
  | cons m rest ih =>
    rw [List.map_cons, List.filterMap_cons, ih]
    rfl

theorem ofWrite_calls (calls : List μ) : (calls.map .call).filter ofWrite = [] := by
  refine List.filter_eq_nil_iff.mpr fun a ha => ?_
  obtain ⟨m, _, rfl⟩ := List.mem_map.mp ha
  exact Bool.false_ne_true

theorem called_startFront : (startFront queue).filterMap called? = [] := by
  cases queue <;> rfl

theorem ofWrite_startFront : (startFront queue).filter ofWrite = startFront queue := by
  cases queue <;> rfl

/-- Calls while a message is being written. -/
theorem Epoch.calls_busy (h : Epoch hasToken sent queue acts) (hq : queue ≠ []) (calls : List μ) :
    Epoch hasToken sent (queue ++ calls) (acts ++ calls.map .call) where
  calls := by
    rw [List.filterMap_append, h.calls, called_calls, List.append_assoc]
  writes := by
    rw [List.filter_append, h.writes, ofWrite_calls, List.append_nil, startFront_append hq]

/-- A call while nothing is being written. -/
theorem Epoch.call_idle (h : Epoch hasToken sent [] acts) (m : μ) :
    Epoch hasToken sent [m] (acts ++ [.call m, .start m]) where
  calls := by
    rw [List.filterMap_append, h.calls, List.append_nil]
    rfl
  writes := by
    rw [List.filter_append, h.writes, List.append_assoc]
    rfl

/-- The front was written; its token makes `calls`, and the next write starts. -/
theorem Epoch.succeed {rest : List μ} (h : Epoch hasToken sent (m :: rest) acts) (calls : List μ) :
    Epoch hasToken (sent ++ [m]) (rest ++ calls)
      (acts ++ (.done true :: (if hasToken m then [.token m] else [])) ++ calls.map .call ++
        startFront (rest ++ calls)) where
  calls := by
    have hd : (OutboxAct.done true :: if hasToken m then [.token m] else []).filterMap called? =
        ([] : List μ) := by
      cases hasToken m <;> rfl
    rw [List.filterMap_append, List.filterMap_append, List.filterMap_append, h.calls, hd,
      called_calls, called_startFront, List.append_nil, List.append_nil]
    simp
  writes := by
    have hd : (OutboxAct.done true :: if hasToken m then [.token m] else []).filter ofWrite =
        .done true :: if hasToken m then [.token m] else [] := by
      cases hasToken m <;> rfl
    rw [List.filter_append, List.filter_append, List.filter_append, h.writes, hd, ofWrite_calls,
      ofWrite_startFront, List.append_nil, List.flatMap_append]
    simp [cycle, startFront]

/-! ## 2. Outboxes -/

namespace Outbox

variable {o : Outbox μ}

/-- A message is asked to be sent. -/
def write (m : μ) (o : Outbox μ) : Outbox μ where
  queue := o.queue ++ [m]
  acts := o.acts ++ .call m :: if o.queue.isEmpty then [.start m] else []

/-- The write of the front ended well; its token makes `calls`. -/
def succeed (hasToken : μ → Bool) (calls : List μ) (o : Outbox μ) : Outbox μ :=
  match o.queue with
  | [] => o
  | m :: rest =>
    { queue := rest ++ calls
      acts := o.acts ++ (.done true :: (if hasToken m then [.token m] else [])) ++
        calls.map .call ++ startFront (rest ++ calls) }

theorem succeed_cons {rest : List μ} (h : o.queue = m :: rest) : o.succeed hasToken calls =
    { queue := rest ++ calls
      acts := o.acts ++ (.done true :: (if hasToken m then [.token m] else [])) ++
        calls.map .call ++ startFront (rest ++ calls) } := by
  unfold Outbox.succeed
  rw [h]

/-- The write of the front failed. -/
def fail (o : Outbox μ) : Outbox μ where
  queue := []
  acts := o.acts ++ [.done false]

/-- The outbox has worked as it should. -/
def InOrder (hasToken : μ → Bool) (o : Outbox μ) : Prop := Orderly hasToken o.queue o.acts

theorem inOrder_start : InOrder hasToken ({} : Outbox μ) :=
  ⟨[], [], [], rfl, fun _ h => absurd h List.not_mem_nil, .start⟩

theorem InOrder.write (h : o.InOrder hasToken) (m : μ) : (o.write m).InOrder hasToken := by
  obtain ⟨broken, recent, sent, ha, hb, he⟩ := h
  by_cases hq : o.queue = []
  · rw [hq] at he
    refine ⟨broken, recent ++ [.call m, .start m], sent, ?_, hb, ?_⟩
    · simp [Outbox.write, hq, ha]
    · simpa [Outbox.write, hq] using he.call_idle m
  · refine ⟨broken, _, sent, ?_, hb, he.calls_busy hq [m]⟩
    simp [Outbox.write, hq, ha]

theorem InOrder.succeed (h : o.InOrder hasToken) (calls : List μ) :
    (o.succeed hasToken calls).InOrder hasToken := by
  cases hq : o.queue with
  | nil =>
    unfold Outbox.succeed
    rw [hq]
    exact h
  | cons m rest =>
    obtain ⟨broken, recent, sent, ha, hb, he⟩ := h
    rw [hq] at he
    rw [succeed_cons hq]
    refine ⟨broken, _, sent ++ [m], ?_, hb, he.succeed calls⟩
    simp [ha]

theorem InOrder.fail (h : o.InOrder hasToken) (hq : o.queue ≠ []) : o.fail.InOrder hasToken := by
  obtain ⟨broken, recent, sent, ha, hb, he⟩ := h
  refine ⟨broken ++ [recent ++ [.done false]], [], [], ?_, fun e hm => ?_, .start⟩
  · simp [Outbox.fail, ha]
  · rcases List.mem_append.mp hm with hm | hm
    · exact hb e hm
    · rw [List.mem_singleton.mp hm]
      exact ⟨sent, o.queue, recent, rfl, hq, he⟩

end Outbox

/-! ## 3. What was asked for -/

theorem Outbox.called_write {o : Outbox μ} {x : μ} (h : .call x ∈ (o.write m).acts) :
    .call x ∈ o.acts ∨ x = m := by
  refine (List.mem_append.mp h).imp_right fun h1 => ?_
  rcases List.mem_cons.mp h1 with h2 | h2
  · exact OutboxAct.call.inj h2
  · split at h2
    · cases List.mem_singleton.mp h2
    · cases h2

theorem Outbox.called_succeed {o : Outbox μ} {x : μ}
    (h : .call x ∈ (o.succeed hasToken calls).acts) : .call x ∈ o.acts ∨ x ∈ calls := by
  cases hq : o.queue with
  | nil =>
    unfold Outbox.succeed at h
    rw [hq] at h
    exact Or.inl h
  | cons m rest =>
    rw [succeed_cons hq] at h
    rcases List.mem_append.mp h with h1 | h1
    · rcases List.mem_append.mp h1 with h2 | h2
      · refine Or.inl ((List.mem_append.mp h2).resolve_right fun h3 => ?_)
        rcases List.mem_cons.mp h3 with h4 | h4
        · cases h4
        · split at h4
          · cases List.mem_singleton.mp h4
          · cases h4
      · obtain ⟨y, hy, he⟩ := List.mem_map.mp h2
        exact Or.inr (OutboxAct.call.inj he ▸ hy)
    · obtain ⟨y, -, he⟩ := List.mem_map.mp h1
      cases he

theorem Outbox.called_fail {o : Outbox μ} {x : μ} (h : .call x ∈ o.fail.acts) : .call x ∈ o.acts :=
  (List.mem_append.mp h).resolve_right fun h1 => by cases List.mem_singleton.mp h1

/-- What is sent, and what waits, was asked for. -/
theorem Epoch.called (h : Epoch hasToken sent queue acts) {x : μ} (hx : x ∈ sent ++ queue) :
    .call x ∈ acts := by
  rw [← h.calls] at hx
  obtain ⟨a, ha, he⟩ := List.mem_filterMap.mp hx
  cases a with
  | call m =>
    cases he
    exact ha
  | _ => cases he

/-! ## 4. Histories without a failed write -/

theorem Broken.failed (h : Broken hasToken acts) : .done false ∈ acts := by
  obtain ⟨_, _, before, rfl, -, -⟩ := h
  exact List.mem_append_right before List.mem_cons_self

/-- **Without a failed write** all is one epoch: every message asked for was sent or waits. -/
theorem Orderly.epoch (h : Orderly hasToken queue acts) (hf : .done false ∉ acts) :
    ∃ sent, Epoch hasToken sent queue acts := by
  obtain ⟨broken, recent, sent, rfl, hb, he⟩ := h
  cases broken with
  | nil => exact ⟨sent, he⟩
  | cons e rest =>
    refine absurd ?_ hf
    have he' := (hb e List.mem_cons_self).failed
    exact List.mem_append_left _ (List.mem_flatten.mpr ⟨e, List.mem_cons_self, he'⟩)

end

end OrangeFtpd
