/-
  File:      OrangeFtpd/Client/Conversation.lean
  Subject:   What a client reads from the control connection of a session.

  The server writes the banner and then its replies, one at a time; the bytes come to the
  client in pieces of any size, and it cuts them at the ends of lines.

  * `readReplies_begins`: of a stream of legible replies that is cut anywhere, a client reads
    those that are there as a whole, and keeps the rest.
  * `client_reads`: what a session sends is such a stream, and its replies are those that the
    session queued, in that order.
-/
import OrangeFtpd.Invariant.Wording

namespace OrangeFtpd

/-! ## 1. Streams of replies -/

/-- A reply that is read as one: it is one line, and a client understands it. -/
structure Legible (b : SharedConstBuffer) : Prop where
  oneLine : b.OneLine
  understood : Client.buildResp b.data = .ok (some b.response)

/-- The replies, one after the other. -/
def stream (bs : List SharedConstBuffer) : Text := bs.flatMap (·.data)

/-- What a client makes of them. -/
def readings (bs : List SharedConstBuffer) : List (Except StoError (Option FtpResponse)) :=
  bs.map fun b => .ok (some b.response)

section

variable {b : SharedConstBuffer} {bs : List SharedConstBuffer} {p u : Text} {n : Nat}

@[simp] theorem stream_nil : stream [] = [] := rfl

@[simp] theorem stream_cons : stream (b :: bs) = b.data ++ stream bs := rfl

theorem readReply_whole (hb : Legible b) (u : Text) :
    Client.readReply (b.data ++ u) = some (.ok (some b.response), u) := by
  unfold Client.readReply
  rw [lineEnd_more u hb.oneLine, Option.map_some, List.take_left, List.drop_left, hb.understood]

/-- The first reply is there as a whole, or no line is. -/
theorem first_reply (hb : Legible b) (hp : p <+: b.data ++ u) :
    lineEnd p = none ∨ ∃ q, p = b.data ++ q ∧ q <+: u := by
  rcases List.prefix_or_prefix_of_prefix hp (List.prefix_append b.data u) with ⟨q, hq⟩ | ⟨q, rfl⟩
  · cases hl : lineEnd p with
    | none => exact Or.inl rfl
    | some k =>
      -- the line that is there ends where the reply ends
      have h1 := lineEnd_more q hl
      rw [hq, hb.oneLine] at h1
      have hk : p.length + q.length ≤ p.length := by
        have h2 := lineEnd_le hl
        rw [← Option.some.inj h1, ← hq, List.length_append] at h2
        exact h2
      have hnil : q = [] := List.length_eq_zero_iff.mp (by omega)
      rw [hnil, List.append_nil] at hq
      exact Or.inr ⟨[], by rw [hq, List.append_nil], List.nil_prefix⟩
  · exact Or.inr ⟨q, rfl, (List.prefix_append_right_inj _).mp hp⟩

/-- **A stream that is cut anywhere** gives the replies that are there as a whole. -/
theorem readReplies_begins (hbs : ∀ b ∈ bs, Legible b) (hp : p <+: stream bs) (n : Nat) :
    ∃ m ≤ n, ∃ rest, p = stream (bs.take m) ++ rest ∧
      Client.readReplies n p = (readings (bs.take m), rest) ∧ (m < n → lineEnd rest = none) := by
  induction n generalizing bs p with
  | zero => exact ⟨0, Nat.le_refl 0, p, rfl, rfl, fun h => absurd h (Nat.lt_irrefl 0)⟩
  | succ n ih =>
    have stuck : lineEnd p = none → ∃ m ≤ n + 1, ∃ rest, p = stream (bs.take m) ++ rest ∧
        Client.readReplies (n + 1) p = (readings (bs.take m), rest) ∧
          (m < n + 1 → lineEnd rest = none) := by
      intro hl
      refine ⟨0, Nat.zero_le _, p, rfl, ?_, fun _ => hl⟩
      unfold Client.readReplies Client.readReply
      rw [hl]
      rfl
    cases bs with
    | nil =>
      refine stuck ?_
      rw [List.prefix_nil.mp hp]
      rfl
    | cons b bs =>
      have hb : Legible b := hbs b List.mem_cons_self
      rcases first_reply hb hp with hl | ⟨q, rfl, hq⟩
      · exact stuck hl
      · obtain ⟨m, hm, rest, rfl, hr, hl⟩ := ih (fun c hc => hbs c (List.mem_cons_of_mem b hc)) hq
        refine ⟨m + 1, Nat.succ_le_succ hm, rest, ?_, ?_, fun h => hl (Nat.lt_of_succ_lt_succ h)⟩
        · rw [List.take_succ_cons, stream_cons, List.append_assoc]
        · rw [Client.readReplies, readReply_whole hb]
          dsimp only
          rw [hr]
          rfl

end

/-! ## 2. What a session sends -/

namespace Obs

/-- The reply that is passed to `write_message`. -/
def reply? : Obs → Option SharedConstBuffer
  | .reply _ b => some b
  | _ => none

/-- The buffer whose write is started. -/
def written? : Obs → Option SharedConstBuffer
  | .ctlStarted b => some b
  | _ => none

end Obs

namespace St

/-- The replies of the session, in the order of their `write_message`. -/
def replies (s : St) : List SharedConstBuffer := s.log.reverse.filterMap Obs.reply?

/-- What was given to the control connection. -/
def wire (s : St) : Text := stream (s.log.reverse.filterMap Obs.written?)

end St

section

variable {μ : Type} {hasToken : μ → Bool} {sent queue : List μ} {acts : List (OutboxAct μ)}

/-- The message whose write starts. -/
def OutboxAct.started? : OutboxAct μ → Option μ
  | .start m => some m
  | _ => none

/-- Messages are started in the order in which they were asked for. -/
theorem Epoch.started (h : Epoch hasToken sent queue acts) :
    acts.filterMap OutboxAct.started? <+: acts.filterMap OutboxAct.called? := by
  have hw : acts.filterMap OutboxAct.started? =
      (acts.filter OutboxAct.ofWrite).filterMap OutboxAct.started? := by
    rw [List.filterMap_filter]
    refine List.filterMap_congr fun a _ => ?_
    cases a <;> rfl
  have cycles : ∀ sent : List μ,
      (sent.flatMap (cycle hasToken)).filterMap OutboxAct.started? = sent := by
    intro sent
    induction sent with
    | nil => rfl
    | cons m sent ih =>
      rw [List.flatMap_cons, List.filterMap_append, ih]
      unfold cycle
      split <;> rfl
  have front : (startFront queue).filterMap OutboxAct.started? = queue.take 1 := by
    cases queue <;> rfl
  rw [hw, h.writes, h.calls, List.filterMap_append, cycles, front]
  exact (List.prefix_append_right_inj sent).mpr (List.take_prefix 1 queue)

end

section

variable {cfg : Config} {s : St} {o : Outbox Sent}

theorem replies_queueLog : s.queueLog.filterMap Obs.reply? = s.replies := by
  unfold St.queueLog St.replies
  rw [List.filterMap_filter]
  refine List.filterMap_congr fun o _ => ?_
  cases o <;> rfl

theorem written_queueLog : s.queueLog.filterMap Obs.written? = s.log.reverse.filterMap Obs.written? := by
  unfold St.queueLog
  rw [List.filterMap_filter]
  refine List.filterMap_congr fun o _ => ?_
  cases o <;> rfl

/-- **Without a failed write** the banner and the replies are written in order. -/
theorem written_begins (h : Sends Sent.Genuine cfg s) (hf : .ctlDone false ∉ s.log) :
    s.log.reverse.filterMap Obs.written? <+: welcome cfg :: s.replies := by
  obtain ⟨sent, queue, acts, -, hlog, he, -⟩ := h.unbroken hf
  have hwritten : (acts.map logged).filterMap Obs.written? =
      (acts.filterMap OutboxAct.started?).map fun x => x.2.buffer := by
    rw [List.filterMap_map, List.map_filterMap]
    refine List.filterMap_congr fun a _ => ?_
    cases a <;> rfl
  have hreplies : (acts.map logged).filterMap Obs.reply? =
      (acts.filterMap OutboxAct.called?).map fun x => x.2.buffer := by
    rw [List.filterMap_map, List.map_filterMap]
    refine List.filterMap_congr fun a _ => ?_
    cases a <;> rfl
  rw [← written_queueLog, ← replies_queueLog, hlog]
  show welcome cfg :: (acts.map logged).filterMap Obs.written? <+:
    welcome cfg :: (acts.map logged).filterMap Obs.reply?
  rw [hwritten, hreplies]
  exact List.cons_prefix_cons.mpr ⟨rfl, he.started.map _⟩

/-! ## 3. What a client reads -/

variable {home : Path} {c₀ : UInt32} {now : Int}

theorem tidy_reach (hh : lineEnd home = none)
    (h : Reach (OrangeFtpd.step cfg) (fun _ e => e.Clean) (St.init cfg home c₀ now) s) : Tidy s := by
  have h0 : Tidy (St.init cfg home c₀ now) := by
    refine ⟨hh, List.not_mem_nil, fun id b hm => ?_⟩
    cases List.mem_singleton.mp hm
  exact h.invariant h0 fun _ _ _ hI ho hs => hI.step ho hs

theorem welcome_legible (hb : lineEnd cfg.ftpdBanner = none) : Legible (welcome cfg) where
  oneLine := by
    refine oneLine_info ?_
    split
    · decide
    · exact hb
  understood := (understood_info _ _).2

/-- The banner and the replies are legible. -/
theorem legible_reach (hb : lineEnd cfg.ftpdBanner = none) (hh : lineEnd home = none)
    (h : Reach (OrangeFtpd.step cfg) (fun _ e => e.Clean) (St.init cfg home c₀ now) s) :
    ∀ b ∈ welcome cfg :: s.replies, Legible b := by
  have hw : RepliedWith (fun _ => Worded (fun _ => True) fun _ => True) s := by
    refine wording_reach (h.mono fun _ e _ => ?_)
    cases e with
    | run i os => exact ⟨trivial, fun _ _ => trivial⟩
    | _ => trivial
  intro b hm
  rcases List.mem_cons.mp hm with rfl | hm
  · exact welcome_legible hb
  · obtain ⟨o, ho, hr⟩ := List.mem_filterMap.mp hm
    cases o with
    | reply id b' =>
      cases hr
      have hlog := List.mem_reverse.mp ho
      exact ⟨(tidy_reach hh h).replies id b hlog, (hw id b hlog).understood⟩
    | _ => cases hr

theorem stream_begins {bs cs : List SharedConstBuffer} (h : bs <+: cs) : stream bs <+: stream cs := by
  obtain ⟨rest, rfl⟩ := h
  unfold stream
  rw [List.flatMap_append]
  exact List.prefix_append _ _

/-- **A client reads what the server replied.** In every run in which no write of a reply fails
    (and neither the banner, the first directory nor an answer of the operating system has a
    line break), whatever part of the bytes has come and however often the client reads: it gets
    the banner and the replies of the session in their order, each with its code and its text, as
    far as they are there as a whole, and keeps the rest. -/
theorem client_reads (hb : lineEnd cfg.ftpdBanner = none) (hh : lineEnd home = none)
    (h : Reach (OrangeFtpd.step cfg) (fun _ e => e.Clean) (St.init cfg home c₀ now) s)
    (hf : .ctlDone false ∉ s.log) {p : Text} (hp : p <+: s.wire) (n : Nat) :
    ∃ m ≤ n, ∃ rest, p = stream ((welcome cfg :: s.replies).take m) ++ rest ∧
      Client.readReplies n p = (readings ((welcome cfg :: s.replies).take m), rest) ∧
      (m < n → lineEnd rest = none) := by
  have hw := stream_begins (written_begins (sends_reach h) hf)
  exact readReplies_begins (legible_reach hb hh h) (hp.trans hw) n

end

/-- A client logs in; the first of the two replies is written, the second waits. -/
def firstReply : List Ev := login [] ++ [.complete 1 .ok, .run 1 {}]

/-- A client that logs in, as far as a part of the first of its two replies has come: it reads
    the banner, and keeps that part. -/
theorem client_reads_login : ∃ s, runAll (OrangeFtpd.step .shipped) .fresh firstReply = .ok s ∧
    ∃ rest ≠ [], s.wire.take 40 = stream [welcome .shipped] ++ rest ∧
      Client.readReplies 3 (s.wire.take 40) = (readings [welcome .shipped], rest) ∧
      lineEnd rest = none := by
  obtain ⟨s, run, hf, htwo, hone, hrest⟩ : ∃ s,
      runAll (OrangeFtpd.step .shipped) .fresh firstReply = .ok s ∧ .ctlDone false ∉ s.log ∧
      s.replies.length = 2 ∧
      (Client.readReplies 3 (s.wire.take 40)).1.length = 1 ∧
      (Client.readReplies 3 (s.wire.take 40)).2 ≠ [] := exists_runAll (by decide +kernel)
  obtain ⟨m, hm, rest, hp, hread, hkeeps⟩ := client_reads (by decide) (by decide)
    (reach_runAll firstReply .start (by decide) run) hf (List.take_prefix 40 _) 3
  rw [hread] at hone hrest
  obtain rfl : m = 1 := by
    have hone : (readings ((welcome .shipped :: s.replies).take m)).length = 1 := hone
    rw [readings, List.length_map, List.length_take, List.length_cons, htwo] at hone
    omega
  exact ⟨s, run, rest, hrest, hp, hread, hkeeps (by decide)⟩

end OrangeFtpd
