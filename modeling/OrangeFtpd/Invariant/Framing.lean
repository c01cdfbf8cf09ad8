/-
  File:      OrangeFtpd/Invariant/Framing.lean
  Subject:   The requests a session dispatches are those of its byte stream.

  The client's bytes come in chunks, a read takes one line at a time and leaves the
  rest in the buffer, and the request object is used again for every line. All of it
  computes `requestsIn`: cut the whole stream at its CRLFs, and take each line by
  itself.
-/
import OrangeFtpd.Lib.Framer
import OrangeFtpd.Invariant.Reading

namespace OrangeFtpd

/-! ## 1. The stream and its requests -/

/-- Lines, with their `delimit`. -/
def crlf : Framer Char := ⟨lineEnd, lineEnd_pos, lineEnd_le, lineEnd_more, lineEnd_take⟩

/-- The requests of a stream, one for each line that has words. -/
def requestsIn (t : Text) : List FtpRequest :=
  (crlf.frames t).filterMap fun line => buildRequest (splitWords line)

/-- The bytes that a run brings from the client. -/
def received (es : List Ev) : Text := es.flatMap Ev.chunk

/-- The request that an entry of the log records. -/
def Obs.request? : Obs → Option FtpRequest
  | .request _ req _ => some req
  | _ => none

/-- The requests that were dispatched, the oldest first. -/
def St.requests (s : St) : List FtpRequest := s.log.reverse.filterMap Obs.request?

/-- **The session has cut the stream** `t` as far as its buffer. -/
structure Framed (t : Text) (s : St) : Prop where
  done : ∃ done, t = done ++ s.buf ∧ crlf.Whole done ∧ s.requests = requestsIn done

section

variable {cfg : Config} {os : Os} {id n i : Nat} {kind : OpKind} {s s' : St} {e : Ev} {t : Text}

/-! ## 2. What a line does -/

theorem requests_append {new : List Obs} (h : s'.log = new ++ s.log)
    (hn : ∀ o ∈ new, o.request? = none) : s'.requests = s.requests := by
  have hno : new.reverse.filterMap Obs.request? = [] :=
    List.filterMap_eq_nil_iff.mpr fun o ho => hn o (List.mem_reverse.mp ho)
  unfold St.requests
  rw [h, List.reverse_append, List.filterMap_append, hno, List.append_nil]

theorem SameMembers.requests (h : SameMembers s s') : s'.requests = s.requests := by
  obtain ⟨new, hl, hn, -⟩ := h.log
  refine requests_append hl fun o ho => ?_
  cases o with
  | request id req cwd => cases hn _ ho
  | _ => rfl

/-- The effects of a request use no byte and record no request. -/
theorem Effect.stream (h : Effect cfg os id kind s s') :
    s'.buf = s.buf ∧ s'.requests = s.requests := by
  have log : ∀ o : Obs, o.request? = none → (s.emit o).requests = s.requests := fun o ho =>
    @requests_append s (s.emit o) [o] rfl (List.forall_mem_singleton.mpr ho)
  cases h with
  | replied b hb => exact ⟨rfl, SameMembers.pushMessage.requests⟩
  | destroyed op hk => exact ⟨SameMembers.destroyOp.buf, SameMembers.destroyOp.requests⟩
  | named p hp => exact ⟨rfl, log _ rfl⟩
  | madeDirectory p hk hw => exact ⟨rfl, log _ rfl⟩
  | opened fd file p hk ho => exact ⟨rfl, log _ rfl⟩
  | announced port hk => exact ⟨rfl, log _ rfl⟩
  | _ => exact ⟨rfl, rfl⟩

/-- **A line** takes its bytes from the buffer, and records its request where it has one. -/
theorem Dispatched.stream (h : Dispatched cfg os n s s') : s'.buf = s.buf.drop n ∧
    s'.requests = s.requests ++ (buildRequest (splitWords (s.buf.take n))).toList := by
  have recorded : ∀ req, (s.takeLine n req).newRequest.requests = s.requests ++ [req] := by
    intro req
    unfold St.requests
    rw [St.newRequest_log, List.reverse_cons, List.filterMap_append]
    rfl
  cases h with
  | blank h =>
    rw [h]
    exact ⟨SameMembers.rearmIdle.buf, SameMembers.rearmIdle.requests.trans
      (List.append_nil _).symm⟩
  | refused req b h hv hb =>
    have h1 := @SameMembers.pushMessage s.nextId (s.takeLine n req).newRequest ⟨b, none⟩
    have h2 := (h1.trans (.emit (o := .over s.nextId) rfl rfl)).trans (@SameMembers.rearmIdle cfg _)
    rw [h]
    exact ⟨h2.buf, h2.requests.trans (recorded req)⟩
  | ran req kind _ h hk hs =>
    have h1 := (runOp_effects.ok rfl hs).invariant
      (I := fun s₁ => s₁.buf = s.buf.drop n ∧ s₁.requests = s.requests ++ [req])
      (fun _ _ he hI => ⟨he.stream.1.trans hI.1, he.stream.2.trans hI.2⟩) ⟨rfl, recorded req⟩
    rw [h]
    exact h1

/-! ## 3. Steps and runs -/

theorem Framed.line (h : Framed t s) (hl : lineEnd s.buf = some n)
    (hd : Dispatched cfg os n s s') : Framed t s' := by
  obtain ⟨done, ht, hw, hr⟩ := h.done
  obtain ⟨hb, hr'⟩ := hd.stream
  refine ⟨done ++ s.buf.take n, ?_, crlf.whole_snoc hw hl, ?_⟩
  · rw [hb, List.append_assoc, List.take_append_drop]
    exact ht
  · unfold requestsIn at hr ⊢
    rw [hr', hr, crlf.frames_snoc hw hl, List.filterMap_append]
    refine congrArg _ ?_
    cases hb : buildRequest (splitWords (s.buf.take n)) with
    | none => rw [List.filterMap_cons_none (by exact hb)]; rfl
    | some req => rw [List.filterMap_cons_some (by exact hb)]; rfl

theorem Framed.step (h : Framed t s) (hr : Reading s) (hs : step cfg s e = .ok s') :
    Framed (t ++ e.chunk) s' := by
  obtain ⟨done, ht, hw, hq⟩ := h.done
  rcases step_members hs with ⟨i, os, s₁, rfl, hi, hd, rfl⟩ | hm
  · obtain ⟨n, hn⟩ := Option.ne_none_iff_exists'.mp (hr.has (List.mem_of_getElem? hi))
    rw [hn] at hd
    have h0 : Framed t (s.takeHandler i).neverExpire := ⟨done, ht, hw, hq⟩
    obtain ⟨done', ht', hw', hq'⟩ := (h0.line hn hd).done
    rw [show t ++ (Ev.run i os).chunk = t from List.append_nil t]
    exact ⟨done', ht', hw', hq'⟩
  · refine ⟨done, ?_, hw, hm.requests.trans hq⟩
    rw [hm.buf, ht, List.append_assoc]

theorem requestsIn_nil : requestsIn [] = [] := by
  unfold requestsIn
  rw [Framer.frames_none (by rfl)]
  rfl

/-- Along a run. -/
theorem framed_run {home : Path} {c₀ : UInt32} {now : Int} {es : List Ev}
    (h : runAll (OrangeFtpd.step cfg) (St.init cfg home c₀ now) es = .ok s) :
    (Machinery s ∧ Reading s) ∧ Framed (received es) s := by
  have h0 : Reach (OrangeFtpd.step cfg) (fun _ _ => True) (St.init cfg home c₀ now)
    (St.init cfg home c₀ now) := .start
  refine @runAll_induction _ _ _ _
    (fun es s => (Machinery s ∧ Reading s) ∧ Framed (received es) s) ?_ es [] _ _ ⟨⟨machinery_reach h0, reading_reach h0⟩, [], rfl, crlf.whole_nil, requestsIn_nil.symm⟩ h
  rintro es s e s' ⟨⟨hm, hr⟩, hf⟩ hs
  refine ⟨⟨hm.step (step_cases hs) (step_ok.mp hs).1, hr.step hm hs⟩, ?_⟩
  have h1 : received (es ++ [e]) = received es ++ e.chunk := by
    unfold received
    rw [List.flatMap_append, List.flatMap_cons, List.flatMap_nil, List.append_nil]
  rw [h1]
  exact hf.step hr hs

theorem framed_reach {home : Path} {c₀ : UInt32} {now : Int} {es : List Ev}
    (h : runAll (OrangeFtpd.step cfg) (St.init cfg home c₀ now) es = .ok s) :
    Reading s ∧ Framed (received es) s := ⟨(framed_run h).1.2, (framed_run h).2⟩

/-- What is dispatched and what is still in the buffer are the requests of the stream. -/
theorem Framed.requests (h : Framed t s) : s.requests ++ requestsIn s.buf = requestsIn t := by
  obtain ⟨done, ht, hw, hq⟩ := h.done
  unfold requestsIn at hq ⊢
  rw [ht, crlf.frames_append hw, List.filterMap_append, hq]

theorem Framed.waiting (h : Framed t s) (hr : Reading s) (hm : ⟨.read, none⟩ ∈ s.handlers) :
    s.requests = requestsIn t := by
  rw [← h.requests]
  unfold requestsIn
  rw [Framer.frames_none (hr.waits hm)]
  exact (List.append_nil _).symm

/-- A line without words. -/
theorem blank_line (hi : s.handlers[i]? = some ⟨.read, some .ok⟩) (hn : s.nextRequest = none)
    (h : OrangeFtpd.step cfg s (.run i os) = .ok s') :
    s'.requests = s.requests ∧ s'.request = {} ∧ s'.nextId = s.nextId := by
  obtain ⟨s₁, hd, rfl⟩ := step_read h hi
  have hb := hd.stream.2
  cases hd with
  | blank h0 =>
    have h1 := @SameMembers.rearmIdle cfg ((s.takeHandler i).neverExpire.takeLine
      ((lineEnd s.buf).getD 0) {})
    exact ⟨h1.requests, h1.request, h1.nextId⟩
  | refused req b h0 => cases hn.symm.trans h0
  | ran req kind _ h0 => cases hn.symm.trans h0

/-! ## 4. Packet boundaries -/

/-- **Framing does not depend on the chunks.** In every run the lines handled so far are the
    first lines of the stream, cut at every CRLF with no byte lost or used twice, and the
    requests dispatched are theirs, each built from its own line. Once the session waits for
    more bytes these are all the lines there are; so two runs that bring the same stream, in
    whatever chunks, have dispatched the same requests. A blank line dispatches nothing and
    leaves an empty request. -/
theorem framing_independent {home : Path} {c₀ : UInt32} {now : Int} {es : List Ev}
    (h : runAll (OrangeFtpd.step cfg) (St.init cfg home c₀ now) es = .ok s) :
    (∃ done, received es = done ++ s.buf ∧ (crlf.frames done).flatten = done ∧
      s.requests = requestsIn done) ∧
    s.requests ++ requestsIn s.buf = requestsIn (received es) ∧
    (⟨.read, none⟩ ∈ s.handlers → s.requests = requestsIn (received es)) ∧
    (∀ {cfg' : Config} {home' : Path} {c₀' : UInt32} {now' : Int} {es' : List Ev} {s' : St},
      runAll (OrangeFtpd.step cfg') (St.init cfg' home' c₀' now') es' = .ok s' →
      received es' = received es → ⟨.read, none⟩ ∈ s.handlers → ⟨.read, none⟩ ∈ s'.handlers →
      s'.requests = s.requests) ∧
    (∀ (i : Nat) (os : Os) (s' : St), s.handlers[i]? = some ⟨.read, some .ok⟩ →
      s.nextRequest = none → OrangeFtpd.step cfg s (.run i os) = .ok s' →
      s'.requests = s.requests ∧ s'.request = {} ∧ s'.nextId = s.nextId) := by
  obtain ⟨hr, hf⟩ := framed_reach h
  refine ⟨hf.done, hf.requests, hf.waiting hr, ?_, fun _ _ _ => blank_line⟩
  intro cfg' home' c₀' now' es' s' h' he hw hw'
  obtain ⟨hr', hf'⟩ := framed_reach h'
  rw [hf.waiting hr hw, hf'.waiting hr' hw', he]

end

/-- Three lines, the second blank, in one chunk and in three: one cut is between CR and LF. -/
def oneChunk : List Ev :=
  [.complete 0 .ok, .run 0 {}, .clientSend "USER u\r\n \r\nPASS p\r\n".toList, .run 0 {},
    .run 2 {}, .run 2 {}]

def threeChunks : List Ev :=
  [.complete 0 .ok, .run 0 {}, .clientSend "USER u\r".toList, .clientSend "\n \r\nPA".toList,
    .run 0 {}, .run 2 {}, .clientSend "SS p\r\n".toList, .run 2 {}]

theorem framing_independent_chunks : ∃ s s',
    runAll (OrangeFtpd.step .shipped) .fresh oneChunk = .ok s ∧
    runAll (OrangeFtpd.step .shipped) .fresh threeChunks = .ok s' ∧
    s.requests = requestsIn (received oneChunk) ∧ s'.requests = s.requests ∧
    s.requests = [⟨"USER".toList, "u".toList⟩, ⟨"PASS".toList, "p".toList⟩] := by
  have whole := fun s
    (h : runAll (OrangeFtpd.step .shipped) .fresh oneChunk = .ok s) => framing_independent h
  have cut := fun s s' (h : runAll (OrangeFtpd.step .shipped) .fresh oneChunk = .ok s)
    (h' : runAll (OrangeFtpd.step .shipped) .fresh threeChunks = .ok s') =>
    (whole s h).2.2.2.1 h' (by decide)
  exact ⟨_, _, rfl, rfl, (whole _ rfl).2.2.1 (by decide), cut _ _ rfl rfl (by decide) (by decide), rfl⟩

end OrangeFtpd
