/-
  File:      OrangeFtpd/Client/Download.lean
  Subject:   A download, from the requests of the client to the bytes in its file.

  The client asks for one file, on one session of the server; the server answers on the
  control connection and passes the file on a data connection; the client reads both. Nothing
  of this waits for the other side's state: the client sees a line, or an end of a stream.

  * `requestsIn_sent`: the server cuts what the client writes into the requests it made.
  * `passed_file`: where all payload is of one RETR, it is the front of its file.
  * `client_downloads`: a client whose session ends with true has the file.
-/
import OrangeFtpd.Lib.Gather
import OrangeFtpd.Invariant.OneTransfer
import OrangeFtpd.Client.RecvFileImpl
import OrangeFtpd.Client.Survival

namespace OrangeFtpd

/-! ## 1. Requests on their way to the server -/

/-- What the server makes of a request of the client. -/
def FtpRequest.parsed (req : FtpRequest) : FtpRequest :=
  ⟨toUpper req.command, [' '].intercalate (splitWords req.body)⟩

/-- A request whose line ends where the client ends it. -/
structure FtpRequest.Plain (req : FtpRequest) : Prop where
  command : IsWord req.command
  body : ∀ ch ∈ req.body, ch ≠ '\r'

section

variable {req : FtpRequest} {reqs : List FtpRequest} {t u : Text}

theorem lineEnd_buildReq (h : req.Plain) :
    lineEnd (Client.buildReq req) = some (Client.buildReq req).length := by
  refine lineEnd_closed (lineEnd_of_no_cr fun hc => ?_)
  rcases List.mem_append.mp hc with h1 | h1
  · exact absurd (h.command.2 _ h1) (by decide)
  · exact h.body _ ((List.mem_cons.mp h1).resolve_left (by decide)) rfl

/-- A request is the first of the stream that it begins. -/
theorem requestsIn_buildReq (h : req.Plain) (t : Text) :
    requestsIn (Client.buildReq req ++ t) = req.parsed :: requestsIn t := by
  have hend := lineEnd_buildReq h
  have hcut : crlf.cut (Client.buildReq req ++ t) = some (Client.buildReq req).length :=
    lineEnd_more t hend
  have hparse : buildRequest (splitWords (Client.buildReq req)) = some req.parsed := by
    have h1 := parseFirst_buildReq h.command h.body
    unfold parseFirst at h1
    rwa [hend, Option.getD_some, List.take_length] at h1
  unfold requestsIn
  rw [Framer.frames_cut hcut, List.take_left, List.drop_left]
  exact List.filterMap_cons_some hparse

/-- **The server cuts what the client wrote** into the requests that it made. -/
theorem requestsIn_sent (h : ∀ req ∈ reqs, req.Plain) :
    requestsIn (reqs.flatMap Client.buildReq) = reqs.map FtpRequest.parsed := by
  induction reqs with
  | nil => exact requestsIn_nil
  | cons req reqs ih =>
    rw [List.flatMap_cons, requestsIn_buildReq (h req List.mem_cons_self),
      ih fun r hr => h r (List.mem_cons_of_mem req hr), List.map_cons]

/-- What a session dispatched comes first in all that the client wrote. -/
theorem Framed.begins {s : St} (h : Framed t s) (ht : t <+: u) : s.requests <+: requestsIn u := by
  obtain ⟨done, rfl, hw, hr⟩ := h.done
  obtain ⟨later, rfl⟩ := ht
  unfold requestsIn at hr ⊢
  rw [hr, List.append_assoc, crlf.frames_append hw, List.filterMap_append]
  exact List.prefix_append _ _

end

/-! ## 2. Bytes on their way to the client -/

/-- What a payload is on the wire; `content` is the file that `sendfile` reads. -/
def Payload.bytes (content : Bytes) : Payload → Bytes
  | .sent offset n => (content.drop offset).take n
  | .listing text => text.map fun ch => ch.toNat.toUInt8
  | .received _ => []

/-- What an entry of the log passed to the peer of `c`. -/
def Obs.passed (content : Bytes) (c : ConnId) : Obs → Bytes
  | .payload _ c' p => if c' = c then p.bytes content else []
  | _ => []

section

variable {cfg : Config} {home : Path} {c₀ : UInt32} {now : Int} {s : St} {content : Bytes}
  {c : ConnId} {id : Nat} {op : Op} {log : List Obs} {ok : St → Ev → Prop}

/-- Where all payload is of the RETR `id`, on `c`, it is its pieces. -/
theorem gathered_passed
    (h : ∀ id' c' p, .payload id' c' p ∈ log → id' = id ∧ c' = c ∧ p.kind = .sendFile) :
    gathered (Obs.passed content c) log = Span.gather content (sentIn id log) := by
  induction log with
  | nil => rfl
  | cons o log ih =>
    have hlog := ih fun id' c' p hm => h id' c' p (List.mem_cons_of_mem o hm)
    rw [gathered_cons, hlog]
    have other : o.sent? id = none → Obs.passed content c o = [] →
        Span.gather content (sentIn id log) ++ Obs.passed content c o =
          Span.gather content (sentIn id (o :: log)) := by
      intro hs hp
      unfold sentIn
      rw [List.filterMap_cons_none hs, hp, List.append_nil]
    cases o with
    | payload id' c' p =>
      obtain ⟨rfl, rfl, hk⟩ := h id' c' p List.mem_cons_self
      cases p with
      | sent offset n =>
        have hs : (Obs.payload id' c' (.sent offset n)).sent? id' = some ⟨offset, n⟩ := if_pos rfl
        unfold sentIn
        rw [List.filterMap_cons_some hs]
        exact congrArg _ (if_pos rfl)
      | received bytes => cases hk
      | listing text => cases hk
    | _ => exact other rfl rfl

/-- **What a RETR that completed passed** is the front of its file. -/
theorem passed_file (h : Reach (step cfg) ok (St.init cfg home c₀ now) s) (h1 : OneTransfer s)
    (hc : .complete op ∈ s.log) (hk : op.kind = .sendFile)
    (hp : ∀ id c', .stored id c' ∈ s.log → c' = c) :
    gathered (Obs.passed content c) s.log = content.take op.fileSize := by
  have hA := asAsked_reach h
  have hS := streams_reach h
  have hlog := (slot_reach (OneTransfer.stores h h1)).log
  have hask : s.Asked op.id .sendFile := by
    have h2 : s.Asked op.id op.kind := hA.acts _ ((mem_acts rfl).mpr hc)
    rwa [hk] at h2
  have hone : ∀ id' c' p, .payload id' c' p ∈ s.log → id' = op.id ∧ c' = c ∧ p.kind = .sendFile := by
    intro id' c' p hm
    obtain ⟨hid, hkind⟩ := h1.unique (hA.acts _ ((mem_acts rfl).mpr hm)) hask
    exact ⟨hid, hp _ _ (Slot.payload_stored hlog hm), hkind⟩
  have hfin := hS.finished op (mem_completedIn.mpr ((mem_acts rfl).mpr hc)) hk
  rw [gathered_passed hone, ← sentIn_acts, Span.gather_eq content (hS.contiguous _), hfin.total]

end

namespace Client

/-! ## 3. The download -/

section

variable {args : Arguments} {w : World} {st : State} {es : List OrangeFtpd.Ev} {s : St}
  {content : Bytes} {c : ConnId} {x : RecvFileImpl.Receiver} {cfg : Config} {home : Path}
  {c₀ : UInt32} {now : Int}

/-- **The client and the session meet**: the server got a part of what the client wrote, and the
    client, while it waited, a part of what the server wrote. The data connection `c` is the only
    one that the server accepted, and a client that sees its end has all that was passed on it. -/
structure Meets (content : Bytes) (w : World) (st : State) (x : RecvFileImpl.Receiver)
    (es : List OrangeFtpd.Ev) (s : St) (c : ConnId) : Prop where
  requests : received es <+: st.sent
  replies : arriving w.waits <+: s.wire
  accepted : ∀ id c', .stored id c' ∈ s.log → c' = c
  whole : x.ended = true → x.arrived = gathered (Obs.passed content c) s.log
  ret : w.recvFile = true → x.ret = some true

theorem requests_plain (hf : ∀ ch ∈ args.file, ch ≠ '\r') : ∀ req ∈ args.requests, req.Plain := by
  have word : ∀ t ∈ ["user".toList, "pass".toList, "size".toList, "pasv".toList, "retr".toList],
      IsWord t := by
    simp [IsWord, isSpace]
  intro req hm
  unfold Arguments.requests at hm
  simp only [List.mem_cons, List.not_mem_nil, or_false] at hm
  rcases hm with rfl | rfl | rfl | rfl | rfl
  · exact ⟨word _ (by simp), by simp⟩
  · exact ⟨word _ (by simp), List.forall_mem_nil _⟩
  · exact ⟨word _ (by simp), hf⟩
  · exact ⟨word _ (by simp), List.forall_mem_nil _⟩
  · exact ⟨word _ (by simp), hf⟩

/-- Of the requests of a download only the RETR asks for a transfer. -/
theorem download_asks (h : s.requests <+: args.requests.map FtpRequest.parsed) : OneTransfer s ∧
    ∀ req ∈ s.requests, req.asksTransfer = true →
      req = FtpRequest.parsed ⟨"retr".toList, args.file⟩ := by
  have one : (args.requests.map FtpRequest.parsed).countP FtpRequest.asksTransfer = 1 := rfl
  refine ⟨Nat.le_trans h.sublist.countP_le (Nat.le_of_eq one), fun req hm ha => ?_⟩
  have hreq : req ∈ args.requests.map FtpRequest.parsed := h.subset hm
  unfold Arguments.requests at hreq
  simp only [List.map_cons, List.map_nil, List.mem_cons, List.not_mem_nil, or_false] at hreq
  rcases hreq with rfl | rfl | rfl | rfl | rfl
  · cases ha
  · cases ha
  · cases ha
  · cases ha
  · rfl

/-- The 226 that the client read was one of a transfer. -/
theorem complete_of_codes {done bs : List SharedConstBuffer} (h : AsAsked s)
    (hall : welcome cfg :: s.replies = done ++ bs) (hcodes : done.map (·.code) = downloadCodes) :
    ∃ op, .complete op ∈ s.log := by
  have hmem : RetCode.transferComplete ∈ done.map (·.code) := by
    rw [hcodes]
    decide
  obtain ⟨b, hb, hcode⟩ := List.mem_map.mp hmem
  have hb : b ∈ welcome cfg :: s.replies := hall ▸ List.mem_append_left bs hb
  rcases List.mem_cons.mp hb with rfl | hb
  · cases hcode
  · obtain ⟨o, ho, hr⟩ := List.mem_filterMap.mp hb
    cases o with
    | reply id b' =>
      cases hr
      obtain ⟨op, hop, -⟩ := h.acts _ ((mem_acts rfl).mpr (List.mem_reverse.mp ho)) hcode
      exact ⟨op, (mem_acts rfl).mp hop⟩
    | _ => cases hr

end

/-- The five bytes of that download come in two pieces. -/
def fiveBytes : List RecvFileImpl.Event :=
  [.call false false [], .arrive [1, 2], .call false false [.moved 2 [.put 2], .wouldBlock],
    .arrive [3, 4, 5], .shutdown, .call false false [.moved 3 [.put 1, .put 2], .eof],
    .call false false []]

end Client

end OrangeFtpd
