/-
  File:      OrangeFtpd/Client/Survival.lean
  Subject:   The client against this server.

  The chain of `async_session` parses numbers and addresses with functions that throw. What
  the server writes never makes them throw: a client that reads from a session of the server
  comes to the end of its chain, whatever part of the replies comes in which piece and in what
  time. Only a size of 0 kills it, where bytes come all the same: the progress bar divides by
  the size.

  * `Talk`: how far a client has come with the replies of a session; `Listening`, `Heard`: the
    client before and after a wait.
  * `HookReturns`: when the progress bar does not divide by 0.
  * `session_comes`: the chain, and what its result says of the replies.
  * `client_survives`: it returns.
-/
import OrangeFtpd.Client.Conversation
import OrangeFtpd.Client.Session

namespace OrangeFtpd

open Act

/-! ## 1. Numbers and addresses of replies -/

/-- The address of a 227 reply is one of IPv4. -/
def IsDotted (ip : Text) : Prop := ∃ a b c d, ip = Client.dotted a b c d

/-- A size that a `long` holds. -/
def FitsLong (n : UInt64) : Prop := n.toNat < 2 ^ 63

/-- A reply that a client reads without an exception. -/
structure Proper (b : SharedConstBuffer) : Prop extends Legible b where
  size : b.code = .sizeOrMdtmOk → ∃ n, stol b.message = .ok n
  address : b.code = .pasvOk → ∃ found, Client.pasvEndpoint b.message = .ok found

theorem RetCode.toNat_inj {c c' : RetCode} (h : c.toNat = c'.toNat) : c = c' := by
  cases c <;> cases c' <;> first | rfl | cases h

section

variable {b : SharedConstBuffer} {ip t : Text} {n : Nat}

theorem stol_dec (hn : n < 2 ^ 63) (ht : ∀ c, t.head? = some c → c.isDigit = false) :
    stol (dec n ++ t) = .ok n := by
  unfold stol
  rw [stoNumber_digits (fun _ => isDigit_dec) (dec_ne_nil n) ht (by decide), ofDigitChars_dec,
    if_pos (by omega)]

theorem endpoint_passive (h : IsDotted ip) (port : UInt16) :
    ∃ found, Client.pasvEndpoint (Response.getPasvResponse ip port).message = .ok found := by
  obtain ⟨a, b, c, d, rfl⟩ := h
  have number : ∀ x : UInt8, Client.IsNumber (dec x.toNat) := fun x => Client.isNumber_dec x.toNat
  have hport : port.toNat < 65536 := port.toNat_lt
  have hm : (Response.getPasvResponse (Client.dotted a b c d) port).message =
      "Entering Passive Mode. ".toList ++ '(' :: (joinString ',' [dec a.toNat, dec b.toNat,
        dec c.toNat, dec d.toNat, dec (port.toNat / 256), dec (port.toNat % 256)] ++
          ')' :: delimit) := by
    rw [(understood_passive _ _).1, Client.dotted,
      Client.commas_dotted (number a) (number b) (number c) (number d)]
    simp [joinString, List.intercalate_cons_cons]
  unfold Client.pasvEndpoint
  rw [hm, Client.pasvAddress_group (by simp) (number a) (number b) (number c) (number d)
    (by omega) (by omega)]
  exact ⟨_, rfl⟩

theorem Worded.proper (h : Worded IsDotted FitsLong b) (hl : Legible b) : Proper b := by
  rcases h with h | rfl
  swap
  · exact ⟨hl, nofun, nofun⟩
  refine ⟨hl, fun hs => ?_, fun hp => ?_⟩
  · cases h with
    | known code t h hp =>
      rw [Response.getCodeString_code] at hs
      rw [hs] at h
      cases h
    | info code t h => exact absurd hs h.1
    | size n h =>
      rw [(understood_info _ _).1]
      exact ⟨_, stol_dec h (by simp [delimit])⟩
    | passive ip port h => cases hs
    | status cfg os s => cases hs
  · cases h with
    | known code t h hp' =>
      rw [Response.getCodeString_code] at hp
      exact absurd hp hp'.1
    | info code t h => exact absurd hp h.2.1
    | size n h => cases hp
    | passive ip port h => exact endpoint_passive h port
    | status cfg os s => cases hp

end

namespace Client

/-! ## 2. A client that listens -/

/-- What comes while the client waits. -/
def Wait.bytes : Wait → Text
  | .timeout bytes | .arrives bytes => bytes

/-- What comes in the waits. -/
def arriving (waits : List Wait) : Text := waits.flatMap Wait.bytes

/-- **How far a client has come**: the codes of the replies that it read, what it asked for,
    the waits to come, and what is known of `*file_size`. -/
structure Talk where
  codes : List RetCode
  asked : List FtpRequest
  waits : List Wait
  size : Int → Prop := fun _ => True

/-- The client is connected and has come so far with the replies `all`; what it has and will get in
    the waits is the beginning of the rest of them. -/
structure Listening (all : List SharedConstBuffer) (k : Talk) (s : State) : Prop where
  connected : s.controlSocket = .connected
  sent : s.sent = k.asked.flatMap buildReq
  fed : ∃ done bs, all = done ++ bs ∧ done.map (·.code) = k.codes ∧
    s.buf ++ arriving k.waits <+: stream bs
  size : k.size s.fileSize

/-- **The client got an answer**, one of the replies, or none. -/
structure Heard (all : List SharedConstBuffer) (k : Talk) (resp : Option FtpResponse) (s : State) :
    Prop where
  asks : s.controlSocket ≠ .closed
  answered : resp.isSome = true → ∃ b ∈ all, resp = some b.response ∧
    Listening all { k with codes := k.codes ++ [b.code] } s

/-- The client listens if it goes on. -/
def Goes (all : List SharedConstBuffer) (k : Talk) (goesOn : Bool) (s : State) : Prop :=
  s.controlSocket ≠ .closed ∧ (goesOn = true → Listening all k s)

/-- One of the replies announces the size `n`. -/
def Announced (all : List SharedConstBuffer) (n : Int) : Prop :=
  ∃ b ∈ all, b.code = .sizeOrMdtmOk ∧ stol b.message = .ok n

/-- **The update hook returns**: it is not called, there is no progress bar, or no reply
    announces the size 0. -/
def HookReturns (args : Arguments) (w : World) (all : List SharedConstBuffer) : Prop :=
  w.progress = true → args.dummy = false → ¬ Announced all 0

/-- The requests of a download. -/
def Arguments.requests (args : Arguments) : List FtpRequest :=
  [⟨"user".toList, "anonymous".toList⟩, ⟨"pass".toList, []⟩, ⟨"size".toList, args.file⟩,
    ⟨"pasv".toList, []⟩, ⟨"retr".toList, args.file⟩]

/-- The replies of a download. -/
def downloadCodes : List RetCode :=
  [.welcome, .passwordRequired, .loggedOn, .sizeOrMdtmOk, .pasvOk, .dataConn, .transferComplete]

/-- The waits of the chain. -/
def World.waits (w : World) : List Wait :=
  [w.welcome, w.user, w.pass, w.size, w.pasv, w.retr, w.complete]

/-- **What the result `true` says**: the file was received, every request was sent, and the replies
    were those of a download. -/
structure Downloaded (args : Arguments) (w : World) (all : List SharedConstBuffer) (s : State) :
    Prop where
  received : w.recvFile = true
  sent : s.sent = args.requests.flatMap buildReq
  codes : ∃ done bs, all = done ++ bs ∧ done.map (·.code) = downloadCodes

/-- The program returns, or `E`. -/
abbrev Comes (E : Prop) {α : Type} (P : State → Prop) (x : Deferred α) (Q : α → State → Prop) : Prop :=
  Triple P x Q fun _ => E

section

variable {E : Prop} {args : Arguments} {w : World} {s : State} {wait : Wait} {waits : List Wait}
  {code : RetCode} {codes : List RetCode} {asked : List FtpRequest} {resp : Option FtpResponse}
  {α : Type} {P : State → Prop} {all : List SharedConstBuffer} {k : Talk} {size : Int → Prop}

theorem Listening.asks (h : Listening all k s) : s.controlSocket ≠ .closed := by
  rw [h.connected]
  decide

/-- No answer, from a socket that can be asked. -/
theorem Heard.nothing (h : s.controlSocket ≠ .closed) : Heard all k none s :=
  ⟨h, fun hn => absurd hn Bool.false_ne_true⟩

theorem localEndpoint_comes (h : ∀ s, P s → s.controlSocket ≠ .closed) :
    Comes E P localEndpoint fun _ => P := by
  unfold localEndpoint
  refine .get_bind fun s hs => .ite (fun hc => ?_) fun _ => .pure fun _ e => e ▸ hs
  exact absurd hc (h s hs)

theorem number_comes {r : Except StoError α} (h : E ∨ ∃ a, r = .ok a) :
    Comes E P (number r) fun a s => P s ∧ r = .ok a := by
  intro s hs
  cases r with
  | ok a => exact ⟨hs, rfl⟩
  | error e =>
    refine h.resolve_right ?_
    rintro ⟨a, ha⟩
    cases ha

/-- What a read takes from a stream of legible replies. -/
theorem readReply_fed {bs : List SharedConstBuffer} {p u rest : Text}
    {r : Except StoError (Option FtpResponse)} (hbs : ∀ b ∈ bs, Legible b)
    (hp : p ++ u <+: stream bs) (hr : readReply p = some (r, rest)) :
    ∃ b bs', bs = b :: bs' ∧ r = .ok (some b.response) ∧ rest ++ u <+: stream bs' := by
  have noLine : lineEnd p ≠ none := by
    intro hl
    unfold readReply at hr
    rw [hl] at hr
    cases hr
  have hp' : p <+: stream bs := (List.prefix_append p u).trans hp
  cases bs with
  | nil =>
    rw [List.prefix_nil.mp hp'] at noLine
    exact absurd rfl noLine
  | cons b bs =>
    have hb := hbs b List.mem_cons_self
    rcases first_reply hb hp' with hl | ⟨q, rfl, hq⟩
    · exact absurd hl noLine
    · rw [readReply_whole hb] at hr
      cases hr
      rw [stream_cons, List.append_assoc, List.prefix_append_right_inj] at hp
      exact ⟨b, bs, rfl, rfl, hp⟩

/-- **A wait.** -/
theorem read_heard (hl : ∀ b ∈ all, Legible b) :
    Comes E (Listening all ⟨codes, asked, wait :: waits, size⟩) (getReadWithTimeoutOp wait)
      (Heard all ⟨codes, asked, waits, size⟩) := by
  have silent : ∀ {s : State} (bytes : Text), s.controlSocket ≠ .closed → Comes E (· = s) (do
      modify fun s => { s with buf := s.buf ++ bytes }; localEndpoint; return none)
      (Heard all ⟨codes, asked, waits, size⟩) := fun bytes hs =>
    .modify_bind (M := fun s => s.controlSocket ≠ .closed) (fun _ e => e ▸ hs)
      (.bind (localEndpoint_comes fun _ h => h) fun _ => .pure fun _ h => .nothing h)
  unfold getReadWithTimeoutOp
  refine .get_bind fun s hs => .ite (fun hc => absurd hs.connected hc) fun _ => ?_
  cases wait with
  | timeout bytes => exact silent bytes hs.asks
  | arrives bytes =>
    obtain ⟨done, bs, rfl, hcodes, hfed⟩ := hs.fed
    have hcodes : done.map (·.code) = codes := hcodes
    have hp : s.buf ++ bytes ++ arriving waits <+: stream bs := by
      rw [List.append_assoc]
      exact hfed
    dsimp only
    cases hr : readReply (s.buf ++ bytes) with
    | none => exact silent bytes hs.asks
    | some x =>
      obtain ⟨r, rest⟩ := x
      obtain ⟨b, bs', rfl, rfl, hrest⟩ :=
        readReply_fed (fun b hb => hl b (List.mem_append_right done hb)) hp hr
      have hmem : b ∈ done ++ b :: bs' := List.mem_append_right done List.mem_cons_self
      refine .modify_bind
        (M := Listening (done ++ b :: bs') ⟨codes ++ [b.code], asked, waits, size⟩) (fun _ e => ?_) ?_
      · subst e
        have hread : (done ++ [b]).map (·.code) = codes ++ [b.code] := by
          rw [List.map_append, hcodes]
          rfl
        exact ⟨hs.connected, hs.sent, ⟨done ++ [b], bs', by simp, hread, hrest⟩, hs.size⟩
      · intro s hl
        exact ⟨hl.asks, fun _ => ⟨b, hmem, rfl, hl⟩⟩

theorem call_heard {req : FtpRequest} (hl : ∀ b ∈ all, Legible b) :
    Comes E (Listening all ⟨codes, asked, wait :: waits, size⟩) (asyncCall req wait)
      (Heard all ⟨codes, asked ++ [req], waits, size⟩) := by
  unfold asyncCall
  refine .modify_bind (M := Listening all ⟨codes, asked ++ [req], wait :: waits, size⟩)
    (fun s h => ⟨h.connected, ?_, h.fed, h.size⟩) (read_heard hl)
  show s.sent ++ buildReq req = _
  rw [h.sent, List.flatMap_append, List.flatMap_singleton]

/-- The answer that a continuation looks for. -/
theorem Heard.coded (h : Heard all ⟨codes, asked, waits, size⟩ resp s) (hc : hasCode code resp = true) :
    Listening all ⟨codes ++ [code], asked, waits, size⟩ s ∧
      ∃ b ∈ all, b.code = code ∧ message resp = b.message := by
  cases resp with
  | none => cases hc
  | some r =>
    obtain ⟨b, hb, e, hl⟩ := h.answered rfl
    cases Option.some.inj e
    have hn : (b.code.toNat : Int) = code.toNat := by
      unfold hasCode SharedConstBuffer.response at hc
      simpa using hc
    obtain rfl := RetCode.toNat_inj (Int.ofNat.inj hn)
    exact ⟨hl, b, hb, rfl, rfl⟩

theorem Heard.goes (h : Heard all ⟨codes, asked, waits, size⟩ resp s) :
    Goes all ⟨codes ++ [code], asked, waits, size⟩ (hasCode code resp) s :=
  ⟨h.asks, fun hc => (h.coded hc).1⟩

theorem Goes.stops (h : s.controlSocket ≠ .closed) : Goes all k false s :=
  ⟨h, fun hc => absurd hc Bool.false_ne_true⟩

/-- **A continuation that makes a request** where the chain goes on. -/
theorem next_heard {req : FtpRequest} {goesOn : Bool} (hl : ∀ b ∈ all, Legible b) :
    Comes E (Goes all ⟨codes, asked, wait :: waits, size⟩ goesOn)
      (deferredWhen goesOn (asyncCall req wait) (return none))
      (Heard all ⟨codes, asked ++ [req], waits, size⟩) := by
  unfold deferredWhen
  refine .ite (fun hc => ?_) fun _ => .pure fun s hs => .nothing hs.1
  exact (call_heard hl).pre fun s hs => hs.2 hc

theorem answer_heard {req : FtpRequest} (hl : ∀ b ∈ all, Legible b) :
    Comes E (Heard all ⟨codes, asked, wait :: waits, size⟩ resp)
      (deferredWhen (hasCode code resp) (asyncCall req wait) (return none))
      (Heard all ⟨codes ++ [code], asked ++ [req], waits, size⟩) :=
  (next_heard hl).pre fun _ hs => hs.goes

/-! ## 3. The chain -/

theorem init_comes (hl : ∀ b ∈ all, Legible b) (hr : w.resolve = true) (hc : w.connect ≠ .closed)
    (hfed : arriving (w.welcome :: waits) <+: stream all) :
    Comes E (· = ({} : State)) (asyncInit w) (Goes all ⟨[.welcome], [], waits, fun _ => True⟩) := by
  have asks : ∀ {s : State}, s.controlSocket = w.connect → s.controlSocket ≠ .closed :=
    fun hs => hs ▸ hc
  have unheard : ∀ {s : State}, s.controlSocket = w.connect → w.connect ≠ .connected →
      Comes E (· = s) (getReadWithTimeoutOp w.welcome) (Heard all ⟨[], [], waits, fun _ => True⟩) := by
    intro s hs hn
    unfold getReadWithTimeoutOp
    refine .get_at (.ite (fun _ => ?_) fun h => absurd (not_not.mp h) (hs ▸ hn))
    exact .bind (localEndpoint_comes fun _ e => e ▸ asks hs) fun _ => .pure fun _ e =>
      .nothing (e ▸ asks hs)
  unfold asyncInit
  rw [hr, if_pos rfl]
  dsimp only
  have rest : Comes E (fun s => s.controlSocket = w.connect ∧ s.buf = [] ∧ s.sent = []) (do
      let resp ← getReadWithTimeoutOp w.welcome
      return hasCode .welcome resp) (Goes all ⟨[.welcome], [], waits, fun _ => True⟩) := by
    refine .bind (Q := Heard all ⟨[], [], waits, fun _ => True⟩) ?_ fun _ => .pure fun s hs => hs.goes
    rintro s ⟨hs, hbuf, hsent⟩
    by_cases hcon : w.connect = .connected
    · refine read_heard hl s ⟨hs.trans hcon, hsent, ⟨[], all, rfl, rfl, ?_⟩, trivial⟩
      rw [hbuf]
      exact hfed
    · exact unheard hs hcon s rfl
  refine .modify_bind (M := fun s => s.controlSocket = w.connect ∧ s.buf = [] ∧ s.sent = []) ?_
    (.ite (fun _ => ?_) fun _ => rest)
  · rintro _ rfl
    exact ⟨rfl, rfl, rfl⟩
  · exact .bind (localEndpoint_comes fun s hs => asks hs.1) fun _ => rest

/-- The size is kept, and PASV asked for. -/
theorem size_heard (hl : ∀ b ∈ all, Legible b) (hE : ∀ b ∈ all, E ∨ Proper b) :
    Comes E (Heard all ⟨codes, asked, w.pasv :: waits, size⟩ resp) (onSize w resp)
      (Heard all ⟨codes ++ [.sizeOrMdtmOk], asked ++ [⟨"pasv".toList, []⟩], waits, Announced all⟩) := by
  unfold onSize
  dsimp only
  refine .ite (fun hc s hs => ?_) fun hn => ?_
  · obtain ⟨hlisten, b, hb, hcode, hm⟩ := hs.coded hc
    rw [hm]
    refine Triple.bind (number_comes ((hE b hb).imp_right fun hp => hp.size hcode))
      (fun n => ?_) s hlisten
    refine .modify_bind (M := Goes all
      ⟨codes ++ [.sizeOrMdtmOk], asked, w.pasv :: waits, Announced all⟩ (hasCode .sizeOrMdtmOk resp))
      ?_ (next_heard hl)
    rintro s ⟨h, hn⟩
    exact ⟨h.asks, fun _ => ⟨h.connected, h.sent, h.fed, b, hb, hcode, hn⟩⟩
  · unfold deferredWhen
    rw [if_neg hn]
    exact .pure fun s hs => .nothing hs.asks

/-- A client that has a data connection goes on. -/
theorem pasv_heard (hE : ∀ b ∈ all, E ∨ Proper b) :
    Comes E (Heard all ⟨codes, asked, waits, size⟩ resp) (onPasv w resp) fun port =>
      Goes all ⟨codes ++ [.pasvOk], asked, waits, size⟩ port.isSome := by
  have without : Comes E (fun s => s.controlSocket ≠ .closed) (return none)
      fun port : Option UInt16 => Goes all ⟨codes ++ [.pasvOk], asked, waits, size⟩ port.isSome :=
    .pure fun s hs => .stops hs
  have connected : ∀ port, Comes E (Listening all ⟨codes ++ [.pasvOk], asked, waits, size⟩)
      (asyncEstablishDataConnection w port) fun port =>
        Goes all ⟨codes ++ [.pasvOk], asked, waits, size⟩ port.isSome := by
    intro port
    unfold asyncEstablishDataConnection
    exact .pure fun s hs => ⟨hs.asks, fun _ => hs⟩
  unfold onPasv
  refine .ite (fun hc s hs => ?_) fun _ => without.pre fun s hs => hs.asks
  obtain ⟨hl, b, hb, hcode, hm⟩ := hs.coded hc
  rw [hm]
  refine Triple.bind (number_comes ((hE b hb).imp_right fun hp => hp.address hcode))
    (fun found => ?_) s hl
  cases found with
  | none => exact Triple.pre without fun _ h => h.1.asks
  | some et => exact Triple.pre (connected et.2) fun _ h => h.1

theorem retr_heard {port : Option UInt16} (hl : ∀ b ∈ all, Legible b) :
    Comes E (Goes all ⟨codes, asked, w.retr :: waits, size⟩ port.isSome)
      (onDataConnection args w port)
      (Heard all ⟨codes, asked ++ [⟨"retr".toList, args.file⟩], waits, size⟩) := by
  unfold onDataConnection
  refine (next_heard hl).pre fun s hs => ⟨hs.1, fun hc => hs.2 ?_⟩
  cases port with
  | none => cases hc
  | some p => rfl

/-- **The hook** divides by a size that was announced. -/
theorem updateHook_comes
    (hz : args.dummy = false → E ∨ ¬ Announced all 0) (hs : Announced all s.fileSize) :
    Comes E (· = s) (updateHook args) fun _ => (· = s) := by
  unfold updateHook
  refine .ite (fun hd => .get_at (.ite (fun h0 => .throw ?_) fun _ => .pure fun _ e => e))
    fun _ => .pure fun _ e => e
  exact (hz hd).resolve_right fun h => h (h0 ▸ hs)

/-- What is received where the reply to RETR allows it. -/
theorem doRecvFile_comes (hz : E ∨ HookReturns args w all) (hs : Announced all s.fileSize) :
    Comes E (· = s) (doRecvFile w (updateHook args)) fun ret s' => s' = s ∧ ret = w.recvFile := by
  unfold doRecvFile
  refine .ite (fun hp => ?_) fun _ => .pure fun _ e => ⟨e, rfl⟩
  exact .bind (updateHook_comes (fun hd => hz.imp_right fun h => h hp hd) hs) fun _ =>
    .pure fun _ e => ⟨e, rfl⟩

/-- The local file is opened, and the file received. -/
theorem received_goes (hz : E ∨ HookReturns args w all) :
    Comes E (Heard all ⟨codes, asked, waits, Announced all⟩ resp) (onRetr args w resp)
      fun recvRet s => Goes all ⟨codes ++ [.dataConn], asked, waits, Announced all⟩ recvRet s ∧
        (recvRet = true → w.recvFile = true) := by
  unfold onRetr
  refine .bind (Q := fun recv s => Heard all ⟨codes, asked, waits, Announced all⟩ resp s ∧
    (recv = doRecvFile w (updateHook args) ∨ recv = (return false))) ?_ fun recv => ?_
  · have rest : ∀ cond, Comes E (Heard all ⟨codes, asked, waits, Announced all⟩ resp) (do
        localEndpoint
        return deferredWhen cond (doRecvFile w (updateHook args)) (return false) :
          Deferred (Deferred Bool))
        fun recv s => Heard all ⟨codes, asked, waits, Announced all⟩ resp s ∧
          (recv = doRecvFile w (updateHook args) ∨ recv = (return false)) := fun cond =>
      .bind (localEndpoint_comes fun _ h => h.asks) fun _ => .pure fun s hs => by
        cases cond with
        | true => exact ⟨hs, Or.inl rfl⟩
        | false => exact ⟨hs, Or.inr rfl⟩
    have same : ∀ s path, Heard all ⟨codes, asked, waits, Announced all⟩ resp s →
        Heard all ⟨codes, asked, waits, Announced all⟩ resp { s with opened := path :: s.opened } := by
      intro s path hs
      refine ⟨hs.asks, fun h => ?_⟩
      obtain ⟨b, hb, e, hl⟩ := hs.answered h
      exact ⟨b, hb, e, hl.connected, hl.sent, hl.fed, hl.size⟩
    unfold doRecvOp
    cases w.openFile with
    | ok fd => exact .modify_bind (fun s hs => same s _ hs) (rest _)
    | error e => exact rest false
  · rintro s ⟨hs, hrecv⟩
    have stops : Comes E (· = s) (return false) fun recvRet s =>
        Goes all ⟨codes ++ [.dataConn], asked, waits, Announced all⟩ recvRet s ∧
          (recvRet = true → w.recvFile = true) :=
      .pure fun _ e => ⟨.stops (e ▸ hs.asks), fun h => absurd h Bool.false_ne_true⟩
    refine Triple.ite (P := (· = s)) (fun hc => ?_) (fun _ => stops) s rfl
    have hl := (hs.coded hc).1
    rcases hrecv with rfl | rfl
    · refine (doRecvFile_comes hz hl.size).post ?_
      rintro ret _ ⟨rfl, rfl⟩
      exact ⟨⟨hl.asks, fun _ => hl⟩, id⟩
    · exact stops

/-- **The chain comes to its end**, as far as it can parse the replies. -/
theorem session_comes (hl : ∀ b ∈ all, Legible b) (hE : ∀ b ∈ all, E ∨ Proper b)
    (hz : E ∨ HookReturns args w all) (hr : w.resolve = true) (hc : w.connect ≠ .closed) (hw : arriving w.waits <+: stream all) :
    Comes E (· = ({} : State)) (asyncSession args w) fun ret s =>
      ret = true → Downloaded args w all s := by
  unfold asyncSession requestFile onInit onUser onPass
  refine .bind (.bind (init_comes hl hr hc hw) fun _ => .bind (next_heard hl) fun _ =>
    .bind (answer_heard hl) fun _ => .bind (answer_heard hl) fun _ =>
      .bind (size_heard hl hE) fun _ => .bind (pasv_heard hE) fun _ => retr_heard hl) fun _ =>
        .bind (received_goes hz) fun recvRet => ?_
  refine .bind (Q := fun resp s =>
    Heard all ⟨downloadCodes.dropLast, args.requests, [], Announced all⟩ resp s ∧
      (resp.isSome = true → w.recvFile = true)) ?_ fun resp => ?_
  · unfold onReceived deferredWhen
    refine .ite (fun h => ?_) fun _ => .pure fun s hs => ⟨.nothing hs.1.1, nofun⟩
    intro s hs
    have hrecv : w.recvFile = true := hs.2 h
    exact Triple.post (read_heard hl) (fun _ _ hh => ⟨hh, fun _ => hrecv⟩) s (hs.1.2 h)
  · unfold onComplete deferredWhen
    refine .ite (fun hc => .pure fun s hs _ => ?_) fun _ => .pure fun _ _ h =>
      absurd h Bool.false_ne_true
    obtain ⟨hlisten, -⟩ := hs.1.coded hc
    obtain ⟨done, bs, hall, hcodes, -⟩ := hlisten.fed
    refine ⟨hs.2 ?_, hlisten.sent, done, bs, hall, hcodes⟩
    cases resp with
    | none => cases hc
    | some r => rfl

end

/-! ## 4. The chain and a session of the server -/

section

variable {cfg : Config} {home : Path} {c₀ : UInt32} {now : Int} {s : St}

theorem proper_reach (hb : lineEnd cfg.ftpdBanner = none) (hh : lineEnd home = none)
    (h : Reach (OrangeFtpd.step cfg) (fun _ e => e.Clean ∧ e.Tells IsDotted FitsLong)
      (St.init cfg home c₀ now) s) : ∀ b ∈ welcome cfg :: s.replies, Proper b := by
  intro b hm
  refine Worded.proper ?_ (legible_reach hb hh (h.mono fun _ _ he => he.1) b hm)
  rcases List.mem_cons.mp hm with rfl | hm
  · exact Or.inl (.info .welcome _ (by decide))
  · obtain ⟨o, ho, hr⟩ := List.mem_filterMap.mp hm
    cases o with
    | reply id b' =>
      cases hr
      exact wording_reach (h.mono fun _ _ he => he.2) id b (List.mem_reverse.mp ho)
    | _ => cases hr

end

/-- The event, at a server that is reached at 127.0.0.1. -/
def here : Ev → Ev
  | .run i os => .run i { os with localAddress := dotted 127 0 0 1 }
  | e => e

/-- The client logs in, asks for a size and for a port, and downloads five bytes. -/
def visit : List Ev :=
  [.complete 0 .ok, .run 0 {}, .clientSend (aFile.requests.flatMap buildReq), .run 0 {}, .run 2 {},
    .run 2 (regularFile 1 5), .run 2 { bind := some 1025 }, .run 2 (regularFile 1 5),
    .complete 1 .ok, .run 1 {},
    .complete 3 .ok, .run 3 {}, .complete 3 .ok, .run 3 {}, .complete 3 .ok, .run 3 {},
    .complete 1 (.conn 0), .run 1 {}, .complete 2 .ok, .run 2 {}, .complete 2 .ok,
    .run 2 { sendfile := .sent 5 }]

/-- The client of that session; the reply to PASV comes in two pieces. -/
def visitor : World :=
  { resolve := true, connect := .connected, welcome := line "220 welcom to ftpd",
    user := line "331 Password required.", pass := line "230 Logged on.",
    size := .arrives "213 5\r\n227 Enter".toList,
    pasv := line "ing Passive Mode. (127,0,0,1,4,1)", dataConnect := true,
    retr := line "150 Data connection accepted; transfer starting.", openFile := .ok (3, 1),
    pipe := none, progress := true, recvFile := true, complete := line "226 Transfer complete." }

theorem here_plain : ∀ e ∈ visit.map here, e.Clean ∧ e.Tells IsDotted FitsLong := by
  have clean : ∀ e ∈ visit.map here, e.Clean := by decide +kernel
  have sizes : ∀ e ∈ visit.map here, (match e with
      | .run _ os => (fsFileSize (os.stat 2)).toOption.all fun n => decide (n.toNat < 2 ^ 63)
      | _ => true) = true := by
    decide +kernel
  intro e he
  refine ⟨clean e he, ?_⟩
  have hs := sizes e he
  obtain ⟨e', -, rfl⟩ := List.mem_map.mp he
  cases e' with
  | run i os =>
    refine ⟨⟨127, 0, 0, 1, rfl⟩, fun n hn => ?_⟩
    have h : decide (n.toNat < 2 ^ 63) = true := (Option.all_eq_true _ _).mp hs n hn
    have hlt : n.toNat < 2 ^ 63 := of_decide_eq_true h
    exact hlt
  | _ => trivial

/-- A file that was empty when its size was asked for, and has bytes when it is sent. -/
example : asyncSession aFile { visitor with size := .arrives "213 0\r\n227 Enter".toList } {} =
    .error .divisionByZero := rfl

end Client

end OrangeFtpd
