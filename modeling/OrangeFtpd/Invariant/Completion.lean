/-
  File:      OrangeFtpd/Invariant/Completion.lean
  Subject:   What a 226 says of the transfer.

  A RETR decides by its offset that it is complete, a STOR by an empty receive buffer,
  a LIST does not decide at all. So the 226 of a RETR is true, that of a STOR where the
  peer ended its stream orderly, and that of a LIST where its write had no error.

  * `Truthful`: what the 226 of a transfer says.
  * `upload_conserved`: a STOR at any time of its transfer.
  * `truthful_226`, `completions_truthful`: one 226 is true, and each of a run is, in the runs
    that meet `keepsTruth`.
-/
import OrangeFtpd.Op.ListFormat
import OrangeFtpd.Invariant.Receiving
import OrangeFtpd.Invariant.Sending

namespace OrangeFtpd

/-! ## 1. What a 226 says -/

/-- A piece that `sendfile` passed for the request `id` on the connection `c`. -/
def Obs.sentOn? (id : Nat) (c : ConnId) : Obs → Option Span
  | .payload i c' (.sent offset n) => if i = id ∧ c' = c then some ⟨offset, n⟩ else none
  | _ => none

/-- The pieces that the data socket `c` accepted for the request `id`, newest first. -/
def sentOn (id : Nat) (c : ConnId) (log : List Obs) : List Span := log.filterMap (Obs.sentOn? id c)

/-- **The operation of the request `id` uses its own data connection** `c`: its accept stored it,
    and it touched no other. -/
structure OwnConnection (id : Nat) (c : ConnId) (before : List Obs) : Prop where
  stored : .stored id c ∈ before
  only : ∀ slot, .touch id slot ∈ before → slot = some c

/-- The entry is no touch for the request `id`, or one of the connection `c`. -/
def Obs.keepsTo (id : Nat) (c : ConnId) : Obs → Bool
  | .touch i slot => i != id || slot == some c
  | _ => true

instance {id : Nat} {c : ConnId} {before : List Obs} : Decidable (OwnConnection id c before) :=
  decidable_of_iff (.stored id c ∈ before ∧ ∀ o ∈ before, o.keepsTo id c = true) <| by
    constructor
    · rintro ⟨h1, h2⟩
      exact ⟨h1, fun slot hm => by simpa [Obs.keepsTo] using h2 _ hm⟩
    · rintro ⟨h1, h2⟩
      refine ⟨h1, fun o ho => ?_⟩
      cases o with
      | touch i slot =>
        by_cases hi : i = id
        · simp [Obs.keepsTo, h2 slot (hi ▸ ho)]
        · simp [Obs.keepsTo, hi]
      | _ => rfl

/-- **What the 226 of the transfer `op` says**, `before` being what was logged before it. -/
def Truthful (op : Op) (c : ConnId) (before : List Obs) : Prop :=
  match op.kind with
  -- the data socket accepted `file_size_` bytes, and they are the file
  | .sendFile => Span.total (sentOn op.id c before) = op.fileSize ∧
      ∀ content : Bytes, Span.gather content (sentOn op.id c before) = content.take op.fileSize
  -- the peer shut its side down, and the file is what it sent
  | .recvFile => .peerShutdown c ∈ before ∧ fileContent op.file before = peerStream c before
  -- the listing was written without error
  | .list => (∃ text, .payload op.id c (.listing text) ∈ before) ∧ .listed op.id c true ∈ before
  | _ => False

/-- Every 226 says the truth, where its transfer uses its own data connection. -/
def SaysTruth (before : List Obs) (o : Obs) : Prop :=
  ∀ op c, o = .complete op → OwnConnection op.id c before → Truthful op c before

/-- The peer of the connection `c` ended its stream orderly: no reset destroyed bytes that were
    still to be read. -/
def EndedOrderly (s : St) (c : ConnId) : Prop :=
  .peerShutdown c ∈ s.log ∧ (peerOf c s = .reset → readFrom c s.log = peerStream c s.log)

/-- What was read from a connection, for which requests. -/
def Obs.reader? (c : ConnId) : Obs → Option Nat
  | .payload i c' (.received _) => if c' = c then some i else none
  | _ => none

/-- **The runs in which completion is what it looks like**: where a STOR finds nothing to read, its
    peer has ended its stream and nobody else has read from it; listings are written; no two
    uploads share a file. -/
def keepsTruth (s : St) (os : Os) (t : Task) (r : Result) : Prop :=
  uploadsApart s os t r ∧
    match t with
    | .dataWait op _ => op.kind = .recvFile → r = .ok → ∀ d ∈ s.dataSocket, inboxIn s.conns d.conn = [] →
        EndedOrderly s d.conn ∧ ∀ i ∈ s.log.filterMap (Obs.reader? d.conn), i = op.id
    | .listWrite _ _ => r = .ok
    | _ => True

instance {s : St} {c : ConnId} : Decidable (EndedOrderly s c) := inferInstanceAs (Decidable (_ ∧ _))

instance {s : St} {os : Os} {r : Result} : ∀ {t : Task}, Decidable (keepsTruth s os t r)
  | .dataWait op _ => inferInstanceAs (Decidable (_ ∧ (op.kind = .recvFile → r = .ok →
      ∀ d ∈ s.dataSocket, inboxIn s.conns d.conn = [] →
        EndedOrderly s d.conn ∧ ∀ i ∈ s.log.filterMap (Obs.reader? d.conn), i = op.id)))
  | .listWrite _ _ => inferInstanceAs (Decidable (_ ∧ r = .ok))
  | .banner | .read | .idleWait | .keepAlive | .ctlWrite | .accept _ | .limiter _ =>
    inferInstanceAs (Decidable (_ ∧ True))

section

variable {cfg : Config} {os : Os} {id n i : Nat} {s s₁ s₂ s' : St} {op op' : Op} {e : Ev} {t : Task}
  {r : Result} {o : Obs} {c : ConnId} {d : DataSocket} {k k' : List Conn} {m : Message}
  {new old log before : List Obs} {handed : Option (Phase × Op)} {kind : OpKind} {x : Phase × Op}
  {c₀ : UInt32} {home : Path} {now : Int} {p : Payload}

/-! ## 2. Payload goes where the data socket was touched -/

/-- What is passed on a connection was preceded by a touch of it. -/
def Touched (s : St) : Prop := ∀ id c p, .payload id c p ∈ s.acts → .touch id (some c) ∈ s.acts

theorem Turn.touched (h : Turn cfg os s op t r new handed k) (hm : .payload id c p ∈ new) :
    .touch id (some c) ∈ new := by
  have done : ∀ {q : Op}, .payload id c p ∉ completionActs q := by
    intro q hq
    unfold completionActs at hq
    split at hq
    · exact (List.mem_pair.mp hq).elim nofun nofun
    · cases hq
  have spliced : ∀ {d : DataSocket} {k k' : List Conn} {op' : Op} {mid : List Obs},
      Splices d k op mid k' op' → .payload id c p ∈ mid → id = op.id ∧ c = d.conn := by
    intro d k k' op' mid hl hm
    rcases hl.act hm with ⟨bytes, h1⟩ | ⟨offset, bytes, h1⟩
    · cases h1
      exact ⟨rfl, rfl⟩
    · cases h1
  have sent : ∀ {d : DataSocket} {n : Nat}, .payload id c p ∈ [Obs.payload op.id d.conn
      (.sent op.fileOffset n), .touch op.id (some d.conn)] → id = op.id ∧ c = d.conn := by
    intro d n hm
    cases (List.mem_pair.mp hm).resolve_right nofun
    exact ⟨rfl, rfl⟩
  cases h with
  | sentPart op' t d n last ht hd hn hop hl hlast =>
    have hlast' : .payload id c p ∉ last := by rcases hlast with rfl | rfl <;> simp
    obtain ⟨rfl, rfl⟩ := sent ((List.mem_append.mp hm).resolve_left hlast')
    simp
  | sentAll op' t d n ht hd hn hop hl =>
    obtain ⟨rfl, rfl⟩ := sent ((List.mem_append.mp hm).resolve_left fun h1 =>
      done ((List.mem_cons.mp h1).resolve_left nofun))
    simp
  | receivedAll c' d hk hd hi =>
    rcases List.mem_append.mp hm with h1 | h1
    · exact absurd ((List.mem_cons.mp h1).resolve_left nofun) done
    · cases List.mem_singleton.mp h1
  | receiveFailed op' c' d mid k hk hd hf hl =>
    have h1 : .payload id c p ∈ mid := by simpa using hm
    obtain ⟨rfl, rfl⟩ := spliced hl h1
    simp
  | receiveAgain op' c' d mid k hk hd hl =>
    have h1 : .payload id c p ∈ mid := by simpa using hm
    obtain ⟨rfl, rfl⟩ := spliced hl h1
    simp
  | _ => simp at hm

theorem Touched.step (h : Touched s) (ho : Ops c₀ [] s) (hs : OrangeFtpd.step cfg s e = .ok s') :
    Touched s' := by
  have add : ∀ {new : List Obs} {handed : Option (Phase × Op)} {k : List Conn},
      Entered s s' new handed k →
      (∀ id c p, .payload id c p ∈ new → .touch id (some c) ∈ new) → Touched s' := by
    intro new handed k he hnew id c p hm
    rw [he.acts] at hm ⊢
    exact (List.mem_append.mp hm).elim (fun h1 => List.mem_append_left _ (hnew id c p h1))
      fun h1 => List.mem_append_right _ (h id c p h1)
  cases booked_step (step_cases hs) ho with
  | same _ _ he hn => exact add he (by simp)
  | connect i c' _ he hn => exact add he (by simp)
  | peer _ _ o k hp he hn => exact add he (by cases hp <;> simp)
  | token i os _ tok d new hi ht hd hnew he hn =>
    refine add he ?_
    rcases hnew with rfl | ⟨response, rfl⟩
    · simp
    · intro id c p hm
      cases (List.mem_pair.mp hm).resolve_right nofun
      simp
  | refused i os _ req b hr hv hc hb he hn => exact add he (by simp)
  | dropped i os _ r hi hr he hgone hn => exact add he (by simp)
  | launched i os _ req kind s₁ new handed hr hk hs₁ hl he hn =>
    refine add he fun id c p hm => ?_
    rcases List.mem_append.mp hm with h1 | h1
    · rcases hl.cases h1 with h2 | ⟨b, h2⟩ | h2 | ⟨file, path, created, h2⟩ <;> cases h2
    · cases List.mem_singleton.mp h1
  | turned i os _ t r ph op new handed k hi hp hT he hgone hn =>
    exact add he fun id c p hm => hT.touched hm

theorem touched_reach {ok : St → Ev → Prop}
    (h : Reach (OrangeFtpd.step cfg) ok (St.init cfg home c₀ now) s) : Touched s :=
  h.invariant_of (fun _ => ops_reach) nofun fun _ _ _ ho hI _ hs => hI.step ho hs

/-- On its own connection. -/
theorem OwnConnection.payload (h : OwnConnection id c log)
    (ht : ∀ c' p, .payload id c' p ∈ log → .touch id (some c') ∈ log) {c' : ConnId}
    (hm : .payload id c' p ∈ log) : c' = c :=
  Option.some.inj (h.only _ (ht c' p hm))

/-! ## 3. The write of a listing -/

/-- A handler of a listing's write was there before. -/
def NoNewListing (s s' : St) : Prop :=
  ∀ op c, .listWrite op c ∈ s'.handlers.tasks → .listWrite op c ∈ s.handlers.tasks

namespace NoNewListing

theorem of_eq (h : s'.handlers.tasks = s.handlers.tasks) : NoNewListing s s' :=
  fun _ _ hm => h ▸ hm

theorem trans (h : NoNewListing s s₁) (h' : NoNewListing s₁ s₂) : NoNewListing s s₂ :=
  fun op c hm => h op c (h' op c hm)

theorem started (q : Option Result) (ht : ∀ op c, t ≠ .listWrite op c) :
    NoNewListing s (s.startWith t q) := by
  intro op c hm
  rw [St.tasks_startWith] at hm
  exact (List.mem_append.mp hm).resolve_right fun h1 => ht op c (List.mem_singleton.mp h1).symm

theorem push : NoNewListing s (s.pushMessage id m) := by
  intro op c hm
  rw [St.tasks_pushMessage] at hm
  refine (List.mem_append.mp hm).resolve_right fun h1 => ?_
  split at h1
  · cases List.mem_singleton.mp h1
  · cases h1

theorem take (i : Nat) : NoNewListing s (s.takeHandler i) := by
  intro op c hm
  obtain ⟨g, hg, he⟩ := Pool.mem_tasks.mp hm
  exact he ▸ Pool.mem_tasks_of (Pool.mem_of_eraseIdx hg)

theorem destroyOp : NoNewListing s (s.destroyOp cfg op) := of_eq St.tasks_destroyOp

theorem storeConn (op : Op) (c : ConnId) : NoNewListing s (s.storeConn op c) :=
  of_eq (by simp [St.storeConn])

theorem waitData : NoNewListing s (s.waitData op d) :=
  (of_eq rfl : NoNewListing s (s.touchSlot op d)).trans (started _ nofun)

theorem runCompletion : NoNewListing s (s.runCompletion op) := by
  unfold St.runCompletion
  split
  · exact (push : NoNewListing (s.emit (.complete op)) _).trans (of_eq St.tasks_clearDataSocket)
  · exact of_eq rfl

theorem writeNext {q : List Message} : NoNewListing s (s.writeNext cfg q) := by
  cases q with
  | nil => exact of_eq (St.tasks_restartIdleTimer (s := s.withQueue []))
  | cons m q => exact (of_eq rfl : NoNewListing s (s.withQueue (m :: q))).trans (started _ nofun)

end NoNewListing

theorem Spliced.noListing (h : Spliced d s op s' op') : NoNewListing s s' := by
  induction h with
  | stop s op => exact .of_eq rfl
  | turn s s' op op' n bytes hb h ih => exact .trans (.of_eq rfl) ih

/-- Handlers of operations start no write of a listing. -/
theorem OpHandled.noListing (h : OpHandled cfg os op t r s s') : NoNewListing s s' := by
  have touched : ∀ {d : DataSocket} {o : Obs}, NoNewListing s ((s.touchSlot op d).emit o) :=
    .of_eq rfl
  cases h with
  | acceptAborted _ ha => exact .destroyOp
  | acceptFailed _ _ hr hr' =>
    exact (NoNewListing.of_eq St.tasks_closeAcceptor).trans .destroyOp
  | accepted c _ tok htok => exact (NoNewListing.storeConn op c).trans .push
  | listAccepted c _ response hl hk hk' =>
    have h1 : NoNewListing s ((s.storeConn op c).emit (.target op.id s.currentPath)) :=
      (NoNewListing.storeConn op c).trans (.of_eq rfl)
    exact h1.trans .push
  | waitFailed _ _ _ hr hw => exact .destroyOp
  | sendFailed _ _ d hw hd ho hf =>
    exact (NoNewListing.of_eq rfl : NoNewListing s (s.touchSlot op d)).trans .destroyOp
  | sendAgain _ _ d hw hd ho =>
    exact (NoNewListing.of_eq rfl : NoNewListing s (s.touchSlot op d)).trans .waitData
  | sentMore op' _ _ d n hw hd ho hn hop hl => exact touched.trans .waitData
  | sentSlice op' _ _ d n hw hd ho hn hop hl => exact touched.trans (.started none nofun)
  | sentAll op' _ _ d n hw hd ho hn hop hl =>
    exact (touched.trans .runCompletion).trans .destroyOp
  | receivedAll c _ d hk hd ho hi =>
    have h1 : NoNewListing s (s.touchSlot op d) := .of_eq rfl
    exact (h1.trans .runCompletion).trans .destroyOp
  | receiveFailed op' c _ s₁ d hk hd ho hf hl =>
    exact ((NoNewListing.of_eq rfl : NoNewListing s (s.touchSlot op d)).trans hl.noListing).trans
      .destroyOp
  | receiveAgain op' c _ s₁ d hk hd ho hl =>
    exact ((NoNewListing.of_eq rfl : NoNewListing s (s.touchSlot op d)).trans hl.noListing).trans
      .waitData
  | listed c _ _ =>
    have h1 : NoNewListing s ((s.emit (.listed op.id c (r == .ok))).emit (.complete op)) := .of_eq rfl
    exact ((h1.trans .push).trans (.of_eq St.tasks_clearDataSocket)).trans .destroyOp

theorem Prelude.noListing (h : Prelude cfg id s.basicOp s₁) : NoNewListing s s₁ := by
  refine .of_eq ?_
  rcases h.handlers with e | e
  · rw [e]
    rfl
  · rw [e, Pool.tasks_cancel]
    rfl

theorem Uploaded.noListing (h : Uploaded os id s op s₂) : NoNewListing s s₂ := by
  obtain ⟨p, path, created, rfl⟩ := h.state
  have h0 : NoNewListing s ((s.basicOp.emit (.target id p)).emit
      (.fs id (.opened op.file path created))) := .of_eq rfl
  dsimp only
  split
  · exact h0
  · exact h0.trans .push

theorem Line.noListing (h : Line cfg os n s s') : NoNewListing s s' := by
  have rearm : ∀ {s : St}, NoNewListing s (s.rearmIdle cfg) := by
    intro s
    unfold St.rearmIdle
    split
    · exact .of_eq rfl
    · exact .of_eq St.tasks_updateIdleTimer
  cases h with
  | blank hb => exact .trans (.of_eq rfl) rearm
  | refused req b hb hv hc hf =>
    have h1 : NoNewListing s (s.takeLine n req).newRequest := .of_eq rfl
    have h2 : NoNewListing s ((s.takeLine n req).newRequest.pushMessage s.nextId ⟨b, none⟩) :=
      h1.trans .push
    have h3 : NoNewListing s (((s.takeLine n req).newRequest.pushMessage s.nextId ⟨b, none⟩).emit
        (.over s.nextId)) := h2.trans (.of_eq rfl)
    exact h3.trans rearm
  | began req kind _ hb hk h1 =>
    have h0 : NoNewListing s (s.takeLine n req).newRequest := .of_eq rfl
    refine h0.trans ?_
    cases h1 with
    | answered op s₁ b hf hp hb => exact (hp.noListing.trans .push).trans .destroyOp
    | silent op s₁ file hk hf hp ho => exact hp.noListing.trans .destroyOp
    | waiting op s₁ hk hf ht hp ha => exact hp.noListing.trans (.started none nofun)
    | uploadNull op s₂ hk hu hfd => exact hu.noListing.trans .destroyOp
    | uploadRefused op s₂ hk hu hfd ha => exact (hu.noListing.trans .push).trans .destroyOp
    | uploadWaiting op s₂ hk hu hfd ha => exact hu.noListing.trans (.started none nofun)

/-- Only the token of a LIST starts a write of a listing, and it logs the listing. -/
theorem TokenRun.listing {tok : Option Token} (h : TokenRun s tok s₁)
    (hm : .listWrite op c ∈ s₁.handlers.tasks) : .listWrite op c ∈ s.handlers.tasks ∨
      ∃ text, .payload op.id c (.listing text) ∈ s₁.log := by
  cases h with
  | none => exact Or.inl hm
  | some tok d hd =>
    cases tok with
    | doSendFile op' => exact Or.inl (NoNewListing.waitData (s := s.emit _) op c hm)
    | doRecvFile op' => exact Or.inl (NoNewListing.waitData (s := s.emit _) op c hm)
    | writeListing op' response =>
      have hm : Task.listWrite op c ∈ s.handlers.tasks ++ [.listWrite op' d.conn] :=
        St.tasks_startOn (s := ((s.emit _).touchSlot op' d).emit _) d.isOpen ▸ hm
      rcases List.mem_append.mp hm with h1 | h1
      · exact Or.inl h1
      · cases List.mem_singleton.mp h1
        exact Or.inr ⟨response, List.mem_cons_self⟩

theorem log_writeNext {q : List Message} (h : o ∈ s.log) : o ∈ (s.writeNext cfg q).log := by
  cases q with
  | nil =>
    have h1 : (s.writeNext cfg []).log = s.log := St.restartIdleTimer_log ..
    exact h1 ▸ h
  | cons m q => exact List.mem_cons_of_mem _ h

theorem SessionHandled.listing (h : SessionHandled cfg os t r s s')
    (hm : .listWrite op c ∈ s'.handlers.tasks) : .listWrite op c ∈ s.handlers.tasks ∨
      ∃ text, .payload op.id c (.listing text) ∈ s'.log := by
  have old : NoNewListing s s' → .listWrite op c ∈ s.handlers.tasks ∨
      ∃ text, .payload op.id c (.listing text) ∈ s'.log := fun hn => Or.inl (hn op c hm)
  cases h with
  | written _ s₁ m rest hq ht =>
    have h1 := NoNewListing.writeNext op c hm
    exact (ht.listing h1).imp_right fun ⟨text, h2⟩ => ⟨text, log_writeNext h2⟩
  | banner _ =>
    have h1 : NoNewListing s (s.updateIdleTimer cfg).doRead :=
      (NoNewListing.of_eq St.tasks_updateIdleTimer).trans (.started _ nofun)
    exact old (h1.trans (.started _ nofun))
  | bannerFailed _ _ hr => exact old (.of_eq rfl)
  | readEof _ h0 => exact old (.of_eq St.tasks_close)
  | readEofBusy _ h0 =>
    have h1 : NoNewListing s s.close.neverExpire :=
      .of_eq (St.tasks_neverExpire.trans St.tasks_close)
    exact old (h1.trans (.started _ nofun))
  | readFailed _ _ hr hr' => exact old (.of_eq rfl)
  | readLine _ s₂ hl =>
    have h1 : NoNewListing s s.neverExpire := .of_eq St.tasks_neverExpire
    exact old ((h1.trans hl.noListing).trans (.started _ nofun))
  | idleStoped _ _ h0 => exact old (.of_eq rfl)
  | idleAgain _ _ h0 hx => exact old (.started _ nofun)
  | idleClose _ _ h0 hx =>
    have h1 : NoNewListing s (s.emit .idleClose) := .of_eq rfl
    exact old (h1.trans (.of_eq St.tasks_close))
  | keepAlive _ _ => exact old (.of_eq rfl)
  | writeFailed _ _ hr =>
    have h1 : NoNewListing s (s.emit (.ctlDone false)) := .of_eq rfl
    exact old (h1.trans (.of_eq tasks_dropQueue))

/-- **A write of a listing** was preceded by the listing. -/
def Listing (s : St) : Prop :=
  ∀ op c, .listWrite op c ∈ s.handlers.tasks → ∃ text, .payload op.id c (.listing text) ∈ s.log

/-- The book only grows. -/
theorem step_acts (hs : OrangeFtpd.step cfg s e = .ok s') (ho : Ops c₀ [] s) : s.acts ⊆ s'.acts := by
  have add : ∀ {new : List Obs} {handed : Option (Phase × Op)} {k : List Conn},
      Entered s s' new handed k → s.acts ⊆ s'.acts := fun he =>
    he.acts ▸ List.subset_append_right _ _
  cases booked_step (step_cases hs) ho with
  | same _ _ he hn => exact add he
  | connect i c' _ he hn => exact add he
  | peer _ _ o k hp he hn => exact add he
  | token i os _ tok d new hi ht hd hnew he hn => exact add he
  | refused i os _ req b hr hv hc hb he hn => exact add he
  | dropped i os _ r hi hr he hgone hn => exact add he
  | launched i os _ req kind s₁ new handed hr hk hs₁ hl he hn => exact add he
  | turned i os _ t r ph op new handed k hi hp hT he hgone hn => exact add he

theorem Listing.step (h : Listing s) (ho : Ops c₀ [] s) (hs : OrangeFtpd.step cfg s e = .ok s') :
    Listing s' := by
  have kept : ∀ {op : Op} {c : ConnId}, (∃ text, .payload op.id c (.listing text) ∈ s.log) →
      ∃ text, .payload op.id c (.listing text) ∈ s'.log := by
    rintro op c ⟨text, h1⟩
    exact ⟨text, (mem_acts rfl).mp (step_acts hs ho ((mem_acts rfl).mpr h1))⟩
  have old : NoNewListing s s' → Listing s' := fun hn op c hm => kept (h op c (hn op c hm))
  cases step_cases hs with
  | clientSend chunk hr => exact old (.of_eq (St.tasks_receive chunk))
  | clientGone => exact old (.of_eq rfl)
  | peerSend c bytes hc hp => exact old (.of_eq rfl)
  | peerShutdown c hc hp => exact old (.of_eq rfl)
  | peerReset c hc => exact old (.of_eq rfl)
  | tick ms => exact old (.of_eq rfl)
  | complete i r t hi hc => exact old (.of_eq (St.tasks_completeAt i r))
  | run i os t r s₁ hi hh =>
    cases hh with
    | operation op hop hh =>
      have h1 : NoNewListing s s₁ := (NoNewListing.take i).trans hh.noListing
      exact old (h1.trans (.of_eq rfl))
    | session hh =>
      intro op c hm
      rcases hh.listing hm with h1 | h1
      · exact kept (h op c (NoNewListing.take i op c h1))
      · exact h1

theorem listing_reach {ok : St → Ev → Prop}
    (h : Reach (OrangeFtpd.step cfg) ok (St.init cfg home c₀ now) s) : Listing s :=
  h.invariant_of (fun _ => ops_reach) (fun op c hm => by cases List.mem_singleton.mp hm)
    fun _ _ _ ho hI _ hs => hI.step ho hs

/-! ## 4. Completion -/

/-- Of an operation on its own connection everything was sent there. -/
theorem OwnConnection.sentOn (h : OwnConnection id c log)
    (ht : ∀ c' p, .payload id c' p ∈ log → .touch id (some c') ∈ log) :
    OrangeFtpd.sentOn id c log = sentIn id log := by
  refine List.filterMap_congr fun o ho => ?_
  cases o with
  | payload i c' p =>
    cases p with
    | sent offset n =>
      by_cases hi : i = id
      · subst hi
        simp [Obs.sentOn?, Obs.sent?, h.payload ht ho]
      · simp [Obs.sentOn?, Obs.sent?, hi]
    | _ => rfl
  | _ => rfl

theorem OwnConnection.readFor (h : OwnConnection id c log)
    (ht : ∀ c' p, .payload id c' p ∈ log → .touch id (some c') ∈ log)
    (hr : ∀ i ∈ log.filterMap (Obs.reader? c), i = id) :
    OrangeFtpd.readFor id log = readFrom c log := by
  refine gathered_congr fun o ho => ?_
  cases o with
  | payload i c' p =>
    cases p with
    | received bytes =>
      by_cases hi : i = id
      · subst hi
        simp [Obs.readBy, Obs.readFrom, h.payload ht ho]
      · have hc : c' ≠ c := fun hc => hi (hr i (List.mem_filterMap.mpr ⟨_, ho, if_pos hc⟩))
        simp [Obs.readBy, Obs.readFrom, hi, hc]
    | _ => rfl
  | _ => rfl

/-- An entry that completes nothing. -/
theorem saysTruth_other (h : ∀ q, o ≠ .complete q) : SaysTruth before o :=
  fun op _ he => absurd he (h op)

theorem always_completion (hb : Always SaysTruth before)
    (ht : op'.completionToken = true → SaysTruth before (.complete op')) :
    Always SaysTruth (.over id :: completionActs op' ++ before) := by
  refine ⟨saysTruth_other nofun, ?_⟩
  show Always SaysTruth (completionActs op' ++ before)
  unfold completionActs
  split
  · next h => exact ⟨saysTruth_other nofun, ht h, hb⟩
  · exact hb

/-- The payload of `before` was preceded by touches, where it is the book with new touches. -/
theorem Touched.since (h : Touched s) (new : List Obs)
    (hn : ∀ id c p, .payload id c p ∈ new → .touch id (some c) ∈ new) :
    ∀ id c p, .payload id c p ∈ new ++ s.acts → .touch id (some c) ∈ new ++ s.acts := by
  intro id c p hm
  exact (List.mem_append.mp hm).elim (fun h1 => List.mem_append_left _ (hn id c p h1))
    fun h1 => List.mem_append_right _ (h id c p h1)

/-- **RETR.** -/
theorem truth_sent (hS : Streams s') (ht : ∀ c p, .payload op.id c p ∈ before →
      .touch op.id (some c) ∈ before) (hk : op.kind = .sendFile) (hc : op ∈ completedIn s'.acts)
    (hs : sentIn op.id s'.acts = sentIn op.id before) : SaysTruth before (.complete op) := by
  intro q c he hown
  cases he
  have hf := hS.finished op hc hk
  have htotal : Span.total (sentIn op.id before) = op.fileSize := hs ▸ hf.total
  unfold Truthful
  rw [hk]
  dsimp only
  rw [hown.sentOn ht]
  refine ⟨htotal, fun content => ?_⟩
  rw [Span.gather_eq content (hs ▸ hS.contiguous op.id), htotal]

/-- **STOR.** -/
theorem truth_received (hC : Conserved s) (hx : Receives s op) (hT : Touched s)
    (hk : op.kind = .recvFile) (hi : inboxIn s.conns d.conn = [])
    (hend : EndedOrderly s d.conn) (hr : ∀ i ∈ s.log.filterMap (Obs.reader? d.conn), i = op.id) :
    SaysTruth ([.touch op.id (some d.conn)] ++ s.acts) (.complete op) := by
  intro q c he hown
  cases he
  obtain rfl : d.conn = c := Option.some.inj (hown.only _ List.mem_cons_self)
  have htouch : ∀ o ∈ [Obs.touch op.id (some d.conn)], o.isStill = true := by simp [Obs.isStill]
  have ht := hT.since [Obs.touch op.id (some d.conn)] (by simp)
  have hreader : ∀ i ∈ ([Obs.touch op.id (some d.conn)] ++ s.acts).filterMap (Obs.reader? d.conn),
      i = op.id := by
    intro i hm
    obtain ⟨o, ho, hoi⟩ := List.mem_filterMap.mp hm
    rcases List.mem_append.mp ho with h1 | h1
    · rw [List.mem_singleton.mp h1] at hoi
      cases hoi
    · exact hr i (List.mem_filterMap.mpr ⟨o, (List.mem_filter.mp h1).1, hoi⟩)
  have hread := hown.readFor (ht op.id) hreader
  rw [readFor_append, readFor_still htouch, readFrom_append, readFrom_still htouch,
    List.append_nil, List.append_nil] at hread
  have hall : readFrom d.conn s.acts = peerStream d.conn s.acts := by
    by_cases hp : peerOf d.conn s = .reset
    · have h1 := hend.2 hp
      rwa [← readFrom_filter, ← peerStream_filter] at h1
    · have h1 := hC.whole hp
      rwa [hi, List.append_nil] at h1
  unfold Truthful
  rw [hk]
  refine ⟨List.mem_append_right _ ((mem_acts rfl).mpr hend.1), ?_⟩
  calc fileContent op.file ([.touch op.id (some d.conn)] ++ s.acts)
      = fileContent op.file s.acts := fileContent_still htouch
    _ = readFor op.id s.acts := hx.content
    _ = readFrom d.conn s.acts := hread
    _ = peerStream d.conn s.acts := hall
    _ = peerStream d.conn ([.touch op.id (some d.conn)] ++ s.acts) := by
      rw [peerStream_append, peerStream_still htouch, List.append_nil]

/-- **LIST.** -/
theorem truth_listed (hL : Listing s) (hT : Touched s) (hk : op.kind = .list)
    (hm : .listWrite op c ∈ s.handlers.tasks) :
    SaysTruth ([.listed op.id c true] ++ s.acts) (.complete op) := by
  intro q c' he hown
  cases he
  obtain ⟨text, hp⟩ := hL op c hm
  have hp : .payload op.id c (.listing text) ∈ [.listed op.id c true] ++ s.acts :=
    List.mem_append_right _ ((mem_acts rfl).mpr hp)
  obtain rfl := hown.payload (hT.since [.listed op.id c true] (by simp) op.id) hp
  unfold Truthful
  rw [hk]
  exact ⟨⟨text, hp⟩, List.mem_cons_self⟩

/-- **A step that keeps the condition** queues no 226 that lies. -/
theorem truth_step (h : Always SaysTruth s.acts) (ho : Ops c₀ [] s) (hA : s.Armed) (hT : Touched s)
    (hL : Listing s) (hC : Conserved s) (hR : Receiving s) (hS : Streams s')
    (hok : WhenRun keepsTruth s e) (hs : OrangeFtpd.step cfg s e = .ok s') :
    Always SaysTruth s'.acts := by
  have add : ∀ {new : List Obs} {handed : Option (Phase × Op)} {k : List Conn},
      Entered s s' new handed k → (∀ o ∈ new, ∀ q, o ≠ .complete q) → Always SaysTruth s'.acts := by
    intro new handed k he hn
    rw [he.acts]
    exact h.append fun o hm pre => saysTruth_other (hn o hm)
  cases booked_step (step_cases hs) ho with
  | same _ _ he hn => exact add he (by simp)
  | connect i c' _ he hn => exact add he (by simp)
  | peer _ _ o k hp he hn => exact add he (by cases hp <;> simp)
  | token i os _ tok d new hi ht hd hnew he hn =>
    refine add he ?_
    rcases hnew with rfl | ⟨response, rfl⟩ <;> simp
  | refused i os _ req b hr hv hc hb he hn => exact add he (by simp)
  | dropped i os _ r hi hr he hgone hn =>
    refine add he fun o ho q => ?_
    obtain ⟨op, -, rfl⟩ := List.mem_map.mp (List.mem_reverse.mp ho)
    nofun
  | launched i os _ req kind s₁ new handed hr hk hs₁ hl he hn =>
    refine add he fun o hm q hq => ?_
    subst hq
    rcases List.mem_append.mp hm with h1 | h1
    · exact nomatch (hl.mute h1).2
    · cases List.mem_singleton.mp h1
  | turned i os _ t r ph op new handed k hi hp hT' he hgone hn =>
    have hx := staged_handler hi hp
    have harm := hA.handler hi
    have hg := hok.at hi
    have none : completedIn new = [] → Always SaysTruth s'.acts := fun hnone =>
      add he fun o hm q hq => by
        have h1 : q ∈ completedIn new := mem_completedIn.mpr (hq ▸ hm)
        rw [hnone] at h1
        cases h1
    cases hT' with
    | sentAll op' t d n ht hd hn hop hl =>
      have hid : op'.id = op.id := by rw [hop]
      have hkind : op'.kind = .sendFile := by rw [hop]; exact (ht.armed harm).1
      rw [he.acts, List.append_assoc]
      refine always_completion ⟨saysTruth_other nofun, saysTruth_other nofun, h⟩ fun htok => ?_
      have hc : op' ∈ completedIn s'.acts := by
        rw [he.acts, completedIn_append, completedIn_append]
        refine List.mem_append_left _ (List.mem_append_left _ ?_)
        have h1 : completedIn (.over op.id :: completionActs op') = [op'] :=
          completedIn_completionActs.trans (if_pos htok)
        rw [h1]
        exact List.mem_singleton_self _
      have hsame : sentIn op'.id s'.acts = sentIn op'.id ([.payload op.id d.conn
          (.sent op.fileOffset n), .touch op.id (some d.conn)] ++ s.acts) := by
        have h1 : sentIn op'.id (.over op.id :: completionActs op') = [] := sentIn_completionActs
        rw [he.acts, List.append_assoc, sentIn_append, h1, List.nil_append]
      refine truth_sent hS (hT.since _ ?_ op'.id) hkind hc hsame
      intro id c p hm
      cases (List.mem_pair.mp hm).resolve_right nofun
      simp
    | receivedAll c d hk hd hi' =>
      rw [he.acts, List.append_assoc]
      have hopen := hg.2 hk rfl d hd hi'
      refine always_completion ⟨saysTruth_other nofun, h⟩ fun _ => ?_
      exact truth_received hC (hR.live _ hx hk) hT hk hi' hopen.1 hopen.2
    | listed c r =>
      rw [he.acts]
      obtain rfl : r = .ok := hg.2
      have hm : Task.listWrite op c ∈ s.handlers.tasks := Pool.mem_tasks_of (List.mem_of_getElem? hi)
      exact ⟨saysTruth_other nofun, saysTruth_other nofun, truth_listed hL hT harm hm,
        saysTruth_other nofun, h⟩
    | sentPart op' t d n last ht hd hn hop hl hlast =>
      exact none (by rcases hlast with rfl | rfl <;> rfl)
    | receiveFailed op' c d mid k hk hd hf hl =>
      refine none ?_
      rw [completedIn_append]
      exact congrArg (· ++ _) hl.unsent.2
    | receiveAgain op' c d mid k hk hd hl =>
      refine none ?_
      rw [completedIn_append]
      exact congrArg (· ++ _) hl.unsent.2
    | _ => exact none rfl

theorem truth_reach
    (h : Reach (OrangeFtpd.step cfg) (WhenRun keepsTruth) (St.init cfg home c₀ now) s) :
    Always SaysTruth s.acts := by
  have apart : ∀ s e, WhenRun keepsTruth s e → WhenRun uploadsApart s e := fun _ _ he =>
    he.mono fun _ _ _ h1 => h1.1
  induction h with
  | start => trivial
  | step e h hok hs ih =>
    have ho := ops_reach h
    exact truth_step ih ho (armed_reach h) (touched_reach h) (listing_reach h) (conserved_reach h)
      (receiving_reach (h.mono apart)) (streams_reach (h.step e hok hs)) hok hs

theorem OwnConnection.acts (h : OwnConnection id c log) :
    OwnConnection id c (log.filter Obs.isAct) where
  stored := List.mem_filter.mpr ⟨h.stored, rfl⟩
  only slot hm := h.only slot (List.mem_filter.mp hm).1

theorem sentOn_filter : sentOn id c (log.filter Obs.isAct) = sentOn id c log := by
  unfold sentOn
  rw [List.filterMap_filter]
  refine List.filterMap_congr fun o _ => ?_
  cases o <;> rfl

theorem Truthful.of_acts (h : Truthful op c (log.filter Obs.isAct)) : Truthful op c log := by
  unfold Truthful at h ⊢
  cases hk : op.kind with
  | sendFile =>
    rw [hk] at h
    dsimp only at h
    rwa [sentOn_filter] at h
  | recvFile =>
    rw [hk] at h
    dsimp only at h
    rw [fileContent_filter, peerStream_filter] at h
    exact ⟨(List.mem_filter.mp h.1).1, h.2⟩
  | list =>
    rw [hk] at h
    obtain ⟨⟨text, h1⟩, h2⟩ := h
    exact ⟨⟨text, (List.mem_filter.mp h1).1⟩, (List.mem_filter.mp h2).1⟩
  | _ =>
    rw [hk] at h
    exact h.elim

/-- What is not in the book does not matter. -/
theorem saysTruth_of_acts (h : Always SaysTruth (log.filter Obs.isAct)) : Always SaysTruth log := by
  induction log with
  | nil => trivial
  | cons o log ih =>
    by_cases ho : o.isAct = true
    · rw [List.filter_cons_of_pos ho] at h
      exact ⟨fun op c he hown => (h.1 op c he hown.acts).of_acts, ih h.2⟩
    · rw [List.filter_cons_of_neg ho] at h
      refine ⟨saysTruth_other fun q he => ho ?_, ih h⟩
      rw [he]
      rfl

/-- **A 226 is truthful**: the transfer `op`, which used its own data connection `c`, has done
    what its 226 says, in every run whose steps meet `keepsTruth`. -/
theorem truthful_226
    (h : Reach (OrangeFtpd.step cfg) (WhenRun keepsTruth) (St.init cfg home c₀ now) s)
    (hl : s.log = new ++ .complete op :: before) (ho : OwnConnection op.id c before) :
    Truthful op c before := by
  have h1 : Always SaysTruth s.log := saysTruth_of_acts (truth_reach h)
  rw [hl] at h1
  exact h1.of_split op c rfl ho

end

/-- `STOR` creates its file. -/
def createdFile (file : FileId) : Os :=
  { openFile := .ok (7 + file, file), created := true, pipe := some (5, 6) }

/-- The client asks for an upload and connects; the 150 is written. -/
def upload : List Ev :=
  withPort "STOR a\r\n".toList ++ [.run 1 (createdFile 1), .complete 1 (.conn 0), .run 1 {},
    .complete 2 .ok, .run 2 {}]

/-- Three bytes arrive, then the end of the stream. -/
def uploadEnds : List Ev :=
  upload ++ [.peerSend 0 [1, 2, 3], .complete 2 .ok,
    .run 2 { splices := [.moved 3 [.put 2, .put 1], .wouldBlock] }, .peerShutdown 0,
    .complete 2 .ok, .run 2 {}]

/-- The STOR of that upload at its end. -/
def uploadedOp : Op :=
  { id := 3, kind := .recvFile, fd := 8, fileName := "/root/a".toList, pipeFd := some (5, 6),
    completionToken := true, file := 1, fdOffset := 3 }

theorem truthful_226_upload : ∃ s, runAll (step .shipped) .fresh uploadEnds = .ok s ∧
    s.log = s.log.take 3 ++ .complete uploadedOp :: s.log.drop 4 ∧
    fileContent 1 (s.log.drop 4) = [1, 2, 3] ∧ Truthful uploadedOp 0 (s.log.drop 4) := by
  obtain ⟨s, run, hlog, own, content⟩ : ∃ s, runAll (step .shipped) .fresh uploadEnds = .ok s ∧
      s.log = s.log.take 3 ++ .complete uploadedOp :: s.log.drop 4 ∧
      OwnConnection 3 0 (s.log.drop 4) ∧ fileContent 1 (s.log.drop 4) = [1, 2, 3] :=
    exists_runAll (by decide +kernel)
  exact ⟨s, run, hlog, content,
    truthful_226 (reach_runAll uploadEnds .start (by decide +kernel) run) hlog own⟩

/-- The listing of a directory with one file is written, and the peer resets the connection. -/
def listingReset : List Ev :=
  withPort "LIST\r\n".toList ++ [.run 1 {}, .complete 1 (.conn 0),
    .run 1 { listing := ⟨[someEntry .regular "a".toList], none⟩ }, .complete 2 .ok, .run 2 {},
    .complete 2 (.err .connectionReset), .run 2 {}]

/-- A reset looks like the end of the stream: the 226 is queued behind the bytes that were read. -/
example : ∃ s, runAll (step .shipped) .fresh (upload ++
      [.peerSend 0 [1, 2, 3], .complete 2 .ok,
        .run 2 { splices := [.moved 3 [.put 3], .wouldBlock] }, .peerReset 0, .complete 2 .ok,
        .run 2 {}]) = .ok s ∧
    (completedIn s.log).map (·.id) = [3] ∧ fileContent 1 s.log = [1, 2, 3] :=
  exists_runAll (by decide +kernel)

end OrangeFtpd
