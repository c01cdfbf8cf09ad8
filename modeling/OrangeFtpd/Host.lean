/-
  File:      OrangeFtpd/Host.lean
  Subject:   The process: the acceptor and the sessions it started, side by side.

  A session has one worker thread, so its handlers never overlap, and those of
  different sessions share nothing but the counter of the configuration: each of them
  reads or changes it at most once, so their steps may be taken one after the other.
  An exception that leaves a handler ends the process, and a step that throws has no
  next state.

  * `Host.session_reach`: each session goes the way it goes alone, so what holds of every
    run of a session holds of all sessions in every run of the process.
  * `Host.client_num_counts`: `client_num_` is the number of sessions that are there.
  * `Host.stat_reports_clients`: STAT tells that number.

  The threads, the binding of the port and the text of the log lines are not modelled.
-/
import OrangeFtpd.Server
import OrangeFtpd.Request.Exceptions
import OrangeFtpd.Invariant.Control

namespace OrangeFtpd

/-! ## 1. The process -/

structure Host where
  server : Server
  /-- `Config::client_num_`. -/
  clientNum : Int
  /-- The sessions that were started, the oldest first. -/
  sessions : List St
  /-- The clock of all of them. -/
  now : Int

namespace Host

/-- `main`, up to the run of the event loops: `W` workers, no client. -/
def create (W : Nat) (now : Int) : Host := ⟨(Server.create W).start, 0, [], now⟩

inductive Ev where
  /-- The outstanding accept hands over a connection. `active_op_num_` of the new session is
      `activeOpNum`; the peer may be gone already. -/
  | accepted (activeOpNum : UInt32) (peerAlive : Bool)
  | acceptFailed
  | tick (ms : Nat)
  /-- Something happens to the session `i`. -/
  | session (i : Nat) (e : OrangeFtpd.Ev)

/-- A handler that asks for `client_num` gets `n`. -/
def withClientNum (n : Int) : OrangeFtpd.Ev → OrangeFtpd.Ev
  | .run i os => .run i { os with clientNum := n }
  | e => e

/-- The completion handler of `async_accept`, but for the session. -/
def acceptDone (s : Server) (ec : Server.Accepted) : Except Fault Server :=
  match s.step ec with
  | .ok s' => .ok s'
  | .error .notAccepting => .error .disabled

/-- Time passes for a session that is there. -/
def age (ms : Nat) (s : St) : St := if s.destroyed then s else { s with now := s.now + ms }

/-- The session `i` makes a step; `~Session` decrements the counter. -/
def sessionStep (cfg : Config) (h : Host) (i : Nat) (e : OrangeFtpd.Ev) : Except Fault Host :=
  match h.sessions[i]? with
  | none => .error .disabled
  | some s =>
    match OrangeFtpd.step cfg s (withClientNum h.clientNum e) with
    | .error f => .error f
    | .ok s' => .ok { h with
        sessions := h.sessions.set i s'
        clientNum := if s'.destroyed then h.clientNum - 1 else h.clientNum }

/-- The accept handler with a connection: it counts the client, and makes and starts the session,
    whose constructor may throw. -/
def acceptStep (cfg : Config) (home : Path) (h : Host) (activeOpNum : UInt32) (peerAlive : Bool) :
    Except Fault Host :=
  match startSession cfg home activeOpNum h.now peerAlive with
  | .error f => .error f
  | .ok s => (acceptDone h.server .connection).map fun server => { h with
      server := server, clientNum := h.clientNum + 1, sessions := h.sessions ++ [s] }

/-- **One step of the process.** -/
def step (cfg : Config) (home : Path) (h : Host) : Ev → Except Fault Host
  | .accepted activeOpNum peerAlive => acceptStep cfg home h activeOpNum peerAlive
  | .acceptFailed => (acceptDone h.server .failed).map fun server => { h with server := server }
  | .tick ms => .ok { h with now := h.now + ms, sessions := h.sessions.map (age ms) }
  -- the clock is not a session's own
  | .session _ (.tick _) => .error .disabled
  | .session i e => sessionStep cfg h i e

/-- The sessions that are there. -/
def live (h : Host) : Nat := h.sessions.countP fun s => !s.destroyed

/-- What a step of the process does. -/
inductive Stepped (cfg : Config) (home : Path) (h : Host) : Ev → Host → Prop where
  | accepted (a : UInt32) (alive : Bool) (server : Server)
      (hs : h.server.step .connection = .ok server) :
      Stepped cfg home h (.accepted a alive) { h with
        server := server, clientNum := h.clientNum + 1,
        sessions := h.sessions ++ [St.init cfg home a h.now] }
  | acceptFailed (server : Server) (hs : h.server.step .failed = .ok server) :
      Stepped cfg home h .acceptFailed { h with server := server }
  | tick (ms : Nat) : Stepped cfg home h (.tick ms)
      { h with now := h.now + ms, sessions := h.sessions.map (age ms) }
  | session (i : Nat) (e : OrangeFtpd.Ev) (s s' : St) (hi : h.sessions[i]? = some s)
      (hs : OrangeFtpd.step cfg s (withClientNum h.clientNum e) = .ok s') :
      Stepped cfg home h (.session i e) { h with
        sessions := h.sessions.set i s'
        clientNum := if s'.destroyed then h.clientNum - 1 else h.clientNum }

section

variable {cfg : Config} {home : Path} {W i k : Nat} {now : Int} {a : UInt32} {os : Os}
  {req : FtpRequest} {H H' : Host} {e : Ev} {s s' : St} {ok : St → OrangeFtpd.Ev → Prop}
  {ok' : Host → Ev → Prop}

theorem startSession_ok {alive : Bool} (h : startSession cfg home a now alive = .ok s) :
    s = St.init cfg home a now := by
  unfold startSession remoteEndpoint at h
  cases alive with
  | true => cases h; rfl
  | false => cases h

theorem acceptDone_ok {ec : Server.Accepted} {f : Server → Host}
    (h : (acceptDone H.server ec).map f = .ok H') : ∃ server, H.server.step ec = .ok server ∧
      H' = f server := by
  unfold acceptDone at h
  split at h
  · next server hs => cases h; exact ⟨server, hs, rfl⟩
  · cases h

theorem acceptStep_cases {alive : Bool} (h : acceptStep cfg home H a alive = .ok H') :
    Stepped cfg home H (.accepted a alive) H' := by
  unfold acceptStep at h
  split at h
  · cases h
  · next s hs =>
    obtain ⟨server, hd, rfl⟩ := acceptDone_ok h
    rw [startSession_ok hs]
    exact .accepted a alive server hd

theorem sessionStep_cases {e : OrangeFtpd.Ev} (h : sessionStep cfg H i e = .ok H') :
    Stepped cfg home H (.session i e) H' := by
  unfold sessionStep at h
  split at h
  · cases h
  · next s hi =>
    split at h
    · cases h
    · next s' hs => cases h; exact .session i e s s' hi hs

theorem step_cases (h : step cfg home H e = .ok H') : Stepped cfg home H e H' := by
  cases e with
  | accepted a alive => exact acceptStep_cases h
  | acceptFailed =>
    obtain ⟨server, hd, rfl⟩ := acceptDone_ok h
    exact .acceptFailed server hd
  | tick ms => cases h; exact .tick ms
  | session i e =>
    cases e with
    | tick ms => cases h
    | _ => exact sessionStep_cases h

/-- Two clients connect; the first logs in and sends a STAT, which is still to be handled. -/
def twoClients : List Ev :=
  [.accepted 0 true, .accepted 0 true] ++ (OrangeFtpd.login "STAT\r\n".toList).map (.session 0)

/-! ## 2. Each session by itself -/

/-- Every step of a session meets `ok`. -/
def Each (ok : St → OrangeFtpd.Ev → Prop) (h : Host) : Ev → Prop
  | .session i e => ∀ s ∈ h.sessions[i]?, ok s (withClientNum h.clientNum e)
  | .tick ms => ∀ s ∈ h.sessions, ok s (.tick ms)
  | .accepted .. | .acceptFailed => True

/-- A session that was started and went on by itself. -/
def Alone (cfg : Config) (home : Path) (ok : St → OrangeFtpd.Ev → Prop) (s : St) : Prop :=
  ∃ a now, Reach (OrangeFtpd.step cfg) ok (St.init cfg home a now) s

theorem Alone.age {ms : Nat} (h : Alone cfg home ok s) (hok : ok s (.tick ms)) :
    Alone cfg home ok (age ms s) := by
  unfold Host.age
  split
  · exact h
  · next hd =>
    obtain ⟨a, now, h⟩ := h
    exact ⟨a, now, h.step (.tick ms) hok (if_neg hd)⟩

theorem each_trivial : Each (fun _ _ => True) H e := by
  cases e with
  | session i e => exact fun _ _ => trivial
  | tick ms => exact fun _ _ => trivial
  | _ => trivial

/-- **Each session goes the way it goes alone.** -/
theorem session_reach (h : Reach (step cfg home) (Each ok) (create W now) H) :
    ∀ s ∈ H.sessions, Alone cfg home ok s := by
  refine h.invariant (I := fun H => ∀ s ∈ H.sessions, Alone cfg home ok s)
    (List.forall_mem_nil _) ?_
  intro H e H' hI hok hs s hm
  cases step_cases hs with
  | accepted a alive server hd =>
    rcases List.mem_append.mp hm with h1 | h1
    · exact hI s h1
    · rw [List.mem_singleton.mp h1]
      exact ⟨a, H.now, .start⟩
  | acceptFailed server hd => exact hI s hm
  | tick ms =>
    obtain ⟨s₀, h0, rfl⟩ := List.mem_map.mp hm
    exact (hI s₀ h0).age (hok s₀ h0)
  | session i e s₀ s' hi hs' =>
    rcases List.mem_or_eq_of_mem_set hm with h1 | rfl
    · exact hI s h1
    · obtain ⟨a, now, h⟩ := hI s₀ (List.mem_of_getElem? hi)
      exact ⟨a, now, h.step _ (hok s₀ hi) hs'⟩

/-- **No client has a say in another's session**: what each session remembers is what the
    interpreter makes of its own requests, and what it answers at once depends on them only. -/
theorem sessions_isolated (h : Reach (step cfg home) ok' (create W now) H) (hs : s ∈ H.sessions) :
    s.control = Control.interpret cfg s.requests ∧ AtOnce cfg s.acts := by
  have each : ∀ H e, ok' H e → Each (fun _ _ => True) H e := fun _ _ _ => each_trivial
  obtain ⟨a, now, h1⟩ := session_reach (h.mono each) s hs
  exact ⟨remembers_reach h1, atOnce_reach h1⟩

/-- The second client gives another name, and asks for the directory too early. -/
def bothAct : List Ev :=
  twoClients ++ [.session 1 (.complete 0 .ok), .session 1 (.run 0 {}),
    .session 1 (.clientSend "USER w\r\nPWD\r\n".toList), .session 1 (.run 0 {}),
    .session 0 (.run 2 {}), .session 1 (.run 2 {})]

theorem sessions_isolated_two : ∃ H s₁ s₂,
    runAll (step .shipped "/root".toList) (create 4 0) bothAct = .ok H ∧
    s₁ ∈ H.sessions ∧ s₁.control = ⟨"u".toList, "p".toList, true, false, .binary⟩ ∧
    s₂ ∈ H.sessions ∧ s₂.control = ⟨"w".toList, [], false, false, .binary⟩ ∧
    (s₁.control = Control.interpret .shipped s₁.requests ∧ AtOnce .shipped s₁.acts) ∧
    s₂.control = Control.interpret .shipped s₂.requests ∧ AtOnce .shipped s₂.acts := by
  obtain ⟨H, run, ⟨s₁, h₁, first⟩, s₂, h₂, second⟩ : ∃ H,
      runAll (step .shipped "/root".toList) (create 4 0) bothAct = .ok H ∧
      (∃ s ∈ H.sessions, s.control = ⟨"u".toList, "p".toList, true, false, .binary⟩) ∧
      ∃ s ∈ H.sessions, s.control = ⟨"w".toList, [], false, false, .binary⟩ :=
    exists_runAll (by decide +kernel)
  have reached : Reach (step .shipped "/root".toList) (fun _ _ => True) (create 4 0) H :=
    reach_runAll bothAct .start (allOk_of_forall fun _ _ => trivial) run
  exact ⟨H, s₁, s₂, run, h₁, first, h₂, second, sessions_isolated reached h₁,
    sessions_isolated reached h₂⟩

/-! ## 3. The counter -/

/-- The counter counts the sessions that are there; each session was given a worker. -/
structure Counted (h : Host) : Prop where
  clientNum : h.clientNum = h.live
  started : h.server.sessions.length = h.sessions.length

theorem server_step {server server' : Server} {ec : Server.Accepted}
    (h : server.step ec = .ok server') : server'.sessions.length = server.sessions.length +
      match ec with
      | .connection => 1
      | .failed => 0 := by
  unfold Server.step at h
  split at h
  · cases h
  · have again : ∀ s : Server, (if s.stoped then s else s.doAccept).sessions = s.sessions := by
      intro s
      split <;> rfl
    cases h
    rw [again]
    cases ec <;> rfl

theorem live_age (ms : Nat) :
    (H.sessions.map (age ms)).countP (fun s => !s.destroyed) = H.live := by
  unfold live
  rw [List.countP_map]
  refine List.countP_congr fun s _ => ?_
  have h1 : (age ms s).destroyed = s.destroyed := by
    unfold age
    split <;> rfl
  show (!(age ms s).destroyed) = true ↔ _
  rw [h1]

theorem Counted.step (h : Counted H) (hs : step cfg home H e = .ok H') : Counted H' := by
  cases step_cases hs with
  | accepted a alive server hd =>
    refine ⟨?_, ?_⟩
    · show H.clientNum + 1 = ((H.sessions ++ [St.init cfg home a H.now]).countP _ : Nat)
      rw [List.countP_append, h.clientNum]
      rfl
    · rw [server_step hd, List.length_append, h.started]
      rfl
  | acceptFailed server hd => exact ⟨h.clientNum, (server_step hd).trans h.started⟩
  | tick ms => exact ⟨h.clientNum.trans (congrArg Nat.cast (live_age ms)).symm,
      h.started.trans (List.length_map _).symm⟩
  | session i e s s' hi hs' =>
    refine ⟨?_, h.started.trans List.length_set.symm⟩
    have hlive : s.destroyed = false := (step_ok.mp hs').1
    obtain ⟨hlt, hget⟩ := List.getElem?_eq_some_iff.mp hi
    have hcount : (H.sessions.set i s').countP (fun s => !s.destroyed) =
        H.live - 1 + if s'.destroyed then 0 else 1 := by
      rw [List.countP_set hlt, hget, hlive]
      cases s'.destroyed <;> rfl
    have hpos : 0 < H.live :=
      List.countP_pos_iff.mpr ⟨s, List.mem_of_getElem? hi, by rw [hlive]; rfl⟩
    show (if s'.destroyed then H.clientNum - 1 else H.clientNum) =
      ((H.sessions.set i s').countP (fun s => !s.destroyed) : Nat)
    rw [hcount, h.clientNum]
    split <;> omega

theorem counted_reach (h : Reach (Host.step cfg home) ok' (create W now) H) : Counted H :=
  h.invariant (I := Counted) ⟨rfl, rfl⟩ fun _ _ _ hI _ hs => hI.step hs

/-- **`client_num_` is the number of sessions that are there**, in every run of the process: at
    most as many as were started, each of them on a worker. -/
theorem client_num_counts (h : Reach (step cfg home) ok' (create W now) H) :
    H.clientNum = H.live ∧ H.live ≤ H.server.sessions.length ∧
      H.server.sessions.length = H.sessions.length := by
  have hc := counted_reach h
  refine ⟨hc.clientNum, ?_, hc.started⟩
  rw [hc.started]
  exact List.countP_le_length

/-- The second client goes before its banner is written. -/
def secondGoes : List Ev :=
  twoClients ++ [.session 1 (.complete 0 (.err .connectionReset)), .session 1 (.run 0 {})]

theorem client_num_counts_two : ∃ H H',
    runAll (step .shipped "/root".toList) (create 4 0) twoClients = .ok H ∧ H.clientNum = 2 ∧ H.live = 2 ∧
    runAll (step .shipped "/root".toList) (create 4 0) secondGoes = .ok H' ∧ H'.clientNum = 1 ∧
    H'.live = 1 := by
  obtain ⟨H, run, two⟩ : ∃ H,
      runAll (step .shipped "/root".toList) (create 4 0) twoClients = .ok H ∧ H.live = 2 :=
    exists_runAll (by decide +kernel)
  obtain ⟨H', run', one⟩ : ∃ H',
      runAll (step .shipped "/root".toList) (create 4 0) secondGoes = .ok H' ∧ H'.live = 1 :=
    exists_runAll (by decide +kernel)
  have count := fun H
    (h : Reach (step .shipped "/root".toList) (fun _ _ => True) (create 4 0) H) => (client_num_counts h).1
  have h1 := count H (reach_runAll twoClients .start (allOk_of_forall fun _ _ => trivial) run)
  have h2 := count H' (reach_runAll secondGoes .start (allOk_of_forall fun _ _ => trivial) run')
  rw [two] at h1
  rw [one] at h2
  exact ⟨H, H', run, h1, two, run', h2, one⟩

/-! ## 4. STAT -/

theorem statOp_replies {s₁ : St} {id : Nat} (ha : s.acts = s₁.acts) :
    Act.Triple (· = s) (StatOp.doOperation cfg os id)
      (fun _ => Answers s₁ id (StatOp.status cfg os s) s.control) fun _ => True := by
  unfold StatOp.doOperation
  refine .bind (Q := fun _ s' => s' = s) ?_ fun _ => .get_at (reply_last rfl ha)
  unfold controlLocalEndpoint
  exact .get_at (.ite (fun _ => .pure_at rfl) fun _ => .throw trivial)

/-- A STAT of a session that is logged in. -/
theorem stat_line (hr : ReadsLine s k req) (hv : s.verified = true)
    (hc : req.command = "STAT".toList) (hs : OrangeFtpd.step cfg s (.run k os) = .ok s') :
    s'.acts = [.over s.nextId, .reply s.nextId (StatOp.status cfg os s),
      .request s.nextId req s.currentPath] ++ s.acts := by
  have hkind : createKind req.command = some .stat := by rw [hc]; decide
  obtain ⟨s₁, hd, rfl⟩ := step_read hs hr.read
  have hline : buildRequest (splitWords ((s.takeHandler k).neverExpire.buf.take
      ((lineEnd s.buf).getD 0))) = some req := hr.line
  cases hd with
  | blank h0 => cases hline.symm.trans h0
  | refused req' b h0 hv' hb =>
    cases hline.symm.trans h0
    cases hkind.symm.trans hb.not_created
  | ran req' kind _ h0 hk hrun =>
    cases hline.symm.trans h0
    rcases hk with ⟨hf, -⟩ | ⟨-, hk⟩
    · cases hv.symm.trans hf
    · cases hkind.symm.trans hk
      have h1 := (runOp_over rfl rfl (statOp_replies rfl)).ok rfl hrun
      exact h1.2.trans rfl

/-- **STAT tells how many sessions are there** when it is handled, and does not throw where the
    control socket is open. -/
theorem stat_reports_clients (h : Reach (step cfg home) ok' (create W now) H)
    (hi : H.sessions[i]? = some s) (hv : s.verified = true) (hr : ReadsLine s k req)
    (hc : req.command = "STAT".toList) (ho : s.controlOpen = true) :
    ∃ H' s', step cfg home H (.session i (.run k os)) = .ok H' ∧ H'.sessions[i]? = some s' ∧
      s'.acts = [.over s.nextId,
        .reply s.nextId (StatOp.status cfg { os with clientNum := H.live } s),
        .request s.nextId req s.currentPath] ++ s.acts := by
  have each : ∀ H e, ok' H e → Each (fun _ _ => True) H e := fun _ _ _ => each_trivial
  obtain ⟨a, now, h1⟩ := session_reach (h.mono each) s (List.mem_of_getElem? hi)
  have hm := machinery_reach h1
  -- the handler of the read holds the session
  have hd : s.destroyed = false := by
    refine eq_false_of_ne_true fun hd => ?_
    have hs := hm.strong
    have hp : s.has .read ≠ 0 := has_pos (Pool.mem_tasks_of (List.mem_of_getElem? hr.read))
    rw [if_pos hd] at hs
    omega
  have answerable : ∀ kind, createKind req.command = some kind →
      Answerable cfg s req { os with clientNum := H.clientNum } kind := by
    intro kind hk
    have hkind : createKind "STAT".toList = some .stat := by decide
    rw [hc, hkind] at hk
    cases hk
    exact ho
  obtain ⟨s', hs', -⟩ := (read_returns hd hr.read hv hr.line).mpr answerable
  have h2 := stat_line hr hv hc hs'
  rw [(client_num_counts h).1] at h2
  have hstep : step cfg home H (.session i (.run k os)) = .ok { H with
      sessions := H.sessions.set i s'
      clientNum := if s'.destroyed then H.clientNum - 1 else H.clientNum } := by
    show sessionStep cfg H i (.run k os) = _
    unfold sessionStep
    rw [hi]
    show (match OrangeFtpd.step cfg s (.run k { os with clientNum := H.clientNum }) with
      | .error f => .error f
      | .ok s' => .ok _ : Except Fault Host) = _
    rw [hs']
  refine ⟨_, s', hstep, ?_, h2⟩
  rw [List.getElem?_set_self (List.getElem?_eq_some_iff.mp hi).1]

end

theorem stat_reports_two : ∃ H H' s s',
    runAll (step .shipped "/root".toList) (create 4 0) twoClients = .ok H ∧
    step .shipped "/root".toList H (.session 0 (.run 2 {})) = .ok H' ∧ H.sessions[0]? = some s ∧
    H'.sessions[0]? = some s' ∧
    .reply 2 (StatOp.status .shipped { clientNum := 2 } s) ∈ s'.acts := by
  obtain ⟨H, run, two, s, hi, hv, ho, id, read, line⟩ : ∃ H,
      runAll (step .shipped "/root".toList) (create 4 0) twoClients = .ok H ∧ H.live = 2 ∧
      ∃ s ∈ H.sessions[0]?, s.verified = true ∧ s.controlOpen = true ∧ s.nextId = 2 ∧
        s.handlers[2]? = some ⟨.read, some .ok⟩ ∧
        buildRequest (splitWords (s.buf.take ((lineEnd s.buf).getD 0))) = some ⟨"STAT".toList, []⟩ :=
    exists_runAll (by decide +kernel)
  have reached : Reach (step .shipped "/root".toList) (fun _ _ => True) (create 4 0) H :=
    reach_runAll twoClients .start (allOk_of_forall fun _ _ => trivial) run
  have reads : ReadsLine s 2 ⟨"STAT".toList, []⟩ := ⟨read, line⟩
  obtain ⟨H', s', hs, hi', ha⟩ : ∃ H' s',
      step .shipped "/root".toList H (.session 0 (.run 2 {})) = .ok H' ∧ H'.sessions[0]? = some s' ∧
      s'.acts = [.over s.nextId, .reply s.nextId (StatOp.status .shipped { clientNum := H.live } s),
        .request s.nextId ⟨"STAT".toList, []⟩ s.currentPath] ++ s.acts :=
    stat_reports_clients reached hi hv reads rfl ho
  refine ⟨H, H', s, s', run, hs, hi, hi', ?_⟩
  rw [ha, two, id]
  exact List.mem_append_left _ (List.mem_cons_of_mem _ List.mem_cons_self)

end Host

end OrangeFtpd
