/-
  File:      OrangeFtpd/Invariant/PassivePort.lean
  Subject:   The acceptor is open while it listens on the port announced last.

  PASV closes, opens, binds and listens in steps that can fail, and the accept
  handlers of transfers close the same acceptor. `PassivePort` holds through all of
  it but for one path: where `bind` fails, PASV answers 550 and leaves an acceptor
  behind that is open and listens on nothing.
-/
import OrangeFtpd.Session.Members
import OrangeFtpd.Invariant.Operations

namespace OrangeFtpd

open BasicOp Act

/-- The port announced last, where no connection was stored since. -/
def portOf : List Obs → Option UInt16
  | [] => none
  | .announced p :: _ => some p
  | .stored .. :: _ => none
  | _ :: log => portOf log

def St.announcedPort (s : St) : Option UInt16 := portOf s.log

/-- **The acceptor**: open exactly when it listens on the announced port. -/
structure PassivePort (s : St) : Prop where
  listening : s.acceptor.isOpen = true → ∃ p, s.acceptor.listening = some p ∧ s.announcedPort = some p
  shut : s.acceptor.isOpen = false → s.acceptor.listening = none

/-- A PASV whose acceptor opens gets a port. -/
def portBound (s : St) (os : Os) (t : Task) (r : Result) : Prop :=
  t = .read → r = .ok → s.verified = true → s.nextKind = some .passiveMode →
    os.acceptorOpen = true → os.bind ≠ none

instance {s : St} {os : Os} {t : Task} {r : Result} : Decidable (portBound s os t r) :=
  inferInstanceAs (Decidable (_ → _ → _ → _ → _ → _ ≠ _))

section

variable {cfg : Config} {os : Os} {id n i : Nat} {kind : OpKind} {s s₁ s' : St} {op : Op} {t : Task}
  {r : Result} {e : Ev} {b : SharedConstBuffer}

/-! ## 1. Changes that keep the acceptor -/

theorem portOf_append : ∀ {new : List Obs} {log : List Obs}, (∀ o ∈ new, o.ofRequest = false) →
    (∀ o ∈ new, o.isStored = false) → portOf (new ++ log) = portOf log
  | [], _, _, _ => rfl
  | o :: new, log, hr, hs => by
    have ih : portOf (new ++ log) = portOf log := portOf_append
      (fun x hx => hr x (List.mem_cons_of_mem o hx)) fun x hx => hs x (List.mem_cons_of_mem o hx)
    have ho := hr o List.mem_cons_self
    have ho' := hs o List.mem_cons_self
    cases o with
    | announced p => cases ho
    | stored id c => cases ho'
    | _ => exact ih

theorem PassivePort.congr (h : PassivePort s) (ha : s'.acceptor = s.acceptor)
    (hp : s'.announcedPort = s.announcedPort) : PassivePort s' := by
  refine ⟨?_, ?_⟩
  · rw [ha, hp]
    exact h.listening
  · rw [ha]
    exact h.shut

theorem PassivePort.of_shut (h : s.acceptor = ⟨false, none⟩) : PassivePort s := by
  refine ⟨fun ho => ?_, fun _ => by rw [h]⟩
  rw [h] at ho
  cases ho

/-- The handlers leave the acceptor alone, or close it. -/
theorem PassivePort.members (h : PassivePort s) (hm : SameMembers s s') : PassivePort s' := by
  obtain ⟨new, hl, hr, ⟨ha, hs⟩ | hc⟩ := hm.log
  · refine h.congr ha ?_
    unfold St.announcedPort
    rw [hl]
    exact portOf_append hr hs
  · exact .of_shut hc

/-- The requests other than PASV leave the acceptor alone. -/
theorem PassivePort.effect (he : Effect cfg os id kind s s') (hk : kind ≠ .passiveMode)
    (h : PassivePort s) : PassivePort s' := by
  cases he with
  | replied b hb => exact h.members .pushMessage
  | destroyed op hop => exact h.members .destroyOp
  | portClosed hp => exact absurd hp hk
  | portOpened a hp => exact absurd hp hk
  | announced port hp => exact absurd hp hk
  | _ => exact h.congr rfl rfl

/-! ## 2. PASV -/

/-- The acceptor, and the replies of the request `id` that were added to those of `s`: a 550
    only where the acceptor was left closed. -/
structure PortReplied (id : Nat) (s s' : St) : Prop where
  port : PassivePort s'
  denied : ∀ b, .reply id b ∈ s'.log → b.code = .nopermFilefatal →
    .reply id b ∈ s.log ∨ s'.acceptor.isOpen = false

theorem reply_mem_push {b' : SharedConstBuffer} (h : .reply id b ∈ (s.pushMessage id ⟨b', none⟩).log) :
    .reply id b ∈ s.log ∨ b = b' := by
  rcases log_push h with h1 | h1 | h1
  · exact Or.inl h1
  · cases h1
  · cases h1
    exact Or.inr rfl

/-- PASV closes the acceptor and opens it again. It goes wrong only where `bind` fails. -/
theorem passiveModeOp_port (hb : os.acceptorOpen = true → os.bind ≠ none) (h : PassivePort s) :
    Triple (· = s) (PassiveModeOp.doOperation cfg os id) (fun _ => PortReplied id s)
      fun _ => True := by
  unfold PassiveModeOp.doOperation
  refine .modify_bind (M := fun s₁ => s₁.acceptor = ⟨false, none⟩ ∧ s₁.log = s.log) ?_ ?_
  · intro s₁ he
    rw [he]
    by_cases ha : s.acceptor.isOpen = true
    · rw [if_pos ha]
      exact ⟨rfl, rfl⟩
    · rw [if_neg ha]
      have hs := h.shut (eq_false_of_ne_true ha)
      refine ⟨?_, rfl⟩
      show (⟨s.acceptor.isOpen, s.acceptor.listening⟩ : Acceptor) = _
      rw [eq_false_of_ne_true ha, hs]
  refine .ite (fun ha => ?_) fun ha => ?_
  · refine fun s₁ h1 => (writeReply_triple.post ?_) s₁ rfl
    rintro _ _ rfl
    exact ⟨.of_shut h1.1, fun b _ _ => Or.inr (by rw [St.pushMessage_acceptor, h1.1])⟩
  have ha' : os.acceptorOpen = true := by simpa using ha
  obtain ⟨port, hport⟩ := Option.ne_none_iff_exists'.mp (hb ha')
  refine .modify_bind (M := fun s₁ => s₁.log = s.log) (fun _ h1 => h1.2) ?_
  have require : ∀ {ok : Bool} {P : St → Prop},
      Triple P (PassiveModeOp.require ok) (fun _ => P) fun _ => True :=
    .ite (fun _ => .pure fun _ h => h) fun _ => .throw trivial
  refine .bind require fun _ => ?_
  rw [hport]
  refine .bind require fun _ => .modify_bind
    (M := fun s₁ => s₁.acceptor = ⟨true, some port⟩ ∧ s₁.log = s.log) (fun _ h1 => ⟨rfl, h1⟩) ?_
  refine .bind (Q := fun _ s₁ => s₁.acceptor = ⟨true, some port⟩ ∧ s₁.log = s.log) ?_ fun _ => ?_
  · exact .get_bind fun s₁ h1 => .ite (fun _ => .pure fun _ e => e ▸ h1) fun _ => .throw trivial
  refine .modify_bind (M := fun s₁ => s₁.acceptor = ⟨true, some port⟩ ∧
    s₁.log = .announced port :: s.log) (fun s₁ h1 => ⟨h1.1, congrArg _ h1.2⟩) fun s₁ h1 => ?_
  refine (writeReply_triple.post ?_) s₁ rfl
  rintro _ _ rfl
  have hp : s₁.announcedPort = some port := by
    unfold St.announcedPort
    rw [h1.2]
    rfl
  have h2 : PassivePort s₁ :=
    ⟨fun _ => ⟨port, by rw [h1.1], hp⟩, fun hf => by rw [h1.1] at hf; cases hf⟩
  refine ⟨h2.members .pushMessage, fun b hm hc => ?_⟩
  rcases reply_mem_push hm with h3 | rfl
  · rw [h1.2] at h3
    exact Or.inl ((List.mem_cons.mp h3).resolve_left nofun)
  · cases hc

theorem runOp_port (hb : os.acceptorOpen = true → os.bind ≠ none) (h : PassivePort s) :
    Triple (· = s) (runOp cfg os { id := id, kind := .passiveMode }) (fun _ => PortReplied id s)
      fun _ => True := by
  refine .bind (Q := fun op s' => op = { id := id, kind := .passiveMode } ∧ s' = s.basicOp)
    (.modify_bind_at (.pure_at ⟨rfl, rfl⟩)) fun op => ?_
  rintro _ ⟨rfl, rfl⟩
  have h1 : PassivePort s.basicOp := h.congr rfl rfl
  refine (Triple.bind (Q := fun rest s' => rest = some { id := id, kind := .passiveMode } ∧
    PortReplied id s s') (.bind (passiveModeOp_port hb h1) fun _ => .pure fun _ h2 => ⟨rfl, ?_⟩)
    fun rest => ?_) _ rfl
  · exact ⟨h2.port, h2.denied⟩
  rintro s₁ ⟨rfl, h2⟩
  have hm := @SameMembers.destroyOp cfg s₁ { id := id, kind := .passiveMode }
  refine ⟨h2.port.members hm, fun b hm' hc => ?_⟩
  rw [St.destroyOp_log] at hm'
  rcases h2.denied b ((List.mem_cons.mp hm').resolve_left nofun) hc with h3 | h3
  · exact Or.inl h3
  · right
    obtain ⟨new, hl, hr, ⟨ha, hs⟩ | hc'⟩ := hm.log
    · exact (congrArg Acceptor.isOpen ha).trans h3
    · exact congrArg Acceptor.isOpen hc'

/-! ## 3. Steps and runs -/

/-- The line of a PASV. -/
theorem Dispatched.passive {req : FtpRequest} (hd : Dispatched cfg os n s s')
    (hl : buildRequest (splitWords (s.buf.take n)) = some req) (hv : s.verified = true)
    (hc : createKind req.command = some .passiveMode)
    (hb : os.acceptorOpen = true → os.bind ≠ none) (h : PassivePort s) :
    PortReplied s.nextId s s' := by
  cases hd with
  | blank h0 => cases h0.symm.trans hl
  | refused req' b h0 hv' hr =>
    cases h0.symm.trans hl
    cases hr.not_created.symm.trans hc
  | ran req' kind _ h0 hk hs =>
    cases h0.symm.trans hl
    rcases hk with ⟨hf, -⟩ | ⟨-, hk⟩
    · cases hf.symm.trans hv
    cases hk.symm.trans hc
    have h1 : PassivePort (s.takeLine n req).newRequest := h.congr rfl rfl
    have h2 := (runOp_port hb h1).ok rfl hs
    refine ⟨h2.port, fun b hm hd => (h2.denied b hm hd).imp_left fun h3 => ?_⟩
    have h4 : .reply s.nextId b ∈ .request s.nextId req s.currentPath :: s.log := h3
    exact (List.mem_cons.mp h4).resolve_left nofun

/-- Any other line. -/
theorem Dispatched.otherLine (hd : Dispatched cfg os n s s')
    (ho : ∀ req, buildRequest (splitWords (s.buf.take n)) = some req → s.verified = true →
      createKind req.command ≠ some .passiveMode) (h : PassivePort s) : PassivePort s' := by
  cases hd with
  | blank h0 => exact (h.congr rfl rfl : PassivePort (s.takeLine n {})).members .rearmIdle
  | refused req b h0 hv hr =>
    have h1 : PassivePort (s.takeLine n req).newRequest := h.congr rfl rfl
    exact ((h1.members .pushMessage).members (.emit rfl rfl)).members .rearmIdle
  | ran req kind _ h0 hk hs =>
    have hne : kind ≠ .passiveMode := by
      rintro rfl
      rcases hk with ⟨-, hk⟩ | ⟨hv, hk⟩
      · cases hk
      · exact ho req h0 hv hk
    exact (runOp_effects.ok rfl hs).invariant (fun _ _ he hI => hI.effect he hne)
      (h.congr rfl rfl)

theorem PassivePort.step (h : PassivePort s) (hg : WhenRun portBound s e)
    (hs : step cfg s e = .ok s') : PassivePort s' := by
  rcases step_members hs with ⟨i, os, s₁, rfl, hi, hd, rfl⟩ | hm
  · have h0 : PassivePort (s.takeHandler i).neverExpire := h.congr rfl rfl
    have hb := hg.at hi rfl rfl
    have h1 : PassivePort s₁ := by
      by_cases hk : s.verified = true ∧ s.nextKind = some .passiveMode
      · obtain ⟨req, hl, hc⟩ := Option.bind_eq_some_iff.mp hk.2
        exact (hd.passive hl hk.1 hc (hb hk.1 hk.2) h0).port
      · exact hd.otherLine (fun req hl hv hc =>
          hk ⟨hv, Option.bind_eq_some_iff.mpr ⟨req, hl, hc⟩⟩) h0
    exact h1.congr rfl rfl
  · exact PassivePort.members (s := { s with buf := s.buf ++ e.chunk }) (h.congr rfl rfl) hm

theorem passivePort_reach {home : Path} {c₀ : UInt32} {now : Int}
    (h : Reach (OrangeFtpd.step cfg) (WhenRun portBound) (St.init cfg home c₀ now) s) :
    PassivePort s :=
  h.invariant (.of_shut rfl) fun _ _ _ hI hg hs => hI.step hg hs

/-- A transfer without an open acceptor is answered 503. -/
theorem fetchPassiveConnection_shut (h : s.acceptor.isOpen = false) :
    fetchPassiveConnection cfg op s = .ok (some op,
      s.pushMessage op.id ⟨Response.getCodeString .invalidSeq, none⟩) := by
  have ht : Act.Triple (· = s) (fetchPassiveConnection cfg op) (fun rest s' => rest = some op ∧
      s' = s.pushMessage op.id ⟨Response.getCodeString .invalidSeq, none⟩) (fun _ => False) := by
    refine fetchPassiveConnection_triple.post ?_
    rintro rest s' (⟨ho, _⟩ | ⟨_, hr⟩)
    · rw [h] at ho
      cases ho
    · exact hr
  have hx := ht s rfl
  cases hr : fetchPassiveConnection cfg op s with
  | error f =>
    rw [hr] at hx
    exact hx.elim
  | ok x =>
    rw [hr] at hx
    obtain ⟨rest, s'⟩ := x
    rw [hx.1, hx.2]

/-- **The passive port**, in every run in which no PASV fails to bind: the acceptor is open
    exactly when it listens on the port announced last and no connection was stored since. A
    PASV answered 550 leaves it closed, and where it is closed a transfer is answered 503. -/
theorem passive_port {home : Path} {c₀ : UInt32} {now : Int}
    (h : Reach (step cfg) (WhenRun portBound) (St.init cfg home c₀ now) s) :
    (s.acceptor.isOpen = true ↔
      ∃ p, s.acceptor.listening = some p ∧ s.announcedPort = some p) ∧
    (∀ i os s' b, WhenRun portBound s (.run i os) → step cfg s (.run i os) = .ok s' →
      s.handlers[i]? = some ⟨.read, some .ok⟩ → s.verified = true →
      s.nextKind = some .passiveMode → .reply s.nextId b ∈ s'.log → b.code = .nopermFilefatal →
      s'.acceptor.isOpen = false) ∧
    (s.acceptor.isOpen = false → ∀ op, fetchPassiveConnection cfg op s = .ok (some op,
      s.pushMessage op.id ⟨Response.getCodeString .invalidSeq, none⟩)) := by
  have hI := passivePort_reach h
  refine ⟨⟨hI.listening, ?_⟩, ?_, fun hs _ => fetchPassiveConnection_shut hs⟩
  · rintro ⟨p, hp, -⟩
    by_contra ho
    cases (hI.shut (eq_false_of_ne_true ho)).symm.trans hp
  · intro i os s' b hg hs hi hv hk hm hc
    obtain ⟨s₁, hd, rfl⟩ := step_read hs hi
    obtain ⟨req, hl, hkr⟩ := Option.bind_eq_some_iff.mp hk
    have h0 : PassivePort (s.takeHandler i).neverExpire := hI.congr rfl rfl
    have h1 := hd.passive hl hv hkr (hg.at hi rfl rfl hv hk) h0
    refine (h1.denied b hm hc).resolve_left fun hold => ?_
    -- the number is fresh: nothing was logged for it before
    exact Nat.lt_irrefl _ ((ops_reach h).log _ hold s.nextId rfl)

end

/-- A PASV is answered: the port it announces is listened on. -/
theorem passive_port_announced : ∃ s : St,
    runAll (step .shipped) .fresh (withPort "NOOP\r\n".toList) = .ok s ∧
    s.acceptor.isOpen = true ∧
      ∃ p, s.acceptor.listening = some p ∧ s.announcedPort = some p := by
  have reached : ∀ s : St, runAll (step .shipped) .fresh (withPort "NOOP\r\n".toList) = .ok s →
      Reach (step .shipped) (WhenRun portBound) .fresh s := fun s =>
    reach_runAll _ .start (by decide)
  exact ⟨_, rfl, by decide, (passive_port (reached _ rfl)).1.mp (by decide)⟩

/-- **A PASV that cannot bind** leaves the acceptor open, listening on nothing. -/
theorem bind_fails_acceptor_open : ¬ ∀ (cfg : Config) (home : Path) (c₀ : UInt32) (now : Int) (s : St),
    Reach (step cfg) (fun _ _ => True) (St.init cfg home c₀ now) s →
    (s.acceptor.isOpen = true ↔
      ∃ p, s.acceptor.listening = some p ∧ s.announcedPort = some p) := by
  intro h
  have reached : ∀ s : St,
      runAll (step .shipped) .fresh (login "PASV\r\n".toList ++ [.run 2 { bind := none }]) = .ok s →
      Reach (step .shipped) (fun _ _ => True) .fresh s := fun s =>
    reach_runAll _ .start (by decide)
  obtain ⟨p, hp, -⟩ := (h _ _ _ _ _ (reached _ rfl)).mp (by decide)
  cases hp

end OrangeFtpd
