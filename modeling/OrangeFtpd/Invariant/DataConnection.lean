/-
  File:      OrangeFtpd/Invariant/DataConnection.lean
  Subject:   Whose data connection is in the session's one slot.

  Every transfer uses `context_->data_socket()`, whatever is in it. The invariant
  `Slot` says that the slot holds the connection of the transfer that is going to
  use it: the one its own accept stored. An accept that stores its connection
  while another transfer still has to use the slot breaks it; nothing else does.
-/
import OrangeFtpd.Invariant.Operations

namespace OrangeFtpd

/-! ## 1. Definitions -/

/-- The request whose operation uses or clears the data socket when the handler runs. A
    readiness wait that failed does neither. -/
def user? : Pending Task Result → Option Nat
  | ⟨.limiter op, _⟩ | ⟨.listWrite op _, _⟩ => some op.id
  | ⟨.dataWait _ _, some (.err _)⟩ => none
  | ⟨.dataWait op _, _⟩ => some op.id
  | _ => none

/-- The connection an accept handed over, until its handler runs. -/
def accepted? : Pending Task Result → Option ConnId
  | ⟨_, some (.conn c)⟩ => some c
  | _ => none

def Obs.stored? : Obs → Option ConnId
  | .stored _ c => some c
  | _ => none

/-- An entry that is not about data connections. -/
def Obs.isPlain : Obs → Bool
  | .stored _ _ | .touch _ _ | .payload _ _ _ => false
  | _ => true

/-- The handler is going to use or clear the data socket, whatever is done to it before. An
    outstanding readiness wait ends with an error where the data socket is replaced. -/
def isBound : Pending Task Result → Bool
  | ⟨.limiter _, _⟩ | ⟨.listWrite _ _, _⟩ => true
  | ⟨.dataWait _ _, none⟩ | ⟨.dataWait _ _, some (.err _)⟩ => false
  | ⟨.dataWait _ _, some _⟩ => true
  | _ => false

def Result.isConn : Result → Bool
  | .conn _ => true
  | _ => false

namespace St

/-- No transfer still has to use the data socket. -/
def SlotFree (s : St) : Prop := s.queuedOps = [] ∧ ∀ h ∈ s.handlers, isBound h = false

/-- The operation of the request `id` is going to use or clear the data socket. -/
def Uses (s : St) (id : Nat) : Prop :=
  (∃ h ∈ s.handlers, user? h = some id) ∨ ∃ op ∈ s.queuedOps, op.id = id

/-- The data socket is the one that the accept of the request `id` stored. -/
def Holds (s : St) (id : Nat) : Prop := ∃ d, s.dataSocket = some d ∧ .stored id d.conn ∈ s.log

/-- The connections accepted so far, each once: still with their accept, or stored. -/
def acceptedConns (s : St) : List ConnId :=
  s.handlers.filterMap accepted? ++ s.log.filterMap Obs.stored?

end St

/-- The runs in which an accept stores its connection only in a free slot. -/
def storesInFreeSlot (s : St) (_ : Os) (_ : Task) (r : Result) : Prop :=
  r.isConn = true → s.SlotFree

instance (s : St) (os : Os) (t : Task) (r : Result) : Decidable (storesInFreeSlot s os t r) :=
  inferInstanceAs (Decidable (r.isConn = true →
    s.queuedOps = [] ∧ ∀ h ∈ s.handlers, isBound h = false))

/-- What is used is one's own: the data socket is there and stored by one's own accept. -/
def UsesOwn (before : List Obs) : Obs → Prop
  | .touch id slot => ∃ c, slot = some c ∧ .stored id c ∈ before
  | .payload id c _ => .stored id c ∈ before
  | _ => True

/-- **The slot belongs to its user.** `hand`: the request whose operation the running
    handler holds, where that uses the slot. -/
structure Slot (hand : List Nat) (s : St) : Prop where
  owned : ∀ id, id ∈ hand ∨ s.Uses id → s.Holds id
  /-- An outstanding readiness wait is on the open data socket. -/
  waits : ∀ op c, ⟨.dataWait op c, none⟩ ∈ s.handlers → s.dataSocket = some ⟨c, true⟩
  nodup : s.acceptedConns.Nodup
  bound : ∀ c ∈ s.acceptedConns, c < s.conns.length
  log : Always UsesOwn s.log

/-! ## 2. Changes that do not concern data connections -/

/-- The pool has got no new user of the data socket and no new connection. -/
structure PoolCalm (p q : Pool Task Result) : Prop where
  users : ∀ h ∈ q, ∀ id, user? h = some id → ∃ g ∈ p, user? g = some id
  waits : ∀ op c, ⟨.dataWait op c, none⟩ ∈ q → ⟨.dataWait op c, none⟩ ∈ p
  accepted : q.filterMap accepted? = p.filterMap accepted?

/-- **A change that does not concern data connections.** -/
structure Calm (s s' : St) : Prop where
  dataSocket : s'.dataSocket = s.dataSocket
  pool : PoolCalm s.handlers s'.handlers
  queued : ∀ op ∈ s'.queuedOps, op ∈ s.queuedOps
  conns : s'.conns = s.conns
  log : ∃ new, s'.log = new ++ s.log ∧ ∀ o ∈ new, o.isPlain = true

section

variable {cfg : Config} {os : Os} {hand : List Nat} {id n i : Nat} {s s₁ s' : St} {op op' : Op}
  {t : Task} {r : Result} {p q : Pool Task Result} {d : DataSocket} {o : Obs} {c₀ : UInt32}
  {m : List Message}

theorem PoolCalm.refl : PoolCalm p p :=
  ⟨fun h hm _ hu => ⟨h, hm, hu⟩, fun _ _ h => h, rfl⟩

theorem PoolCalm.trans {p' : Pool Task Result} (h : PoolCalm p p') (h' : PoolCalm p' q) :
    PoolCalm p q where
  users x hm id hu := by
    obtain ⟨g, hg, hu'⟩ := h'.users x hm id hu
    exact h.users g hg id hu'
  waits op c hm := h.waits op c (h'.waits op c hm)
  accepted := h'.accepted.trans h.accepted

/-- Operations complete with `r`, which makes no user and no connection. -/
theorem PoolCalm.complete {sel : Task → Bool} (hr : ∀ t, accepted? ⟨t, some r⟩ = none)
    (hu : ∀ t id, sel t = true → user? ⟨t, some r⟩ = some id → user? ⟨t, none⟩ = some id) :
    PoolCalm p (p.cancel sel r) where
  users h hm id hu' := by
    rcases Pool.mem_cancel hm with ⟨h1, _⟩ | ⟨h1, h2, h3⟩
    · exact ⟨h, h1, hu'⟩
    · obtain ⟨t, q⟩ := h
      cases h1
      exact ⟨_, h3, hu t id h2 hu'⟩
  waits op c hm := by
    rcases Pool.mem_cancel hm with ⟨h1, _⟩ | ⟨h1, _⟩
    · exact h1
    · cases h1
  accepted := by
    unfold Pool.cancel
    rw [List.filterMap_map]
    refine List.filterMap_congr fun h _ => ?_
    rw [Function.comp_apply]
    split
    · next hc =>
      rw [Bool.and_eq_true, Option.isNone_iff_eq_none] at hc
      obtain ⟨t, q⟩ := h
      cases hc.1
      exact hr t
    · rfl

/-- Cancelling lets users go and makes none. -/
theorem PoolCalm.cancel (sel : Task → Bool) (ec : ErrorCode) :
    PoolCalm p (p.cancel sel (.err ec)) := by
  refine .complete (fun _ => rfl) fun t id _ hu => ?_
  cases t <;> first | exact hu | cases hu

/-- A handler is started that does not use the data socket. -/
theorem PoolCalm.append {x : Option Result} (hu : user? ⟨t, x⟩ = none)
    (ha : accepted? ⟨t, x⟩ = none) : PoolCalm p (p ++ [⟨t, x⟩]) where
  users h hm id hu' := by
    rcases List.mem_append.mp hm with hm | hm
    · exact ⟨h, hm, hu'⟩
    · rw [List.mem_singleton.mp hm, hu] at hu'
      cases hu'
  waits op c hm := by
    rcases List.mem_append.mp hm with hm | hm
    · exact hm
    · cases List.mem_singleton.mp hm
      cases hu
  accepted := by
    rw [List.filterMap_append, List.filterMap_cons, ha]
    exact List.append_nil _

namespace Calm

theorem refl : Calm s s := ⟨rfl, .refl, fun _ h => h, rfl, [], rfl, by simp⟩

theorem trans {s₂ : St} (h : Calm s s₁) (h' : Calm s₁ s₂) : Calm s s₂ where
  dataSocket := h'.dataSocket.trans h.dataSocket
  pool := h.pool.trans h'.pool
  queued op ho := h.queued op (h'.queued op ho)
  conns := h'.conns.trans h.conns
  log := by
    obtain ⟨new, hl, hn⟩ := h.log
    obtain ⟨new', hl', hn'⟩ := h'.log
    refine ⟨new' ++ new, by rw [hl', hl, List.append_assoc], fun o ho => ?_⟩
    rcases List.mem_append.mp ho with ho | ho
    · exact hn' o ho
    · exact hn o ho

/-- A change of the pool alone, and of what no transfer looks at. -/
theorem of_pool (hp : PoolCalm s.handlers s'.handlers) (hd : s'.dataSocket = s.dataSocket)
    (hq : s'.messageQueue = s.messageQueue) (hc : s'.conns = s.conns) (hl : s'.log = s.log) :
    Calm s s' := by
  refine ⟨hd, hp, fun op ho => ?_, hc, [], hl, by simp⟩
  unfold St.queuedOps at ho ⊢
  rwa [hq] at ho

theorem of_same (hh : s'.handlers = s.handlers) (hd : s'.dataSocket = s.dataSocket)
    (hq : s'.messageQueue = s.messageQueue) (hc : s'.conns = s.conns) (hl : s'.log = s.log) :
    Calm s s' := of_pool (hh ▸ .refl) hd hq hc hl

theorem emit (ho : o.isPlain = true) : Calm s (s.emit o) :=
  ⟨rfl, .refl, fun _ h => h, rfl, [o], rfl, List.forall_mem_singleton.mpr ho⟩

theorem restartIdleTimer : Calm s (s.restartIdleTimer cfg) := by
  refine of_pool ?_ (by simp) (by simp) (by simp) (by simp)
  rw [St.restartIdleTimer_handlers]
  split
  · exact .refl
  · exact .cancel ..

theorem basicOpDestructor : Calm s (s.basicOpDestructor cfg) := by
  have h0 : Calm s { s with activeOpNum := s.activeOpNum - 1 } := of_same rfl rfl rfl rfl rfl
  exact h0.trans restartIdleTimer

theorem updateIdleTimer : Calm s (s.updateIdleTimer cfg) := of_pool (.cancel ..) rfl rfl rfl rfl

theorem neverExpire : Calm s s.neverExpire := of_pool (.cancel ..) rfl rfl rfl rfl

theorem closeAcceptor : Calm s s.closeAcceptor := of_pool (.cancel ..) rfl rfl rfl rfl

theorem close : Calm s s.close :=
  ⟨rfl, (PoolCalm.cancel ..).trans (.cancel ..), fun _ h => h, rfl, [.closed], rfl,
    List.forall_mem_singleton.mpr rfl⟩

/-- A handler of the session is started. -/
theorem startWith {x : Option Result} (ht : t.op? = none) (ha : accepted? ⟨t, x⟩ = none) :
    Calm s (s.startWith t x) := by
  refine of_pool (.append ?_ ha) rfl rfl rfl rfl
  cases t <;> first | rfl | cases ht

theorem startAccept : Calm s (s.start (.accept op)) :=
  of_pool (.append rfl rfl) rfl rfl rfl rfl

theorem doRead : Calm s s.doRead := by
  refine startWith rfl ?_
  split
  · split <;> rfl
  · rfl

theorem push {b : SharedConstBuffer} : Calm s (s.pushMessage id ⟨b, none⟩) := by
  refine ⟨rfl, ?_, fun op ho => ?_, rfl,
    (if s.messageQueue.isEmpty then [.ctlStarted b] else []) ++ [.reply id b], ?_, ?_⟩
  · rw [St.pushMessage_handlers]
    split
    · refine .append rfl ?_
      split <;> rfl
    · rw [List.append_nil]
      exact .refl
  · unfold St.queuedOps at ho ⊢
    rw [St.pushMessage_messageQueue, List.filterMap_append] at ho
    simpa using ho
  · rw [St.pushMessage_log, List.append_assoc]
    rfl
  · intro o ho
    rcases List.mem_append.mp ho with ho | ho
    · split at ho
      · rw [List.mem_singleton.mp ho]
        rfl
      · cases ho
    · rw [List.mem_singleton.mp ho]
      rfl

theorem withQueue (hq : ∀ op ∈ (s.withQueue m).queuedOps, op ∈ s.queuedOps) :
    Calm s (s.withQueue m) := ⟨rfl, .refl, hq, rfl, [], rfl, by simp⟩

theorem startWrite {b : SharedConstBuffer} : Calm s (s.startWrite b) := by
  refine (emit (o := .ctlStarted b) rfl).trans (startWith rfl ?_)
  split <;> rfl

theorem receive (chunk : Text) : Calm s (s.receive chunk) := by
  refine of_pool ?_ rfl rfl rfl rfl
  rw [St.receive_handlers]
  split
  · refine .complete (fun _ => rfl) fun t id ht hu => ?_
    rw [eq_of_beq ht] at hu
    cases hu
  · exact .refl

theorem note (h : Note cfg id o) : o.isPlain = true := by cases h <;> rfl

theorem prelude (h : Prelude cfg id s s₁) : Calm s s₁ := by
  refine ⟨h.dataSocket, ?_, fun op ho => ?_, h.conns, ?_⟩
  · rcases h.handlers with e | e
    · rw [e]
      exact .refl
    · rw [e]
      exact .cancel ..
  · unfold St.queuedOps at ho ⊢
    rwa [h.messageQueue] at ho
  · obtain ⟨new, hl, hn⟩ := h.log
    exact ⟨new, hl, fun o ho => note (hn o ho)⟩

theorem uploaded (h : Uploaded os id s op s₁) : Calm s s₁ := by
  obtain ⟨p, path, created, rfl⟩ := h.state
  have h0 : Calm s s.basicOp := of_same rfl rfl rfl rfl rfl
  have h1 := (h0.trans (@emit _ (.target id p) rfl)).trans
    (@emit _ (.fs id (.opened op.file path created)) rfl)
  dsimp only
  split
  · exact h1
  · exact h1.trans push

end Calm

/-! ## 3. What keeps the slot with its user -/

/-- Cancelling what is on the data socket leaves no outstanding readiness wait. -/
theorem no_wait_of_cancel {c : ConnId} {ec : ErrorCode}
    (hw : ∀ op c, ⟨.dataWait op c, none⟩ ∈ s.handlers → s.dataSocket = some ⟨c, true⟩) :
    ⟨.dataWait op c, none⟩ ∉ s.handlers.cancel s.onDataSocket (.err ec) := by
  intro hm
  rcases Pool.mem_cancel hm with ⟨h1, h2⟩ | ⟨h1, _⟩
  · have hs := h2 rfl
    unfold St.onDataSocket at hs
    rw [hw op c h1] at hs
    simp [Task.onConn] at hs
  · cases h1

namespace Slot

theorem calm (h : Slot hand s) (hc : Calm s s') : Slot hand s' := by
  obtain ⟨new, hl, hn⟩ := hc.log
  have hacc : s'.acceptedConns = s.acceptedConns := by
    unfold St.acceptedConns
    have hnew : new.filterMap Obs.stored? = [] := by
      refine List.filterMap_eq_nil_iff.mpr fun o ho => ?_
      have hp := hn o ho
      cases o <;> first | rfl | cases hp
    rw [hc.pool.accepted, hl, List.filterMap_append, hnew, List.nil_append]
  refine ⟨fun id hid => ?_, fun op c hm => ?_, hacc ▸ h.nodup, ?_, ?_⟩
  · have hu : id ∈ hand ∨ s.Uses id := by
      rcases hid with hid | ⟨x, hx, hu⟩ | ⟨op, ho, rfl⟩
      · exact Or.inl hid
      · exact Or.inr (Or.inl (hc.pool.users x hx id hu))
      · exact Or.inr (Or.inr ⟨op, hc.queued op ho, rfl⟩)
    obtain ⟨d, hd, hs⟩ := h.owned id hu
    refine ⟨d, hc.dataSocket.trans hd, ?_⟩
    rw [hl]
    exact List.mem_append_right _ hs
  · rw [hc.dataSocket]
    exact h.waits op c (hc.pool.waits op c hm)
  · rw [hacc, hc.conns]
    exact h.bound
  · rw [hl]
    refine h.log.append fun o ho pre => ?_
    have hp := hn o ho
    cases o <;> trivial

theorem drop (h : Slot hand s) : Slot [] s :=
  ⟨fun id hid => h.owned id (hid.imp_left nofun), h.waits, h.nodup, h.bound, h.log⟩

theorem add (h : Slot hand s) (hu : s.Uses id) : Slot [id] s :=
  ⟨fun j hj => h.owned j (Or.inr (hj.elim (fun hj => List.mem_singleton.mp hj ▸ hu) fun hj => hj)),
    h.waits, h.nodup, h.bound, h.log⟩

theorem holds (h : Slot [id] s) (hd : s.dataSocket = some d) : .stored id d.conn ∈ s.log := by
  obtain ⟨d', hd', hs⟩ := h.owned id (Or.inl (List.mem_singleton_self id))
  rw [hd] at hd'
  cases hd'
  exact hs

/-- An entry about the user's own connection. -/
theorem emit (h : Slot hand s) (ho : UsesOwn s.log o) (hn : o.stored? = none) :
    Slot hand (s.emit o) := by
  have hacc : (s.emit o).acceptedConns = s.acceptedConns := by
    unfold St.acceptedConns
    rw [St.emit_log, List.filterMap_cons, hn]
    rfl
  refine ⟨fun id hid => ?_, h.waits, hacc ▸ h.nodup, hacc ▸ h.bound, ho, h.log⟩
  obtain ⟨d, hd, hs⟩ := h.owned id hid
  exact ⟨d, hd, List.mem_cons_of_mem _ hs⟩

theorem touch (h : Slot [op.id] s) (hd : s.dataSocket = some d) : Slot [op.id] (s.touchSlot op d) :=
  h.emit ⟨d.conn, rfl, h.holds hd⟩ rfl

theorem payload {x : Payload} (h : Slot [op.id] s) (hd : s.dataSocket = some d) :
    Slot [op.id] (s.emit (.payload op.id d.conn x)) := h.emit (h.holds hd) rfl

/-- The operation in hand is handed to a new handler. -/
theorem startWith {x : Option Result} (h : Slot [id] s) (hu : ∀ j, user? ⟨t, x⟩ = some j → j = id)
    (hw : ∀ op c, (⟨t, x⟩ : Pending Task Result) = ⟨.dataWait op c, none⟩ →
      s.dataSocket = some ⟨c, true⟩) (ha : accepted? ⟨t, x⟩ = none) :
    Slot [] (s.startWith t x) := by
  have hacc : (s.startWith t x).acceptedConns = s.acceptedConns := by
    unfold St.acceptedConns
    rw [St.startWith_handlers, List.filterMap_append, List.filterMap_cons, ha]
    exact congrArg (· ++ _) (List.append_nil _)
  refine ⟨fun j hj => ?_, fun op c hm => ?_, hacc ▸ h.nodup, hacc ▸ h.bound, h.log⟩
  · have hj' : j ∈ [id] ∨ s.Uses j := by
      rcases hj with hj | ⟨g, hg, hj⟩ | hj
      · cases hj
      · rcases List.mem_append.mp hg with hg | hg
        · exact Or.inr (Or.inl ⟨g, hg, hj⟩)
        · rw [List.mem_singleton.mp hg] at hj
          exact Or.inl (List.mem_singleton.mpr (hu j hj))
      · exact Or.inr (Or.inr hj)
    exact h.owned j hj'
  · rcases List.mem_append.mp hm with hm | hm
    · exact h.waits op c hm
    · exact hw op c (List.mem_singleton.mp hm).symm

theorem waitData (h : Slot [id] s) (hd : s.dataSocket = some d) (hid : op.id = id) :
    Slot [] (s.waitData op d) := by
  subst hid
  refine (h.touch hd).startWith ?_ ?_ ?_
  · cases d.isOpen
    · nofun
    · exact fun j hj => (Option.some.inj hj).symm
  · intro op' c he
    obtain ⟨c', o⟩ := d
    cases o
    · cases he
    · cases he
      exact hd
  · cases d.isOpen <;> rfl

/-- The data socket is closed: its waits end, and it stays where it is. -/
theorem closeDataSocket (h : Slot hand s) : Slot hand s.closeDataSocket := by
  have hp : PoolCalm s.handlers s.closeDataSocket.handlers := .cancel ..
  have hacc : s.closeDataSocket.acceptedConns = s.acceptedConns := by
    unfold St.acceptedConns
    rw [hp.accepted]
    rfl
  refine ⟨fun id hid => ?_, fun op c hm => ?_, hacc ▸ h.nodup, hacc ▸ h.bound, h.log⟩
  · have hu : id ∈ hand ∨ s.Uses id := by
      rcases hid with hid | ⟨x, hx, hu⟩ | hid
      · exact Or.inl hid
      · exact Or.inr (Or.inl (hp.users x hx id hu))
      · exact Or.inr (Or.inr hid)
    obtain ⟨d, hd, hs⟩ := h.owned id hu
    refine ⟨{ d with isOpen := false }, ?_, hs⟩
    rw [St.closeDataSocket_dataSocket, hd]
    rfl
  · exact absurd hm (no_wait_of_cancel h.waits)

theorem destroyOp (h : Slot hand s) : Slot hand (s.destroyOp cfg op) := by
  have h1 : Slot hand ((if op.kind.isTransfer then s.closeDataSocket else s).emit (.over op.id)) := by
    refine Slot.calm ?_ (.emit rfl)
    split
    · exact h.closeDataSocket
    · exact h
  exact h1.calm .basicOpDestructor

/-- The token of a queued message takes the operation in hand. -/
theorem pushToken {b : SharedConstBuffer} {tok : Token} (h : Slot [tok.op.id] s) :
    Slot [] (s.pushMessage tok.op.id ⟨b, some tok⟩) := by
  -- as with a message without token, but for the operation
  have h1 : Slot [tok.op.id] (s.pushMessage tok.op.id ⟨b, none⟩) := h.calm .push
  refine ⟨fun j hj => ?_, h1.waits, h1.nodup, h1.bound, h1.log⟩
  refine h1.owned j ?_
  rcases hj with hj | hj | ⟨op, ho, hj⟩
  · cases hj
  · exact Or.inr (Or.inl hj)
  · unfold St.queuedOps at ho
    rw [St.pushMessage_messageQueue, List.filterMap_append] at ho
    rcases List.mem_append.mp ho with ho | ho
    · refine Or.inr (Or.inr ⟨op, ?_, hj⟩)
      unfold St.queuedOps
      rw [St.pushMessage_messageQueue, List.filterMap_append]
      exact List.mem_append_left _ ho
    · rw [← hj, List.mem_singleton.mp ho]
      exact Or.inl (List.mem_singleton_self _)

theorem uses_live {j : Nat} (h : s.Uses j) : j ∈ s.liveIds := by
  unfold St.liveIds St.liveOps
  rw [List.map_append]
  rcases h with ⟨g, hg, hj⟩ | ⟨op, ho, rfl⟩
  · have hop : ∃ op, g.task.op? = some op ∧ op.id = j := by
      obtain ⟨t, x⟩ := g
      cases t with
      | limiter op => exact ⟨op, rfl, Option.some.inj hj⟩
      | listWrite op c => exact ⟨op, rfl, Option.some.inj hj⟩
      | dataWait op c =>
        refine ⟨op, rfl, ?_⟩
        rcases x with _ | _ | _ | _ <;> first | exact Option.some.inj hj | cases hj
      | banner => cases hj
      | read => cases hj
      | idleWait => cases hj
      | keepAlive => cases hj
      | ctlWrite => cases hj
      | accept op => cases hj
    obtain ⟨op, ho, rfl⟩ := hop
    refine List.mem_append_left _ (List.mem_map_of_mem ?_)
    exact List.mem_filterMap.mpr ⟨g.task, Pool.mem_tasks_of hg, ho⟩
  · exact List.mem_append_right _ (List.mem_map_of_mem ho)

/-- A connection is stored once. -/
theorem stored_unique {j k : Nat} {c : ConnId} : ∀ {log : List Obs},
    (log.filterMap Obs.stored?).Nodup → .stored j c ∈ log → .stored k c ∈ log → j = k
  | o :: log, hn, hj, hk => by
    have mem : ∀ {i}, Obs.stored i c ∈ log → c ∈ log.filterMap Obs.stored? := fun h =>
      List.mem_filterMap.mpr ⟨_, h, rfl⟩
    rcases List.mem_cons.mp hj with rfl | hj'
    · rcases List.mem_cons.mp hk with hk' | hk'
      · exact (Obs.stored.inj hk').1.symm
      · exact absurd (mem hk') (List.nodup_cons.mp hn).1
    · rcases List.mem_cons.mp hk with rfl | hk'
      · exact absurd (mem hj') (List.nodup_cons.mp hn).1
      · refine stored_unique ?_ hj' hk'
        rw [List.filterMap_cons] at hn
        split at hn
        · exact hn
        · exact (List.nodup_cons.mp hn).2

/-- The user clears the slot: nobody else uses it. -/
theorem clearDataSocket (h : Slot [id] s) (hn : id ∉ s.liveIds) : Slot [] s.clearDataSocket := by
  have hfree : ∀ j, ¬ s.Uses j := by
    intro j hj
    obtain ⟨d, hd, hs⟩ := h.owned j (Or.inr hj)
    have hnd := (List.nodup_append.mp h.nodup).2.1
    rw [stored_unique hnd hs (h.holds hd)] at hj
    exact hn (uses_live hj)
  have hp : PoolCalm s.handlers s.clearDataSocket.handlers := .cancel ..
  have hacc : s.clearDataSocket.acceptedConns = s.acceptedConns := by
    unfold St.acceptedConns
    rw [hp.accepted]
    rfl
  refine ⟨fun j hj => ?_, fun op c hm => ?_, hacc ▸ h.nodup, hacc ▸ h.bound, h.log⟩
  · rcases hj with hj | ⟨g, hg, hj⟩ | hj
    · cases hj
    · exact absurd (Or.inl (hp.users g hg j hj)) (hfree j)
    · exact absurd (Or.inr hj) (hfree j)
  · exact absurd hm (no_wait_of_cancel h.waits)

/-- A handler is taken out of the pool. -/
theorem take (h : Slot hand s) : Slot hand (s.takeHandler i) := by
  have hsub : (s.takeHandler i).acceptedConns.Sublist s.acceptedConns :=
    ((List.eraseIdx_sublist s.handlers i).filterMap accepted?).append_right _
  refine ⟨fun j hj => h.owned j (hj.imp_right fun hu => ?_), fun op c hm =>
    h.waits op c (Pool.mem_of_eraseIdx hm), h.nodup.sublist hsub, fun c hc =>
    h.bound c (hsub.subset hc), h.log⟩
  rcases hu with ⟨g, hg, hu⟩ | hu
  · exact Or.inl ⟨g, Pool.mem_of_eraseIdx hg, hu⟩
  · exact Or.inr hu

/-- The operation of a handler that uses the slot comes into the hand. -/
theorem takeUser (h : Slot [] s) (hi : s.handlers[i]? = some ⟨t, some r⟩)
    (hu : user? ⟨t, some r⟩ = some id) : Slot [id] (s.takeHandler i) :=
  (h.add (Or.inl ⟨_, List.mem_of_getElem? hi, hu⟩)).take

theorem user_of_some {j : Nat} (h : user? ⟨t, some r⟩ = some j) : user? ⟨t, none⟩ = some j := by
  cases t <;> first | exact h | (cases r <;> first | exact h | cases h)

/-- An accept hands over a new connection. -/
theorem complete (h : Slot [] s) (hi : s.handlers[i]? = some ⟨t, none⟩)
    (hc : canComplete s t r = true) : Slot [] (s.completeAt i r) := by
  have uses : ∀ j, (s.completeAt i r).Uses j → s.Uses j := by
    rintro j (⟨g, hg, hj⟩ | hj)
    · rcases Pool.mem_complete hg with h1 | ⟨h1, h2⟩
      · exact Or.inl ⟨g, h1, hj⟩
      · obtain ⟨u, x⟩ := g
        cases h1
        exact Or.inl ⟨_, List.mem_of_getElem? h2, user_of_some hj⟩
    · exact Or.inr hj
  have waits : ∀ op c, ⟨.dataWait op c, none⟩ ∈ (s.completeAt i r).handlers →
      s.dataSocket = some ⟨c, true⟩ := by
    intro op c hm
    rcases Pool.mem_complete hm with h1 | ⟨h1, _⟩
    · exact h.waits op c h1
    · cases h1
  have hp : (s.completeAt i r).acceptedConns.Perm
      ((accepted? ⟨t, some r⟩).toList ++ s.acceptedConns) := by
    have h1 := (Pool.perm_complete (r := r) hi).symm.filterMap accepted?
    have h2 := (Pool.perm_eraseIdx hi).filterMap accepted?
    have e : ∀ x, (⟨t, x⟩ :: s.handlers.eraseIdx i).filterMap accepted? =
        (accepted? ⟨t, x⟩).toList ++ (s.handlers.eraseIdx i).filterMap accepted? := by
      intro x
      rw [List.filterMap_cons]
      cases accepted? ⟨t, x⟩ <;> rfl
    rw [e] at h1 h2
    have h3 := (h1.trans (h2.append_left _)).append_right (s.log.filterMap Obs.stored?)
    rwa [List.append_assoc] at h3
  cases r with
  | conn c =>
    have hlen : c = s.conns.length := by
      cases t <;> simp [canComplete] at hc
      exact hc.2
    refine ⟨fun j hj => h.owned j (hj.imp_right (uses j)), waits, ?_, fun x hx => ?_, h.log⟩
    · rw [hp.nodup_iff]
      refine List.nodup_cons.mpr ⟨fun hm => ?_, h.nodup⟩
      exact Nat.lt_irrefl _ (hlen ▸ h.bound c hm)
    · show x < (s.conns ++ [({} : Conn)]).length
      rw [List.length_append]
      rcases List.mem_cons.mp (hp.mem_iff.mp hx) with rfl | hx
      · exact hlen ▸ Nat.lt_succ_self _
      · exact Nat.lt_succ_of_lt (h.bound x hx)
  | ok =>
    exact ⟨fun j hj => h.owned j (hj.imp_right (uses j)), waits, hp.nodup_iff.mpr h.nodup,
      fun x hx => h.bound x (hp.mem_iff.mp hx), h.log⟩
  | err ec =>
    exact ⟨fun j hj => h.owned j (hj.imp_right (uses j)), waits, hp.nodup_iff.mpr h.nodup,
      fun x hx => h.bound x (hp.mem_iff.mp hx), h.log⟩

theorem bound_of_user {g : Pending Task Result} {j : Nat} (h : user? g = some j) :
    isBound g = true ∨ ∃ op c, g = ⟨.dataWait op c, none⟩ := by
  obtain ⟨t, x⟩ := g
  cases t with
  | dataWait op c =>
    rcases x with _ | _ | _ | _
    · exact Or.inr ⟨op, c, rfl⟩
    · exact Or.inl rfl
    · exact Or.inl rfl
    · cases h
  | limiter op => exact Or.inl rfl
  | listWrite op c => exact Or.inl rfl
  | banner => cases h
  | read => cases h
  | idleWait => cases h
  | keepAlive => cases h
  | ctlWrite => cases h
  | accept op => cases h

theorem bound_of_cancel {sel : Task → Bool} {ec : ErrorCode}
    (h : ∀ g ∈ p, isBound g = false) : ∀ g ∈ p.cancel sel (.err ec), isBound g = false := by
  intro g hg
  rcases Pool.mem_cancel hg with ⟨h1, _⟩ | ⟨h1, _, h3⟩
  · exact h g h1
  · obtain ⟨t, x⟩ := g
    cases h1
    have hb := h _ h3
    cases t <;> first | rfl | exact hb

/-- **An accept stores its connection** in a free slot. -/
theorem store {c : ConnId} (h : Slot [] s) (hf : s.SlotFree)
    (hi : s.handlers[i]? = some ⟨.accept op, some (.conn c)⟩) :
    Slot [op.id] ((s.takeHandler i).storeConn op c) := by
  have hbound : ∀ g ∈ ((s.takeHandler i).storeConn op c).handlers, isBound g = false :=
    bound_of_cancel (bound_of_cancel fun g hg => hf.2 g (Pool.mem_of_eraseIdx hg))
  have hw : ∀ op c, ⟨.dataWait op c, none⟩ ∈ (s.takeHandler i).closeAcceptor.handlers →
      (s.takeHandler i).closeAcceptor.dataSocket = some ⟨c, true⟩ := by
    intro op c hm
    have hc : PoolCalm (s.handlers.eraseIdx i) (s.takeHandler i).closeAcceptor.handlers :=
      .cancel ..
    exact h.waits op c (Pool.mem_of_eraseIdx (hc.waits op c hm))
  have hfree : ∀ j, ¬ ((s.takeHandler i).storeConn op c).Uses j := by
    rintro j (⟨g, hg, hj⟩ | ⟨op', ho, _⟩)
    · rcases bound_of_user hj with hb | ⟨op', c', rfl⟩
      · rw [hbound g hg] at hb
        cases hb
      · exact no_wait_of_cancel hw hg
    · have ho' : op' ∈ s.queuedOps := ho
      rw [hf.1] at ho'
      cases ho'
  have hp : (((s.takeHandler i).storeConn op c).acceptedConns).Perm s.acceptedConns := by
    have h1 : ((s.takeHandler i).storeConn op c).handlers.filterMap accepted? =
        (s.handlers.eraseIdx i).filterMap accepted? :=
      ((PoolCalm.cancel _ _).accepted).trans (PoolCalm.cancel _ _).accepted
    have h2 := (Pool.perm_eraseIdx hi).filterMap accepted?
    unfold St.acceptedConns
    rw [h1]
    exact List.perm_middle.trans (h2.append_right _)
  refine ⟨fun j hj => ?_, fun op' c' hm => absurd hm (no_wait_of_cancel hw),
    hp.nodup_iff.mpr h.nodup, fun x hx => h.bound x (hp.mem_iff.mp hx), trivial, h.log⟩
  rcases hj with hj | hj
  · rw [List.mem_singleton.mp hj]
    exact ⟨⟨c, true⟩, rfl, List.mem_cons_self⟩
  · exact absurd hj (hfree j)

/-! ## 4. Preservation by a step -/

theorem began {kind : OpKind} (h : Slot [] s) (hs : Began cfg os id kind s s') : Slot [] s' := by
  have h0 : Slot [] s.basicOp := h.calm (.of_same rfl rfl rfl rfl rfl)
  cases hs with
  | answered op s₁ b hf hp hb => exact ((h0.calm (.prelude hp)).calm .push).destroyOp
  | silent op s₁ file hk hf hp ho => exact (h0.calm (.prelude hp)).destroyOp
  | waiting op s₁ hk hf ht hp ha => exact (h0.calm (.prelude hp)).calm .startAccept
  | uploadNull op s₂ hk hu hfd => exact (h.calm (.uploaded hu)).destroyOp
  | uploadRefused op s₂ hk hu hfd ha => exact ((h.calm (.uploaded hu)).calm .push).destroyOp
  | uploadWaiting op s₂ hk hu hfd ha => exact (h.calm (.uploaded hu)).calm .startAccept

theorem rearmIdle (h : Slot [] s) : Slot [] (s.rearmIdle cfg) := by
  unfold St.rearmIdle
  split
  · exact h
  · exact h.calm .updateIdleTimer

theorem line (h : Slot [] s) (hl : Line cfg os n s s') : Slot [] s' := by
  have take : ∀ req, Slot [] (s.takeLine n req) := fun req => h.calm (.of_same rfl rfl rfl rfl rfl)
  have number : ∀ req, Slot [] (s.takeLine n req).newRequest := fun req =>
    (take req).calm ⟨rfl, .refl, fun _ h => h, rfl, [_], rfl, List.forall_mem_singleton.mpr rfl⟩
  cases hl with
  | blank hw => exact (take {}).rearmIdle
  | refused req b hw hv hc hf => exact (((number req).calm .push).calm (.emit rfl)).rearmIdle
  | began req kind _ hw hk hs => exact (number req).began hs

/-- The token of a written message uses the slot for its operation. -/
theorem startToken {tok : Token} (h : Slot [tok.op.id] s) (hd : s.dataSocket = some d) :
    Slot [] (s.startToken d tok) := by
  cases tok with
  | doSendFile op => exact h.waitData hd rfl
  | doRecvFile op => exact h.waitData hd rfl
  | writeListing op response =>
    have h1 : Slot [op.id] ((s.touchSlot op d).emit (.payload op.id d.conn (.listing response))) :=
      (h.touch hd).payload hd
    refine h1.startWith (fun j hj => (Option.some.inj hj).symm) nofun ?_
    split <;> rfl

theorem tokenRun {m : Message} {rest : List Message} (h : Slot [] s) (hq : s.messageQueue = m :: rest)
    (ht : TokenRun s m.token s₁) : Slot [] s₁ := by
  have hu : ∀ tok, m.token = some tok → tok.op ∈ s.queuedOps := by
    intro tok hm
    unfold St.queuedOps
    rw [hq]
    exact List.mem_filterMap.mpr ⟨m, List.mem_cons_self, by rw [hm]; rfl⟩
  generalize m.token = x at ht hu
  cases ht with
  | none => exact h
  | some tok d hd =>
    have h1 : Slot [tok.op.id] (s.emit (.tokenRun tok.op.id)) :=
      (h.add (Or.inr ⟨tok.op, hu tok rfl, rfl⟩)).calm (.emit rfl)
    exact h1.startToken hd

theorem dropQueue (h : Slot [] s) : Slot [] (s.dropQueue cfg) := by
  have fold : ∀ (ops : List Op) (s : St), Slot [] s →
      Slot [] (ops.foldl (fun t op => t.destroyOp cfg op) s) := by
    intro ops
    induction ops with
    | nil => exact fun s h => h
    | cons op ops ih => exact fun s h => ih _ h.destroyOp
  exact fold _ _ (h.calm (.withQueue nofun))

theorem writeNext {rest : List Message} (h : Slot [] s)
    (hq : ∀ op ∈ (s.withQueue rest).queuedOps, op ∈ s.queuedOps) :
    Slot [] (s.writeNext cfg rest) := by
  have h1 : Slot [] (s.withQueue rest) := h.calm (.withQueue hq)
  cases rest with
  | nil => exact h1.calm .restartIdleTimer
  | cons m rest => exact h1.calm .startWrite

/-- A handler of the session. -/
theorem session (h : Slot [] s) (hh : SessionHandled cfg os t r s s₁) : Slot [] s₁ := by
  cases hh with
  | banner _ => exact ((h.calm .updateIdleTimer).calm .doRead).calm (.startWith rfl rfl)
  | bannerFailed _ _ hr => exact h
  | readEof _ h0 => exact h.calm .close
  | readEofBusy _ h0 => exact ((h.calm .close).calm .neverExpire).calm (.startWith rfl rfl)
  | readFailed _ _ hr hr' => exact h
  | readLine _ s₂ hl => exact ((h.calm .neverExpire).line hl).calm .doRead
  | idleStoped _ _ h0 => exact h
  | idleAgain _ _ h0 hx => exact h.calm (.startWith rfl rfl)
  | idleClose _ _ h0 hx => exact (h.calm (.emit rfl)).calm .close
  | keepAlive _ _ => exact h
  | writeFailed _ _ hr => exact (h.calm (.emit rfl)).dropQueue
  | written _ s₂ m rest hq ht =>
    have h1 : Slot [] (s.emit (.ctlDone true)) := h.calm (.emit rfl)
    refine (h1.tokenRun hq ht).writeNext fun op ho => ?_
    have hq₂ : s₂.messageQueue = m :: rest := (messageQueue_tokenRun ht).trans hq
    unfold St.queuedOps at ho ⊢
    rw [hq₂, List.filterMap_cons]
    split
    · exact ho
    · exact List.mem_cons_of_mem _ ho

/-- The splice loop reads from the user's connection only. -/
theorem spliced {s' : St} (h : Slot [op.id] s) (hd : s.dataSocket = some d)
    (hl : Spliced d s op s' op') : Slot [op.id] s' := by
  induction hl with
  | stop s op => exact h
  | turn s s' op op' n bytes hb hl ih =>
    have h0 : Slot [op.id] (RecvFileOp.takeInbox d.conn n s) := by
      refine ⟨h.owned, h.waits, h.nodup, fun c hc => ?_, h.log⟩
      unfold RecvFileOp.takeInbox
      rw [List.length_modify]
      exact h.bound c hc
    have h1 : Slot [op.id] ((RecvFileOp.takeInbox d.conn n s).emit
      (.payload op.id d.conn (.received bytes))) := h0.payload hd
    exact ih (h1.calm (.emit rfl)) hd

theorem liveIds_push {b : SharedConstBuffer} :
    (s.pushMessage id ⟨b, none⟩).liveIds = s.liveIds := by
  unfold St.liveIds
  rw [St.liveOps_pushMessage]
  exact congrArg _ (List.append_nil _)

theorem runCompletion (h : Slot [id] s) (hn : id ∉ s.liveIds) (hid : op.id = id) :
    Slot [] (s.runCompletion op) := by
  subst hid
  unfold St.runCompletion
  split
  · refine ((h.calm (.emit rfl)).calm .push).clearDataSocket ?_
    rw [liveIds_push]
    exact hn
  · exact h.drop

/-- A handler of an operation. -/
theorem operation (h : Slot [] s) (ho : Ops c₀ [] s) (hi : s.handlers[i]? = some ⟨t, some r⟩)
    (ht : t.op? = some op) (hf : storesInFreeSlot s os t r)
    (hh : OpHandled cfg os op t r (s.takeHandler i) s₁) : Slot [] s₁ := by
  have hn : op.id ∉ (s.takeHandler i).liveIds := by
    have h1 := (ho.take hi).nodup
    rw [ht] at h1
    exact (List.nodup_cons.mp h1).1
  have sender : SendWait op t → r = .ok → Slot [op.id] (s.takeHandler i) := by
    intro hw hr
    subst hr
    cases hw with
    | ready c hk => exact h.takeUser hi rfl
    | limiter => exact h.takeUser hi rfl
  cases hh with
  | acceptAborted _ ha => exact h.take.destroyOp
  | acceptFailed _ _ hr hr' => exact (h.take.calm .closeAcceptor).destroyOp
  | accepted c _ tok htok =>
    have h1 := h.store (hf rfl) hi
    have hid : tok.op = op := by
      rcases htok with ⟨_, rfl⟩ | ⟨_, rfl⟩ <;> rfl
    rw [← hid] at h1 ⊢
    exact h1.pushToken
  | listAccepted c _ response hl hs hr =>
    have h1 := (h.store (hf rfl) hi).calm (.emit (o := .target op.id s.currentPath) rfl)
    exact @pushToken _ _ (.writeListing op response) h1
  | waitFailed _ _ _ hr hw => exact h.take.destroyOp
  | sendFailed _ _ d hw hd ho hf => exact ((sender hw rfl).touch hd).drop.destroyOp
  | sendAgain _ _ d hw hd ho => exact ((sender hw rfl).touch hd).waitData hd rfl
  | sentMore op' _ _ d n hw hd ho hn hop hl =>
    exact (((sender hw rfl).touch hd).payload hd).waitData hd (hop ▸ rfl)
  | sentSlice op' _ _ d n hw hd ho hn hop hl =>
    subst hop
    refine (((sender hw rfl).touch hd).payload hd).startWith ?_ nofun rfl
    exact fun j hj => (Option.some.inj hj).symm
  | sentAll op' _ _ d n hw hd ho _ hop hl =>
    exact ((((sender hw rfl).touch hd).payload hd).runCompletion hn (hop ▸ rfl)).destroyOp
  | receivedAll c _ d hk hd ho he =>
    exact (((h.takeUser hi rfl).touch hd).runCompletion hn rfl).destroyOp
  | receiveFailed op' c _ s₂ d hk hd ho hf hl =>
    exact (((h.takeUser hi rfl).touch hd).spliced hd hl).drop.destroyOp
  | receiveAgain op' c _ s₂ d hk hd ho hl =>
    have h1 : Slot [op.id] s₂ := ((h.takeUser hi rfl).touch hd).spliced hd hl
    exact h1.waitData ((dataSocket_spliced hl).trans hd) hl.quiet.2
  | listed c _ _ =>
    have h1 : Slot [op.id] ((s.takeHandler i).emit (.listed op.id c (r == .ok))) :=
      (h.takeUser hi rfl).calm (.emit rfl)
    refine Slot.destroyOp (clearDataSocket ((h1.calm (.emit rfl)).calm .push) ?_)
    rw [liveIds_push]
    exact hn

/-- **A step** leaves the slot with its user. -/
theorem step {e : Ev} (hs : Stepped cfg s e s') (ho : Ops c₀ [] s)
    (hg : WhenRun storesInFreeSlot s e) (h : Slot [] s) : Slot [] s' := by
  have peer : ∀ (c : ConnId) (f : Conn → Conn) {o : Obs}, o.isPlain = true →
      Slot [] ((s.updateConn c f).emit o) := by
    intro c f o hp
    have h1 : Slot [] (s.updateConn c f) := by
      refine ⟨h.owned, h.waits, h.nodup, fun x hx => ?_, h.log⟩
      rw [St.updateConn_conns, List.length_modify]
      exact h.bound x hx
    exact h1.calm (.emit hp)
  cases hs with
  | clientSend chunk hr => exact h.calm (.receive chunk)
  | clientGone => exact h.calm (.of_same rfl rfl rfl rfl rfl)
  | peerSend c bytes hc hp => exact peer c _ rfl
  | peerShutdown c hc hp => exact peer c _ rfl
  | peerReset c hc => exact peer c _ rfl
  | tick ms => exact h.calm (.of_same rfl rfl rfl rfl rfl)
  | complete i r t hi hc => exact h.complete hi hc
  | run i os t r s₁ hi hh =>
    have h1 : Slot [] s₁ := by
      cases hh with
      | session hs => exact h.take.session hs
      | operation op ht hop => exact h.operation ho hi ht (hg.at hi) hop
    exact h1.calm (.of_same rfl rfl rfl rfl rfl)

/-- Where the slot belongs to its user, nobody finds it empty. -/
theorem not_null {e : Ev} (h : Slot [] s) : OrangeFtpd.step cfg s e ≠ .error .nullDataSocket := by
  intro he
  obtain ⟨hn, i, t, r, hi, hu⟩ := step_nullDataSocket he
  have used : ∀ {j}, s.Uses j → False := by
    intro j hj
    obtain ⟨d, hd, _⟩ := h.owned j (Or.inr hj)
    rw [hn] at hd
    cases hd
  have hm := List.mem_of_getElem? hi
  cases hu with
  | ready op c => exact used (Or.inl ⟨_, hm, rfl⟩)
  | limiter op => exact used (Or.inl ⟨_, hm, rfl⟩)
  | token m rest tok hq ht =>
    refine used (Or.inr ⟨tok.op, ?_, rfl⟩)
    unfold St.queuedOps
    rw [hq]
    exact List.mem_filterMap.mpr ⟨m, List.mem_cons_self, by rw [ht]; rfl⟩

/-- Payload goes to the connection that its operation stored. -/
theorem payload_stored {c : ConnId} {x : Payload} : ∀ {log : List Obs}, Always UsesOwn log →
    .payload id c x ∈ log → .stored id c ∈ log
  | o :: log, h, hm => by
    rcases List.mem_cons.mp hm with rfl | hm
    · exact List.mem_cons_of_mem _ h.1
    · exact List.mem_cons_of_mem _ (payload_stored h.2 hm)

end Slot

/-! ## 5. Runs -/

theorem slot_reach {home : Path} {now : Int}
    (h : Reach (step cfg) (WhenRun storesInFreeSlot) (St.init cfg home c₀ now) s) : Slot [] s := by
  refine h.invariant_of (J := Ops c₀ []) (fun s hs => ops_reach hs) ?_
    fun s e s' hJ hI hok hs => hI.step (step_cases hs) hJ hok
  refine ⟨?_, fun op c hm => ?_, List.nodup_nil, nofun, trivial, trivial⟩
  · rintro j (hj | ⟨g, hg, hj⟩ | ⟨op, ho, _⟩)
    · cases hj
    · rw [List.mem_singleton.mp hg] at hj
      cases hj
    · cases ho
  · cases List.mem_singleton.mp hm

/-- **Every transfer uses its own data connection**, in every run whose accepts store their
    connections in a free slot: what the transfer code touches is there and was stored by the
    accept of the same operation, no step finds the slot empty, and all payload on one
    connection belongs to one operation. -/
theorem data_connection_owned {home : Path} {now : Int}
    (h : Reach (step cfg) (WhenRun storesInFreeSlot) (St.init cfg home c₀ now) s) :
    Always (fun before o => ∀ id slot, o = .touch id slot →
      ∃ c, slot = some c ∧ .stored id c ∈ before) s.log ∧
    (∀ e, step cfg s e ≠ .error .nullDataSocket) ∧
    (∀ id id' c x x', .payload id c x ∈ s.log → .payload id' c x' ∈ s.log → id = id') := by
  have hI := slot_reach h
  refine ⟨hI.log.mono ?_, fun e => hI.not_null, fun id id' c x x' hx hx' => ?_⟩
  · rintro before o ho id slot rfl
    exact ho
  · have hn := (List.nodup_append.mp hI.nodup).2.1
    exact Slot.stored_unique hn (Slot.payload_stored hI.log hx) (Slot.payload_stored hI.log hx')

end

/-- One download at a time. -/
theorem data_connection_owned_download : ∃ s : St,
    runAll (step .shipped) .fresh download = .ok s ∧
    Always (fun before o => ∀ id slot, o = .touch id slot →
      ∃ c, slot = some c ∧ .stored id c ∈ before) s.log ∧
    (∀ e, step .shipped s e ≠ .error .nullDataSocket) ∧
    (∀ id id' c x x', .payload id c x ∈ s.log → .payload id' c x' ∈ s.log → id = id') := by
  have reached : ∀ s : St, runAll (step .shipped) .fresh download = .ok s →
      Reach (step .shipped) (WhenRun storesInFreeSlot) .fresh s := fun s =>
    reach_runAll download .start (by decide)
  exact ⟨_, rfl, data_connection_owned (reached _ rfl)⟩

/-- Between two slices of its download the client asks for another port and another file
    (request 5), and connects. -/
def overtaken : List Ev :=
  download ++ [.clientSend "PASV\r\nRETR b\r\n".toList, .run 1 { bind := some 1026 },
    .complete 2 .ok, .run 2 {}, .run 2 (regularFile 2 20000), .complete 2 (.conn 1), .run 2 {},
    .complete 1 .ok, .run 1 { sendfile := .sent 9760 }]

/-- **The rest of the first file goes to the connection of the second.** -/
theorem download_overtaken : ¬ ∀ (cfg : Config) (home : Path) (c₀ : UInt32) (now : Int) (s : St),
    Reach (step cfg) (fun _ _ => True) (St.init cfg home c₀ now) s →
    Always (fun before o => ∀ id slot, o = .touch id slot →
      ∃ c, slot = some c ∧ .stored id c ∈ before) s.log ∧
    (∀ e, step cfg s e ≠ .error .nullDataSocket) ∧
    (∀ id id' c x x', .payload id c x ∈ s.log → .payload id' c x' ∈ s.log → id = id') := by
  intro h
  obtain ⟨s, hs, new, before, hl, hn⟩ : ∃ s : St, runAll (step .shipped) .fresh overtaken = .ok s ∧
      ∃ new before, s.log = new ++ .touch 3 (some 1) :: before ∧ .stored 3 1 ∉ before :=
    ⟨_, rfl, [_, _, _, _], _, rfl, by decide⟩
  have hr : Reach (step .shipped) (fun _ _ => True) .fresh s :=
    reach_runAll overtaken .start (by decide) hs
  have hP := (h _ _ _ _ s hr).1
  rw [hl] at hP
  obtain ⟨c, hc, hst⟩ := hP.of_split 3 (some 1) rfl
  cases hc
  exact hn hst

/-! ## 6. Refused transfers -/

/-- A live transfer has stored the data socket, which is open. -/
def St.Transferring (s : St) (c : ConnId) : Prop :=
  s.dataSocket = some ⟨c, true⟩ ∧
    ∃ op ∈ s.liveOps, op.kind.isTransfer = true ∧ .stored op.id c ∈ s.log

/-- A request for another transfer is read and refused: its operation, which was handed no
    connection, is destroyed before the handler ends. -/
structure Refused (cfg : Config) (s : St) (i : Nat) (os : Os) (s' : St) : Prop where
  reads : s.handlers[i]? = some ⟨.read, some .ok⟩
  verified : s.verified = true
  request : ∃ req kind, buildRequest (splitWords (s.buf.take ((lineEnd s.buf).getD 0))) = some req ∧
    createKind req.command = some kind ∧ kind.isTransfer = true
  handled : step cfg s (.run i os) = .ok s'
  isOver : .over s.nextId ∈ s'.log

section

variable {cfg : Config} {os : Os} {id i : Nat} {s s₁ s' : St} {op : Op} {c₀ : UInt32}
  {kind : OpKind} {c : ConnId}

theorem not_over_push {b : SharedConstBuffer} (h : .over id ∉ s.log) :
    .over id ∉ (s.pushMessage id ⟨b, none⟩).log := by
  intro ho
  rcases log_push ho with h1 | h1 | h1
  · exact h h1
  · cases h1
  · cases h1

theorem Prelude.not_over (hp : Prelude cfg id s s₁) (h : .over id ∉ s.log) : .over id ∉ s₁.log := by
  obtain ⟨new, hl, hn⟩ := hp.log
  rw [hl]
  intro ho
  rcases List.mem_append.mp ho with ho | ho
  · cases hn _ ho
  · exact h ho

theorem Uploaded.not_over (hu : Uploaded os id s op s₁) (h : .over id ∉ s.log) :
    .over id ∉ s₁.log := by
  have h1 : ∀ p path created, .over id ∉ (((s.basicOp).emit (.target id p)).emit
      (.fs id (.opened op.file path created))).log := by
    intro p path created ho
    rcases List.mem_cons.mp ho with ho | ho
    · cases ho
    · rcases List.mem_cons.mp ho with ho | ho
      · cases ho
      · exact h ho
  obtain ⟨p, path, created, rfl⟩ := hu.state
  dsimp only
  split
  · exact h1 p path created
  · exact not_over_push (h1 p path created)

theorem Uploaded.dataSocket (hu : Uploaded os id s op s₁) : s₁.dataSocket = s.dataSocket := by
  obtain ⟨p, path, created, rfl⟩ := hu.state
  dsimp only
  split <;> simp

/-- The destructor of a transfer closes the data socket, whoever stored it. -/
theorem destroyOp_closes (hk : op.kind.isTransfer = true) (hd : s.dataSocket = some ⟨c, true⟩) :
    (s.destroyOp cfg op).dataSocket = some ⟨c, false⟩ := by
  rw [St.destroyOp_dataSocket, if_pos hk, St.closeDataSocket_dataSocket, hd]
  rfl

/-- **The creation of a transfer that is over at once** closes the data socket. -/
theorem Began.closes (hs : Began cfg os id kind s s') (hk : kind.isTransfer = true)
    (hd : s.dataSocket = some ⟨c, true⟩) (hl : .over id ∉ s.log) (ho : .over id ∈ s'.log) :
    s'.dataSocket = some ⟨c, false⟩ := by
  cases hs with
  | answered op s₁ b hf hp hb => exact destroyOp_closes (hf.kind ▸ hk) (hp.dataSocket.trans hd)
  | silent op s₁ file hk' hf hp hopen =>
    exact destroyOp_closes (hf.kind ▸ hk) (hp.dataSocket.trans hd)
  | waiting op s₁ hk' hf ht hp ha => exact absurd ho (hp.not_over hl)
  | uploadNull op s₂ hk' hu hfd =>
    exact destroyOp_closes (by rw [hu.fresh.kind]; rfl) (hu.dataSocket.trans hd)
  | uploadRefused op s₂ hk' hu hfd ha =>
    exact destroyOp_closes (by rw [hu.fresh.kind]; rfl) (hu.dataSocket.trans hd)
  | uploadWaiting op s₂ hk' hu hfd ha => exact absurd ho (hu.not_over hl)

/-- **A refused transfer always disturbs the running one**: it closes the data socket. -/
theorem refused_transfer_closes {home : Path} {now : Int}
    (h : Reach (step cfg) (fun _ _ => True) (St.init cfg home c₀ now) s) (ht : s.Transferring c)
    (hr : Refused cfg s i os s') : s'.dataSocket = some ⟨c, false⟩ := by
  obtain ⟨req, kind, hreq, hkind, htr⟩ := hr.request
  have hl : .over s.nextId ∉ s.log := fun ho =>
    Nat.lt_irrefl _ ((ops_reach h).log _ ho s.nextId rfl)
  obtain ⟨s₁, hh, rfl⟩ := step_run hr.handled hr.reads
  have ho : .over s.nextId ∈ s₁.log := hr.isOver
  cases hh with
  | operation op hop hh => cases hop
  | session hh =>
    cases hh with
    | readLine _ s₂ hline =>
      have hd : s₂.dataSocket = some ⟨c, false⟩ := by
        cases hline with
        | blank hb => cases hreq.symm.trans hb
        | refused req' b hb hv hc hf =>
          cases hreq.symm.trans hb
          cases hkind.symm.trans hc
        | began req' kind' _ hb hk hs =>
          cases hreq.symm.trans hb
          rcases hk with ⟨hv, _⟩ | ⟨_, hk⟩
          · cases hr.verified.symm.trans hv
          · cases hkind.symm.trans hk
            refine hs.closes htr ht.1 (fun ho' => ?_) ho
            rcases List.mem_cons.mp ho' with ho' | ho'
            · cases ho'
            · exact hl ho'
      exact hd
    | readFailed _ _ hr' _ => exact absurd rfl hr'

end

/-- During the download comes a `RETR` without a name. -/
def namelessDuringDownload : List Ev := download ++ [.clientSend "RETR\r\n".toList]

/-- The state before that request is read, and the one after. -/
theorem nameless_refused : ∃ s s' : St, Reach (step .shipped) (fun _ _ => True) .fresh s ∧
    s.Transferring 0 ∧ Refused .shipped s 1 {} s' ∧
    s'.dataSocket.map (fun d => d.isOpen) = some false := by
  have reached : ∀ s : St, runAll (step .shipped) .fresh namelessDuringDownload = .ok s →
      Reach (step .shipped) (fun _ _ => True) .fresh s := fun s =>
    reach_runAll namelessDuringDownload .start (by decide)
  exact ⟨_, _, reached _ rfl, ⟨rfl, _, List.mem_cons_self, rfl, by decide⟩,
    ⟨rfl, rfl, ⟨_, _, rfl, rfl, rfl⟩, rfl, by decide⟩, rfl⟩

theorem refused_transfer_closes_download : ∃ s s' : St,
    Reach (step .shipped) (fun _ _ => True) .fresh s ∧ s.Transferring 0 ∧
    Refused .shipped s 1 {} s' ∧ s'.dataSocket = some ⟨0, false⟩ := by
  obtain ⟨s, s', hs, ht, hr, -⟩ := nameless_refused
  exact ⟨s, s', hs, ht, hr, refused_transfer_closes hs ht hr⟩

/-- **A refused transfer does not leave the data socket alone.** -/
theorem refused_transfer_disturbs : ¬ ∀ (cfg : Config) (home : Path) (c₀ : UInt32) (now : Int)
    (s s' : St) (i : Nat) (os : Os) (c : ConnId),
    Reach (step cfg) (fun _ _ => True) (St.init cfg home c₀ now) s → s.Transferring c →
    Refused cfg s i os s' → s'.dataSocket = s.dataSocket := by
  intro h
  obtain ⟨s, s', hs, ht, hr, hcl⟩ := nameless_refused
  have hd : s'.dataSocket = some ⟨0, true⟩ := (h _ _ _ _ s s' 1 {} 0 hs ht hr).trans ht.1
  rw [hd] at hcl
  cases hcl

end OrangeFtpd
