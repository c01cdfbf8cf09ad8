/-
  File:      OrangeFtpd/Invariant/Acts.lean
  Subject:   One entry of the book: who wrote it.

  `TurnAct` are the acts that one turn of an operation can do, each by itself, and `ActOf`
  says for any entry of the log whether it was there before a step, or which request,
  operation, token or peer it is of. What is proved about one kind of entry is proved by
  cases on these.
-/
import OrangeFtpd.Invariant.Book

namespace OrangeFtpd

/-- The replies that were passed to `write_message` for the request `id`, newest first. -/
def St.repliesOf (s : St) (id : Nat) : List SharedConstBuffer :=
  s.log.filterMap fun
    | .reply i b => if i = id then some b else none
    | _ => none

/-! ## 1. The acts of a turn -/

/-- **One act of the operation `op`**, whose handler `t` runs with the result `r`. -/
inductive TurnAct (s : St) (op : Op) (t : Task) (r : Result) : Obs → Prop where
  | ended : TurnAct s op t r (.over op.id)
  | starting (c : ConnId) (ht : t = .accept op) (hr : r = .conn c) :
      TurnAct s op t r (.reply op.id (Response.getCodeString .dataConn))
  | stored (c : ConnId) (ht : t = .accept op) (hr : r = .conn c) : TurnAct s op t r (.stored op.id c)
  | target (c : ConnId) (ht : t = .accept op) (hr : r = .conn c) (hs : op.kind ≠ .sendFile)
      (hv : op.kind ≠ .recvFile) : TurnAct s op t r (.target op.id s.currentPath)
  | touch (c : ConnId) : TurnAct s op t r (.touch op.id (some c))
  | payload (c : ConnId) (p : Payload) : TurnAct s op t r (.payload op.id c p)
  | wrote (offset : Nat) (bytes : Bytes) (hk : op.kind = .recvFile) :
      TurnAct s op t r (.fs op.id (.wrote op.file offset bytes))
  | listed (c : ConnId) (ht : t = .listWrite op c) : TurnAct s op t r (.listed op.id c (r == .ok))
  | complete (op' : Op) (hid : op'.id = op.id) : TurnAct s op t r (.complete op')
  | done : TurnAct s op t r (.reply op.id (Response.getCodeString .transferComplete))

section

variable {cfg : Config} {os : Os} {id n i : Nat} {s s' : St} {op op' : Op} {e : Ev} {t : Task}
  {r : Result} {o : Obs} {d : DataSocket} {k k' : List Conn} {new : List Obs}
  {handed : Option (Phase × Op)} {kind : OpKind} {x : Phase × Op} {c₀ : UInt32}

theorem mem_acts (ho : o.isAct = true) : o ∈ s.acts ↔ o ∈ s.log := by
  unfold St.acts
  rw [List.mem_filter]
  exact and_iff_left ho

theorem mem_repliesOf {b : SharedConstBuffer} : b ∈ s.repliesOf id ↔ .reply id b ∈ s.log := by
  unfold St.repliesOf
  rw [List.mem_filterMap]
  constructor
  · rintro ⟨o, ho, h⟩
    cases o with
    | reply i b' =>
      dsimp only at h
      split at h
      · cases h
        next hi => exact hi ▸ ho
      · cases h
    | _ => cases h
  · exact fun h => ⟨_, h, if_pos rfl⟩

theorem Splices.same (h : Splices d k op new k' op') :
    op'.id = op.id ∧ op'.kind = op.kind ∧ op'.file = op.file := by
  induction h with
  | stop k op => exact ⟨rfl, rfl, rfl⟩
  | turn k k' op op' n bytes new hb h ih => exact ih

/-- The loop takes bytes from the connection and writes them to the file of its operation. -/
theorem Splices.act (h : Splices d k op new k' op') (hm : o ∈ new) :
    (∃ bytes, o = .payload op.id d.conn (.received bytes)) ∨
      ∃ offset bytes, o = .fs op.id (.wrote op.file offset bytes) := by
  induction h with
  | stop k op => cases hm
  | turn k k' op op' n bytes new hb h ih =>
    rcases List.mem_append.mp hm with h1 | h1
    · exact ih h1
    · rcases List.mem_pair.mp h1 with rfl | rfl
      · exact Or.inr ⟨_, _, rfl⟩
      · exact Or.inl ⟨_, rfl⟩

theorem completionActs_act (hid : op'.id = op.id) (hm : o ∈ completionActs op') :
    TurnAct s op t r o := by
  unfold completionActs at hm
  split at hm
  · rcases List.mem_pair.mp hm with rfl | rfl
    · rw [hid]
      exact .done
    · exact .complete op' hid
  · cases hm

/-- **What a turn does.** -/
theorem Turn.act (h : Turn cfg os s op t r new handed k) (hm : o ∈ new) : TurnAct s op t r o := by
  have spliced : ∀ {d : DataSocket} {k' : List Conn} {op' : Op} {new : List Obs},
      op.kind = .recvFile → Splices d s.conns op new k' op' → o ∈ new → TurnAct s op t r o := by
    intro d k' op' new hk hl hm
    rcases hl.act hm with ⟨bytes, rfl⟩ | ⟨offset, bytes, rfl⟩
    · exact .payload _ _
    · exact .wrote _ _ hk
  cases h with
  | unconnected r hr =>
    rw [List.mem_singleton.mp hm]
    exact .ended
  | accepted c hk =>
    rcases List.mem_pair.mp hm with rfl | rfl
    · exact .starting c rfl rfl
    · exact .stored c rfl rfl
  | listAccepted c response hl hs hr =>
    simp only [List.mem_cons, List.not_mem_nil, or_false] at hm
    rcases hm with rfl | rfl | rfl
    · exact .starting c rfl rfl
    · exact .target c rfl rfl hs hr
    · exact .stored c rfl rfl
  | waitFailed t r hr ht =>
    rw [List.mem_singleton.mp hm]
    exact .ended
  | sendFailed t d ht hd hf =>
    rcases List.mem_pair.mp hm with rfl | rfl
    · exact .ended
    · exact .touch _
  | sendAgain t d ht hd =>
    rcases List.mem_pair.mp hm with rfl | rfl <;> exact .touch _
  | sentPart op' t d n last ht hd hn hop hl hlast =>
    rcases List.mem_append.mp hm with h1 | h1
    · rcases hlast with rfl | rfl
      · cases h1
      · rw [List.mem_singleton.mp h1]
        exact .touch _
    · rcases List.mem_pair.mp h1 with rfl | rfl
      · exact .payload _ _
      · exact .touch _
  | sentAll op' t d n ht hd hn hop hl =>
    rcases List.mem_append.mp hm with h1 | h1
    · rcases List.mem_cons.mp h1 with rfl | h2
      · exact .ended
      · exact completionActs_act (hop ▸ rfl) h2
    · rcases List.mem_pair.mp h1 with rfl | rfl
      · exact .payload _ _
      · exact .touch _
  | receivedAll c d hk hd hi =>
    rcases List.mem_append.mp hm with h1 | h1
    · rcases List.mem_cons.mp h1 with rfl | h2
      · exact .ended
      · exact completionActs_act rfl h2
    · rw [List.mem_singleton.mp h1]
      exact .touch _
  | receiveFailed op' c d new k hk hd hf hl =>
    rcases List.mem_append.mp hm with h1 | h1
    · rcases List.mem_cons.mp h1 with rfl | h2
      · exact .ended
      · exact spliced hk hl h2
    · rw [List.mem_singleton.mp h1]
      exact .touch _
  | receiveAgain op' c d new k hk hd hl =>
    rcases List.mem_append.mp hm with h1 | h1
    · rcases List.mem_cons.mp h1 with rfl | h2
      · exact .touch _
      · exact spliced hk hl h2
    · rw [List.mem_singleton.mp h1]
      exact .touch _
  | listed c r =>
    simp only [List.mem_cons, List.not_mem_nil, or_false] at hm
    rcases hm with rfl | rfl | rfl | rfl
    · exact .ended
    · exact .done
    · exact .complete op rfl
    · exact .listed c rfl

/-! ## 2. The operations that go on -/

/-- The operation that is handed on is the one that had its turn. -/
theorem Turn.handedOn (h : Turn cfg os s op t r new handed k) (hx : handed = some x) :
    x.2.id = op.id ∧ x.2.kind = op.kind ∧ x.2.file = op.file := by
  cases h with
  | accepted c hk => cases hx; exact ⟨rfl, rfl, rfl⟩
  | listAccepted c response hl hs hr => cases hx; exact ⟨rfl, rfl, rfl⟩
  | sendAgain t d ht hd => cases hx; exact ⟨rfl, rfl, rfl⟩
  | sentPart op' t d n last ht hd hn hop hl hlast =>
    cases hx
    rw [hop]
    exact ⟨rfl, rfl, rfl⟩
  | receiveAgain op' c d new k hk hd hl => cases hx; exact hl.same
  | _ => cases hx

/-- The class of an operation that is launched and stays. -/
theorem Launch.handed_kind (h : Launch cfg os n kind s new handed) (hx : handed = some x) :
    x.2.id = n ∧ x.2.kind = kind ∧ kind ≠ .auth := by
  cases h with
  | waiting op notes hk hf ht hn =>
    cases hx
    refine ⟨hf.id, hf.kind, ?_⟩
    rcases hk with rfl | rfl <;> nofun
  | uploadWaiting op s₂ p path created hk hu hfd =>
    cases hx
    exact ⟨hu.fresh.id, hu.fresh.kind.trans hk.symm, hk ▸ nofun⟩
  | _ => cases hx

/-- The operation of a handler is among the live ones. -/
theorem staged_handler {q : Option Result} {ph : Phase} (hi : s.handlers[i]? = some ⟨t, q⟩)
    (hp : t.staged? = some (ph, op)) : (ph, op) ∈ s.staged :=
  mem_staged.mpr (Or.inl ⟨t, Pool.mem_tasks_of (List.mem_of_getElem? hi), hp⟩)

theorem staged_queued (h : op ∈ s.queuedOps) : (.running, op) ∈ s.staged :=
  mem_staged.mpr (Or.inr ⟨op, h, rfl⟩)

/-! ## 3. The acts of a step -/

/-- **Who wrote the entry `o`**, in the step that the event `e` makes from `s`. -/
inductive ActOf (cfg : Config) (s : St) (e : Ev) (o : Obs) : Prop where
  | old (h : o ∈ s.log)
  /-- The request that is handled, or its operation. -/
  | request (i : Nat) (os : Os) (req : FtpRequest) (he : e = .run i os) (hr : ReadsLine s i req)
      (hid : o.id? = some s.nextId)
  | turn (i : Nat) (os : Os) (t : Task) (r : Result) (ph : Phase) (op : Op) (he : e = .run i os)
      (hi : s.handlers[i]? = some ⟨t, some r⟩) (hp : t.staged? = some (ph, op))
      (ha : TurnAct s op t r o)
  | token (op : Op) (hop : op ∈ s.queuedOps)
      (ho : (∃ c, o = .touch op.id (some c)) ∨ ∃ c p, o = .payload op.id c p)
  | dropped (op : Op) (hop : op ∈ s.queuedOps) (ho : o = .over op.id)
  | peer (k k' : List Conn) (ho : PeerAct k o k')

theorem TurnAct.take (h : TurnAct (s.takeHandler i) op t r o) : TurnAct s op t r o := by
  cases h with
  | ended => exact .ended
  | starting c ht hr => exact .starting c ht hr
  | stored c ht hr => exact .stored c ht hr
  | target c ht hr hs hv => exact .target c ht hr hs hv
  | touch c => exact .touch c
  | payload c p => exact .payload c p
  | wrote offset bytes hk => exact .wrote offset bytes hk
  | listed c ht => exact .listed c ht
  | complete op' hid => exact .complete op' hid
  | done => exact .done

/-- The entries of a launch are of its request. -/
theorem Launch.id? (h : Launch cfg os n kind s new handed) (hm : o ∈ new) (ha : o.isAct = true) :
    o.id? = some n := by
  rcases h.cases hm with rfl | ⟨b, rfl⟩ | h1 | ⟨f, p, c, rfl⟩
  · rfl
  · rfl
  · cases h1 with
    | target p => rfl
    | announced port => cases ha
    | madeDirectory p hw => rfl
  · rfl

/-- **Every entry** has its author. -/
theorem step_act (h : step cfg s e = .ok s') (ho : Ops c₀ [] s) (ha : o.isAct = true)
    (hm : o ∈ s'.log) : ActOf cfg s e o := by
  have old : ∀ {new : List Obs} {handed : Option (Phase × Op)} {k : List Conn},
      Entered s s' new handed k → o ∈ new ∨ o ∈ s.log := by
    intro new handed k he
    have h1 := (mem_acts (s := s') ha).mpr hm
    rw [he.acts] at h1
    exact (List.mem_append.mp h1).imp_right (mem_acts ha).mp
  cases booked_step (step_cases h) ho with
  | same _ _ he hn => exact .old ((old he).resolve_left List.not_mem_nil)
  | connect i c _ he hn => exact .old ((old he).resolve_left List.not_mem_nil)
  | peer _ _ o' k hp he hn =>
    refine (old he).elim (fun h1 => ?_) .old
    rw [List.mem_singleton.mp h1]
    exact .peer _ _ hp
  | token i os _ tok d new hi ht hd hnew he hn =>
    refine (old he).elim (fun h1 => .token tok.op ht ?_) .old
    rcases hnew with rfl | ⟨response, rfl⟩
    · exact Or.inl ⟨_, List.mem_singleton.mp h1⟩
    · rcases List.mem_pair.mp h1 with rfl | rfl
      · exact Or.inr ⟨_, _, rfl⟩
      · exact Or.inl ⟨_, rfl⟩
  | dropped i os _ r hi hr he hgone hn =>
    refine (old he).elim (fun h1 => ?_) .old
    obtain ⟨op, hop, rfl⟩ := List.mem_map.mp (List.mem_reverse.mp h1)
    exact .dropped op hop rfl
  | turned i os _ t r ph op new handed k hi hp hT he hgone hn =>
    exact (old he).elim (fun h1 => .turn i os t r ph op rfl hi hp (hT.act h1).take) .old
  | refused i os _ req b hr hv hc hb he hn =>
    refine (old he).elim (fun h1 => .request i os req rfl hr ?_) .old
    simp only [List.mem_cons, List.not_mem_nil, or_false] at h1
    rcases h1 with rfl | rfl | rfl <;> rfl
  | launched i os _ req kind s₁ new handed hr hk hs₁ hl he hn =>
    refine (old he).elim (fun h1 => .request i os req rfl hr ?_) .old
    rcases List.mem_append.mp h1 with h2 | h2
    · exact hl.id? h2 ha
    · rw [List.mem_singleton.mp h2]
      rfl

/-- The numbers of requests go up. -/
theorem step_nextId (h : step cfg s e = .ok s') (ho : Ops c₀ [] s) : s.nextId ≤ s'.nextId := by
  cases booked_step (step_cases h) ho with
  | refused i os _ req b hr hv hc hb he hn => exact hn ▸ Nat.le_succ _
  | launched i os _ req kind s₁ new handed hr hk hs₁ hl he hn => exact hn ▸ Nat.le_succ _
  | same _ _ he hn => exact Nat.le_of_eq hn.symm
  | connect i c _ he hn => exact Nat.le_of_eq hn.symm
  | peer _ _ o k hp he hn => exact Nat.le_of_eq hn.symm
  | turned i os _ t r ph op new handed k hi hp hT he hgone hn => exact Nat.le_of_eq hn.symm
  | token i os _ tok d new hi ht hd hnew he hn => exact Nat.le_of_eq hn.symm
  | dropped i os _ r hi hr he hgone hn => exact Nat.le_of_eq hn.symm

end

end OrangeFtpd
