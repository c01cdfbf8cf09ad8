/-
  File:      OrangeFtpd/Invariant/Sending.lean
  Subject:   A RETR sends its file from front to end.

  `deal_event` runs again and again, from the readiness wait and from the limiter
  timer, and each time `sendfile` passes what the socket takes. The pieces that were
  passed so far (`sentIn`) are contiguous, `file_offset_` is their total and never
  beyond `file_size_`, and the completion token runs when the two meet.

  * `Streams`: the invariant, for every operation and every request.
  * `retr_sends_exactly`: what holds of every RETR in every run, and of each answer
    that `sendfile` can give next.
-/
import OrangeFtpd.Lib.Spans
import OrangeFtpd.Invariant.Armed
import OrangeFtpd.Invariant.Counter

namespace OrangeFtpd

/-! ## 1. What was sent, what was completed -/

/-- A piece that `sendfile` passed for the request `id`. -/
def Obs.sent? (id : Nat) : Obs → Option Span
  | .payload i _ (.sent offset n) => if i = id then some ⟨offset, n⟩ else none
  | _ => none

/-- A transfer that queues its 226. -/
def Obs.completed? : Obs → Option Op
  | .complete op => some op
  | _ => none

/-- The pieces that were passed for the request `id`, newest first. -/
def sentIn (id : Nat) (log : List Obs) : List Span := log.filterMap (Obs.sent? id)

/-- The transfers that queued their 226, newest first. -/
def completedIn (log : List Obs) : List Op := log.filterMap Obs.completed?

section

variable {cfg : Config} {os : Os} {id n i : Nat} {s s' : St} {op op' : Op} {e : Ev} {t : Task}
  {r : Result} {o : Obs} {d : DataSocket} {k k' : List Conn} {new log : List Obs}
  {handed : Option (Phase × Op)} {kind : OpKind} {x : Phase × Op} {c₀ : UInt32}

@[simp] theorem sentIn_append (log log' : List Obs) :
    sentIn id (log ++ log') = sentIn id log ++ sentIn id log' := List.filterMap_append

@[simp] theorem completedIn_append (log log' : List Obs) :
    completedIn (log ++ log') = completedIn log ++ completedIn log' := List.filterMap_append

theorem mem_completedIn : op ∈ completedIn log ↔ .complete op ∈ log := by
  unfold completedIn
  rw [List.mem_filterMap]
  constructor
  · rintro ⟨o, ho, h⟩
    cases o with
    | complete op' => exact Option.some.inj h ▸ ho
    | _ => cases h
  · exact fun h => ⟨_, h, rfl⟩

/-- The entries that are not in the book are no pieces and no completions. -/
theorem sentIn_acts (id : Nat) (s : St) : sentIn id s.acts = sentIn id s.log := by
  unfold sentIn St.acts
  rw [List.filterMap_filter]
  refine List.filterMap_congr fun o _ => ?_
  cases o <;> rfl

theorem completedIn_acts (s : St) : completedIn s.acts = completedIn s.log := by
  unfold completedIn St.acts
  rw [List.filterMap_filter]
  refine List.filterMap_congr fun o _ => ?_
  cases o <;> rfl

theorem sentIn_none (h : ∀ o ∈ new, o.sent? id = none) : sentIn id new = [] :=
  List.filterMap_eq_nil_iff.mpr h

theorem completedIn_none (h : ∀ o ∈ new, o.completed? = none) : completedIn new = [] :=
  List.filterMap_eq_nil_iff.mpr h

/-- Nothing was sent for a request that is still to come. -/
theorem Ops.sentIn_next (ho : Ops c₀ [] s) : sentIn s.nextId s.acts = [] := by
  refine sentIn_none fun o hm => ?_
  cases hs : o.sent? s.nextId with
  | none => rfl
  | some x =>
    unfold Obs.sent? at hs
    split at hs
    · next i c off n =>
      split at hs
      · next hi =>
        have h1 := ho.log _ (List.mem_filter.mp hm).1 i rfl
        rw [hi] at h1
        exact absurd h1 (Nat.lt_irrefl _)
      · cases hs
    · cases hs

/-! ## 2. What a turn sends and completes -/

/-- The entries of a launch are no pieces and no completions. -/
theorem Launch.mute (h : Launch cfg os n kind s new handed) (ho : o ∈ new) :
    (∀ id, o.sent? id = none) ∧ o.completed? = none := by
  rcases h.cases ho with rfl | ⟨b, rfl⟩ | h1 | ⟨f, p, c, rfl⟩
  · exact ⟨fun _ => rfl, rfl⟩
  · exact ⟨fun _ => rfl, rfl⟩
  · cases h1 <;> exact ⟨fun _ => rfl, rfl⟩
  · exact ⟨fun _ => rfl, rfl⟩

theorem Splices.unsent (h : Splices d k op new k' op') :
    (∀ id, sentIn id new = []) ∧ completedIn new = [] := by
  refine ⟨fun id => sentIn_none fun o ho => ?_, completedIn_none fun o ho => ?_⟩
  · rcases h.act ho with ⟨_, rfl⟩ | ⟨_, _, rfl⟩ <;> rfl
  · rcases h.act ho with ⟨_, rfl⟩ | ⟨_, _, rfl⟩ <;> rfl

theorem sentIn_completionActs : sentIn id (completionActs op) = [] := by
  unfold completionActs
  split <;> rfl

theorem completedIn_completionActs :
    completedIn (completionActs op) = if op.completionToken then [op] else [] := by
  unfold completionActs
  split <;> rfl

/-- **A turn completes its operation at its end**, or nothing. -/
theorem Turn.completed (h : Turn cfg os s op t r new handed k) : completedIn new = [] ∨
    (.over op.id ∈ new ∧ ∃ op', op'.id = op.id ∧ completedIn new = [op']) := by
  have done : ∀ {op' : Op} {rest : List Obs}, op'.id = op.id → completedIn rest = [] →
      completedIn (.over op.id :: completionActs op' ++ rest) = [] ∨
        (.over op.id ∈ .over op.id :: completionActs op' ++ rest ∧ ∃ op'', op''.id = op.id ∧
          completedIn (.over op.id :: completionActs op' ++ rest) = [op'']) := by
    intro op' rest hid hrest
    have e : completedIn (.over op.id :: completionActs op' ++ rest) =
        if op'.completionToken then [op'] else [] := by
      have h1 : completedIn (.over op.id :: completionActs op' ++ rest) =
          completedIn (completionActs op' ++ rest) := rfl
      rw [h1, completedIn_append, completedIn_completionActs, hrest, List.append_nil]
    rw [e]
    split
    · exact Or.inr ⟨List.mem_cons_self, op', hid, rfl⟩
    · exact Or.inl rfl
  cases h with
  | unconnected r hr => exact Or.inl rfl
  | accepted c hk => exact Or.inl rfl
  | listAccepted c response hl hs hr => exact Or.inl rfl
  | waitFailed t r hr ht => exact Or.inl rfl
  | sendFailed t d ht hd hf => exact Or.inl rfl
  | sendAgain t d ht hd => exact Or.inl rfl
  | sentPart op' t d n last ht hd hn hop hl hlast => rcases hlast with rfl | rfl <;> exact Or.inl rfl
  | sentAll op' t d n ht hd hn hop hl => exact done (by rw [hop]) rfl
  | receivedAll c d hk hd hi => exact done rfl rfl
  | receiveFailed op' c d new k hk hd hf hl =>
    left
    have h1 : completedIn (.over op.id :: new ++ [.touch op.id (some d.conn)]) =
        completedIn (new ++ [.touch op.id (some d.conn)]) := rfl
    rw [h1, completedIn_append, hl.unsent.2]
    rfl
  | receiveAgain op' c d new k hk hd hl =>
    left
    have h1 : completedIn (.touch op.id (some d.conn) :: new ++ [.touch op.id (some d.conn)]) =
        completedIn (new ++ [.touch op.id (some d.conn)]) := rfl
    rw [h1, completedIn_append, hl.unsent.2]
    rfl
  | listed c r => exact Or.inr ⟨List.mem_cons_self, op, rfl, rfl⟩

/-- What completes is of the class of the operation that had its turn. -/
theorem Turn.completed_kind (h : Turn cfg os s op t r new handed k) (hm : op' ∈ completedIn new) :
    op'.kind = op.kind := by
  have hc := mem_completedIn.mp hm
  have done : ∀ {q : Op}, .complete op' ∈ completionActs q → op'.kind = q.kind := by
    intro q hq
    unfold completionActs at hq
    split at hq
    · rw [Obs.complete.inj ((List.mem_pair.mp hq).resolve_left nofun)]
    · cases hq
  cases h with
  | sentAll q t d n ht hd hn hop hl =>
    rcases List.mem_append.mp hc with h1 | h1
    · rw [done ((List.mem_cons.mp h1).resolve_left nofun), hop]
    · simp at h1
  | receivedAll c d hk hd hi =>
    rcases List.mem_append.mp hc with h1 | h1
    · exact done ((List.mem_cons.mp h1).resolve_left nofun)
    · simp at h1
  | listed c r =>
    simp only [List.mem_cons, reduceCtorEq, Obs.complete.injEq, List.not_mem_nil, or_false,
      false_or] at hc
    rw [hc]
  | sentPart q t d n last ht hd hn hop hl hlast => rcases hlast with rfl | rfl <;> simp at hc
  | receiveFailed q c d new k hk hd hf hl =>
    rcases List.mem_append.mp hc with h1 | h1
    · rcases hl.act ((List.mem_cons.mp h1).resolve_left nofun) with ⟨_, h2⟩ | ⟨_, _, h2⟩ <;> cases h2
    · simp at h1
  | receiveAgain q c d new k hk hd hl =>
    rcases List.mem_append.mp hc with h1 | h1
    · rcases hl.act ((List.mem_cons.mp h1).resolve_left nofun) with ⟨_, h2⟩ | ⟨_, _, h2⟩ <;> cases h2
    · simp at h1
  | _ => simp at hc

/-- What is launched and stays has sent nothing. -/
theorem Launch.handed_fresh (h : Launch cfg os n kind s new handed) (hx : handed = some x) :
    x.2.id = n ∧ x.2.fileOffset = 0 ∧ x.2.fileSize < 2 ^ 64 := by
  cases h with
  | waiting op notes hk hf ht hn =>
    cases hx
    exact ⟨hf.id, hf.fileOffset, hf.fileSize⟩
  | uploadWaiting op s₂ p path created hk hu hfd =>
    cases hx
    exact ⟨hu.fresh.id, hu.fresh.fileOffset, hu.fresh.fileSize⟩
  | _ => cases hx

/-- The handlers that send hold a RETR. -/
theorem SendWait.sends (h : SendWait op t) (ht : t.Armed) :
    op.kind = .sendFile ∧ op.completionToken = true := by
  cases h with
  | ready c hk => exact ⟨ht.1.resolve_right hk, ht.2⟩
  | limiter => exact ht

/-- A turn that sends nothing: what goes on is the operation as it was. -/
structure SendsNothing (op : Op) (new : List Obs) (handed : Option (Phase × Op)) : Prop where
  sent : ∀ id, sentIn id new = []
  goesOn : ∀ x, handed = some x → x.2.id = op.id ∧ (op.kind = .sendFile → x.2 = op)
  completed : op.kind = .sendFile → completedIn new = []

/-- A turn of the RETR `op` that passes `n` bytes and leaves it as `op'`: it goes on, or is
    complete. -/
structure SendsPiece (op op' : Op) (n : Nat) (new : List Obs) (handed : Option (Phase × Op)) :
    Prop where
  kind : op.kind = .sendFile
  fits : n ≤ SendFileOp.fileLeft op
  moved : op' = { op with fileOffset := op.fileOffset + n }
  sent : ∀ id, sentIn id new = if op.id = id then [⟨op.fileOffset, n⟩] else []
  rest : (0 < SendFileOp.fileLeft op' ∧ handed = some (.running, op') ∧ completedIn new = []) ∨
    (SendFileOp.fileLeft op' = 0 ∧ handed = none ∧ completedIn new = [op'])

/-- **What a turn sends.** -/
theorem Turn.sends (h : Turn cfg os s op t r new handed k) (ht : t.Armed) :
    SendsNothing op new handed ∨
      (r = .ok ∧ SendWait op t ∧ ∃ op' n, SendsPiece op op' n new handed) := by
  have piece : ∀ (off n : Nat) (c : ConnId) (rest : List Obs) (id : Nat),
      sentIn id rest = [] → sentIn id (rest ++ [.payload op.id c (.sent off n), .touch op.id (some c)]) =
        if op.id = id then [⟨off, n⟩] else [] := by
    intro off n c rest id hr
    rw [sentIn_append, hr, List.nil_append]
    unfold sentIn Obs.sent?
    by_cases hid : op.id = id <;> simp [hid]
  cases h with
  | unconnected r hr => exact Or.inl ⟨fun _ => rfl, nofun, fun _ => rfl⟩
  | accepted c hk => exact Or.inl ⟨fun _ => rfl, fun x hx => by cases hx; exact ⟨rfl, fun _ => rfl⟩, fun _ => rfl⟩
  | listAccepted c response hl hs hr =>
    exact Or.inl ⟨fun _ => rfl, fun x hx => by cases hx; exact ⟨rfl, fun _ => rfl⟩, fun _ => rfl⟩
  | waitFailed t r hr ht => exact Or.inl ⟨fun _ => rfl, nofun, fun _ => rfl⟩
  | sendFailed t d ht hd hf => exact Or.inl ⟨fun _ => rfl, nofun, fun _ => rfl⟩
  | sendAgain t d ht hd =>
    exact Or.inl ⟨fun _ => rfl, fun x hx => by cases hx; exact ⟨rfl, fun _ => rfl⟩, fun _ => rfl⟩
  | sentPart op' t d n last hw hd hn hop hl hlast =>
    refine Or.inr ⟨rfl, hw, op', n, (hw.sends ht).1, hn, hop, fun id => ?_, Or.inl ⟨hl, rfl, ?_⟩⟩
    · exact piece op.fileOffset n d.conn last id (by rcases hlast with rfl | rfl <;> rfl)
    · rcases hlast with rfl | rfl <;> rfl
  | sentAll op' t d n hw hd hn hop hl =>
    have htok : op'.completionToken = true := by rw [hop]; exact (hw.sends ht).2
    refine Or.inr ⟨rfl, hw, op', n, (hw.sends ht).1, hn, hop, fun id => ?_, Or.inr ⟨hl, rfl, ?_⟩⟩
    · exact piece op.fileOffset n d.conn (.over op.id :: completionActs op') id sentIn_completionActs
    · have h1 : completedIn (.over op.id :: completionActs op' ++
          [.payload op.id d.conn (.sent op.fileOffset n), .touch op.id (some d.conn)]) =
          completedIn (completionActs op' ++ [.payload op.id d.conn (.sent op.fileOffset n),
            .touch op.id (some d.conn)]) := rfl
      rw [h1, completedIn_append, completedIn_completionActs, if_pos htok]
      rfl
  | receivedAll c d hk hd hi =>
    refine Or.inl ⟨fun id => ?_, nofun, fun hs => ?_⟩
    · exact (sentIn_append _ _).trans (congrArg (· ++ _) sentIn_completionActs)
    · rw [hk] at hs; cases hs
  | receiveFailed op' c d new k hk hd hf hl =>
    refine Or.inl ⟨fun id => ?_, nofun, fun hs => ?_⟩
    · exact (sentIn_append _ _).trans (congrArg (· ++ _) (hl.unsent.1 id))
    · rw [hk] at hs; cases hs
  | receiveAgain op' c d new k hk hd hl =>
    refine Or.inl ⟨fun id => ?_, fun x hx => ?_, fun hs => ?_⟩
    · exact (sentIn_append _ _).trans (congrArg (· ++ _) (hl.unsent.1 id))
    · cases hx
      refine ⟨hl.same.1, fun hs => ?_⟩
      rw [hk] at hs; cases hs
    · rw [hk] at hs; cases hs
  | listed c r =>
    refine Or.inl ⟨fun _ => rfl, nofun, fun hs => ?_⟩
    have hlist : op.kind = .list := ht
    rw [hlist] at hs; cases hs

/-! ## 3. What a step sends -/

/-- A RETR that has sent nothing yet. -/
structure Untouched (s : St) (op : Op) : Prop where
  sent : sentIn op.id s.acts = []
  offset : op.fileOffset = 0
  size : op.fileSize < 2 ^ 64

/-- **What a step sends**: nothing, or one piece of a RETR, from its handler `t`. -/
inductive SendStep (s : St) (e : Ev) (s' : St) : Prop where
  | quiet (new : List Obs) (ha : s'.acts = new ++ s.acts) (hs : ∀ id, sentIn id new = [])
      (hst : ∀ y ∈ s'.staged, y.2.kind = .sendFile →
        (∃ z ∈ s.staged, z.2 = y.2) ∨ Untouched s y.2)
      (hc : completedIn new = [] ∨ ∃ op', completedIn new = [op'] ∧ op'.kind ≠ .sendFile ∧
        .over op'.id ∈ new ∧ .over op'.id ∉ s.acts)
  | piece (i : Nat) (os : Os) (t : Task) (ph : Phase) (op op' : Op) (n : Nat) (new : List Obs)
      (handed : Option (Phase × Op)) (he : e = .run i os)
      (hi : s.handlers[i]? = some ⟨t, some .ok⟩) (hp : t.staged? = some (ph, op))
      (hw : SendWait op t) (hx : SendsPiece op op' n new handed) (ha : s'.acts = new ++ s.acts)
      (hover : completedIn new ≠ [] → .over op.id ∈ new)
      (hst : ∀ y ∈ s'.staged, handed = some y ∨ (y ∈ s.staged ∧ y.2.id ≠ op.id))

/-- **A turn** of an operation. -/
theorem SendStep.turn {ph : Phase} (hE : Endings s)
    (hi : s.handlers[i]? = some ⟨t, some r⟩) (hp : t.staged? = some (ph, op)) (ht : t.Armed)
    (hT : Turn cfg os (s.takeHandler i) op t r new handed k) (ha : s'.acts = new ++ s.acts)
    (hst : ∀ y ∈ s'.staged, handed = some y ∨ (y ∈ s.staged ∧ y.2.id ≠ op.id)) :
    SendStep s (.run i os) s' := by
  have hx := staged_handler hi hp
  have hover : .over op.id ∉ s.acts := (hE.alive _ hx).1
  rcases hT.sends ht with hq | ⟨rfl, hw, op', n, hpiece⟩
  · refine .quiet new ha hq.sent (fun y hy hk => ?_) ?_
    · rcases hst y hy with h1 | ⟨h1, -⟩
      · have hkind : op.kind = .sendFile := (hT.handedOn h1).2.1 ▸ hk
        exact Or.inl ⟨_, hx, ((hq.goesOn y h1).2 hkind).symm⟩
      · exact Or.inl ⟨y, h1, rfl⟩
    · rcases hT.completed with hc | ⟨ho, op', hid, hc⟩
      · exact Or.inl hc
      · by_cases hk : op.kind = .sendFile
        · exact Or.inl (hq.completed hk)
        · refine Or.inr ⟨op', hc, fun hk' => hk ?_, hid ▸ ho, hid ▸ hover⟩
          exact hT.completed_kind (hc ▸ List.mem_singleton_self op') ▸ hk'
  · refine .piece i os t ph op op' n new handed rfl hi hp hw hpiece ha (fun hne => ?_) hst
    rcases hT.completed with hc | ⟨ho, -⟩
    · exact absurd hc hne
    · exact ho

theorem step_sends (hE : Endings s) (ho : Ops c₀ [] s) (hA : s.Armed)
    (hs : OrangeFtpd.step cfg s e = .ok s') : SendStep s e s' := by
  have nothing : s'.acts = s.acts → (∀ y ∈ s'.staged, y ∈ s.staged) → SendStep s e s' := fun ha hst =>
    .quiet [] ha (fun _ => rfl) (fun y hy _ => Or.inl ⟨y, hst y hy, rfl⟩) (Or.inl rfl)
  cases booked_step (step_cases hs) ho with
  | same _ _ he hn => exact nothing he.acts fun y hy => (he.staged y hy).resolve_left nofun
  | connect i c _ he hn => exact nothing he.acts fun y hy => (he.staged y hy).resolve_left nofun
  | peer _ _ o k hp he hn =>
    refine .quiet _ he.acts ?_ (fun y hy _ => Or.inl ⟨y, (he.staged y hy).resolve_left nofun, rfl⟩) ?_
    · cases hp <;> exact fun _ => rfl
    · cases hp <;> exact Or.inl rfl
  | token i os _ tok d new hi ht hd hnew he hn =>
    refine .quiet _ he.acts ?_ (fun y hy _ => Or.inl ⟨y, (he.staged y hy).resolve_left nofun, rfl⟩) ?_
    · rcases hnew with rfl | ⟨response, rfl⟩ <;> exact fun _ => rfl
    · rcases hnew with rfl | ⟨response, rfl⟩ <;> exact Or.inl rfl
  | refused i os _ req b hr hv hc hb he hn =>
    exact .quiet _ he.acts (fun _ => rfl)
      (fun y hy _ => Or.inl ⟨y, (he.staged y hy).resolve_left nofun, rfl⟩) (Or.inl rfl)
  | dropped i os _ r hi hr he hgone hn =>
    refine .quiet _ he.acts (fun id => sentIn_none fun o ho => ?_)
      (fun y hy _ => Or.inl ⟨y, (he.staged y hy).resolve_left nofun, rfl⟩)
      (Or.inl (completedIn_none fun o ho => ?_))
    · obtain ⟨op, -, rfl⟩ := List.mem_map.mp (List.mem_reverse.mp ho)
      rfl
    · obtain ⟨op, -, rfl⟩ := List.mem_map.mp (List.mem_reverse.mp ho)
      rfl
  | launched i os _ req kind s₁ new handed hr hk hs₁ hl he hn =>
    have mute : ∀ o ∈ new ++ [.request s.nextId req s.currentPath],
        (∀ id, o.sent? id = none) ∧ o.completed? = none := by
      intro o ho
      rcases List.mem_append.mp ho with h1 | h1
      · exact hl.mute h1
      · rw [List.mem_singleton.mp h1]
        exact ⟨fun _ => rfl, rfl⟩
    refine .quiet _ he.acts (fun id => sentIn_none fun o ho => (mute o ho).1 id) (fun y hy _ => ?_)
      (Or.inl (completedIn_none fun o ho => (mute o ho).2))
    rcases he.staged y hy with h1 | h1
    · obtain ⟨hid, hoff, hsize⟩ := hl.handed_fresh h1
      exact Or.inr ⟨hid ▸ ho.sentIn_next, hoff, hsize⟩
    · exact Or.inl ⟨y, h1, rfl⟩
  | turned i os _ t r ph op new handed k hi hp hT he hgone hn =>
    refine .turn hE hi hp (hA.handler hi) hT he.acts fun y hy => ?_
    rcases he.staged y hy with h1 | h1
    · exact Or.inl h1
    · exact (hgone y hy).imp_right fun h2 => ⟨h1, h2⟩

/-! ## 4. The invariant -/

/-- Where a RETR is that is alive: what was sent is what `file_offset_` says, and it is not
    complete. -/
structure Unfinished (s : St) (op : Op) : Prop where
  total : Span.total (sentIn op.id s.acts) = op.fileOffset
  inRange : op.fileOffset ≤ op.fileSize
  size : op.fileSize < 2 ^ 64
  /-- What has begun is not at its end. -/
  begun : sentIn op.id s.acts ≠ [] → op.fileOffset < op.fileSize

/-- Where a RETR was that queued its 226. -/
structure Finished (s : St) (op : Op) : Prop where
  total : Span.total (sentIn op.id s.acts) = op.fileSize
  atEnd : op.fileOffset = op.fileSize

/-- **Files go out from front to end.** -/
structure Streams (s : St) : Prop where
  contiguous : ∀ id, Span.Contiguous (sentIn id s.acts)
  /-- A size is a `size_t`. -/
  bound : ∀ id, Span.total (sentIn id s.acts) < 2 ^ 64
  live : ∀ x ∈ s.staged, x.2.kind = .sendFile → Unfinished s x.2
  once : ((completedIn s.acts).map (·.id)).Nodup
  ended : ∀ op ∈ completedIn s.acts, .over op.id ∈ s.acts
  finished : ∀ op ∈ completedIn s.acts, op.kind = .sendFile → Finished s op

theorem fileLeft_eq (h : op.fileOffset ≤ op.fileSize) (hs : op.fileSize < 2 ^ 64) :
    SendFileOp.fileLeft op = op.fileSize - op.fileOffset := by
  unfold SendFileOp.fileLeft
  omega

/-- What is asked for is left of the file. -/
theorem sendCount_le_left (h : op.fileOffset ≤ op.fileSize) (hs : op.fileSize < 2 ^ 64) (slice : Nat) :
    SendFileOp.sendCount op slice ≤ op.fileSize - op.fileOffset :=
  fileLeft_eq h hs ▸ sendCount_le slice

theorem Untouched.unfinished (h : Untouched s op) : Unfinished s op where
  total := by rw [h.sent, h.offset]; rfl
  inRange := by rw [h.offset]; exact Nat.zero_le _
  size := h.size
  begun := fun hne => absurd h.sent hne

namespace Streams

theorem unfinished_congr (h : Unfinished s op) (he : sentIn op.id s'.acts = sentIn op.id s.acts) :
    Unfinished s' op where
  total := he ▸ h.total
  inRange := h.inRange
  size := h.size
  begun := he ▸ h.begun

/-- **Nothing is sent and no RETR completes**; the new operations have sent nothing. -/
theorem quiet (hS : Streams s) (ha : s'.acts = new ++ s.acts) (hs : ∀ id, sentIn id new = [])
    (hst : ∀ y ∈ s'.staged, y.2.kind = .sendFile → (∃ z ∈ s.staged, z.2 = y.2) ∨ Untouched s y.2)
    (hc : completedIn new = [] ∨ ∃ op', completedIn new = [op'] ∧ op'.kind ≠ .sendFile ∧
      .over op'.id ∈ new ∧ .over op'.id ∉ s.acts) : Streams s' := by
  have same : ∀ id, sentIn id s'.acts = sentIn id s.acts := fun id => by
    rw [ha, sentIn_append, hs id, List.nil_append]
  have still : ∀ op ∈ completedIn s.acts, .over op.id ∈ s'.acts := fun op hop => by
    rw [ha]
    exact List.mem_append_right _ (hS.ended op hop)
  have finished : ∀ op ∈ completedIn s.acts, op.kind = .sendFile → Finished s' op := fun op hop hk =>
    ⟨by rw [same]; exact (hS.finished op hop hk).total, (hS.finished op hop hk).atEnd⟩
  have hcomp : completedIn s'.acts = completedIn new ++ completedIn s.acts := by
    rw [ha, completedIn_append]
  refine ⟨fun id => same id ▸ hS.contiguous id, fun id => same id ▸ hS.bound id,
    fun y hy hk => ?_, ?_, ?_, ?_⟩
  · rcases hst y hy hk with ⟨z, hz, he⟩ | h1
    · exact unfinished_congr (he ▸ hS.live z hz (he ▸ hk)) (same _)
    · exact unfinished_congr h1.unfinished (same _)
  · rcases hc with hc | ⟨op', hc, -, -, hn⟩
    · rw [hcomp, hc]
      exact hS.once
    · rw [hcomp, hc]
      refine List.nodup_cons.mpr ⟨fun hm => hn ?_, hS.once⟩
      obtain ⟨op, hop, he⟩ := List.mem_map.mp hm
      have he : op.id = op'.id := he
      exact he ▸ hS.ended op hop
  · intro op hop
    rcases hc with hc | ⟨op', hc, -, ho, -⟩
    · rw [hcomp, hc] at hop
      exact still op hop
    · rw [hcomp, hc] at hop
      rcases List.mem_cons.mp hop with rfl | hop
      · rw [ha]
        exact List.mem_append_left _ ho
      · exact still op hop
  · intro op hop hk
    rcases hc with hc | ⟨op', hc, hk', -, -⟩
    · rw [hcomp, hc] at hop
      exact finished op hop hk
    · rw [hcomp, hc] at hop
      rcases List.mem_cons.mp hop with rfl | hop
      · exact absurd hk hk'
      · exact finished op hop hk

/-- **A RETR sends a piece.** -/
theorem piece {ph : Phase} (hS : Streams s) (hx : (ph, op) ∈ s.staged) (ho : .over op.id ∉ s.acts)
    (ha : s'.acts = new ++ s.acts) (hp : SendsPiece op op' n new handed)
    (hover : completedIn new ≠ [] → .over op.id ∈ new)
    (hst : ∀ y ∈ s'.staged, handed = some y ∨ (y ∈ s.staged ∧ y.2.id ≠ op.id)) : Streams s' := by
  have hu : Unfinished s op := hS.live _ hx hp.kind
  have hid : op'.id = op.id := by rw [hp.moved]
  have hsize : op'.fileSize = op.fileSize := by rw [hp.moved]
  have hoff : op'.fileOffset = op.fileOffset + n := by rw [hp.moved]
  have hn : op.fileOffset + n ≤ op.fileSize := by
    have h1 := hp.fits
    rw [fileLeft_eq hu.inRange hu.size] at h1
    have := hu.inRange
    omega
  have own : sentIn op.id s'.acts = ⟨op.fileOffset, n⟩ :: sentIn op.id s.acts := by
    rw [ha, sentIn_append, hp.sent, if_pos rfl]
    rfl
  have other : ∀ id, id ≠ op.id → sentIn id s'.acts = sentIn id s.acts := fun id h => by
    rw [ha, sentIn_append, hp.sent, if_neg (Ne.symm h), List.nil_append]
  have total : Span.total (sentIn op.id s'.acts) = op.fileOffset + n := by
    rw [own, Span.total_cons, hu.total]
    exact Nat.add_comm ..
  have left : SendFileOp.fileLeft op' = op.fileSize - (op.fileOffset + n) := by
    rw [fileLeft_eq (by rw [hoff, hsize]; exact hn) (hsize ▸ hu.size), hoff, hsize]
  have hcomp : completedIn s'.acts = completedIn new ++ completedIn s.acts := by
    rw [ha, completedIn_append]
  -- a transfer that completed before is over, so it is another one
  have older : ∀ q ∈ completedIn s.acts, q.id ≠ op.id := fun q hq he => ho (he ▸ hS.ended q hq)
  constructor
  case contiguous =>
    intro id
    by_cases h : id = op.id
    · rw [h, own]
      exact ⟨hu.total.symm, hS.contiguous _⟩
    · rw [other id h]
      exact hS.contiguous id
  case bound =>
    intro id
    by_cases h : id = op.id
    · rw [h, total]
      exact Nat.lt_of_le_of_lt hn hu.size
    · rw [other id h]
      exact hS.bound id
  case live =>
    intro y hy hk
    rcases hst y hy with h1 | ⟨h1, h2⟩
    · rcases hp.rest with ⟨hl, hh, -⟩ | ⟨-, hh, -⟩
      · rw [hh] at h1
        cases h1
        have hlt : op.fileOffset + n < op.fileSize := by omega
        exact ⟨by rw [hid, total, hoff], by rw [hoff, hsize]; exact hn, hsize ▸ hu.size,
          fun _ => by rw [hoff, hsize]; exact hlt⟩
      · rw [hh] at h1
        cases h1
    · exact unfinished_congr (hS.live y h1 hk) (other _ h2)
  case once =>
    rw [hcomp]
    rcases hp.rest with ⟨-, -, hc⟩ | ⟨-, -, hc⟩
    · rw [hc]
      exact hS.once
    · rw [hc]
      refine List.nodup_cons.mpr ⟨fun hm => ?_, hS.once⟩
      obtain ⟨q, hq, he⟩ := List.mem_map.mp hm
      exact older q hq (he.trans hid)
  case ended =>
    intro q hq
    rw [hcomp] at hq
    rw [ha]
    rcases List.mem_append.mp hq with h1 | h1
    · rcases hp.rest with ⟨-, -, hc⟩ | ⟨-, -, hc⟩
      · rw [hc] at h1
        cases h1
      · have hne : completedIn new ≠ [] := hc ▸ List.cons_ne_nil _ _
        rw [hc, List.mem_singleton] at h1
        rw [h1, hid]
        exact List.mem_append_left _ (hover hne)
    · exact List.mem_append_right _ (hS.ended q h1)
  case finished =>
    intro q hq hk
    rw [hcomp] at hq
    rcases List.mem_append.mp hq with h1 | h1
    · rcases hp.rest with ⟨-, -, hc⟩ | ⟨hl, -, hc⟩
      · rw [hc] at h1
        cases h1
      · rw [hc, List.mem_singleton] at h1
        have he : op.fileOffset + n = op.fileSize := by omega
        rw [h1]
        exact ⟨by rw [hid, total, hsize, he], by rw [hoff, hsize, he]⟩
    · have hf := hS.finished q h1 hk
      exact ⟨by rw [other _ (older q h1)]; exact hf.total, hf.atEnd⟩

end Streams

theorem Streams.step (hS : Streams s) (hE : Endings s) (ho : Ops c₀ [] s) (hA : s.Armed)
    (hs : OrangeFtpd.step cfg s e = .ok s') : Streams s' := by
  cases step_sends hE ho hA hs with
  | quiet new ha hsent hst hc => exact hS.quiet ha hsent hst hc
  | piece i os t ph op op' n new handed he hi hp hw hx ha hover hst =>
    have hm := staged_handler hi hp
    exact hS.piece hm (hE.alive _ hm).1 ha hx hover hst

theorem streams_reach {home : Path} {now : Int} {ok : St → Ev → Prop}
    (h : Reach (OrangeFtpd.step cfg) ok (St.init cfg home c₀ now) s) : Streams s :=
  h.invariant_of (fun _ h => (⟨ops_reach h, endings_reach h, armed_reach h⟩ :
      Ops c₀ [] _ ∧ Endings _ ∧ St.Armed _))
    ⟨fun _ => trivial, fun _ => Nat.two_pow_pos 64, nofun, List.nodup_nil, nofun, nofun⟩
    fun _ _ _ hJ hI _ hs => hI.step hJ.2.1 hJ.1 hJ.2.2 hs

/-! ## 5. Every RETR -/

/-- The step of a handler that sends. -/
theorem step_dealt (hs : step cfg s (.run i os) = .ok s')
    (hi : s.handlers[i]? = some ⟨t, some .ok⟩) (hw : SendWait op t) :
    ∃ d s₁, Dealt cfg os op (SendFileOp.sliceSize cfg) (s.takeHandler i) d s₁ ∧
      s' = s₁.releaseSession t := by
  have hrun : runHandler cfg s i os = .ok s' := (step_ok.mp hs).2
  rw [runHandler_eq hi] at hrun
  cases hr : runTask cfg os t .ok (s.takeHandler i) with
  | error f => rw [hr] at hrun; cases hrun
  | ok x =>
    rw [hr] at hrun
    cases hrun
    have hd : ∃ d, (s.takeHandler i).dataSocket = some d ∧ d.isOpen = true ∧
        Dealt cfg os op (SendFileOp.sliceSize cfg) (s.takeHandler i) d x.2 := by
      cases hw with
      | ready c hk =>
        have he : onReady cfg os op .ok =
            SendFileOp.dealEvent cfg os op .ok (SendFileOp.sliceSize cfg) := by
          unfold onReady
          split
          · next h => exact absurd h hk
          · rfl
        have hr' : (onReady cfg os op .ok >>= release cfg) (s.takeHandler i) = .ok x := hr
        rw [he] at hr'
        exact (release_ended (dealEvent_dealt _ (.ready op c))).ok rfl hr'
      | limiter => exact (release_ended (dealEvent_dealt _ (.limiter op))).ok rfl hr
    obtain ⟨d, -, -, h⟩ := hd
    exact ⟨d, x.2, h, rfl⟩

/-- What the answer of `sendfile` adds to what was sent. -/
def answered (os : Os) (slice : Nat) (op : Op) : List Span :=
  match os.sendfile with
  | .sent k => [⟨op.fileOffset, min k (SendFileOp.sendCount op slice)⟩]
  | .wouldBlock | .failed => []

theorem answered_sent {slice m : Nat} (h : os.sendfile = .sent m) :
    answered os slice op = [⟨op.fileOffset, min m (SendFileOp.sendCount op slice)⟩] := by
  unfold answered
  rw [h]

theorem Dealt.sentIn {slice : Nat} (h : Dealt cfg os op slice s d s') :
    sentIn op.id s'.log = answered os slice op ++ OrangeFtpd.sentIn op.id s.log := by
  have piece : ∀ (n : Nat) (log : List Obs), OrangeFtpd.sentIn op.id
      (.payload op.id d.conn (.sent op.fileOffset n) :: log) =
        ⟨op.fileOffset, n⟩ :: OrangeFtpd.sentIn op.id log := fun n log => by
    simp [OrangeFtpd.sentIn, Obs.sent?]
  cases h with
  | failed hf =>
    unfold answered
    rw [hf, St.destroyOp_log]
    rfl
  | again hw =>
    have hlog : ((s.touchSlot op d).waitData op d).log =
        [.touch op.id (some d.conn), .touch op.id (some d.conn)] ++ s.log := by
      simp [St.waitData, St.touchSlot]
    unfold answered
    rw [hw, hlog, sentIn_append]
    rfl
  | more op' k n hk hn hop hl h0 =>
    rw [answered_sent hk, ← hn]
    exact piece n _
  | slice op' k n hk hn hop hl h0 =>
    rw [answered_sent hk, ← hn]
    exact piece n _
  | all op' k n hk hn hop hl =>
    let s₂ := (s.touchSlot op d).emit (.payload op.id d.conn (.sent op.fileOffset n))
    have hacts : ((s₂.runCompletion op').destroyOp cfg op').acts =
        .over op'.id :: (completionActs op' ++ s₂.acts) := by
      rw [acts_destroyOp, (Entered.completion op').acts]
    have h1 : OrangeFtpd.sentIn op.id ((s₂.runCompletion op').destroyOp cfg op').acts =
        OrangeFtpd.sentIn op.id s₂.acts := by
      rw [hacts]
      exact (sentIn_append _ _).trans (congrArg (· ++ _) sentIn_completionActs)
    rw [sentIn_acts, sentIn_acts] at h1
    rw [answered_sent hk, ← hn]
    exact h1.trans (piece n _)

/-- What holds of a RETR as long as it is alive. -/
structure SendsInOrder (s : St) (op : Op) : Prop where
  inRange : op.fileOffset ≤ op.fileSize
  /-- The subtraction of the `size_t`s does not wrap. -/
  left : SendFileOp.fileLeft op = op.fileSize - op.fileOffset
  asked : ∀ slice, SendFileOp.sendCount op slice ≤ op.fileSize - op.fileOffset
  sent : ∀ content : Bytes, Span.gather content (sentIn op.id s.log) = content.take op.fileOffset
  notComplete : ∀ op', .complete op' ∈ s.log → op'.id ≠ op.id
  begun : sentIn op.id s.log ≠ [] → op.fileOffset < op.fileSize

/-- What the next answer of `sendfile` does to the RETR `op`. -/
structure AnswersExactly (cfg : Config) (os : Os) (op : Op) (s s' : St) : Prop where
  /-- `n` bytes were passed: at least one where there was one to pass; the completion token
      runs where they were the last ones, and else the operation goes on behind them. -/
  sent : ∀ k, os.sendfile = .sent k →
    ∀ n, n = min k (SendFileOp.sendCount op (SendFileOp.sliceSize cfg)) →
    ∀ op', op' = { op with fileOffset := op.fileOffset + n } →
      op'.fileOffset ≤ op'.fileSize ∧ (0 < k → op.fileOffset < op.fileSize → 0 < n) ∧
      sentIn op.id s'.log = ⟨op.fileOffset, n⟩ :: sentIn op.id s.log ∧
      (.complete op' ∈ s'.log ↔ op'.fileOffset = op'.fileSize) ∧
      (op'.fileOffset ≠ op'.fileSize → (.running, op') ∈ s'.staged)
  /-- After a would-block the operation waits as it was. -/
  again : os.sendfile = .wouldBlock →
    (.running, op) ∈ s'.staged ∧ sentIn op.id s'.log = sentIn op.id s.log

theorem Streams.sendsInOrder {ph : Phase} (hS : Streams s) (hE : Endings s)
    (hx : (ph, op) ∈ s.staged) (hk : op.kind = .sendFile) : SendsInOrder s op where
  inRange := (hS.live _ hx hk).inRange
  left := fileLeft_eq (hS.live _ hx hk).inRange (hS.live _ hx hk).size
  asked := sendCount_le_left (hS.live _ hx hk).inRange (hS.live _ hx hk).size
  sent content := by
    rw [← sentIn_acts, Span.gather_eq content (hS.contiguous _), (hS.live _ hx hk).total]
  notComplete op' hc hid := by
    have h1 := hS.ended op' (mem_completedIn.mpr ((mem_acts rfl).mpr hc))
    exact (hE.alive _ hx).1 (hid ▸ h1)
  begun := sentIn_acts _ s ▸ (hS.live _ hx hk).begun

/-- What a piece of `n` bytes makes of the RETR: it is on its way, or at its end. -/
theorem SendsInOrder.advance {slice k : Nat} (h : SendsInOrder s op) (hsize : op.fileSize < 2 ^ 64)
    (hn : n = min k (SendFileOp.sendCount op slice))
    (hop : op' = { op with fileOffset := op.fileOffset + n }) :
    op'.id = op.id ∧ op'.fileOffset ≤ op'.fileSize ∧
      (0 < k → op.fileOffset < op.fileSize → 0 < n) ∧
      (SendFileOp.fileLeft op' = 0 ↔ op'.fileOffset = op'.fileSize) := by
  have hleft := h.left
  have hr := h.inRange
  have hle : n ≤ op.fileSize - op.fileOffset := hn ▸ Nat.le_trans (Nat.min_le_right ..) (h.asked _)
  have hoff : op'.fileOffset = op.fileOffset + n := by rw [hop]
  have hsz : op'.fileSize = op.fileSize := by rw [hop]
  have hin : op'.fileOffset ≤ op'.fileSize := by omega
  have hend : SendFileOp.fileLeft op' = op'.fileSize - op'.fileOffset :=
    fileLeft_eq hin (hsz ▸ hsize)
  refine ⟨by rw [hop], hin, fun hk hl => ?_, by rw [hend]; omega⟩
  rw [hn, Nat.lt_min]
  refine ⟨hk, ?_⟩
  have hlt : 0 < SendFileOp.fileLeft op := by omega
  unfold SendFileOp.sendCount
  split
  · exact hlt
  · exact Nat.lt_min.mpr ⟨hlt, Nat.pos_of_ne_zero ‹_›⟩

/-- **The next answer of `sendfile`.** -/
theorem SendsInOrder.answers (h : SendsInOrder s op) (hw : SendWait op t) (ht : t.Armed)
    (hs : step cfg s (.run i os) = .ok s') (hi : s.handlers[i]? = some ⟨t, some .ok⟩)
    (hsize : op.fileSize < 2 ^ 64) : AnswersExactly cfg os op s s' := by
  obtain ⟨d, s₁, hD, rfl⟩ := step_dealt hs hi hw
  have fresh : ∀ {op' : Op}, op'.id = op.id → .complete op' ∉ s.log := fun hid hc =>
    h.notComplete _ hc hid
  have hsent : sentIn op.id (s₁.releaseSession t).log =
      answered os (SendFileOp.sliceSize cfg) op ++ sentIn op.id s.log := hD.sentIn
  cases hD with
  | failed hf =>
    refine ⟨fun k hk => ?_, fun hb => ?_⟩
    · rw [hf] at hk; cases hk
    · rw [hf] at hb; cases hb
  | again hw' =>
    refine ⟨fun k hk => ?_, fun _ => ⟨mem_staged.mpr (Or.inl ⟨.dataWait op d.conn, ?_, rfl⟩), ?_⟩⟩
    · rw [hw'] at hk; cases hk
    · exact (St.tasks_startWith _) ▸ List.mem_append_right _ (List.mem_singleton_self _)
    · rw [hsent]
      unfold answered
      rw [hw']
      rfl
  | more op' k n hk hn hop hl h0 =>
    obtain ⟨hid, hin, hpos, hend⟩ := h.advance hsize hn hop
    have hne : op'.fileOffset ≠ op'.fileSize := fun he => Nat.ne_of_gt hl (hend.mpr he)
    rw [answered_sent hk, ← hn] at hsent
    refine ⟨fun k' hk' n' hn' op'' hop'' => ?_, fun hb => by rw [hk] at hb; cases hb⟩
    cases hk.symm.trans hk'
    obtain rfl : n' = n := hn'.trans hn.symm
    obtain rfl : op'' = op' := hop''.trans hop.symm
    refine ⟨hin, hpos, hsent, ?_, fun _ => ?_⟩
    · refine iff_of_false (fun hc => fresh hid ?_) hne
      simpa [St.waitData, St.touchSlot] using hc
    · refine mem_staged.mpr (Or.inl ⟨.dataWait op'' d.conn, ?_, rfl⟩)
      exact (St.tasks_startWith _) ▸ List.mem_append_right _ (List.mem_singleton_self _)
  | slice op' k n hk hn hop hl h0 =>
    obtain ⟨hid, hin, hpos, hend⟩ := h.advance hsize hn hop
    have hne : op'.fileOffset ≠ op'.fileSize := fun he => Nat.ne_of_gt hl (hend.mpr he)
    rw [answered_sent hk, ← hn] at hsent
    refine ⟨fun k' hk' n' hn' op'' hop'' => ?_, fun hb => by rw [hk] at hb; cases hb⟩
    cases hk.symm.trans hk'
    obtain rfl : n' = n := hn'.trans hn.symm
    obtain rfl : op'' = op' := hop''.trans hop.symm
    refine ⟨hin, hpos, hsent, ?_, fun _ => ?_⟩
    · refine iff_of_false (fun hc => fresh hid ?_) hne
      simpa [St.touchSlot] using hc
    · refine mem_staged.mpr (Or.inl ⟨.limiter op'', ?_, rfl⟩)
      exact (St.tasks_startWith _) ▸ List.mem_append_right _ (List.mem_singleton_self _)
  | all op' k n hk hn hop hl =>
    obtain ⟨hid, hin, hpos, hend⟩ := h.advance hsize hn hop
    have heq : op'.fileOffset = op'.fileSize := hend.mp hl
    rw [answered_sent hk, ← hn] at hsent
    refine ⟨fun k' hk' n' hn' op'' hop'' => ?_, fun hb => by rw [hk] at hb; cases hb⟩
    cases hk.symm.trans hk'
    obtain rfl : n' = n := hn'.trans hn.symm
    obtain rfl : op'' = op' := hop''.trans hop.symm
    have htok : op''.completionToken = true := by rw [hop]; exact (hw.sends ht).2
    refine ⟨hin, hpos, hsent, iff_of_true ((mem_acts rfl).mp ?_) heq, fun hne => absurd heq hne⟩
    have h1 : (.complete op'' : Obs) ∈ completionActs op'' := by
      unfold completionActs
      rw [if_pos htok]
      simp
    let s₂ := ((s.takeHandler i).touchSlot op d).emit (.payload op.id d.conn (.sent op.fileOffset n'))
    show _ ∈ ((s₂.runCompletion op'').destroyOp cfg op'').acts
    rw [acts_destroyOp, (Entered.completion op'').acts]
    exact List.mem_cons_of_mem _ (List.mem_append_left _ h1)

/-- **Every RETR sends its file exactly**: while it is alive its offset is within the file, no
    subtraction wraps and what was sent is the front of the file; it completes at most once,
    and when the next answer of `sendfile` takes it to the end of the file. -/
theorem retr_sends_exactly {home : Path} {now : Int}
    (h : Reach (step cfg) (fun _ _ => True) (St.init cfg home c₀ now) s) :
    (∀ x ∈ s.staged, x.2.kind = .sendFile → SendsInOrder s x.2) ∧
    (∀ op, .complete op ∈ s.log → op.kind = .sendFile → op.fileOffset = op.fileSize ∧
      ∀ content : Bytes, Span.gather content (sentIn op.id s.log) = content.take op.fileSize) ∧
    ((completedIn s.log).map (·.id)).Nodup ∧
    ∀ (i : Nat) (os : Os) (t : Task) (op : Op) (s' : St), s.handlers[i]? = some ⟨t, some .ok⟩ →
      SendWait op t → step cfg s (.run i os) = .ok s' → AnswersExactly cfg os op s s' := by
  have hS := streams_reach h
  have hE := endings_reach h
  have hA := armed_reach h
  refine ⟨fun x hx hk => hS.sendsInOrder hE hx hk, fun op hc hk => ?_, ?_, ?_⟩
  · have hf := hS.finished op (mem_completedIn.mpr ((mem_acts rfl).mpr hc)) hk
    refine ⟨hf.atEnd, fun content => ?_⟩
    rw [← sentIn_acts, Span.gather_eq content (hS.contiguous _), hf.total]
  · rw [← completedIn_acts]
    exact hS.once
  · intro i os t op s' hi hw hs
    have ht := hA.handler hi
    have hp : ∃ ph, t.staged? = some (ph, op) := by
      cases hw with
      | ready c hk => exact ⟨_, rfl⟩
      | limiter => exact ⟨_, rfl⟩
    obtain ⟨ph, hp⟩ := hp
    have hx := staged_handler hi hp
    have hk := (hw.sends ht).1
    exact (hS.sendsInOrder hE hx hk).answers hw ht hs hi (hS.live _ hx hk).size

end

/-- The rest of the download, behind a would-block. -/
def downloadRest : List Ev :=
  download ++ [.complete 2 .ok, .run 2 { sendfile := .wouldBlock }, .complete 2 .ok,
    .run 2 { sendfile := .sent 9760 }]

set_option maxRecDepth 4000 in
theorem retr_sends_download : ∃ s, runAll (step .shipped) .fresh downloadRest = .ok s ∧
    sentIn 3 s.log = [⟨10240, 9760⟩, ⟨0, 10240⟩] ∧
    (completedIn s.log).map (fun op => (op.id, op.fileSize)) = [(3, 20000)] ∧
    ∀ op, .complete op ∈ s.log → op.kind = .sendFile → op.fileOffset = op.fileSize ∧
      ∀ content : Bytes, Span.gather content (sentIn op.id s.log) = content.take op.fileSize := by
  obtain ⟨s, run, sent, done⟩ : ∃ s, runAll (step .shipped) .fresh downloadRest = .ok s ∧
      sentIn 3 s.log = [⟨10240, 9760⟩, ⟨0, 10240⟩] ∧
      (completedIn s.log).map (fun op => (op.id, op.fileSize)) = [(3, 20000)] := ⟨_, rfl, rfl, rfl⟩
  have h := retr_sends_exactly (reach_runAll downloadRest .start (by decide) run)
  exact ⟨s, run, sent, done, h.2.1⟩

end OrangeFtpd
