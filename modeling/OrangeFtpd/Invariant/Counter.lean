/-
  File:      OrangeFtpd/Invariant/Counter.lean
  Subject:   `active_op_num_` and the operations it is to count.

  `BasicOp::BasicOp` adds one to the counter and `~BasicOp` takes one off, but no
  constructor gives it a first value. What the counter counts from is therefore
  whatever the memory held (`c₀`).

  * `Endings`, `endings_reach`: an operation is destroyed once, after it was created.
  * `counted_iff`: the counter counts exactly when it happened to start at 0 and
    has not wrapped.
-/
import OrangeFtpd.Invariant.Acts

namespace OrangeFtpd

section

variable {cfg : Config} {os : Os} {id n i : Nat} {s s' : St} {op op' : Op} {e : Ev} {t : Task}
  {r : Result} {o : Obs} {d : DataSocket} {k k' : List Conn} {new : List Obs}
  {handed : Option (Phase × Op)} {kind : OpKind} {x : Phase × Op} {c₀ : UInt32}

/-! ## 1. Created and destroyed -/

/-- The request of the entry `o` was dispatched. -/
def Requested (id : Nat) (acts : List Obs) : Prop := ∃ req cwd, .request id req cwd ∈ acts

/-- `id` ends with this entry, for the first time, and was a request before. -/
def EndsOnce (pre : List Obs) (o : Obs) : Prop :=
  ∀ id, o = .over id → .over id ∉ pre ∧ Requested id pre

/-- **Operations end once**, and those that are alive have not ended. -/
structure Endings (s : St) : Prop where
  alive : ∀ x ∈ s.staged, .over x.2.id ∉ s.acts ∧ Requested x.2.id s.acts
  once : Always EndsOnce s.acts

theorem Requested.append {acts : List Obs} (new : List Obs) (h : Requested id acts) :
    Requested id (new ++ acts) := by
  obtain ⟨req, cwd, h1⟩ := h
  exact ⟨req, cwd, List.mem_append_right new h1⟩

theorem not_over_append {acts : List Obs} (hn : ∀ id, .over id ∉ new) (h : .over id ∉ acts) :
    .over id ∉ new ++ acts := fun h1 => (List.mem_append.mp h1).elim (hn id) h

namespace Endings

/-- Nothing ends. -/
theorem goOn (hE : Endings s) (ha : s'.acts = new ++ s.acts) (hn : ∀ id, .over id ∉ new)
    (hst : ∀ y ∈ s'.staged, y ∈ s.staged ∨ (.over y.2.id ∉ s.acts ∧ Requested y.2.id s'.acts)) :
    Endings s' where
  alive y hy := by
    rcases hst y hy with h1 | ⟨h1, h2⟩
    · rw [ha]
      exact ⟨not_over_append hn (hE.alive y h1).1, (hE.alive y h1).2.append new⟩
    · exact ⟨ha ▸ not_over_append hn h1, h2⟩
  once := by
    rw [ha]
    exact hE.once.append fun o ho pre id he => absurd (he ▸ ho) (hn id)

/-- The request `n` ends, and nothing else. -/
theorem finish (hE : Endings s) (ha : s'.acts = .over n :: new ++ s.acts) (hn : ∀ id, .over id ∉ new)
    (hl : .over n ∉ s.acts) (hr : Requested n (new ++ s.acts))
    (hst : ∀ y ∈ s'.staged, y ∈ s.staged ∧ y.2.id ≠ n) : Endings s' where
  alive y hy := by
    obtain ⟨h1, h2⟩ := hst y hy
    rw [ha]
    refine ⟨fun h3 => ?_, (hE.alive y h1).2.append _⟩
    rcases List.mem_cons.mp h3 with h3 | h3
    · exact h2 (Obs.over.inj h3)
    · exact not_over_append hn (hE.alive y h1).1 h3
  once := by
    rw [ha]
    refine ⟨fun id he => ?_, hE.once.append fun o ho pre id he => absurd (he ▸ ho) (hn id)⟩
    cases he
    exact ⟨not_over_append hn hl, hr⟩

/-- Several operations end, each once. -/
theorem dropped (ops : List Op) (hE : Endings s)
    (ha : s'.acts = (ops.map fun op => Obs.over op.id).reverse ++ s.acts)
    (hd : (ops.map (·.id)).Nodup) (hl : ∀ op ∈ ops, .over op.id ∉ s.acts ∧ Requested op.id s.acts)
    (hst : ∀ y ∈ s'.staged, y ∈ s.staged ∧ ∀ op ∈ ops, y.2.id ≠ op.id) : Endings s' where
  alive y hy := by
    obtain ⟨h1, h2⟩ := hst y hy
    rw [ha]
    refine ⟨fun h3 => ?_, (hE.alive y h1).2.append _⟩
    rcases List.mem_append.mp h3 with h3 | h3
    · obtain ⟨op, hop, h4⟩ := List.mem_map.mp (List.mem_reverse.mp h3)
      exact h2 op hop (Obs.over.inj h4).symm
    · exact (hE.alive y h1).1 h3
  once := by
    rw [ha]
    clear ha hst
    have fold : ∀ (ops : List Op) (acts : List Obs), Always EndsOnce acts →
        (ops.map (·.id)).Nodup → (∀ op ∈ ops, .over op.id ∉ acts ∧ Requested op.id acts) →
        Always EndsOnce ((ops.map fun op => Obs.over op.id).reverse ++ acts) := by
      intro ops
      induction ops with
      | nil => exact fun _ h _ _ => h
      | cons op ops ih =>
        intro acts h hd hl
        obtain ⟨h1, h2⟩ := List.nodup_cons.mp hd
        rw [List.map_cons, List.reverse_cons, List.append_assoc]
        refine ih (.over op.id :: acts) ⟨fun id he => ?_, h⟩ h2 fun op' ho' => ?_
        · cases he
          exact hl op List.mem_cons_self
        · have hl' := hl op' (List.mem_cons_of_mem _ ho')
          refine ⟨fun h3 => ?_, hl'.2.append [_]⟩
          rcases List.mem_cons.mp h3 with h3 | h3
          · exact h1 (List.mem_map.mpr ⟨op', ho', Obs.over.inj h3⟩)
          · exact hl'.1 h3
    exact fold ops s.acts hE.once hd hl

end Endings

/-! ## 2. The steps -/

theorem Splices.not_over (h : Splices d k op new k' op') (id : Nat) : .over id ∉ new := by
  intro hm
  rcases h.act hm with ⟨_, h1⟩ | ⟨_, _, h1⟩ <;> cases h1

theorem completionActs_not_over (id : Nat) : .over id ∉ completionActs op := by
  unfold completionActs
  split <;> simp

theorem openedActs_not_over {p path : Path} {created : Bool} (id : Nat) :
    .over id ∉ openedActs os n op p path created := by
  unfold openedActs
  split <;> simp

/-- **A turn ends its operation with its last act**, or not at all. -/
theorem Turn.ends (h : Turn cfg os s op t r new handed k) :
    (handed = none ∧ ∃ rest, new = .over op.id :: rest ∧ ∀ id, .over id ∉ rest) ∨
      ∀ id, .over id ∉ new := by
  cases h with
  | unconnected r hr => exact Or.inl ⟨rfl, _, rfl, by simp⟩
  | accepted c hk => exact Or.inr (by simp)
  | listAccepted c response hl hs hr => exact Or.inr (by simp)
  | waitFailed t r hr ht => exact Or.inl ⟨rfl, _, rfl, by simp⟩
  | sendFailed t d ht hd hf => exact Or.inl ⟨rfl, _, rfl, by simp⟩
  | sendAgain t d ht hd => exact Or.inr (by simp)
  | sentPart op' t d n last ht hd hn hop hl hlast =>
    right
    rcases hlast with rfl | rfl <;> simp
  | sentAll op' t d n ht hd hn hop hl =>
    refine Or.inl ⟨rfl, _, rfl, fun id hm => ?_⟩
    rcases List.mem_append.mp hm with h1 | h1
    · exact completionActs_not_over id h1
    · simp at h1
  | receivedAll c d hk hd hi =>
    refine Or.inl ⟨rfl, _, rfl, fun id hm => ?_⟩
    rcases List.mem_append.mp hm with h1 | h1
    · exact completionActs_not_over id h1
    · simp at h1
  | receiveFailed op' c d new k hk hd hf hl =>
    refine Or.inl ⟨rfl, _, rfl, fun id hm => ?_⟩
    rcases List.mem_append.mp hm with h1 | h1
    · exact hl.not_over id h1
    · simp at h1
  | receiveAgain op' c d new k hk hd hl =>
    refine Or.inr fun id hm => ?_
    rcases List.mem_append.mp hm with h1 | h1
    · exact hl.not_over id ((List.mem_cons.mp h1).resolve_left nofun)
    · simp at h1
  | listed c r => exact Or.inl ⟨rfl, _, rfl, by simp⟩

/-- **A launch ends its request with its last act**, or not at all. -/
theorem Launch.ends (h : Launch cfg os n kind s new handed) :
    (handed = none ∧ ∃ rest, new = .over n :: rest ∧ ∀ id, .over id ∉ rest) ∨
      ∀ id, .over id ∉ new := by
  have noted : ∀ {notes : List Obs}, (∀ o ∈ notes, Note cfg n o) → ∀ id, .over id ∉ notes :=
    fun hn id hm => by cases hn _ hm
  cases h with
  | answered op notes b hf hn hb =>
    refine Or.inl ⟨rfl, _, rfl, fun id hm => ?_⟩
    exact noted hn id ((List.mem_cons.mp hm).resolve_left nofun)
  | silent notes file hk hn ho => exact Or.inl ⟨rfl, _, rfl, noted hn⟩
  | waiting op notes hk hf ht hn => exact Or.inr (noted hn)
  | uploadNull op s₂ p path created hk hu hfd =>
    exact Or.inl ⟨rfl, _, rfl, openedActs_not_over⟩
  | uploadRefused op s₂ p path created hk hu hfd =>
    refine Or.inl ⟨rfl, _, rfl, fun id hm => ?_⟩
    exact openedActs_not_over id ((List.mem_cons.mp hm).resolve_left nofun)
  | uploadWaiting op s₂ p path created hk hu hfd => exact Or.inr openedActs_not_over

/-- The numbers of requests to come are not in the log. -/
theorem Ops.not_over_next (ho : Ops c₀ [] s) : .over s.nextId ∉ s.acts := fun hm =>
  Nat.lt_irrefl _ (ho.log _ ((mem_acts rfl).mp hm) _ rfl)

theorem Endings.step (hE : Endings s) (ho : Ops c₀ [] s) (hs : OrangeFtpd.step cfg s e = .ok s') :
    Endings s' := by
  have hnext := ho.not_over_next
  -- the operations that were there are not the next request
  have old : ∀ y ∈ s.staged, y.2.id ≠ s.nextId := fun y hy h1 =>
    Nat.lt_irrefl _ (h1 ▸ ho.fresh y.2.id (staged_live hy))
  cases booked_step (step_cases hs) ho with
  | same _ _ he hn =>
    exact hE.goOn he.acts (by simp) fun y hy => Or.inl ((he.staged y hy).resolve_left nofun)
  | connect i c _ he hn =>
    exact hE.goOn he.acts (by simp) fun y hy => Or.inl ((he.staged y hy).resolve_left nofun)
  | peer _ _ o k hp he hn =>
    refine hE.goOn he.acts (fun id hm => ?_) fun y hy =>
      Or.inl ((he.staged y hy).resolve_left nofun)
    rw [← List.mem_singleton.mp hm] at hp
    cases hp
  | token i os _ tok d new hi ht hd hnew he hn =>
    refine hE.goOn he.acts ?_ fun y hy => Or.inl ((he.staged y hy).resolve_left nofun)
    rcases hnew with rfl | ⟨response, rfl⟩ <;> simp
  | refused i os _ req b hr hv hc hb he hn =>
    refine hE.finish he.acts (by simp) hnext ⟨req, s.currentPath, by simp⟩ fun y hy => ?_
    have h1 := (he.staged y hy).resolve_left nofun
    exact ⟨h1, old y h1⟩
  | launched i os _ req kind s₁ new handed hr hk hs₁ hl he hn =>
    have hreq : Requested s.nextId s'.acts := ⟨req, s.currentPath, by rw [he.acts]; simp⟩
    rcases hl.ends with ⟨rfl, rest, rfl, hrest⟩ | hnone
    · have ha : s'.acts = .over s.nextId ::
          (rest ++ [.request s.nextId req s.currentPath]) ++ s.acts := he.acts
      refine hE.finish ha (fun id hm => ?_) hnext ?_ fun y hy => ?_
      · exact (List.mem_append.mp hm).elim (hrest id) (by simp)
      · exact ⟨req, s.currentPath, by simp⟩
      · have h1 := (he.staged y hy).resolve_left nofun
        exact ⟨h1, old y h1⟩
    · refine hE.goOn he.acts (fun id hm => ?_) fun y hy => ?_
      · exact (List.mem_append.mp hm).elim (hnone id) (by simp)
      · rcases he.staged y hy with h1 | h1
        · right
          rw [(hl.handed_kind h1).1]
          exact ⟨hnext, hreq⟩
        · exact Or.inl h1
  | turned i os _ t r ph op new handed k hi hp hT he hgone hn =>
    have hop := hE.alive _ (staged_handler hi hp)
    have hst : ∀ y ∈ s'.staged, handed = some y ∨ (y ∈ s.staged ∧ y.2.id ≠ op.id) := by
      intro y hy
      rcases he.staged y hy with h1 | h1
      · exact Or.inl h1
      · exact (hgone y hy).imp_right fun h2 => ⟨h1, h2⟩
    rcases hT.ends with ⟨rfl, rest, rfl, hrest⟩ | hnone
    · exact hE.finish he.acts hrest hop.1 (hop.2.append rest) fun y hy =>
        (hst y hy).resolve_left nofun
    · refine hE.goOn he.acts hnone fun y hy => ?_
      rcases hst y hy with h1 | h1
      · right
        rw [(hT.handedOn h1).1, he.acts]
        exact ⟨hop.1, hop.2.append new⟩
      · exact Or.inl h1.1
  | dropped i os _ r hi hr he hgone hn =>
    refine hE.dropped s.queuedOps he.acts ?_ (fun op hop => hE.alive _ (staged_queued hop))
      fun y hy => ⟨(he.staged y hy).resolve_left nofun, hgone y hy⟩
    have h1 := ho.nodup
    unfold St.liveIds St.liveOps at h1
    rw [List.nil_append, List.map_append] at h1
    exact (List.nodup_append.mp h1).2.1

theorem endings_reach {home : Path} {now : Int} {ok : St → Ev → Prop}
    (h : Reach (OrangeFtpd.step cfg) ok (St.init cfg home c₀ now) s) : Endings s :=
  h.invariant_of (fun _ => ops_reach) ⟨nofun, always_nil _⟩
    fun _ _ _ ho hE _ hs => hE.step ho hs

/-! ## 3. The counter never goes below what was created -/

/-- The requests that were dispatched. -/
def requestIds (log : List Obs) : List Nat :=
  log.filterMap fun
    | .request id _ _ => some id
    | _ => none

/-- The requests that ended. -/
def overIds (log : List Obs) : List Nat :=
  log.filterMap fun
    | .over id => some id
    | _ => none

theorem mem_requestIds {log : List Obs} : id ∈ requestIds log ↔ Requested id log := by
  unfold requestIds Requested
  rw [List.mem_filterMap]
  constructor
  · rintro ⟨o, ho, h⟩
    cases o with
    | request i req cwd => exact ⟨req, cwd, Option.some.inj h ▸ ho⟩
    | _ => cases h
  · rintro ⟨req, cwd, h⟩
    exact ⟨_, h, rfl⟩

theorem mem_overIds {log : List Obs} : id ∈ overIds log ↔ .over id ∈ log := by
  unfold overIds
  rw [List.mem_filterMap]
  constructor
  · rintro ⟨o, ho, h⟩
    cases o with
    | «over» i => exact Option.some.inj h ▸ ho
    | _ => cases h
  · exact fun h => ⟨_, h, rfl⟩

/-- Where nothing ends twice or unasked, fewer ended than were dispatched. -/
theorem overIds_of_once {log : List Obs} (h : Always EndsOnce log) :
    (overIds log).Nodup ∧ ∀ i ∈ overIds log, i ∈ requestIds log := by
  induction log with
  | nil => exact ⟨List.nodup_nil, nofun⟩
  | cons o log ih =>
    obtain ⟨h1, h2⟩ := ih h.2
    have more : ∀ i ∈ overIds log, i ∈ requestIds (o :: log) := fun i hi =>
      mem_requestIds.mpr ((mem_requestIds.mp (h2 i hi)).append [o])
    cases o with
    | «over» id =>
      obtain ⟨hn, hr⟩ := h.1 id rfl
      refine ⟨List.nodup_cons.mpr ⟨fun hm => hn (mem_overIds.mp hm), h1⟩, fun i hi => ?_⟩
      rcases List.mem_cons.mp hi with rfl | hi
      · exact mem_requestIds.mpr (hr.append [_])
      · exact more i hi
    | _ => exact ⟨h1, more⟩

/-- What ends was one of those that were dispatched and had not ended. -/
def Counted (pre : List Obs) (o : Obs) : Prop :=
  ∀ id, o = .over id → (overIds pre).length < (requestIds pre).length

theorem counted_of_once {log : List Obs} (h : Always EndsOnce log) : Always Counted log := by
  induction log with
  | nil => trivial
  | cons o log ih =>
    refine ⟨fun id he => ?_, ih h.2⟩
    subst he
    obtain ⟨hn, hr⟩ := h.1 id rfl
    obtain ⟨h1, h2⟩ := overIds_of_once h.2
    have hd : (id :: overIds log).Nodup := List.nodup_cons.mpr ⟨fun hm => hn (mem_overIds.mp hm), h1⟩
    exact hd.length_le_of_subset (List.cons_subset.mpr ⟨mem_requestIds.mpr hr, h2⟩)

/-- The entries that are not in the book do not count. -/
theorem once_of_acts {log : List Obs} (h : Always EndsOnce (log.filter Obs.isAct)) :
    Always EndsOnce log := by
  induction log with
  | nil => trivial
  | cons o log ih =>
    by_cases ho : o.isAct = true
    · rw [List.filter_cons_of_pos ho] at h
      refine ⟨fun id he => ?_, ih h.2⟩
      obtain ⟨h1, req, cwd, h2⟩ := h.1 id he
      refine ⟨fun hm => h1 (List.mem_filter.mpr ⟨hm, rfl⟩), req, cwd, ?_⟩
      exact (List.mem_filter.mp h2).1
    · rw [List.filter_cons_of_neg ho] at h
      refine ⟨fun id he => ?_, ih h⟩
      subst he
      exact absurd rfl ho

/-! ## 4. The counter -/

/-- **`active_op_num_` does what it is for.** -/
structure St.Counts (s : St) : Prop where
  /-- It is the number of live operations. -/
  exact : s.activeOpNum.toNat = s.liveOps.length
  /-- `exists_pending_operator` says whether an operation is alive or a reply queued. -/
  pending : s.existsPendingOperator = true ↔ s.liveOps ≠ [] ∨ s.messageQueue ≠ []
  /-- No operation took itself off a counter that no operation was left on. -/
  noUnderflow : Always Counted s.log

/-- **The counter counts exactly when it started at 0**, as long as there are not more
    operations than an `uint` can count. -/
theorem counted_iff {home : Path} {now : Int}
    (h : Reach (step cfg) (fun _ _ => True) (St.init cfg home c₀ now) s) :
    s.Counts ↔ c₀ = 0 ∧ s.liveOps.length < 2 ^ 32 := by
  have hc : s.activeOpNum = c₀ + UInt32.ofNat s.liveOps.length := by
    have h1 := (ops_reach h).count
    rwa [List.nil_append, St.liveIds, List.length_map] at h1
  have hn : (UInt32.ofNat s.liveOps.length).toNat = s.liveOps.length % 2 ^ 32 :=
    UInt32.toNat_ofNat' ..
  constructor
  · intro hs
    have hlt : s.liveOps.length < 2 ^ 32 := hs.exact ▸ s.activeOpNum.toNat_lt
    refine ⟨?_, hlt⟩
    -- the counter and the number of operations are the same `uint`
    have he : s.activeOpNum = UInt32.ofNat s.liveOps.length := by
      rw [← hs.exact, UInt32.ofNat_toNat]
    rw [hc] at he
    exact UInt32.add_eq_right.mp he
  · rintro ⟨rfl, hlt⟩
    have he : s.activeOpNum.toNat = s.liveOps.length := by
      rw [hc, UInt32.zero_add, hn, Nat.mod_eq_of_lt hlt]
    refine ⟨he, ?_, counted_of_once (once_of_acts (endings_reach h).once)⟩
    have h0 : s.activeOpNum = 0 ↔ s.liveOps = [] := by
      rw [← UInt32.toNat_inj, he]
      exact List.length_eq_zero_iff
    unfold St.existsPendingOperator
    simp [h0]

end

/-- A download that has sent its first slice: one operation is alive. -/
theorem counted_download : ∃ s, runAll (step .shipped) .fresh download = .ok s ∧
    s.liveOps.length = 1 ∧ s.Counts := by
  have counts := fun s (run : runAll (step .shipped) .fresh download = .ok s) =>
    counted_iff (reach_runAll download .start (by decide) run)
  exact ⟨_, rfl, rfl, (counts _ rfl).mpr ⟨rfl, by decide⟩⟩

/-- **A counter that starts at 7**: when the banner is written no operation is alive and no
    reply is queued, and an operation is said to be pending. -/
theorem counter_uninitialised :
    ∃ s, Reach (step .shipped) (fun _ _ => True) (St.init .shipped "/root".toList 7 0) s ∧
      s.liveOps = [] ∧ s.messageQueue = [] ∧ s.activeOpNum = 7 ∧
      s.existsPendingOperator = true ∧ ¬ s.Counts := by
  have reach : ∀ s, runAll (step .shipped) (St.init .shipped "/root".toList 7 0)
      [.complete 0 .ok, .run 0 {}] = .ok s → Reach (step .shipped) (fun _ _ => True) _ s :=
    fun _ run => reach_runAll _ .start (by decide) run
  refine ⟨_, reach _ rfl, rfl, rfl, rfl, rfl, fun h => ?_⟩
  cases h.exact

end OrangeFtpd
