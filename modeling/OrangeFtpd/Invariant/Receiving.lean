/-
  File:      OrangeFtpd/Invariant/Receiving.lean
  Subject:   What peers send, what is read of it, and what of it is in the files.

  Bytes go from the peer into the receive buffer of a data connection, from there
  through the pipe of a STOR into its file. Nothing is lost on the way.

  * `Conserved`: on every connection, what was read, what is still in the buffer and
    what a reset destroyed is what the peer sent.
  * `Receiving`: the file of a live STOR holds what was read for it, and the
    descriptor stands at its end, where no STOR opens a file that another one is
    still writing (`uploadsApart`).
-/
import OrangeFtpd.Lib.Gather
import OrangeFtpd.Invariant.Acts
import OrangeFtpd.Session.Members

namespace OrangeFtpd

/-! ## 1. The streams of a log -/

/-- The bytes that were read for the request `id`. -/
def Obs.readBy (id : Nat) : Obs → Bytes
  | .payload i _ (.received bytes) => if i = id then bytes else []
  | _ => []

/-- The bytes that were read from the connection `c`. -/
def Obs.readFrom (c : ConnId) : Obs → Bytes
  | .payload _ c' (.received bytes) => if c' = c then bytes else []
  | _ => []

/-- The bytes that the peer of the connection `c` sent. -/
def Obs.peerBytes (c : ConnId) : Obs → Bytes
  | .peerSent c' bytes => if c' = c then bytes else []
  | _ => []

def readFor (id : Nat) (log : List Obs) : Bytes := gathered (Obs.readBy id) log

def readFrom (c : ConnId) (log : List Obs) : Bytes := gathered (Obs.readFrom c) log

def peerStream (c : ConnId) (log : List Obs) : Bytes := gathered (Obs.peerBytes c) log

/-- What the entry makes of the content of `file`. -/
def Obs.onFile (file : FileId) : Obs → Bytes → Bytes
  | .fs _ (.opened f _ _), content => if f = file then [] else content
  | .fs _ (.wrote f offset bytes), content =>
    if f = file then writeAt 0 content offset bytes else content
  | _, content => content

/-- **What the server made of `file`**: opening it truncates it. -/
def fileContent (file : FileId) (log : List Obs) : Bytes := log.foldr (Obs.onFile file) []

/-- An entry that is about no stream and no file. -/
def Obs.isStill : Obs → Bool
  | .payload _ _ (.received _) | .peerSent .. | .fs _ (.opened ..) | .fs _ (.wrote ..) => false
  | _ => true

/-- The bytes that are in the receive buffer of the connection `c`. -/
def inboxIn (k : List Conn) (c : ConnId) : Bytes := (k.getD c {}).inbox

/-- The file that the open gets. -/
def Os.openedFile? (os : Os) : Option FileId := os.openFile.toOption.map Prod.snd

/-- **No STOR opens a file that a live STOR is to write.** -/
def uploadsApart (s : St) (os : Os) (t : Task) (r : Result) : Prop :=
  match t with
  | .read => r = .ok → s.verified = true → ∀ req ∈ s.nextRequest,
      createKind req.command = some .recvFile → req.body ≠ [] →
      (s.isAnonymous = true → fsExists (os.stat 0) = .ok false) →
      ∀ file ∈ os.openedFile?, ∀ y ∈ s.staged, y.2.kind = .recvFile → y.2.file ≠ file
  | _ => True

instance {s : St} {os : Os} {r : Result} : ∀ {t : Task}, Decidable (uploadsApart s os t r)
  | .read => inferInstanceAs (Decidable (r = .ok → s.verified = true → ∀ req ∈ s.nextRequest,
      createKind req.command = some .recvFile → req.body ≠ [] →
      (s.isAnonymous = true → fsExists (os.stat 0) = .ok false) →
      ∀ file ∈ os.openedFile?, ∀ y ∈ s.staged, y.2.kind = .recvFile → y.2.file ≠ file))
  | .banner | .idleWait | .keepAlive | .ctlWrite | .accept _ | .dataWait .. | .limiter _
  | .listWrite .. => isTrue trivial

section

variable {cfg : Config} {os : Os} {id n i : Nat} {s s₁ s' : St} {op op' : Op} {e : Ev} {t : Task}
  {r : Result} {o : Obs} {c : ConnId} {file : FileId} {d : DataSocket} {k k' : List Conn}
  {new old log : List Obs} {handed : Option (Phase × Op)} {kind : OpKind} {x : Phase × Op}
  {c₀ : UInt32} {home : Path} {now : Int}

/-- What a still entry adds: nothing. -/
structure Still (o : Obs) : Prop where
  readBy : ∀ id, o.readBy id = []
  readFrom : ∀ c, o.readFrom c = []
  peerBytes : ∀ c, o.peerBytes c = []
  onFile : ∀ file content, o.onFile file content = content

theorem Obs.still (h : o.isStill = true) : Still o := by
  cases o with
  | payload i c p =>
    cases p with
    | received bytes => cases h
    | _ => exact ⟨fun _ => rfl, fun _ => rfl, fun _ => rfl, fun _ _ => rfl⟩
  | fs i e =>
    cases e with
    | madeDirectory path => exact ⟨fun _ => rfl, fun _ => rfl, fun _ => rfl, fun _ _ => rfl⟩
    | _ => cases h
  | peerSent c bytes => cases h
  | _ => exact ⟨fun _ => rfl, fun _ => rfl, fun _ => rfl, fun _ _ => rfl⟩

/-- What is not in the book. -/
theorem still_of_not_act (h : o.isAct = false) : Still o := by
  refine Obs.still ?_
  cases o <;> first | rfl | cases h

theorem readFor_still (h : ∀ o ∈ new, o.isStill = true) : readFor id new = [] :=
  gathered_none fun o ho => (Obs.still (h o ho)).readBy id

theorem readFrom_still (h : ∀ o ∈ new, o.isStill = true) : readFrom c new = [] :=
  gathered_none fun o ho => (Obs.still (h o ho)).readFrom c

theorem peerStream_still (h : ∀ o ∈ new, o.isStill = true) : peerStream c new = [] :=
  gathered_none fun o ho => (Obs.still (h o ho)).peerBytes c

@[simp] theorem readFor_append : readFor id (new ++ old) = readFor id old ++ readFor id new :=
  gathered_append

@[simp] theorem readFrom_append : readFrom c (new ++ old) = readFrom c old ++ readFrom c new :=
  gathered_append

@[simp] theorem peerStream_append :
    peerStream c (new ++ old) = peerStream c old ++ peerStream c new := gathered_append

/-- Entries that leave the file as it is. -/
theorem fileContent_append (h : ∀ o ∈ new, ∀ content, o.onFile file content = content) :
    fileContent file (new ++ old) = fileContent file old := by
  unfold fileContent
  rw [List.foldr_append]
  generalize List.foldr (Obs.onFile file) [] old = content
  induction new with
  | nil => rfl
  | cons o new ih =>
    rw [List.foldr_cons, ih fun o ho => h o (List.mem_cons_of_mem _ ho)]
    exact h o List.mem_cons_self content

theorem fileContent_still (h : ∀ o ∈ new, o.isStill = true) :
    fileContent file (new ++ old) = fileContent file old :=
  fileContent_append fun o ho => (Obs.still (h o ho)).onFile file

theorem readFrom_filter : readFrom c (log.filter Obs.isAct) = readFrom c log :=
  gathered_filter fun _ ho => (still_of_not_act ho).readFrom c

theorem peerStream_filter : peerStream c (log.filter Obs.isAct) = peerStream c log :=
  gathered_filter fun _ ho => (still_of_not_act ho).peerBytes c

theorem fileContent_filter : fileContent file (log.filter Obs.isAct) = fileContent file log := by
  unfold fileContent
  rw [List.foldr_filter]
  refine List.foldr_ext _ _ _ fun o _ content => ?_
  split
  · rfl
  · next h => exact ((still_of_not_act (eq_false_of_ne_true h)).onFile file content).symm

/-! ## 2. What a turn moves -/

/-- **What a turn moves**: its operation reads, or nothing is moved. -/
inductive Moves (s : St) (op : Op) (new : List Obs) (handed : Option (Phase × Op))
    (k : List Conn) : Prop where
  | nothing (hn : ∀ o ∈ new, o.isStill = true)
      (hh : ∀ x, handed = some x → x.2.fdOffset = op.fdOffset) (hk : k = s.conns)
  | read (d : DataSocket) (op' : Op) (last mid : List Obs) (hk : op.kind = .recvFile)
      (hl : Splices d s.conns op mid k op')
      (hnew : new = last ++ mid ++ [.touch op.id (some d.conn)])
      (hlast : ∀ o ∈ last, o.isStill = true)
      (hh : ∀ x, handed = some x → x = (.running, op'))

theorem completionActs_still (h : o ∈ completionActs op) : o.isStill = true := by
  unfold completionActs at h
  split at h
  · rcases List.mem_pair.mp h with rfl | rfl <;> rfl
  · cases h

theorem Turn.moves (h : Turn cfg os s op t r new handed k) : Moves s op new handed k := by
  cases h with
  | unconnected r hr => exact .nothing (by simp [Obs.isStill]) nofun rfl
  | accepted c hk =>
    exact .nothing (by simp [Obs.isStill]) (fun x hx => by cases hx; rfl) rfl
  | listAccepted c response hl hs hr =>
    exact .nothing (by simp [Obs.isStill]) (fun x hx => by cases hx; rfl) rfl
  | waitFailed t r hr ht => exact .nothing (by simp [Obs.isStill]) nofun rfl
  | sendFailed t d ht hd hf => exact .nothing (by simp [Obs.isStill]) nofun rfl
  | sendAgain t d ht hd =>
    exact .nothing (by simp [Obs.isStill]) (fun x hx => by cases hx; rfl) rfl
  | sentPart op' t d n last ht hd hn hop hl hlast =>
    refine .nothing ?_ (fun x hx => by cases hx; rw [hop]) rfl
    rcases hlast with rfl | rfl <;> simp [Obs.isStill]
  | sentAll op' t d n ht hd hn hop hl =>
    refine .nothing (fun o ho => ?_) nofun rfl
    rcases List.mem_append.mp ho with h1 | h1
    · rcases List.mem_cons.mp h1 with rfl | h2
      · rfl
      · exact completionActs_still h2
    · rcases List.mem_pair.mp h1 with rfl | rfl <;> rfl
  | receivedAll c d hk hd hi =>
    refine .nothing (fun o ho => ?_) nofun rfl
    rcases List.mem_append.mp ho with h1 | h1
    · rcases List.mem_cons.mp h1 with rfl | h2
      · rfl
      · exact completionActs_still h2
    · rw [List.mem_singleton.mp h1]
      rfl
  | receiveFailed op' c d mid k hk hd hf hl =>
    exact .read d op' [.over op.id] mid hk hl rfl (by simp [Obs.isStill]) nofun
  | receiveAgain op' c d mid k hk hd hl =>
    exact .read d op' [.touch op.id (some d.conn)] mid hk hl rfl (by simp [Obs.isStill])
      fun x hx => (Option.some.inj hx).symm
  | listed c r => exact .nothing (by simp [Obs.isStill]) nofun rfl

/-! ## 3. The splice loop -/

/-- A change of the connection `c`, where that is there or the change leaves the empty one as
    it is. -/
theorem getD_modify {f : Conn → Conn} (h : c < k.length ∨ f {} = {}) (c' : ConnId) :
    (k.modify c f).getD c' {} = if c = c' then f (k.getD c' {}) else k.getD c' {} := by
  rw [List.getD_eq_getElem?_getD, List.getD_eq_getElem?_getD, List.getElem?_modify]
  cases hk : k[c']? with
  | some q => split <;> rfl
  | none =>
    split
    · next hc =>
      have hf : f {} = {} := h.resolve_left fun hlt =>
        absurd (List.getElem?_eq_none_iff.mp hk) (Nat.not_le.mpr (hc ▸ hlt))
      exact hf.symm
    · rfl

/-- **What the splice loop moves**: bytes from the receive buffer into the file, in order. -/
structure Spliced.Moved (d : DataSocket) (k : List Conn) (op : Op) (mid : List Obs) (k' : List Conn)
    (op' : Op) : Prop where
  offset : op'.fdOffset = op.fdOffset + (readFor op.id mid).length
  taken : ∀ c, readFrom c mid ++ inboxIn k' c = inboxIn k c
  peers : ∀ c, (k'.getD c {}).peer = (k.getD c {}).peer

theorem Splices.moved (h : Splices d k op new k' op') : Spliced.Moved d k op new k' op' := by
  induction h with
  | stop k op => exact ⟨rfl, fun c => rfl, fun c => rfl⟩
  | turn k k' op op' n bytes mid hb h ih =>
    have own : readFor op.id [.fs op.id (.wrote op.file op.fdOffset bytes),
        .payload op.id d.conn (.received bytes)] = bytes := by
      simp [readFor, gathered, Obs.readBy]
    have hmod := fun c => @getD_modify d.conn k (fun q => { q with inbox := q.inbox.drop n })
      (Or.inr (by rw [List.drop_nil])) c
    constructor
    case offset =>
      rw [ih.offset, readFor_append, own, List.length_append]
      exact Nat.add_assoc ..
    case taken =>
      intro c
      have h1 := ih.taken c
      unfold inboxIn at h1 ⊢
      rw [hmod] at h1
      rw [readFrom_append, List.append_assoc, h1]
      by_cases hc : d.conn = c
      · subst hc
        have : readFrom d.conn [.fs op.id (.wrote op.file op.fdOffset bytes),
            .payload op.id d.conn (.received bytes)] = bytes := by
          simp [readFrom, gathered, Obs.readFrom]
        rw [this, hb, if_pos rfl]
        exact List.take_append_drop n _
      · rw [if_neg hc]
        simp [readFrom, gathered, Obs.readFrom, hc]
    case peers =>
      intro c
      rw [ih.peers c, hmod]
      split <;> rfl

/-- What others read and other files hold stays. -/
theorem Splices.others (h : Splices d k op new k' op') (ho : o ∈ new) :
    (∀ id, id ≠ op.id → o.readBy id = []) ∧ (∀ c, o.peerBytes c = []) ∧
      ∀ file content, file ≠ op.file → o.onFile file content = content := by
  rcases h.act ho with ⟨bytes, rfl⟩ | ⟨offset, bytes, rfl⟩
  · exact ⟨fun id hid => if_neg (Ne.symm hid), fun _ => rfl, fun _ _ _ => rfl⟩
  · exact ⟨fun _ _ => rfl, fun _ => rfl, fun file _ hf => if_neg (Ne.symm hf)⟩

/-- **The file gets what is read**, behind what it held. -/
theorem Splices.content (h : Splices d k op new k' op') :
    ∀ {old : List Obs}, op.fdOffset = (fileContent op.file old).length →
      fileContent op.file (new ++ old) = fileContent op.file old ++ readFor op.id new := by
  induction h with
  | stop k op => exact fun _ => (List.append_nil _).symm
  | turn k k' op op' n bytes mid hb h ih =>
    intro old hoff
    have hturn : fileContent op.file ([.fs op.id (.wrote op.file op.fdOffset bytes),
        .payload op.id d.conn (.received bytes)] ++ old) = fileContent op.file old ++ bytes := by
      have h1 : fileContent op.file ([.fs op.id (.wrote op.file op.fdOffset bytes),
          .payload op.id d.conn (.received bytes)] ++ old) =
          writeAt 0 (fileContent op.file old) op.fdOffset bytes := if_pos rfl
      rw [h1, hoff, writeAt_end]
    have hread : readFor op.id [.fs op.id (.wrote op.file op.fdOffset bytes),
        .payload op.id d.conn (.received bytes)] = bytes := by
      simp [readFor, gathered, Obs.readBy]
    have hnext : op.fdOffset + bytes.length = (fileContent op.file ([.fs op.id (.wrote op.file
        op.fdOffset bytes), .payload op.id d.conn (.received bytes)] ++ old)).length := by
      rw [hturn, List.length_append, hoff]
    rw [List.append_assoc, ih hnext, hturn, readFor_append, hread, List.append_assoc]

/-- The entries of a launch: only the open of an upload is not still. -/
theorem Launch.still (h : Launch cfg os n kind s new handed) (ho : o ∈ new) :
    o.isStill = true ∨ ∃ file path created, o = .fs n (.opened file path created) := by
  rcases h.cases ho with rfl | ⟨b, rfl⟩ | h1 | h1
  · exact Or.inl rfl
  · exact Or.inl rfl
  · cases h1 <;> exact Or.inl rfl
  · exact Or.inr h1

theorem Moves.take (h : Moves (s.takeHandler i) op new handed k) : Moves s op new handed k := by
  cases h with
  | nothing hn hh hk => exact .nothing hn hh hk
  | read d op' last mid hk hl hnew hlast hh => exact .read d op' last mid hk hl hnew hlast hh

/-! ## 4. Nothing is lost on a connection -/

/-- **What was read, what is still to be read and what a reset destroyed** is what the peer
    sent, on every connection. -/
def Conserved (s : St) : Prop :=
  ∀ c, ∃ lost, readFrom c s.acts ++ inboxIn s.conns c ++ lost = peerStream c s.acts ∧
    (peerOf c s ≠ .reset → lost = [])

namespace Conserved

theorem whole (h : Conserved s) (hp : peerOf c s ≠ .reset) :
    readFrom c s.acts ++ inboxIn s.conns c = peerStream c s.acts := by
  obtain ⟨lost, h1, h2⟩ := h c
  rwa [h2 hp, List.append_nil] at h1

theorem read_prefix (h : Conserved s) (c : ConnId) : readFrom c s.acts <+: peerStream c s.acts := by
  obtain ⟨lost, h1, -⟩ := h c
  exact ⟨_, (List.append_assoc ..).symm.trans h1⟩

/-- Nothing is read, nothing sent. -/
theorem quiet (h : Conserved s) (ha : s'.acts = new ++ s.acts)
    (hn : ∀ c, readFrom c new = [] ∧ peerStream c new = [])
    (hk : ∀ c, s'.conns.getD c {} = s.conns.getD c {}) : Conserved s' := by
  intro c
  have hc := h c
  unfold peerOf inboxIn at *
  rw [hk, ha, readFrom_append, peerStream_append, (hn c).1, (hn c).2, List.append_nil,
    List.append_nil]
  exact hc

theorem still (h : Conserved s) (ha : s'.acts = new ++ s.acts) (hn : ∀ o ∈ new, o.isStill = true)
    (hk : s'.conns = s.conns) : Conserved s' :=
  h.quiet ha (fun _ => ⟨readFrom_still hn, peerStream_still hn⟩) fun c => by rw [hk]

/-- The peer of a connection sends, shuts down or resets. -/
theorem peer (h : Conserved s) (hp : PeerAct s.conns o k) (ha : s'.acts = [o] ++ s.acts)
    (hk : s'.conns = k) : Conserved s' := by
  intro c
  obtain ⟨lost, h1, h2⟩ := h c
  unfold peerOf inboxIn at *
  have hread : readFrom c [o] = [] := by cases hp <;> rfl
  rw [hk, ha, readFrom_append, peerStream_append, hread, List.append_nil]
  cases hp with
  | send c' bytes hl hp =>
    have hown : peerStream c [.peerSent c' bytes] = if c' = c then bytes else [] := by
      simp [peerStream, gathered, Obs.peerBytes]
    rw [getD_modify (Or.inl hl), hown]
    by_cases he : c' = c
    · subst he
      rw [if_pos rfl, if_pos rfl]
      obtain rfl : lost = [] := h2 fun hr => nomatch hp.symm.trans hr
      refine ⟨[], ?_, fun _ => rfl⟩
      rw [← h1, List.append_nil, List.append_nil]
      exact (List.append_assoc ..).symm
    · rw [if_neg he, if_neg he, List.append_nil]
      exact ⟨lost, h1, h2⟩
  | shutdown c' hl hp =>
    have hown : peerStream c [.peerShutdown c'] = [] := rfl
    rw [getD_modify (Or.inl hl), hown, List.append_nil]
    by_cases he : c' = c
    · subst he
      rw [if_pos rfl]
      exact ⟨lost, h1, fun _ => h2 fun hr => nomatch hp.symm.trans hr⟩
    · rw [if_neg he]
      exact ⟨lost, h1, h2⟩
  | reset c' hl =>
    have hown : peerStream c [.peerReset c'] = [] := rfl
    rw [getD_modify (Or.inl hl), hown, List.append_nil]
    by_cases he : c' = c
    · subst he
      rw [if_pos rfl]
      -- what was in the receive buffer is gone
      refine ⟨(s.conns.getD c' {}).inbox ++ lost, ?_, fun hr => absurd rfl hr⟩
      rw [← h1, List.append_assoc, List.append_assoc]
      rfl
    · rw [if_neg he]
      exact ⟨lost, h1, h2⟩

/-- The operation of a STOR reads. -/
theorem turn (h : Conserved s) (hm : Moves s op new handed k) (ha : s'.acts = new ++ s.acts)
    (hk : s'.conns = k) : Conserved s' := by
  cases hm with
  | nothing hn hh hk' => exact h.still ha hn (hk.trans hk')
  | read d op' last mid hkind hl hnew hlast hh =>
    intro c
    have hmoved := hl.moved
    obtain ⟨lost, h1, h2⟩ := h c
    have hread : readFrom c new = readFrom c mid := by
      rw [hnew, readFrom_append, readFrom_append, readFrom_still hlast,
        readFrom_still (by simp [Obs.isStill]), List.append_nil, List.nil_append]
    have hsent : peerStream c mid = [] := gathered_none fun o ho => (hl.others ho).2.1 c
    have hstream : peerStream c new = [] := by
      rw [hnew, peerStream_append, peerStream_append, peerStream_still hlast, hsent,
        peerStream_still (by simp [Obs.isStill])]
      rfl
    unfold peerOf at *
    rw [hk, ha, readFrom_append, peerStream_append, hread, hstream, List.append_nil,
      List.append_assoc (readFrom c s.acts), hmoved.taken c, hmoved.peers]
    exact ⟨lost, h1, h2⟩

end Conserved

theorem Conserved.step (h : Conserved s) (ho : Ops c₀ [] s) (hs : OrangeFtpd.step cfg s e = .ok s') :
    Conserved s' := by
  cases booked_step (step_cases hs) ho with
  | same _ _ he hn => exact h.still he.acts (by simp) he.conns
  | connect i c' _ he hn =>
    refine h.quiet he.acts (fun c => ⟨rfl, rfl⟩) fun c => ?_
    rw [he.conns, List.getD_eq_getElem?_getD, List.getD_eq_getElem?_getD, List.getElem?_append]
    split
    · rfl
    · next hl =>
      rw [List.getElem?_eq_none (Nat.le_of_not_lt hl)]
      cases hc : [({} : Conn)][c - s.conns.length]? with
      | none => rfl
      | some q => rw [List.mem_singleton.mp (List.mem_of_getElem? hc)]; rfl
  | peer _ _ o k hp he hn => exact h.peer hp he.acts he.conns
  | token i os _ tok d new hi ht hd hnew he hn =>
    refine h.still he.acts ?_ he.conns
    rcases hnew with rfl | ⟨response, rfl⟩ <;> simp [Obs.isStill]
  | refused i os _ req b hr hv hc hb he hn =>
    exact h.still he.acts (by simp [Obs.isStill]) he.conns
  | dropped i os _ r hi hr he hgone hn =>
    refine h.still he.acts (fun o ho => ?_) he.conns
    obtain ⟨op, -, rfl⟩ := List.mem_map.mp (List.mem_reverse.mp ho)
    rfl
  | launched i os _ req kind s₁ new handed hr hk hs₁ hl he hn =>
    have dry : ∀ o ∈ new ++ [.request s.nextId req s.currentPath],
        (∀ c, o.readFrom c = []) ∧ ∀ c, o.peerBytes c = [] := by
      intro o ho
      rcases List.mem_append.mp ho with h1 | h1
      · rcases hl.still h1 with h2 | ⟨file, path, created, rfl⟩
        · exact ⟨(Obs.still h2).readFrom, (Obs.still h2).peerBytes⟩
        · exact ⟨fun _ => rfl, fun _ => rfl⟩
      · rw [List.mem_singleton.mp h1]
        exact ⟨fun _ => rfl, fun _ => rfl⟩
    exact h.quiet he.acts (fun c => ⟨gathered_none fun o ho => (dry o ho).1 c,
      gathered_none fun o ho => (dry o ho).2 c⟩) fun c => by rw [he.conns]
  | turned i os _ t r ph op new handed k hi hp hT he hgone hn =>
    exact h.turn hT.moves.take he.acts he.conns

theorem conserved_reach {ok : St → Ev → Prop}
    (h : Reach (OrangeFtpd.step cfg) ok (St.init cfg home c₀ now) s) : Conserved s :=
  h.invariant_of (fun _ => ops_reach) (fun _ => ⟨[], rfl, fun _ => rfl⟩)
    fun _ _ _ ho hI _ hs => hI.step ho hs

/-! ## 5. Files hold what was read -/

/-- The file of the STOR `op` holds what was read for it, and its descriptor stands at the end. -/
structure Receives (s : St) (op : Op) : Prop where
  content : fileContent op.file s.acts = readFor op.id s.acts
  offset : op.fdOffset = (readFor op.id s.acts).length

/-- **Every live STOR** has a file of its own, with what was read for it. -/
structure Receiving (s : St) : Prop where
  live : ∀ x ∈ s.staged, x.2.kind = .recvFile → Receives s x.2
  apart : ∀ x ∈ s.staged, ∀ y ∈ s.staged, x.2.kind = .recvFile → y.2.kind = .recvFile →
    x.2.file = y.2.file → x.2.id = y.2.id

/-- Nothing was read for a request that is still to come. -/
theorem Ops.readFor_next (ho : Ops c₀ [] s) : readFor s.nextId s.acts = [] := by
  refine gathered_none fun o hm => ?_
  have hlog := ho.log o (List.mem_filter.mp hm).1 s.nextId
  unfold Obs.readBy
  split
  · next i c bytes =>
    refine if_neg fun hi => Nat.lt_irrefl s.nextId (hlog ?_)
    rw [hi]
    rfl
  · rfl

namespace Receiving

theorem receives_congr (h : Receives s op) (hc : fileContent op.file s'.acts = fileContent op.file s.acts)
    (hr : readFor op.id s'.acts = readFor op.id s.acts) : Receives s' op :=
  ⟨by rw [hc, hr]; exact h.content, by rw [hr]; exact h.offset⟩

/-- Nothing is read and no file changes; operations go on as they were. -/
theorem quiet (h : Receiving s) (hread : ∀ id, readFor id s'.acts = readFor id s.acts)
    (hfile : ∀ file, fileContent file s'.acts = fileContent file s.acts)
    (hst : ∀ y ∈ s'.staged, y.2.kind = .recvFile → ∃ z ∈ s.staged, z.2.kind = .recvFile ∧
      z.2.id = y.2.id ∧ z.2.file = y.2.file ∧ z.2.fdOffset = y.2.fdOffset) : Receiving s' where
  live y hy hk := by
    obtain ⟨z, hz, hzk, hid, hf, hoff⟩ := hst y hy hk
    have h1 := h.live z hz hzk
    exact ⟨by rw [hfile, hread, ← hid, ← hf]; exact h1.content,
      by rw [hread, ← hid, ← hoff]; exact h1.offset⟩
  apart x hx y hy hkx hky hxy := by
    obtain ⟨x', hx', hkx', hidx, hfx, -⟩ := hst x hx hkx
    obtain ⟨y', hy', hky', hidy, hfy, -⟩ := hst y hy hky
    rw [← hidx, ← hidy]
    exact h.apart x' hx' y' hy' hkx' hky' (by rw [hfx, hfy, hxy])

theorem still (h : Receiving s) (ha : s'.acts = new ++ s.acts) (hn : ∀ o ∈ new, o.isStill = true)
    (hst : ∀ y ∈ s'.staged, y.2.kind = .recvFile → ∃ z ∈ s.staged, z.2.kind = .recvFile ∧
      z.2.id = y.2.id ∧ z.2.file = y.2.file ∧ z.2.fdOffset = y.2.fdOffset) : Receiving s' :=
  h.quiet (fun id => by rw [ha, readFor_append, readFor_still hn, List.append_nil])
    (fun file => by rw [ha, fileContent_still hn]) hst

/-- **The operation `op` has its turn.** -/
theorem turn {ph : Phase} (h : Receiving s) (hx : (ph, op) ∈ s.staged)
    (hm : Moves s op new handed k) (ha : s'.acts = new ++ s.acts)
    (hon : ∀ x, handed = some x → x.2.id = op.id ∧ x.2.kind = op.kind ∧ x.2.file = op.file)
    (hst : ∀ y ∈ s'.staged, handed = some y ∨ (y ∈ s.staged ∧ y.2.id ≠ op.id)) :
    Receiving s' := by
  cases hm with
  | nothing hn hh hk =>
    refine h.still ha hn fun y hy hky => ?_
    rcases hst y hy with h1 | ⟨h1, -⟩
    · obtain ⟨hid, hkind, hf⟩ := hon y h1
      exact ⟨(ph, op), hx, hkind ▸ hky, hid.symm, hf.symm, (hh y h1).symm⟩
    · exact ⟨y, h1, hky, rfl, rfl, rfl⟩
  | read d op' last mid hkind hl hnew hlast hh =>
    have hop := h.live _ hx hkind
    have hmoved := hl.moved
    have htouch : ∀ o ∈ [Obs.touch op.id (some d.conn)], o.isStill = true := by simp [Obs.isStill]
    have hread : ∀ id, readFor id s'.acts = readFor id s.acts ++ readFor id mid := fun id => by
      rw [ha, hnew, readFor_append, readFor_append, readFor_append, readFor_still hlast,
        readFor_still htouch, List.append_nil, List.nil_append]
    have hfile : ∀ file, fileContent file s'.acts =
        fileContent file (mid ++ ([.touch op.id (some d.conn)] ++ s.acts)) := fun file => by
      rw [ha, hnew, List.append_assoc, List.append_assoc, fileContent_still hlast]
    have hold : ∀ file, fileContent file ([.touch op.id (some d.conn)] ++ s.acts) =
        fileContent file s.acts := fun file => fileContent_still htouch
    -- what the other uploads have is as it was
    have other : ∀ y ∈ s.staged, y.2.kind = .recvFile → y.2.id ≠ op.id → Receives s' y.2 := by
      intro y hy hky hid
      have hne : y.2.file ≠ op.file := fun he => hid (h.apart y hy (ph, op) hx hky hkind he)
      refine receives_congr (h.live y hy hky) ?_ ?_
      · rw [hfile, fileContent_append fun o ho content => (hl.others ho).2.2 _ content hne, hold]
      · have h1 : readFor y.2.id mid = [] := gathered_none fun o ho => (hl.others ho).1 _ hid
        rw [hread, h1, List.append_nil]
    have hoff : op.fdOffset = (fileContent op.file ([.touch op.id (some d.conn)] ++ s.acts)).length := by
      rw [hold, hop.content]
      exact hop.offset
    constructor
    case live =>
      intro y hy hky
      rcases hst y hy with h1 | ⟨h1, h2⟩
      · obtain ⟨hid, -, hf⟩ := hon y h1
        obtain rfl := hh y h1
        refine ⟨?_, ?_⟩
        · rw [hf, hid, hfile, hl.content hoff, hold, hop.content, hread]
        · rw [hid, hread, List.length_append, hmoved.offset, hop.offset]
      · exact other y h1 hky h2
    case apart =>
      have back : ∀ y ∈ s'.staged, y.2.kind = .recvFile → ∃ z ∈ s.staged, z.2.kind = .recvFile ∧
          z.2.id = y.2.id ∧ z.2.file = y.2.file := by
        intro y hy hky
        rcases hst y hy with h1 | ⟨h1, -⟩
        · obtain ⟨hid, hk, hf⟩ := hon y h1
          exact ⟨(ph, op), hx, hkind, hid.symm, hf.symm⟩
        · exact ⟨y, h1, hky, rfl, rfl⟩
      intro x hx y hy hkx hky hxy
      obtain ⟨x', hx', hkx', hidx, hfx⟩ := back x hx hkx
      obtain ⟨y', hy', hky', hidy, hfy⟩ := back y hy hky
      rw [← hidx, ← hidy]
      exact h.apart x' hx' y' hy' hkx' hky' (by rw [hfx, hfy, hxy])

/-- A STOR opens its file, and stays or not. -/
theorem opened {file : FileId} {path : Path} {created : Bool} {last first : List Obs}
    (h : Receiving s) (hn : new = last ++ [.fs n (.opened file path created)] ++ first)
    (hlast : ∀ o ∈ last, o.isStill = true) (hfirst : ∀ o ∈ first, o.isStill = true)
    (ha : s'.acts = new ++ s.acts)
    (hapart : ∀ y ∈ s.staged, y.2.kind = .recvFile → y.2.file ≠ file)
    (hst : ∀ y ∈ s'.staged, y.2.kind = .recvFile → y ∈ s.staged ∨
      (y.2.file = file ∧ y.2.fdOffset = 0 ∧ readFor y.2.id s.acts = [] ∧ y.2.id = n)) :
    Receiving s' := by
  have hread : ∀ id, readFor id s'.acts = readFor id s.acts := fun id => by
    have h1 : readFor id [.fs n (.opened file path created)] = [] := rfl
    rw [ha, hn, readFor_append, readFor_append, readFor_append, readFor_still hlast,
      readFor_still hfirst, h1]
    simp
  have hfile : ∀ f, fileContent f s'.acts = if file = f then [] else fileContent f s.acts := by
    intro f
    rw [ha, hn, List.append_assoc, List.append_assoc, fileContent_still hlast]
    have h1 : fileContent f ([.fs n (.opened file path created)] ++ (first ++ s.acts)) =
        if file = f then [] else fileContent f (first ++ s.acts) := rfl
    rw [h1, fileContent_still hfirst]
  constructor
  case live =>
    intro y hy hk
    rcases hst y hy hk with h1 | ⟨hf, hoff, hr, -⟩
    · exact receives_congr (h.live y h1 hk) (by rw [hfile, if_neg (Ne.symm (hapart y h1 hk))]) (hread _)
    · exact ⟨by rw [hfile, hread, hr, if_pos hf.symm], by rw [hread, hr]; exact hoff⟩
  case apart =>
    intro x hx y hy hkx hky hxy
    rcases hst x hx hkx with h1 | ⟨hfx, -, -, hidx⟩
    · rcases hst y hy hky with h2 | ⟨hfy, -⟩
      · exact h.apart x h1 y h2 hkx hky hxy
      · exact absurd (hxy.trans hfy) (hapart x h1 hkx)
    · rcases hst y hy hky with h2 | ⟨-, -, -, hidy⟩
      · exact absurd (hxy.symm.trans hfx) (hapart y h2 hky)
      · exact hidx.trans hidy.symm

end Receiving

/-- A launch opens the file of an upload, or moves nothing. -/
theorem Launch.opens (h : Launch cfg os n kind s new handed) :
    ((∀ o ∈ new, o.isStill = true) ∧ ∀ x, handed = some x → x.2.kind ≠ .recvFile) ∨
    ∃ (op : Op) (s₂ : St) (path : Path) (created : Bool) (last first : List Obs),
      kind = .recvFile ∧ Uploaded os n s op s₂ ∧
      new = last ++ [.fs n (.opened op.file path created)] ++ first ∧
      (∀ o ∈ last, o.isStill = true) ∧ (∀ o ∈ first, o.isStill = true) ∧
      ∀ x, handed = some x → x.2 = { op with completionToken := true } := by
  have note : ∀ {o : Obs}, Note cfg n o → o.isStill = true := fun h => by cases h <;> rfl
  have target : ∀ {p : Path}, ∀ o ∈ [Obs.target n p], o.isStill = true := by simp [Obs.isStill]
  have refused : ∀ o ∈ (if os.pipe.isSome then [] else [Obs.reply n RecvFileOp.failedReply]),
      o.isStill = true := by
    split <;> simp [Obs.isStill]
  have after : ∀ {l : List Obs}, (∀ o ∈ l, o.isStill = true) →
      ∀ o ∈ l ++ (if os.pipe.isSome then [] else [Obs.reply n RecvFileOp.failedReply]),
        o.isStill = true := fun hl o ho => (List.mem_append.mp ho).elim (hl o) (refused o)
  have eq : ∀ {l : List Obs} {op : Op} {p path : Path} {created : Bool},
      l ++ openedActs os n op p path created =
        l ++ (if os.pipe.isSome then [] else [.reply n RecvFileOp.failedReply]) ++
          [.fs n (.opened op.file path created)] ++ [.target n p] := by
    intro l op p path created
    unfold openedActs
    simp
  cases h with
  | answered op notes b hf hn hb =>
    refine Or.inl ⟨fun o ho => ?_, nofun⟩
    rcases List.mem_cons.mp ho with rfl | h1
    · rfl
    rcases List.mem_cons.mp h1 with rfl | h2
    · rfl
    · exact note (hn o h2)
  | silent notes file hk hn ho =>
    refine Or.inl ⟨fun o ho => ?_, nofun⟩
    rcases List.mem_cons.mp ho with rfl | h1
    · rfl
    · exact note (hn o h1)
  | waiting op notes hk hf ht hn =>
    refine Or.inl ⟨fun o ho => note (hn o ho), fun x hx => ?_⟩
    cases hx
    rw [hf.kind]
    rcases hk with rfl | rfl <;> nofun
  | uploadNull op s₂ p path created hk hu hfd =>
    exact Or.inr ⟨op, s₂, path, created, _, _, hk, hu, @eq [.over n] op p path created,
      after (by simp [Obs.isStill]), target, nofun⟩
  | uploadRefused op s₂ p path created hk hu hfd =>
    exact Or.inr ⟨op, s₂, path, created, _, _, hk, hu,
      @eq [.over n, .reply n (Response.getCodeString .invalidSeq)] op p path created,
      after (by simp [Obs.isStill]), target, nofun⟩
  | uploadWaiting op s₂ p path created hk hu hfd =>
    exact Or.inr ⟨op, s₂, path, created, _, _, hk, hu, @eq [] op p path created,
      after (by simp), target, fun x hx => by cases hx; rfl⟩

theorem Receiving.step (h : Receiving s) (ho : Ops c₀ [] s) (hok : WhenRun uploadsApart s e)
    (hs : OrangeFtpd.step cfg s e = .ok s') : Receiving s' := by
  have old : ∀ {new : List Obs} {k : List Conn}, Entered s s' new none k →
      ∀ y ∈ s'.staged, y.2.kind = .recvFile → ∃ z ∈ s.staged, z.2.kind = .recvFile ∧
        z.2.id = y.2.id ∧ z.2.file = y.2.file ∧ z.2.fdOffset = y.2.fdOffset := fun he y hy hk =>
    ⟨y, (he.staged y hy).resolve_left nofun, hk, rfl, rfl, rfl⟩
  cases booked_step (step_cases hs) ho with
  | same _ _ he hn => exact h.still he.acts (by simp) (old he)
  | connect i c' _ he hn => exact h.still he.acts (by simp) (old he)
  | peer _ _ o k hp he hn =>
    have hread : ∀ id, readFor id [o] = [] := by cases hp <;> exact fun _ => rfl
    have hfile : ∀ file content, o.onFile file content = content := by
      cases hp <;> exact fun _ _ => rfl
    refine h.quiet (fun id => ?_) (fun file => ?_) (old he)
    · rw [he.acts, readFor_append, hread, List.append_nil]
    · rw [he.acts]
      exact hfile file _
  | token i os _ tok d new hi ht hd hnew he hn =>
    refine h.still he.acts ?_ (old he)
    rcases hnew with rfl | ⟨response, rfl⟩ <;> simp [Obs.isStill]
  | refused i os _ req b hr hv hc hb he hn => exact h.still he.acts (by simp [Obs.isStill]) (old he)
  | dropped i os _ r hi hr he hgone hn =>
    refine h.still he.acts (fun o ho => ?_) (old he)
    obtain ⟨op, -, rfl⟩ := List.mem_map.mp (List.mem_reverse.mp ho)
    rfl
  | launched i os _ req kind s₁ new handed hr hk hs₁ hl he hn =>
    have request : ∀ o ∈ [Obs.request s.nextId req s.currentPath], o.isStill = true := by
      simp [Obs.isStill]
    rcases hl.opens with ⟨hstill, hkind⟩ | ⟨op, s₂, path, created, last, first, rfl, hu, hnew, hlast,
      hfirst, hh⟩
    · refine h.still he.acts (fun o ho => (List.mem_append.mp ho).elim (hstill o) (request o))
        fun y hy hky => ?_
      exact ⟨y, (he.staged y hy).resolve_left fun h1 => hkind y h1 hky, hky, rfl, rfl, rfl⟩
    · have hcreated : s.verified = true ∧ createKind req.command = some .recvFile :=
        hk.resolve_left fun h1 => nomatch h1.2
      have hopens : op.file ∈ os.openedFile? := by
        obtain ⟨fd, hopen, -⟩ := hu.openFile
        unfold Os.openedFile?
        rw [hopen]
        rfl
      have hapart := (hok.at hr.read) rfl hcreated.1 req hr.line hcreated.2
        (hs₁.1 ▸ hu.body) (hs₁.2.1 ▸ hu.allowed) op.file hopens
      have hsplit : new ++ [Obs.request s.nextId req s.currentPath] =
          last ++ [.fs s.nextId (.opened op.file path created)] ++
            (first ++ [.request s.nextId req s.currentPath]) := by
        rw [hnew, List.append_assoc]
      refine h.opened hsplit hlast
        (fun o ho => (List.mem_append.mp ho).elim (hfirst o) (request o)) he.acts hapart
        fun y hy _ => ?_
      rcases he.staged y hy with h1 | h1
      · have hid : y.2.id = s.nextId := by rw [hh y h1]; exact hu.fresh.id
        exact Or.inr ⟨by rw [hh y h1], by rw [hh y h1]; exact hu.fresh.fdOffset,
          by rw [hid]; exact ho.readFor_next, hid⟩
      · exact Or.inl h1
  | turned i os _ t r ph op new handed k hi hp hT he hgone hn =>
    refine h.turn (staged_handler hi hp) hT.moves.take he.acts (fun x hx => hT.handedOn hx)
      fun y hy => ?_
    rcases he.staged y hy with h1 | h1
    · exact Or.inl h1
    · exact (hgone y hy).imp_right fun h2 => ⟨h1, h2⟩

theorem receiving_reach
    (h : Reach (OrangeFtpd.step cfg) (WhenRun uploadsApart) (St.init cfg home c₀ now) s) :
    Receiving s :=
  h.invariant_of (fun _ => ops_reach) ⟨nofun, nofun⟩ fun _ _ _ ho hI hok hs => hI.step ho hok hs

end

end OrangeFtpd
