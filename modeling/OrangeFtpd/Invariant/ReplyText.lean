/-
  File:      OrangeFtpd/Invariant/ReplyText.lean
  Subject:   Where the lines of replies end.

  A client cuts what it reads at every `delimit`, so a reply should have one, at its
  end. Replies are put together from fixed texts, numbers, the user name, canonical
  paths and the address of the control socket. A user name is one of the words of a line
  and has no line break in it; a canonical path can have one, for directories are named
  by anybody, and a banner too. Where these have none (`Os.Clean`, `Tidy`), every reply
  is one line.
-/
import OrangeFtpd.Request.Codec
import OrangeFtpd.Invariant.ReplyQueue

namespace OrangeFtpd

/-! ## 1. Lines of texts -/

section

variable {t u : Text} {c : Char} {n : Nat}

theorem lineEnd_quoted (hp : lineEnd t = none) {a b : Text} (ha : '\r' ∉ a) (hb : '\r' ∉ b)
    (hn : b.head? ≠ some '\n') : lineEnd (a ++ t ++ b) = none := by
  have h1 : lineEnd (a ++ t) = none := by
    rw [lineEnd_append_none (lineEnd_of_no_cr ha) fun hl => absurd hl (getLast_no_cr ha), hp]
    rfl
  rw [lineEnd_append_none h1 fun _ => hn, lineEnd_of_no_cr hb]
  rfl

theorem cr_not_mem_decInt (n : Int) : '\r' ∉ decInt n := by
  intro h
  cases n with
  | ofNat n => exact cr_not_mem_dec n h
  | negSucc n =>
    have h' : '\r' ∈ ("-" ++ toString (n + 1)).toList := h
    rw [String.toList_append] at h'
    rcases List.mem_append.mp h' with h1 | h1
    · exact absurd h1 (by decide)
    · exact cr_not_mem_dec (n + 1) h1

/-- Words joined with spaces have no line break. -/
theorem cr_not_mem_intercalate : ∀ {ws : List Text}, (∀ w ∈ ws, '\r' ∉ w) →
    '\r' ∉ [' '].intercalate ws
  | [], _ => List.not_mem_nil
  | [w], h => by
    rw [List.intercalate_singleton]
    exact h w List.mem_cons_self
  | w :: w' :: ws, h => by
    have ih := cr_not_mem_intercalate fun v hv => h v (List.mem_cons_of_mem w hv)
    rw [List.intercalate_cons_cons]
    intro hm
    rcases List.mem_append.mp hm with h1 | h1
    · rcases List.mem_append.mp h1 with h2 | h2
      · exact h w List.mem_cons_self h2
      · exact absurd h2 (by decide)
    · exact ih h1

/-- The body of a request has no line break: it is made of words. -/
theorem cr_not_mem_body {req : FtpRequest} (h : buildRequest (splitWords t) = some req) :
    '\r' ∉ req.body := by
  have hw := splitWords_words (t := t)
  cases hs : splitWords t with
  | nil => rw [hs] at h; cases h
  | cons c ws =>
    rw [hs] at h hw
    cases h
    exact cr_not_mem_intercalate fun w hm hc =>
      absurd ((hw w (List.mem_cons_of_mem c hm)).2 _ hc) (by decide)

/-! ## 2. Replies -/

variable {cfg : Config} {os : Os} {id i : Nat} {kind : OpKind} {s s₁ s' : St} {op : Op} {e : Ev}
  {b : SharedConstBuffer} {p : Path}

/-- A reply with a text that has no line. -/
theorem oneLine_info {code : RetCode} (h : lineEnd t = none) :
    (Response.getCodeStringInfo code t).OneLine :=
  lineEnd_closed (lineEnd_coded code.toNat h)

theorem lineEnd_currentDirectory (h : lineEnd p = none) :
    lineEnd (Response.currentDirectory p) = none :=
  lineEnd_quoted (a := ['"']) h (by decide) (by decide) (by decide)

theorem oneLine_pwd (h : lineEnd p = none) : (Response.getPwdResponse p).OneLine :=
  oneLine_info (lineEnd_currentDirectory h)

theorem oneLine_cwd (h : lineEnd p = none) : (Response.getCwdResponse (some p)).OneLine := by
  refine oneLine_info ?_
  have ha : '\r' ∉ "CWD successful. ".toList := by decide
  rw [lineEnd_append_none (lineEnd_of_no_cr ha) fun hl => absurd hl (getLast_no_cr ha),
    lineEnd_currentDirectory h]
  rfl

theorem oneLine_created (h : lineEnd p = none) {code : RetCode} :
    (Response.getCodeStringInfo code ('"' :: p ++ "\" created.".toList)).OneLine :=
  oneLine_info (lineEnd_quoted (a := ['"']) h (by decide) (by decide) (by decide))

theorem oneLine_size (n : Nat) {code : RetCode} :
    (Response.getCodeStringInfo code (dec n)).OneLine :=
  oneLine_info (lineEnd_of_no_cr (cr_not_mem_dec n))

theorem oneLine_pasv {ip : Text} (h : '\r' ∉ ip) (port : UInt16) :
    (Response.getPasvResponse ip port).OneLine := by
  have hip : '\r' ∉ ip.map fun c => if c = '.' then ',' else c := by
    intro hm
    obtain ⟨c, hc, he⟩ := List.mem_map.mp hm
    split at he
    · cases he
    · exact h (he ▸ hc)
  have h1 := cr_append (cr_append (cr_not_mem_dec RetCode.pasvOk.toNat)
    (by decide : '\r' ∉ ' ' :: (Response.codeMap .pasvOk).getD [])) (by decide : '\r' ∉ " (".toList)
  have number : ∀ n, '\r' ∉ ',' :: dec n := fun n =>
    cr_append (t := [',']) (by decide) (cr_not_mem_dec n)
  have h2 := cr_append (cr_append (cr_append (cr_append h1 hip) (number (port.toNat / 256)))
    (number (port.toNat % 256))) (by decide : '\r' ∉ [')'])
  have hl := lineEnd_closed (lineEnd_of_no_cr h2)
  rw [List.append_assoc] at hl
  exact hl

theorem oneLine_status (hu : '\r' ∉ s.user) (ha : '\r' ∉ os.localAddress) :
    (StatOp.status cfg os s).OneLine := by
  have newline : '\r' ∉ "\n".toList := by decide
  have hcode := cr_not_mem_dec RetCode.statOk.toNat
  have htype : '\r' ∉ StatOp.typeToString s.type := by
    cases s.type <;> decide
  have h1 := cr_append (cr_append (cr_append (cr_append hcode
    (by decide : '\r' ∉ "-FTP server status:\n".toList)) (by decide : '\r' ∉ "  Connected to ".toList))
    ha) newline
  have h2 := cr_append (cr_append (cr_append h1 (by decide : '\r' ∉ "  Logged in as ".toList)) hu) newline
  have h3 := cr_append (cr_append (cr_append h2 (by decide : '\r' ∉ "  TYPE: ".toList)) htype) newline
  have h4 := cr_append (cr_append (cr_append h3
    (by decide : '\r' ∉ "  Session timeout in seconds is ".toList))
    (cr_not_mem_decInt cfg.maxIdleTimeout)) newline
  have h5 := cr_append (cr_append (cr_append h4
    (by decide : '\r' ∉ "  Total client connected num is ".toList))
    (cr_not_mem_decInt os.clientNum)) newline
  have h6 := cr_append (cr_append h5 hcode) (by decide : '\r' ∉ " End of status".toList)
  have hl := lineEnd_closed (lineEnd_of_no_cr h6)
  rw [List.append_assoc, show " End of status".toList ++ delimit = " End of status\r\n".toList by decide]
    at hl
  exact hl

end

/-! ## 3. Runs -/

/-- The operating system answers with no line break: neither in a canonical path nor in an
    address. -/
def Os.Clean (os : Os) : Prop :=
  (∀ p ∈ os.canonical.toOption, lineEnd p = none) ∧ '\r' ∉ os.localAddress

instance {os : Os} : Decidable os.Clean :=
  inferInstanceAs (Decidable ((∀ p ∈ os.canonical.toOption, lineEnd p = none) ∧
    '\r' ∉ os.localAddress))

/-- The handler that runs gets clean answers. -/
def Ev.Clean : Ev → Prop
  | .run _ os => os.Clean
  | _ => True

instance : ∀ e : Ev, Decidable e.Clean
  | .run _ os => inferInstanceAs (Decidable os.Clean)
  | .clientSend _ | .clientGone | .peerSend .. | .peerShutdown _ | .peerReset _ | .tick _
  | .complete .. => isTrue trivial

/-- **What replies are made of has no line break**, and the replies so far are one line each. -/
structure Tidy (s : St) : Prop where
  currentPath : lineEnd s.currentPath = none
  user : '\r' ∉ s.user
  replies : ∀ id b, .reply id b ∈ s.log → b.OneLine

section

variable {cfg : Config} {os : Os} {id i n : Nat} {kind : OpKind} {s s₁ s' : St} {op : Op} {e : Ev}
  {b : SharedConstBuffer} {m : Message}

theorem Says.oneLine (h : Says cfg os s b) (ht : Tidy s) (ho : os.Clean) : b.OneLine := by
  cases h with
  | fixed b h => exact h.1
  | size n => exact oneLine_size n.toNat
  | workingDir => exact oneLine_pwd ht.currentPath
  | changedTo p h =>
    rcases h with h | h
    · exact oneLine_cwd (h ▸ ht.currentPath)
    · exact oneLine_cwd (ho.1 p (by rw [h]; rfl))
  | created p h => exact oneLine_created (ho.1 p (by rw [h]; rfl))
  | status => exact oneLine_status ht.user ho.2
  | passive port => exact oneLine_pasv ho.2 port

/-- The log grew by entries that are no replies. -/
theorem Tidy.grown {new : List Obs} (h : Tidy s) (hp : s'.currentPath = s.currentPath)
    (hu : s'.user = s.user) (hl : s'.log = new ++ s.log)
    (hn : ∀ id b, .reply id b ∈ new → b.OneLine) : Tidy s' where
  currentPath := hp ▸ h.currentPath
  user := hu ▸ h.user
  replies id b hm := by
    rw [hl] at hm
    exact (List.mem_append.mp hm).elim (hn id b) (h.replies id b)

theorem Tidy.emit {o : Obs} (h : Tidy s) (ho : o.ofQueue = false) : Tidy (s.emit o) :=
  @Tidy.grown s (s.emit o) [o] h rfl rfl rfl fun id b hm => by
    rw [← List.mem_singleton.mp hm] at ho
    cases ho

theorem Tidy.push (h : Tidy s) (hm : m.buffer.OneLine) : Tidy (s.pushMessage id m) where
  currentPath := h.currentPath
  user := h.user
  replies id' b hb := by
    rw [St.pushMessage_log] at hb
    rcases List.mem_append.mp hb with h1 | h1
    · split at h1
      · cases List.mem_singleton.mp h1
      · cases h1
    · rcases List.mem_cons.mp h1 with h2 | h2
      · cases h2
        exact hm
      · exact h.replies id' b h2

/-- The members of the session are as they were, and what was replied is one line each. -/
theorem Tidy.members (h : Tidy s) (hm : SameMembers s s')
    (hr : ∀ id b, .reply id b ∈ s'.log → .reply id b ∈ s.log ∨ b.OneLine) : Tidy s' where
  currentPath := hm.currentPath ▸ h.currentPath
  user := hm.user ▸ h.user
  replies id b hb := (hr id b hb).elim (h.replies id b) fun h1 => h1

theorem SameQueue.reply (h : SameQueue s s') (hm : .reply id b ∈ s'.log) : .reply id b ∈ s.log := by
  obtain ⟨new, hl, hn⟩ := h.log
  rw [hl] at hm
  rcases List.mem_append.mp hm with h1 | h1
  · cases hn _ h1
  · exact h1

theorem Tidy.still (h : Tidy s) (hm : SameMembers s s') (hq : SameQueue s s') : Tidy s' :=
  h.members hm fun _ _ hb => Or.inl (hq.reply hb)

/-! A request. USER stores the body of the line it came in. -/

theorem Effect.tidy (h : Effect cfg os id kind s s') (ho : os.Clean)
    (hI : Tidy s ∧ (kind = .auth → '\r' ∉ s.request.body)) :
    Tidy s' ∧ (kind = .auth → '\r' ∉ s'.request.body) := by
  obtain ⟨ht, hb⟩ := hI
  cases h with
  | replied b h => exact ⟨ht.push (h.oneLine ht ho), hb⟩
  | named p h => exact ⟨ht.emit rfl, hb⟩
  | madeDirectory p hk hw => exact ⟨ht.emit rfl, hb⟩
  | opened fd file p hk h => exact ⟨ht.emit rfl, hb⟩
  | announced port hk => exact ⟨ht.emit rfl, hb⟩
  | moved p hk h => exact ⟨⟨ho.1 p (by rw [h]; rfl), ht.user, ht.replies⟩, hb⟩
  | userGiven hk hc => exact ⟨⟨ht.currentPath, hb hk, ht.replies⟩, hb⟩
  | upperCased hk =>
    refine ⟨⟨ht.currentPath, ht.user, ht.replies⟩, fun ha => ?_⟩
    rw [hk] at ha
    cases ha
  | destroyed op hk =>
    have h1 := @SameMembers.destroyOp cfg s op
    refine ⟨@Tidy.grown s _ [.over op.id] ht h1.currentPath h1.user (St.destroyOp_log ..) ?_, ?_⟩
    · intro id b hm
      cases List.mem_singleton.mp hm
    · rw [h1.request]
      exact hb
  | _ => exact ⟨⟨ht.currentPath, ht.user, ht.replies⟩, hb⟩

theorem Refuses.oneLine {command : Text} (h : Refuses command b) : b.OneLine := by
  cases h with
  | user h hb => rw [hb]; decide
  | pass h hb => rw [hb]; decide
  | unknown h hb => rw [hb]; decide

/-- **A line** that is handled with clean answers. -/
theorem Dispatched.tidy (h : Dispatched cfg os n s s') (ho : os.Clean) (ht : Tidy s) : Tidy s' := by
  have taken : ∀ req, Tidy (s.takeLine n req).newRequest := fun req =>
    @Tidy.grown s _ [_] ht rfl rfl rfl fun id b hm => by cases List.mem_singleton.mp hm
  cases h with
  | blank h =>
    have h1 : Tidy (s.takeLine n {}) := ⟨ht.currentPath, ht.user, ht.replies⟩
    exact h1.still .rearmIdle .rearmIdle
  | refused req b h hv hb =>
    have h1 : Tidy ((s.takeLine n req).newRequest.pushMessage s.nextId ⟨b, none⟩) :=
      (taken req).push hb.oneLine
    exact (h1.emit (o := .over s.nextId) rfl).still .rearmIdle .rearmIdle
  | ran req kind _ h hk hs =>
    exact ((runOp_effects.ok rfl hs).invariant (fun _ _ he hI => he.tidy ho hI)
      ⟨taken req, fun _ => cr_not_mem_body h⟩).1

/-- What a transfer queues. -/
theorem TransferPost.oneLine (h : TransferPost op id m) : m.buffer.OneLine := by
  cases h with
  | start tok hid ht hm =>
    rw [hm]
    exact (by decide : (Response.getCodeString .dataConn).OneLine)
  | complete hid hm =>
    rw [hm]
    exact (by decide : (Response.getCodeString .transferComplete).OneLine)

theorem Posts.reply (h : Posts (TransferPost op) s s') (hm : .reply id b ∈ s'.log) :
    .reply id b ∈ s.log ∨ b.OneLine := by
  induction h with
  | refl => exact Or.inl hm
  | andSame _ hq ih => exact ih (hq.reply hm)
  | andPush _ id' m hp ih =>
    rw [St.pushMessage_log] at hm
    rcases List.mem_append.mp hm with h1 | h1
    · split at h1
      · cases List.mem_singleton.mp h1
      · cases h1
    · rcases List.mem_cons.mp h1 with h2 | h2
      · cases h2
        exact Or.inr hp.oneLine
      · exact ih h2

/-- The log of the queue shows all replies. -/
theorem mem_queueLog : .reply id b ∈ s.queueLog ↔ .reply id b ∈ s.log := by
  unfold St.queueLog
  rw [List.mem_filter, List.mem_reverse]
  exact and_iff_left rfl

theorem Tidy.step (h : Tidy s) (ho : e.Clean) (hs : OrangeFtpd.step cfg s e = .ok s') : Tidy s' := by
  have line : ∀ {i : Nat} {os : Os} {s₁ : St}, os.Clean →
      Dispatched cfg os ((lineEnd s.buf).getD 0) (s.takeHandler i).neverExpire s₁ →
      Tidy (s₁.doRead.releaseSession .read) := fun hc hd => by
    have h1 := hd.tidy hc ⟨h.currentPath, h.user, h.replies⟩
    exact ⟨h1.currentPath, h1.user, h1.replies⟩
  rcases step_members hs with ⟨i, os, s₁, rfl, hi, hd, rfl⟩ | hm
  · exact line ho hd
  have h0 : Tidy { s with buf := s.buf ++ e.chunk } := ⟨h.currentPath, h.user, h.replies⟩
  refine h0.members hm fun id b hb => ?_
  cases step_queue hs with
  | same _ _ hq => exact Or.inl (hq.reply hb)
  | line i os s₁ hi hd => exact Or.inr ((line ho hd).replies id b hb)
  | turn _ op _ hp => exact hp.reply hb
  | written i os m rest s₁ hi hq ht =>
    -- what is logged of the write is no reply
    have h1 : .reply id b ∈ (s₁.writeNext cfg rest).queueLog := mem_queueLog.mpr hb
    rw [queueLog_writeNext.2, ht.queueLog.2, queueLog_emit rfl] at h1
    refine Or.inl (mem_queueLog.mp ?_)
    rcases List.mem_append.mp h1 with h2 | h2
    · rcases List.mem_append.mp h2 with h3 | h3
      · rcases List.mem_append.mp h3 with h4 | h4
        · exact h4
        · cases List.mem_singleton.mp h4
      · obtain ⟨tok, -, he⟩ := Option.map_eq_some_iff.mp (Option.mem_toList.mp h3)
        cases he
    · obtain ⟨m', -, he⟩ := List.mem_map.mp h2
      cases he
  | failed i os r hi hr =>
    obtain ⟨-, new, hl, hn⟩ := @SameQueue.dropQueue cfg ((s.takeHandler i).emit (.ctlDone false))
    have h1 : .reply id b ∈ (((s.takeHandler i).emit (.ctlDone false)).dropQueue cfg).queueLog :=
      mem_queueLog.mpr hb
    rw [queueLog_of_none hl hn, queueLog_emit rfl] at h1
    refine Or.inl (mem_queueLog.mp ?_)
    rcases List.mem_append.mp h1 with h2 | h2
    · exact h2
    · cases List.mem_singleton.mp h2

/-- **Every message is one line.** Where the banner and the first directory have no line break and
    the operating system answers with none, the banner and every message that is passed to
    `write_message` have one `delimit`, at their end. -/
theorem replies_one_line {home : Path} {c₀ : UInt32} {now : Int}
    (hb : lineEnd cfg.ftpdBanner = none) (hh : lineEnd home = none)
    (h : Reach (OrangeFtpd.step cfg) (fun _ e => e.Clean) (St.init cfg home c₀ now) s) :
    (welcome cfg).OneLine ∧ ∀ id b, .reply id b ∈ s.log → b.OneLine := by
  constructor
  · refine oneLine_info ?_
    split
    · decide
    · exact hb
  · have h0 : Tidy (St.init cfg home c₀ now) := by
      refine ⟨hh, List.not_mem_nil, fun id b hm => ?_⟩
      cases List.mem_singleton.mp hm
    exact (h.invariant h0 fun _ _ _ hI ho hs => hI.step ho hs).replies

end

/-- A client logs in, changes to the directory `d` and asks where it is; `answer` is what `d` stands
    for. -/
def changeTo (answer : Path) : List Ev :=
  login "CWD d\r\nPWD\r\n".toList ++
    [.run 2 { stat := fun _ => .ok ⟨.directory, 0o755, 0⟩, canonical := .ok answer }, .run 2 {}]

theorem replies_one_line_pwd : ∃ s, runAll (OrangeFtpd.step .shipped) .fresh (changeTo "/d".toList) =
    .ok s ∧ s.currentPath = "/d".toList ∧
    .reply 3 (Response.getPwdResponse "/d".toList) ∈ s.log ∧
    (Response.getPwdResponse "/d".toList).OneLine := by
  have lines := fun s (run : runAll (OrangeFtpd.step .shipped) .fresh (changeTo "/d".toList) = .ok s) =>
    (replies_one_line (by decide) (by decide)
      (reach_runAll (changeTo "/d".toList) .start (by decide) run)).2
  exact ⟨_, rfl, rfl, by decide, lines _ rfl 3 _ (by decide)⟩

/-- The directory behind `d` was given a name with a line break in it. -/
theorem directory_splits_reply : ¬ ∀ (cfg : Config) (home : Path) (c₀ : UInt32) (now : Int) (s : St),
    Reach (OrangeFtpd.step cfg) (fun _ _ => True) (St.init cfg home c₀ now) s →
    (welcome cfg).OneLine ∧ ∀ id b, .reply id b ∈ s.log → b.OneLine := by
  intro h
  have lines := fun s (run : runAll (OrangeFtpd.step .shipped) .fresh
    (changeTo "/a\r\n226 b".toList) = .ok s) =>
    (h _ _ _ _ _ (reach_runAll (changeTo "/a\r\n226 b".toList) .start (by decide) run)).2
  exact absurd (lines _ rfl 3 (Response.getPwdResponse "/a\r\n226 b".toList) (by decide)) (by decide)

end OrangeFtpd
