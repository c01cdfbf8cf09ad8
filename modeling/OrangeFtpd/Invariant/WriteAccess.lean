/-
  File:      OrangeFtpd/Invariant/WriteAccess.lean
  Subject:   Who may write: anonymous users, and the switch `write_enable`.

  An anonymous user may not overwrite: the constructor of STOR looks whether the file
  exists, and opens it in a second system call. The switch is looked at by MKD only. What
  holds of each is what the answers of the operating system to STOR leave of it.
-/
import OrangeFtpd.Invariant.Uploads

namespace OrangeFtpd

/-! ## 1. Anonymous users -/

/-- While an anonymous session runs its STOR nobody makes the file between the look for it and
    the open. -/
def untouchedSinceCheck (s : St) (os : Os) (t : Task) (r : Result) : Prop :=
  t = .read → r = .ok → s.verified = true → s.isAnonymous = true →
    s.nextKind = some .recvFile → fsExists (os.stat 0) = .ok false →
      os.openFile.toOption.isSome = true → os.created = true

instance {s : St} {os : Os} {t : Task} {r : Result} : Decidable (untouchedSinceCheck s os t r) :=
  inferInstanceAs (Decidable (_ → _))

/-- What an anonymous session opened it made itself. -/
def OpensNew (s : St) : Prop :=
  s.isAnonymous = true → ∀ id file path created,
    .fs id (.opened file path created) ∈ s.log → created = true

section

variable {cfg : Config} {os : Os} {id n i : Nat} {s s₁ s' : St} {e : Ev} {kind : OpKind}
  {file : FileId} {path home : Path} {created : Bool} {req : FtpRequest} {x : FsEffect}
  {c₀ : UInt32} {now : Int}

theorem StoresFile.nextKind (h : StoresFile s e os req) : s.nextKind = some .recvFile := by
  unfold St.nextKind
  rw [h.line]
  exact h.command

/-- A session that is not logged in has done nothing to files. -/
theorem St.Untouched.no_fs (h : s.Untouched home) : .fs id x ∉ s.log := fun hm => by
  have h1 := List.filterMap_eq_nil_iff.mp h.fs _ hm
  cases h1

theorem OpensNew.step (hI : OpensNew s) (hid : Identity cfg home s)
    (hok : WhenRun untouchedSinceCheck s e) (hs : OrangeFtpd.step cfg s e = .ok s') :
    OpensNew s' := by
  intro ha id file path created hm
  rcases step_opened hs hm with h1 | ⟨os, req, hst, -, ho⟩
  · cases hv : s.verified with
    | false => exact absurd h1 (hid.untouched hv).no_fs
    | true => exact hI ((step_identity hs hv).isAnonymous ▸ ha) id file path created h1
  · obtain ⟨i, rfl, hi⟩ := hst.run
    have ha' : s.isAnonymous = true := (step_identity hs hst.verified).isAnonymous ▸ ha
    obtain ⟨fd, hf⟩ := ho.openFile
    have hopen : os.openFile.toOption.isSome = true := by
      rw [hf]
      rfl
    rw [ho.created]
    exact hok.at hi rfl rfl hst.verified ha' hst.nextKind (ho.allowed ha') hopen

/-- **Anonymous users never overwrite**, where nobody comes in between: every file that an
    anonymous session opened for writing was made by that open, and all it wrote went to such a
    file. -/
theorem anonymous_never_overwrites
    (h : Reach (OrangeFtpd.step cfg) (WhenRun untouchedSinceCheck) (St.init cfg home c₀ now) s)
    (ha : s.isAnonymous = true) :
    (∀ id file path created, .fs id (.opened file path created) ∈ s.log → created = true) ∧
    (∀ id file offset bytes, .fs id (.wrote file offset bytes) ∈ s.log →
      ∃ path, .fs id (.opened file path true) ∈ s.log) := by
  have hI : OpensNew s := h.invariant_of (fun _ => identity_reach)
    (fun _ _ _ _ _ hm => by cases List.mem_singleton.mp hm)
    fun _ _ _ hid hI hok hs => hI.step hid hok hs
  refine ⟨hI ha, fun id file offset bytes hm => ?_⟩
  obtain ⟨path, created, ho⟩ := (uploads_reach h).wrote id file offset bytes ((mem_acts rfl).mpr hm)
  have ho' := (mem_acts rfl).mp ho
  have hc := hI ha id file path created ho'
  exact ⟨path, hc ▸ ho'⟩

/-! ## 2. `write_enable` -/

/-- No STOR gets as far as to open a file. -/
def opensNothing (s : St) (os : Os) (t : Task) (r : Result) : Prop :=
  t = .read → r = .ok → s.verified = true → s.nextKind = some .recvFile →
    (∀ req ∈ s.nextRequest, req.body ≠ []) →
      (s.isAnonymous = true → fsExists (os.stat 0) = .ok false) →
        os.openFile.toOption.isSome = false

instance {s : St} {os : Os} {t : Task} {r : Result} : Decidable (opensNothing s os t r) :=
  inferInstanceAs (Decidable (_ → _))

/-- MKD looks at the switch. -/
theorem Effect.made_enabled (h : Effect cfg os n kind s s')
    (hm : .fs id (.madeDirectory path) ∈ s'.log) :
    .fs id (.madeDirectory path) ∈ s.log ∨ cfg.writeEnable = true := by
  cases h with
  | madeDirectory p hk hw => exact Or.inr hw
  | replied b h => exact Or.inl (SameMembers.pushMessage.entry rfl hm)
  | destroyed op h => exact Or.inl (SameMembers.destroyOp.entry rfl hm)
  | named p h => exact Or.inl ((List.mem_cons.mp hm).resolve_left nofun)
  | opened fd file p hk ho => exact Or.inl ((List.mem_cons.mp hm).resolve_left nofun)
  | announced port h => exact Or.inl ((List.mem_cons.mp hm).resolve_left nofun)
  | _ => exact Or.inl hm

/-- Directories are made where the switch allows it. -/
theorem step_madeDirectory (h : step cfg s e = .ok s')
    (hm : .fs id (.madeDirectory path) ∈ s'.log) :
    .fs id (.madeDirectory path) ∈ s.log ∨ cfg.writeEnable = true := by
  rcases step_entry h rfl (fun _ _ _ hq => by cases hq) hm with h1 | ⟨os, req, kind, s₁, hc, hm₁⟩
  · exact Or.inl h1
  obtain ⟨s₀, -, -, -, hl, hs⟩ := hc.code
  have h1 := (runOp_effects.ok rfl hs).invariant
    (I := fun s' => .fs id (.madeDirectory path) ∈ s'.log →
      .fs id (.madeDirectory path) ∈ s₀.log ∨ cfg.writeEnable = true)
    (fun _ _ he hI h => (he.made_enabled h).elim hI Or.inr) Or.inl hm₁
  rw [hl] at h1
  exact h1.imp_left fun h2 => (List.mem_cons.mp h2).resolve_left fun hq => by cases hq

theorem no_write (hw : cfg.writeEnable = false) (hu : Uploads s')
    (hI : ∀ id x, .fs id x ∉ s.log) (hok : WhenRun opensNothing s e)
    (hs : step cfg s e = .ok s') : ∀ id x, .fs id x ∉ s'.log := by
  have opened : ∀ id file path created, .fs id (.opened file path created) ∉ s'.log := by
    intro id file path created hm
    rcases step_opened hs hm with h1 | ⟨os, req, hst, -, ho⟩
    · exact hI _ _ h1
    · obtain ⟨i, rfl, hi⟩ := hst.run
      obtain ⟨fd, hf⟩ := ho.openFile
      have hb : ∀ req ∈ s.nextRequest, req.body ≠ [] := by
        intro req' hr
        rw [hst.line] at hr
        cases hr
        exact ho.body
      have h1 := hok.at hi rfl rfl hst.verified hst.nextKind hb ho.allowed
      rw [hf] at h1
      cases h1
  intro id x hm
  cases x with
  | opened file path created => exact opened id file path created hm
  | madeDirectory path =>
    rcases step_madeDirectory hs hm with h1 | h1
    · exact hI _ _ h1
    · cases hw.symm.trans h1
  | wrote file offset bytes =>
    obtain ⟨path, created, ho⟩ := hu.wrote id file offset bytes ((mem_acts rfl).mpr hm)
    exact opened _ _ _ _ ((mem_acts rfl).mp ho)

/-- **Without `write_enable` the file system stays as it is**, where no STOR gets as far as its
    open. -/
theorem write_disabled (hw : cfg.writeEnable = false)
    (h : Reach (OrangeFtpd.step cfg) (WhenRun opensNothing) (St.init cfg home c₀ now) s) :
    ∀ id x, .fs id x ∉ s.log := by
  induction h with
  | start => exact fun id x hm => by cases List.mem_singleton.mp hm
  | step e h hok hs ih =>
    exact no_write hw (uploads_reach (.step e h hok hs)) ih hok hs

end

/-- The shipped configuration with anonymous users. -/
def withAnonymous : Config := { Config.shipped with anonymousEnable := true }

/-- An anonymous user stores `a`; the look for it finds nothing. -/
def storeAnonymous (created : Bool) : List Ev :=
  [.complete 0 .ok, .run 0 {},
    .clientSend "USER anonymous\r\nPASS p\r\nSTOR a\r\n".toList, .run 0 {}, .run 2 {},
    .run 2 { openFile := .ok (7, 1), created := created, pipe := some (8, 9) }]

theorem anonymous_never_overwrites_new : ∃ s,
    runAll (step withAnonymous) (.init withAnonymous "/root".toList 0 0) (storeAnonymous true) =
      .ok s ∧ s.isAnonymous = true ∧
    .fs 2 (.opened 1 "/root/a".toList true) ∈ s.log ∧
    ∀ id file path created, .fs id (.opened file path created) ∈ s.log → created = true := by
  have never := fun s (run : runAll (step withAnonymous) (.init withAnonymous "/root".toList 0 0)
      (storeAnonymous true) = .ok s) =>
    anonymous_never_overwrites (reach_runAll (storeAnonymous true) .start (by decide) run)
  exact ⟨_, rfl, by decide, by decide, (never _ rfl (by decide)).1⟩

/-- The file is made by somebody else after the look and before the open. -/
theorem anonymous_overwrites : ¬ ∀ (cfg : Config) (home : Path) (c₀ : UInt32) (now : Int) (s : St),
    Reach (step cfg) (fun _ _ => True) (St.init cfg home c₀ now) s → s.isAnonymous = true →
    ∀ id file path created, .fs id (.opened file path created) ∈ s.log → created = true := by
  intro h
  have never := fun s (run : runAll (step withAnonymous) (.init withAnonymous "/root".toList 0 0)
      (storeAnonymous false) = .ok s) =>
    h _ _ _ _ s (reach_runAll (storeAnonymous false) .start (by decide) run)
  exact absurd (never _ rfl (by decide) 2 1 "/root/a".toList false (by decide)) (by decide)

/-- The shipped configuration without `write_enable`. -/
def readOnly : Config := { Config.shipped with writeEnable := false }

/-- A client logs in, makes the directory `d` and stores `a`. -/
def makeAndStore (os : Os) : List Ev :=
  login "MKD d\r\nSTOR a\r\n".toList ++ [.run 2 { mkdir := .created }, .run 2 os]

theorem write_disabled_refused : ∃ s,
    runAll (step readOnly) (.init readOnly "/root".toList 0 0)
      (makeAndStore { openFile := .error .acces }) = .ok s ∧ s.nextId = 4 ∧
    ∀ id x, .fs id x ∉ s.log := by
  have clean := fun s (run : runAll (step readOnly) (.init readOnly "/root".toList 0 0)
      (makeAndStore { openFile := .error .acces }) = .ok s) =>
    write_disabled (by decide) (reach_runAll (makeAndStore _) .start (by decide) run)
  exact ⟨_, rfl, by decide, clean _ rfl⟩

/-- STOR does not look at the switch. -/
theorem read_only_stores : ¬ ∀ (cfg : Config) (home : Path) (c₀ : UInt32) (now : Int) (s : St),
    cfg.writeEnable = false → Reach (step cfg) (fun _ _ => True) (St.init cfg home c₀ now) s →
    ∀ id x, .fs id x ∉ s.log := by
  intro h
  have clean := fun s (run : runAll (step readOnly) (.init readOnly "/root".toList 0 0)
      (makeAndStore { openFile := .ok (7, 1), created := true, pipe := some (8, 9) }) = .ok s) =>
    h _ _ _ _ s (by decide) (reach_runAll (makeAndStore _) .start (by decide) run)
  exact clean _ rfl 3 (.opened 1 "/root/a".toList true) (by decide)

end OrangeFtpd
