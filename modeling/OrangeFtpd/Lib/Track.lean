/-
  File:      OrangeFtpd/Lib/Track.lean
  Subject:   An automaton for each key of a log.

  The entries of a log (newest first) belong to keys, or to none. `track` reads the
  entries of one key, the oldest first, with an automaton that may get stuck; a log is
  in order for a key where it does not.

  * `track_append_other`: entries of other keys do not count.
  * `track_old`: the past of a log in order is in order.
  * `entries_after`: what a set of states that is not left lets in.
  * `not_key_of_final`: after a final state there are no more entries of the key.
  * `not_key_of_start`: a state that no transition enters is that of a log without them.

  Nothing here knows a particular log.
-/

namespace OrangeFtpd

section

variable {ω κ τ : Type} [DecidableEq κ] {key : ω → Option κ} {next : τ → ω → Option τ} {start : τ}
  {k : κ} {o : ω} {new old : List ω} {st : τ}

/-- The state of the automaton after the entries of the key `k`; `none` where it is stuck. -/
def track (key : ω → Option κ) (next : τ → ω → Option τ) (start : τ) (k : κ) (log : List ω) :
    Option τ :=
  log.foldr (fun o st => if key o = some k then st.bind (next · o) else st) (some start)

theorem track_cons_key (h : key o = some k) :
    track key next start k (o :: old) = (track key next start k old).bind (next · o) := if_pos h

theorem track_cons_other (h : key o ≠ some k) :
    track key next start k (o :: old) = track key next start k old := if_neg h

theorem track_append_other (h : ∀ o ∈ new, key o ≠ some k) :
    track key next start k (new ++ old) = track key next start k old := by
  induction new with
  | nil => rfl
  | cons o new ih =>
    rw [List.cons_append, track_cons_other (h o List.mem_cons_self)]
    exact ih fun o ho => h o (List.mem_cons_of_mem _ ho)

/-- What is stuck stays stuck. -/
theorem track_old (h : track key next start k (new ++ old) ≠ none) :
    track key next start k old ≠ none := by
  induction new with
  | nil => exact h
  | cons o new ih =>
    refine ih fun hn => h ?_
    by_cases ho : key o = some k
    · rw [List.cons_append, track_cons_key ho, hn]
      rfl
    · rw [List.cons_append, track_cons_other ho, hn]

/-- **From a state on**: the states of `S` are not left, and each entry that is read in one of them
    has `P`. -/
theorem entries_after {S : τ → Prop} {P : ω → Prop}
    (hS : ∀ st o st', S st → next st o = some st' → S st' ∧ P o)
    (h : track key next start k old = some st) (h0 : S st)
    (hn : track key next start k (new ++ old) ≠ none) :
    (∃ st', track key next start k (new ++ old) = some st' ∧ S st') ∧
      ∀ o ∈ new, key o = some k → P o := by
  induction new with
  | nil => exact ⟨⟨st, h, h0⟩, List.forall_mem_nil _⟩
  | cons o new ih =>
    obtain ⟨⟨st₁, h1, hS1⟩, hnew⟩ := ih (@track_old _ _ _ _ _ _ _ _ [o] _ hn)
    by_cases ho : key o = some k
    · obtain ⟨st₂, h2⟩ := Option.ne_none_iff_exists'.mp hn
      rw [List.cons_append, track_cons_key ho, h1] at h2
      have hnext := hS st₁ o st₂ hS1 h2
      refine ⟨⟨st₂, ?_, hnext.1⟩, List.forall_mem_cons.mpr ⟨fun _ => hnext.2, hnew⟩⟩
      rw [List.cons_append, track_cons_key ho, h1]
      exact h2
    · refine ⟨⟨st₁, ?_, hS1⟩, List.forall_mem_cons.mpr ⟨fun h => absurd h ho, hnew⟩⟩
      rw [List.cons_append, track_cons_other ho]
      exact h1

/-- **Nothing after a final state.** -/
theorem not_key_of_final (hf : ∀ o, next st o = none) (h : track key next start k old = some st)
    (hn : track key next start k (new ++ old) ≠ none) : ∀ o ∈ new, key o ≠ some k := by
  refine (entries_after (S := (· = st)) (P := fun _ => False) ?_ h rfl hn).2
  intro st' o st'' e hnext
  rw [e, hf o] at hnext
  cases hnext

/-- **Nothing before the start** is left. -/
theorem not_key_of_start (hs : ∀ st o, next st o ≠ some start)
    (h : track key next start k old = some start) : ∀ o ∈ old, key o ≠ some k := by
  induction old with
  | nil => exact List.forall_mem_nil _
  | cons o old ih =>
    by_cases ho : key o = some k
    · rw [track_cons_key ho] at h
      obtain ⟨st, -, hst⟩ := Option.bind_eq_some_iff.mp h
      exact absurd hst (hs st o)
    · rw [track_cons_other ho] at h
      intro o' hm
      rcases List.mem_cons.mp hm with rfl | hm
      · exact ho
      · exact ih h o' hm

end

end OrangeFtpd
