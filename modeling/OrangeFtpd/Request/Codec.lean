/-
  File:      OrangeFtpd/Request/Codec.lean
  Subject:   Request lines, from the client that writes them to the request that is
             parsed (`Client::build_req`, `Session::handle_read`, `build_request`).

  The client writes command, space, body, CR LF. The server cuts the line into words
  and joins those after the first with single spaces. What comes out is the body that
  was sent exactly where that is a sequence of words with one space between them.
-/
import OrangeFtpd.Session.Session

namespace OrangeFtpd

/-! ## 1. Definitions -/

/-- `Client::build_req`. -/
def Client.buildReq (req : FtpRequest) : Text := req.command ++ ' ' :: req.body ++ delimit

/-- What `handle_read` makes of the first line of the stream buffer. -/
def parseFirst (buf : Text) : Option FtpRequest :=
  buildRequest (splitWords (buf.take ((lineEnd buf).getD 0)))

/-- A word: not empty and without whitespace. -/
def IsWord (w : Text) : Prop := w ≠ [] ∧ ∀ c ∈ w, isSpace c = false

/-- Words with one space between them. -/
def SingleSpaced (t : Text) : Prop := ∃ ws : List Text, (∀ w ∈ ws, IsWord w) ∧ t = [' '].intercalate ws

section

variable {w t cur cmd body : Text} {ws : List Text} {c : Char}

/-! ## 2. Words -/

/-- A word is read to its end. -/
theorem splitWordsFrom_word (hw : ∀ c ∈ w, isSpace c = false) :
    splitWordsFrom (w ++ t) cur = splitWordsFrom t (cur ++ w) := by
  induction w generalizing cur with
  | nil => rw [List.nil_append, List.append_nil]
  | cons c w ih =>
    have hc : isSpace c = false := hw c List.mem_cons_self
    have htail : ∀ d ∈ w, isSpace d = false := fun d hd => hw d (List.mem_cons_of_mem c hd)
    rw [List.cons_append, splitWordsFrom, hc, if_neg Bool.false_ne_true, ih htail,
      List.append_assoc, List.singleton_append]

/-- Whitespace after a word ends it. -/
theorem splitWordsFrom_space (hc : isSpace c = true) (hcur : cur ≠ []) :
    splitWordsFrom (c :: t) cur = cur :: splitWords t := by
  rw [splitWordsFrom, if_pos hc, if_neg (by simpa using hcur)]
  rfl

theorem splitWords_word (hw : IsWord w) (hc : isSpace c = true) :
    splitWords (w ++ c :: t) = w :: splitWords t := by
  unfold splitWords
  rw [splitWordsFrom_word hw.2, List.nil_append, splitWordsFrom_space hc hw.1]
  rfl

/-- The end of the line adds no word. -/
theorem splitWordsFrom_delimit : splitWordsFrom (t ++ delimit) cur = splitWordsFrom t cur := by
  induction t generalizing cur with
  | nil =>
    by_cases hcur : cur = []
    · rw [hcur]
      decide
    · rw [List.nil_append, delimit, splitWordsFrom_space rfl hcur, splitWordsFrom,
        if_neg (by simpa using hcur)]
      exact congrArg (cur :: ·) (by decide)
  | cons c t ih =>
    simp only [List.cons_append, splitWordsFrom, ih]

/-- What is read are words. -/
theorem splitWordsFrom_words (hcur : ∀ c ∈ cur, isSpace c = false) :
    ∀ w ∈ splitWordsFrom t cur, IsWord w := by
  induction t generalizing cur with
  | nil =>
    intro w hw
    by_cases h0 : cur = []
    · rw [h0] at hw
      cases hw
    · rw [splitWordsFrom, if_neg (by simpa using h0)] at hw
      rw [List.mem_singleton.mp hw]
      exact ⟨h0, hcur⟩
  | cons c t ih =>
    intro w hw
    rw [splitWordsFrom] at hw
    by_cases hc : isSpace c = true
    · rw [if_pos hc] at hw
      by_cases h0 : cur = []
      · rw [if_pos (by rw [h0]; rfl)] at hw
        exact ih (List.forall_mem_nil _) w hw
      · rw [if_neg (by simpa using h0)] at hw
        rcases List.mem_cons.mp hw with rfl | hw
        · exact ⟨h0, hcur⟩
        · exact ih (List.forall_mem_nil _) w hw
    · rw [if_neg hc] at hw
      refine ih (fun d hd => ?_) w hw
      rcases List.mem_append.mp hd with hd | hd
      · exact hcur d hd
      · rw [List.mem_singleton.mp hd]
        exact eq_false_of_ne_true hc

theorem splitWords_words : ∀ w ∈ splitWords t, IsWord w := splitWordsFrom_words (List.forall_mem_nil _)

/-- **Words with one space between them are read back.** -/
theorem splitWords_intercalate (hws : ∀ w ∈ ws, IsWord w) :
    splitWords ([' '].intercalate ws) = ws := by
  induction ws with
  | nil => rfl
  | cons w ws ih =>
    have hw := hws w List.mem_cons_self
    cases ws with
    | nil =>
      have h := @splitWordsFrom_word w [] [] hw.2
      rw [List.append_nil, List.nil_append, splitWordsFrom, if_neg (by simpa using hw.1)] at h
      rw [List.intercalate_singleton]
      exact h
    | cons w' ws =>
      have e : [' '].intercalate (w :: w' :: ws) = w ++ ' ' :: [' '].intercalate (w' :: ws) := by
        rw [List.intercalate_cons_cons, List.append_assoc, List.singleton_append]
      rw [e, splitWords_word hw rfl, ih fun v hv => hws v (List.mem_cons_of_mem w hv)]

/-- The words joined give the text back where it was single-spaced. -/
theorem intercalate_splitWords : [' '].intercalate (splitWords t) = t ↔ SingleSpaced t := by
  constructor
  · exact fun h => ⟨splitWords t, splitWords_words, h.symm⟩
  · intro ⟨ws, hws, ht⟩
    rw [ht, splitWords_intercalate hws]

/-! ## 3. Lines -/

/-- What the server makes of a request that the client encoded. -/
theorem parseFirst_buildReq (hcmd : IsWord cmd) (hbody : ∀ c ∈ body, c ≠ '\r') :
    parseFirst (Client.buildReq ⟨cmd, body⟩) =
      some ⟨toUpper cmd, [' '].intercalate (splitWords body)⟩ := by
  have hcr : ∀ c ∈ cmd ++ ' ' :: body, c ≠ '\r' := by
    intro c hc
    rcases List.mem_append.mp hc with hc | hc
    · intro he
      have hs := hcmd.2 c hc
      rw [he] at hs
      exact absurd hs (by decide)
    · rcases List.mem_cons.mp hc with rfl | hc
      · decide
      · exact hbody c hc
  have hwords : splitWords (Client.buildReq ⟨cmd, body⟩) = cmd :: splitWords body := by
    unfold Client.buildReq
    show splitWordsFrom ((cmd ++ ' ' :: body) ++ delimit) [] = _
    rw [splitWordsFrom_delimit]
    exact splitWords_word hcmd rfl
  have hend : lineEnd (Client.buildReq ⟨cmd, body⟩) = some (Client.buildReq ⟨cmd, body⟩).length :=
    lineEnd_closed (lineEnd_of_no_cr fun hc => hcr _ hc rfl)
  unfold parseFirst
  rw [hend, Option.getD_some, List.take_length, hwords]
  rfl

/-- **The round trip** gives the body back exactly where it is single-spaced. -/
theorem request_round_trip (hcmd : cmd ≠ []) (hword : ∀ c ∈ cmd, isSpace c = false)
    (hbody : ∀ c ∈ body, c ≠ '\r' ∧ c ≠ '\n') :
    parseFirst (Client.buildReq ⟨cmd, body⟩) = some ⟨toUpper cmd, body⟩ ↔ SingleSpaced body := by
  rw [parseFirst_buildReq ⟨hcmd, hword⟩ fun c hc => (hbody c hc).1, ← intercalate_splitWords]
  simp

end

theorem request_round_trip_twoWords :
    parseFirst (Client.buildReq ⟨"retr".toList, "a b".toList⟩) =
      some ⟨toUpper "retr".toList, "a b".toList⟩ ↔ SingleSpaced "a b".toList :=
  request_round_trip (by decide) (by simp [isSpace]) (by simp)

/-- **Two spaces in a name** arrive as one: the name of another file. -/
theorem double_space_lost : ¬ ∀ cmd body : Text, cmd ≠ [] → (∀ c ∈ cmd, isSpace c = false) →
    (∀ c ∈ body, c ≠ '\r' ∧ c ≠ '\n') →
    parseFirst (Client.buildReq ⟨cmd, body⟩) = some ⟨toUpper cmd, body⟩ := by
  intro h
  have h2 := h "RETR".toList "a  b".toList (by decide) (by simp [isSpace]) (by simp)
  have h1 : parseFirst (Client.buildReq ⟨"RETR".toList, "a  b".toList⟩) =
      some ⟨"RETR".toList, "a b".toList⟩ := by decide
  rw [h1] at h2
  exact absurd h2 (by decide)

end OrangeFtpd
