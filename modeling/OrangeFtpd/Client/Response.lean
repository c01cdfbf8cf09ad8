/-
  File:      OrangeFtpd/Client/Response.lean
  Subject:   Replies, from the server that writes them to the client that reads them
             (`Client::get_read_with_timeout_op`, `Client::build_resp`).

  The server writes code, space, text, CR LF. The client reads up to the first CR LF,
  keeps the rest, splits the line at its spaces and joins all fields but the first
  again. Whatever the text is, as long as it has no CR LF itself, it comes out as it
  went in.
-/
import OrangeFtpd.Session.Code
import OrangeFtpd.Client.Text

namespace OrangeFtpd

/-- `ftpResponse`. `code` is the number that is cast to a `ret_code`. -/
structure FtpResponse where
  code : Int
  msg : Text
  deriving DecidableEq, Repr

namespace Client

/-! ## 1. Definitions -/

/-- `Client::build_resp`; `none` where it returns false. -/
def buildResp (msg : Text) : Except StoError (Option FtpResponse) :=
  match splitString ' ' msg with
  | code :: w :: ws => (stoi code).map fun n => some ⟨n, joinString ' ' (w :: ws)⟩
  | _ => .ok none

/-- The handler of `get_read_with_timeout_op` where a line was read: the reply, and what
    stays in the buffer. -/
def readReply (buf : Text) : Option (Except StoError (Option FtpResponse) × Text) :=
  (lineEnd buf).map fun n => (buildResp (buf.take n), buf.drop n)

/-- The results of `n` reads, as far as the buffer has lines, and what is left. -/
def readReplies : Nat → Text → List (Except StoError (Option FtpResponse)) × Text
  | 0, buf => ([], buf)
  | n + 1, buf =>
    match readReply buf with
    | none => ([], buf)
    | some (r, rest) =>
      let (rs, left) := readReplies n rest
      (r :: rs, left)

/-! ## 2. The round trip -/

/-- A reply that is built again: a code, a space, and a text to the end of the line. -/
theorem buildResp_coded {n : Nat} (hn : n ≤ 2147483647) (t : Text) :
    buildResp (dec n ++ ' ' :: (t ++ delimit)) = .ok (some ⟨n, t ++ delimit⟩) := by
  have hsplit := splitString_field (t := t ++ delimit) (not_mem_dec (n := n) (c := ' ') rfl)
  have hne : t ++ delimit ≠ [] := List.append_ne_nil_of_right_ne_nil t (List.cons_ne_nil _ _)
  have hlast : (t ++ delimit).getLast? ≠ some ' ' := by
    rw [delimit, List.getLast?_append]
    simp
  have hjoin := join_split hne hlast
  have hcode : stoi (dec n) = .ok n := by
    have h := stoi_dec (t := []) hn nofun
    rwa [List.append_nil] at h
  unfold buildResp
  rw [hsplit]
  cases hws : splitString ' ' (t ++ delimit) with
  | nil => exact absurd hws (splitString_ne_nil hne)
  | cons w ws =>
    rw [hws] at hjoin
    rw [← hjoin]
    simp only [hcode]
    rfl

theorem code_lt (code : RetCode) : code.toNat ≤ 2147483647 := by
  cases code <;> decide

/-- What the server writes is read, and nothing more. -/
theorem readReply_info {code : RetCode} {text : Text} (h : ¬ delimit <:+: text) (rest : Text) :
    readReply ((Response.getCodeStringInfo code text).data ++ rest) =
      some (.ok (some ⟨code.toNat, text ++ delimit⟩), rest) := by
  have he : (Response.getCodeStringInfo code text).data =
      dec code.toNat ++ ' ' :: (text ++ delimit) := by
    simp [Response.getCodeStringInfo]
  have hend : lineEnd (Response.getCodeStringInfo code text).data =
      some (Response.getCodeStringInfo code text).data.length :=
    lineEnd_closed (lineEnd_coded code.toNat (lineEnd_of_no_delimit h))
  unfold readReply
  rw [lineEnd_more rest hend, Option.map_some, List.take_left, List.drop_left, he,
    buildResp_coded (code_lt code)]

/-- **Replies are read as they were written**: each with its code and its text, in order,
    and nothing is left. -/
theorem reply_round_trip (rs : List (RetCode × Text)) (h : ∀ r ∈ rs, ¬ delimit <:+: r.2) :
    readReplies rs.length (rs.flatMap fun r => (Response.getCodeStringInfo r.1 r.2).data) =
      (rs.map fun r => .ok (some ⟨r.1.toNat, r.2 ++ delimit⟩), []) := by
  induction rs with
  | nil => rfl
  | cons r rs ih =>
    have hr : ¬ delimit <:+: r.2 := h r List.mem_cons_self
    have hrs := ih fun q hq => h q (List.mem_cons_of_mem r hq)
    rw [List.flatMap_cons, List.length_cons, readReplies, readReply_info hr]
    dsimp only
    rw [hrs]
    rfl

/-- Texts that are empty, or have spaces and line breaks at their ends. -/
theorem reply_round_trip_edges :
    readReplies 3 ([(RetCode.ok, []), (.welcome, "  a  ".toList), (.statOk, "b\r".toList)].flatMap
      fun r => (Response.getCodeStringInfo r.1 r.2).data) =
    ([.ok (some ⟨200, "\r\n".toList⟩), .ok (some ⟨220, "  a  \r\n".toList⟩),
      .ok (some ⟨211, "b\r\r\n".toList⟩)], []) :=
  reply_round_trip [(.ok, []), (.welcome, "  a  ".toList), (.statOk, "b\r".toList)] (by decide)

end Client

end OrangeFtpd
