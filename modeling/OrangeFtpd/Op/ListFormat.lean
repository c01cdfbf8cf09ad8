/-
  File:      OrangeFtpd/Op/ListFormat.lean
  Subject:   The text of a directory listing, read back.

  A listing is a format: lines that end with CR LF, and in a line a mode field of ten
  characters, seven more columns and the name. `readListing` reads it. Against
  `list_file`:

  * `listEntry_row`: the line of an entry is its row, written.
  * `givesBack_iff`: the whole directory comes back exactly if each entry has a type
    that the switch knows and a name without CR LF.
  * `list_parses`: so do the directories whose types are known, up to their names.
-/
import OrangeFtpd.Lib.Columns
import OrangeFtpd.Op.ListFile
import OrangeFtpd.Client.Text
import OrangeFtpd.Invariant.Framing

namespace OrangeFtpd

/-! ## 1. The format -/

/-- What a line of a listing says. -/
structure ListRow where
  type : FileType
  /-- The nine permission bits, owner read first. -/
  perms : List Bool
  links : Nat
  owner : Text
  group : Text
  size : Nat
  month : Text
  day : Nat
  time : Text
  name : Text
  deriving DecidableEq

/-- The letters of the nine permission characters. -/
def permLetters : Text := "rwxrwxrwx".toList

/-- The type that a type character stands for. -/
def typeOfChar : Char → Option FileType
  | 'd' => some .directory
  | 'b' => some .block
  | 'c' => some .character
  | 'p' => some .fifo
  | '-' => some .regular
  | 'l' => some .symlink
  | 's' => some .socket
  | _ => none

/-- A permission character, where the letter is `r`. -/
def readPerm (r c : Char) : Option Bool :=
  if c = '-' then some false else if c = r then some true else none

/-- Permission characters, one for each letter. -/
def readPerms : Text → Text → Option (List Bool)
  | [], [] => some []
  | r :: letters, c :: cs => do
    let b ← readPerm r c
    let bs ← readPerms letters cs
    return b :: bs
  | _, _ => none

/-- The mode field: a type character and nine permission characters, no more. -/
def readMode : Text → Option (FileType × List Bool)
  | [] => none
  | c :: cs => do
    let type ← typeOfChar c
    let perms ← readPerms permLetters cs
    return (type, perms)

/-- A number, all of it digits. -/
def readDec (t : Text) : Option Nat :=
  if t ≠ [] ∧ t.all Char.isDigit then some (Nat.ofDigitChars 10 t 0) else none

/-- A line without its CR LF. -/
def readRow (line : Text) : Option ListRow := do
  let (fields, name) ← columns ' ' 8 line
  match fields with
  | [mode, links, owner, group, size, month, day, time] =>
    let (type, perms) ← readMode mode
    let links ← readDec links
    let size ← readDec size
    let day ← readDec day
    return { type, perms, links, owner, group, size, month, day, time, name }
  | _ => none

/-- The lines of a text that ends with a line, each without its CR LF. -/
def readLines (t : Text) : Option (List Text) :=
  if crlf.rest t = [] then some ((crlf.frames t).map fun line => line.take (line.length - 2))
  else none

/-- **A listing, read**: every line of it is a row. -/
def readListing (t : Text) : Option (List ListRow) := do (← readLines t).mapM readRow

/-! ## 2. What it should say -/

/-- The nine bits of the permissions. -/
def permBits (perms : Nat) : List Bool := [8, 7, 6, 5, 4, 3, 2, 1, 0].map perms.testBit

/-- The time that is printed. -/
def DirEntry.time (cfg : Config) (it : DirEntry) : Tm :=
  if cfg.useLocalTime then it.localTime else it.gmTime

/-- The row is the entry, as its metadata calls report it; only a regular file has a size. -/
structure ListRow.Shows (cfg : Config) (it : DirEntry) (row : ListRow) : Prop where
  type : fsStatus (it.stat 0) = .ok row.type
  perms : ∃ p, fsPermissions (it.stat 1) = .ok p ∧ row.perms = permBits p
  links : it.hardLinkCount = .ok row.links
  owner : row.owner = "ftpd".toList
  group : row.group = "ftpd".toList
  size : fsIsRegularFile (it.stat 2) = .ok true ∧
      (∃ n, fsFileSize (it.stat 3) = .ok n ∧ row.size = n.toNat) ∨
    fsIsRegularFile (it.stat 2) = .ok false ∧ row.size = 0
  month : row.month = monthMapping (it.time cfg).mon
  day : row.day = (it.time cfg).mday
  time : row.time = dec (it.time cfg).hour ++ ':' :: dec (it.time cfg).min
  name : row.name = it.name

/-- **The text gives the directory back**: one line for each entry, in order, and each is
    read as its entry. -/
def GivesBack (cfg : Config) (entries : List DirEntry) (t : Text) : Prop :=
  ∃ rows, readListing t = some rows ∧ List.Forall₂ (ListRow.Shows cfg) entries rows

/-- The switch has a character for the type. -/
def FileType.Known (type : FileType) : Prop := type ≠ .notFound ∧ type ≠ .unknown

/-- The entry has a type that the switch knows, and a name that is one line. -/
def DirEntry.Plain (it : DirEntry) : Prop :=
  (∀ type, fsStatus (it.stat 0) = .ok type → type.Known) ∧ ¬ delimit <:+: it.name

/-! ## 3. A field of a line -/

section

variable {cfg : Config} {it : DirEntry} {t body line : Text}

theorem typeOfChar_typeChar {type : FileType} (h : type.Known) :
    ∃ c, typeChar type = [c] ∧ typeOfChar c = some type := by
  cases type with
  | notFound => exact absurd rfl h.1
  | unknown => exact absurd rfl h.2
  | _ => exact ⟨_, rfl, rfl⟩

theorem typeChar_unknown {type : FileType} (h : ¬ type.Known) : typeChar type = [] := by
  cases type with
  | notFound => rfl
  | unknown => rfl
  | _ => exact absurd ⟨nofun, nofun⟩ h

/-- There are as many permission characters as letters. -/
theorem readPerms_length : ∀ {letters cs : Text} {bs : List Bool},
    readPerms letters cs = some bs → cs.length = letters.length
  | [], [], _, _ => rfl
  | r :: letters, c :: cs, bs, h => by
    unfold readPerms at h
    obtain ⟨b, hb, h⟩ := Option.bind_eq_some_iff.mp h
    obtain ⟨bs', hbs, h⟩ := Option.bind_eq_some_iff.mp h
    rw [List.length_cons, List.length_cons, readPerms_length hbs]
  | [], _ :: _, _, h => by cases h
  | _ :: _, [], _, h => by cases h

theorem readPerm_permChar (perms bit : Nat) {r : Char} (hr : r ≠ '-') :
    readPerm r (permChar perms bit r) = some (perms.testBit bit) := by
  unfold readPerm permChar
  cases perms.testBit bit with
  | false => rfl
  | true => rw [if_pos rfl, if_neg hr, if_pos rfl]

/-- The permission characters of nine bits. -/
theorem readPerms_permText (perms : Nat) :
    readPerms permLetters (permText perms) = some (permBits perms) := by
  have cons : ∀ (bit : Nat) {r : Char} {letters cs : Text} {bs : List Bool}, r ≠ '-' →
      readPerms letters cs = some bs → readPerms (r :: letters) (permChar perms bit r :: cs) =
        some (perms.testBit bit :: bs) := by
    intro bit r letters cs bs hr h
    rw [readPerms, readPerm_permChar perms bit hr, h]
    rfl
  have hr : 'r' ≠ '-' := by decide
  have hw : 'w' ≠ '-' := by decide
  have hx : 'x' ≠ '-' := by decide
  exact cons 8 hr <| cons 7 hw <| cons 6 hx <| cons 5 hr <| cons 4 hw <| cons 3 hx <|
    cons 2 hr <| cons 1 hw <| cons 0 hx rfl

/-- **The mode field is ten characters.** -/
theorem readMode_length {mode : Text} {type : FileType} {perms : List Bool}
    (h : readMode mode = some (type, perms)) : mode.length = 10 := by
  cases mode with
  | nil => cases h
  | cons c cs =>
    unfold readMode at h
    obtain ⟨_, _, h⟩ := Option.bind_eq_some_iff.mp h
    obtain ⟨bs, hbs, -⟩ := Option.bind_eq_some_iff.mp h
    rw [List.length_cons, readPerms_length hbs]
    rfl

theorem readMode_known {type : FileType} (h : type.Known) (perms : Nat) :
    readMode (typeChar type ++ permText perms) = some (type, permBits perms) := by
  obtain ⟨c, hc, ht⟩ := typeOfChar_typeChar h
  rw [hc, List.singleton_append, readMode, ht, readPerms_permText]
  rfl

/-- Nine characters are no mode field. -/
theorem readMode_unknown {type : FileType} (h : ¬ type.Known) (perms : Nat) :
    readMode (typeChar type ++ permText perms) = none := by
  rw [typeChar_unknown h, List.nil_append]
  cases hm : readMode (permText perms) with
  | none => rfl
  | some m => exact absurd (readMode_length hm) (by unfold permText; simp)

theorem readDec_dec (n : Nat) : readDec (dec n) = some n := by
  have hall : (dec n).all Char.isDigit = true := List.all_eq_true.mpr fun c hc => isDigit_dec hc
  unfold readDec
  rw [if_pos ⟨dec_ne_nil n, hall⟩, ofDigitChars_dec]

/-! ## 4. A line -/

theorem bind_ok_except {ε α β : Type} {x : Except ε α} {f : α → Except ε β} {b : β}
    (h : (x >>= f) = .ok b) : ∃ a, x = .ok a ∧ f a = .ok b := by
  cases x with
  | error e => cases h
  | ok a => exact ⟨a, rfl, h⟩

/-- The columns before the name. -/
def ListRow.columns (row : ListRow) (perms : Nat) : List Text :=
  [typeChar row.type ++ permText perms, dec row.links, row.owner, row.group, dec row.size,
    row.month, dec row.day, row.time]

/-- The row of an entry, from what the calls on it returned. -/
def DirEntry.row (cfg : Config) (it : DirEntry) (type : FileType) (perms links size : Nat) : ListRow :=
  let tm := it.time cfg
  { type, perms := permBits perms, links, owner := "ftpd".toList, group := "ftpd".toList, size,
    month := monthMapping tm.mon, day := tm.mday, time := dec tm.hour ++ ':' :: dec tm.min,
    name := it.name }

/-- What `list_file` writes for an entry is the columns of its row, and the name. -/
theorem listEntry_row (h : listEntry cfg it = .ok line) :
    ∃ type perms links size, (it.row cfg type perms links size).Shows cfg it ∧
      line = joinColumns ' ' ((it.row cfg type perms links size).columns perms) ++ it.name ++
        delimit := by
  obtain ⟨type, htype, h⟩ := bind_ok_except h
  obtain ⟨perms, hperms, h⟩ := bind_ok_except h
  obtain ⟨links, hlinks, h⟩ := bind_ok_except h
  obtain ⟨regular, hreg, h⟩ := bind_ok_except h
  have shows : ∀ size, (fsIsRegularFile (it.stat 2) = .ok true ∧
      (∃ n, fsFileSize (it.stat 3) = .ok n ∧ size = n.toNat) ∨
      fsIsRegularFile (it.stat 2) = .ok false ∧ size = 0) →
      (it.row cfg type perms links size).Shows cfg it := fun size hsize =>
    { type := htype, perms := ⟨perms, hperms, rfl⟩, links := hlinks, owner := rfl, group := rfl,
      size := hsize, month := rfl, day := rfl, time := rfl, name := rfl }
  cases regular with
  | true =>
    obtain ⟨size, hsize, h⟩ := bind_ok_except h
    cases hn : fsFileSize (it.stat 3) with
    | error e => rw [hn] at hsize; cases hsize
    | ok n =>
      rw [hn] at hsize
      have hdigits : size = dec n.toNat ++ [' '] := (Except.ok.inj hsize).symm
      have hline := Except.ok.inj h
      refine ⟨type, perms, links, n.toNat, shows _ (.inl ⟨hreg, n, hn, rfl⟩), ?_⟩
      rw [← hline, hdigits]
      simp [joinColumns, ListRow.columns, DirEntry.row, DirEntry.time]
  | false =>
    have hline := Except.ok.inj h
    refine ⟨type, perms, links, 0, shows _ (.inr ⟨hreg, rfl⟩), ?_⟩
    rw [← hline]
    simp [joinColumns, ListRow.columns, DirEntry.row, DirEntry.time, dec]

/-- No column of an entry has a space or a carriage return. -/
theorem columns_plain {c : Char} (hc : c = ' ' ∨ c = '\r') (cfg : Config) (it : DirEntry)
    (type : FileType) (perms links size : Nat) :
    ∀ col ∈ (it.row cfg type perms links size).columns perms, c ∉ col := by
  have hmonth : ∀ m, ' ' ∉ monthMapping m ∧ '\r' ∉ monthMapping m := by decide +kernel
  have htype : ∀ type, ' ' ∉ typeChar type ∧ '\r' ∉ typeChar type := fun type => by
    cases type <;> decide
  have hperm : ∀ (bit : Nat) {r : Char}, c ≠ r → c ≠ permChar perms bit r := by
    intro bit r hr
    unfold permChar
    split
    · exact hr
    · rcases hc with rfl | rfl <;> decide
  have hdigit : c.isDigit = false := by rcases hc with rfl | rfl <;> rfl
  have hletter : c ≠ 'r' ∧ c ≠ 'w' ∧ c ≠ 'x' ∧ c ≠ ':' := by rcases hc with rfl | rfl <;> decide
  have hmode : c ∉ typeChar type ++ permText perms := by
    unfold permText
    simp only [List.mem_append, List.mem_cons, List.not_mem_nil, or_false, not_or]
    refine ⟨?_, hperm _ hletter.1, hperm _ hletter.2.1, hperm _ hletter.2.2.1, hperm _ hletter.1,
      hperm _ hletter.2.1, hperm _ hletter.2.2.1, hperm _ hletter.1, hperm _ hletter.2.1,
      hperm _ hletter.2.2.1⟩
    rcases hc with rfl | rfl
    · exact (htype type).1
    · exact (htype type).2
  have hftpd : c ∉ "ftpd".toList := by rcases hc with rfl | rfl <;> decide
  have hmon : c ∉ monthMapping (it.time cfg).mon := by
    rcases hc with rfl | rfl
    · exact (hmonth _).1
    · exact (hmonth _).2
  have htime : c ∉ dec (it.time cfg).hour ++ ':' :: dec (it.time cfg).min := by
    rw [List.mem_append, List.mem_cons, not_or, not_or]
    exact ⟨not_mem_dec hdigit, hletter.2.2.2, not_mem_dec hdigit⟩
  unfold ListRow.columns DirEntry.row
  simp only [List.forall_mem_cons]
  exact ⟨hmode, not_mem_dec hdigit, hftpd, hftpd, not_mem_dec hdigit, hmon, not_mem_dec hdigit,
    htime, nofun⟩

/-- What is read of the columns of an entry and a name. -/
theorem readRow_columns (type : FileType) (perms links size : Nat) :
    readRow (joinColumns ' ' ((it.row cfg type perms links size).columns perms) ++ it.name) =
      (readMode (typeChar type ++ permText perms)).map fun mode =>
        { it.row cfg type perms links size with type := mode.1, perms := mode.2 } := by
  have hread := @columns_joined Char _ ' ' it.name _
    (columns_plain (.inl rfl) cfg it type perms links size)
  unfold readRow
  rw [show 8 = ((it.row cfg type perms links size).columns perms).length from rfl, hread]
  unfold ListRow.columns DirEntry.row
  dsimp only [bind, Option.bind]
  cases readMode (typeChar type ++ permText perms) with
  | none => rfl
  | some mode =>
    dsimp only
    rw [readDec_dec, readDec_dec, readDec_dec]
    rfl

/-- A line of an entry has its first CR LF where its name has one. -/
theorem lineEnd_columns (type : FileType) (perms links size : Nat) :
    lineEnd (joinColumns ' ' ((it.row cfg type perms links size).columns perms) ++ it.name) = none ↔
      ¬ delimit <:+: it.name := by
  have hcr : '\r' ∉ joinColumns ' ' ((it.row cfg type perms links size).columns perms) := by
    unfold joinColumns
    rw [List.mem_flatMap]
    rintro ⟨col, hcol, hm⟩
    rcases List.mem_append.mp hm with hm | hm
    · exact columns_plain (.inr rfl) cfg it type perms links size col hcol hm
    · exact absurd (List.mem_singleton.mp hm) (by decide)
  rw [lineEnd_append_none (lineEnd_of_no_cr hcr) fun hl => absurd hl (getLast_no_cr hcr),
    Option.map_eq_none_iff]
  exact ⟨fun h hd => lineEnd_of_delimit hd h, lineEnd_of_no_delimit⟩

/-- What the line of an entry is, without its CR LF. -/
structure Written (cfg : Config) (it : DirEntry) (body : Text) : Prop where
  oneLine : lineEnd body = none ↔ ¬ delimit <:+: it.name
  known : (∀ type, fsStatus (it.stat 0) = .ok type → type.Known) →
    ∃ row, readRow body = some row ∧ row.Shows cfg it
  unknown : ¬ (∀ type, fsStatus (it.stat 0) = .ok type → type.Known) → readRow body = none

/-- **The line of an entry** is read back as the entry, if its type is known. -/
theorem listEntry_written (h : listEntry cfg it = .ok line) :
    ∃ body, line = body ++ delimit ∧ Written cfg it body := by
  obtain ⟨type, perms, links, size, hrow, hline⟩ := listEntry_row h
  refine ⟨_, hline, lineEnd_columns .., fun hk => ?_, fun hk => ?_⟩
  · refine ⟨it.row cfg type perms links size, ?_, hrow⟩
    rw [readRow_columns, readMode_known (hk type hrow.type)]
    rfl
  · have hk' : ¬ type.Known := fun h' => hk fun type' ht => by
      have he : type = type' := Except.ok.inj (hrow.type.symm.trans ht)
      exact he ▸ h'
    rw [readRow_columns, readMode_unknown hk']
    rfl

/-! ## 5. Lines -/

/-- A text that ends with CR LF is whole lines. -/
theorem whole_closed (body : Text) : crlf.Whole (body ++ delimit) := by
  cases hb : lineEnd body with
  | none =>
    have hf := crlf.frames_take (lineEnd_closed hb)
    unfold Framer.Whole
    rw [List.take_length] at hf
    rw [hf, List.flatten_singleton]
  | some k =>
    have hk : k ≤ body.length := lineEnd_le hb
    have hlt : (body.drop k).length < body.length := Framer.drop_length_lt (F := crlf) hb
    have ih := whole_closed (body.drop k)
    have hcut : crlf.cut (body ++ delimit) = some k := lineEnd_more delimit hb
    unfold Framer.Whole at ih ⊢
    rw [Framer.frames_cut hcut, List.drop_append_of_le_length hk, List.flatten_cons, ih,
      ← List.drop_append_of_le_length hk, List.take_append_drop]
termination_by body.length
decreasing_by exact hlt

theorem frames_closed_pos (body : Text) : 0 < (crlf.frames (body ++ delimit)).length := by
  rw [List.length_pos_iff]
  intro h
  have hw := whole_closed body
  unfold Framer.Whole at hw
  rw [h, List.flatten_nil] at hw
  exact absurd (List.append_eq_nil_iff.mp hw.symm).2 (List.cons_ne_nil _ _)

/-- A text without a line is one line when it is closed. -/
theorem frames_closed (h : lineEnd body = none) :
    crlf.frames (body ++ delimit) = [body ++ delimit] := by
  have hf := crlf.frames_take (lineEnd_closed h)
  rwa [List.take_length] at hf

/-- With a line in it, it is more than one. -/
theorem frames_closed_more (h : lineEnd body ≠ none) :
    1 < (crlf.frames (body ++ delimit)).length := by
  obtain ⟨k, hk⟩ := Option.ne_none_iff_exists'.mp h
  have hcut : crlf.cut (body ++ delimit) = some k := lineEnd_more delimit hk
  have hpos := frames_closed_pos (body.drop k)
  rw [Framer.frames_cut hcut, List.drop_append_of_le_length (lineEnd_le hk), List.length_cons]
  exact Nat.succ_lt_succ hpos

/-- Lines, one after the other. -/
def closeLines (bodies : List Text) : Text := bodies.flatMap fun body => body ++ delimit

theorem whole_closeLines : ∀ bodies : List Text, crlf.Whole (closeLines bodies)
  | [] => crlf.whole_nil
  | body :: bodies => Framer.whole_append (whole_closed body) (whole_closeLines bodies)

theorem frames_closeLines_cons (body : Text) (bodies : List Text) :
    crlf.frames (closeLines (body :: bodies)) =
      crlf.frames (body ++ delimit) ++ crlf.frames (closeLines bodies) :=
  Framer.frames_append (whole_closed body) _

theorem length_le_frames : ∀ bodies : List Text,
    bodies.length ≤ (crlf.frames (closeLines bodies)).length
  | [] => Nat.zero_le _
  | body :: bodies => by
    have h1 := frames_closed_pos body
    have h2 := length_le_frames bodies
    rw [frames_closeLines_cons, List.length_append, List.length_cons]
    omega

/-- **One line for each body** leaves no line inside of one. -/
theorem oneLine_of_length : ∀ {bodies : List Text},
    (crlf.frames (closeLines bodies)).length = bodies.length → ∀ body ∈ bodies, lineEnd body = none
  | [], _ => nofun
  | body :: bodies, h => by
    have h1 := frames_closed_pos body
    have h2 := length_le_frames bodies
    rw [frames_closeLines_cons, List.length_append, List.length_cons] at h
    rw [List.forall_mem_cons]
    refine ⟨?_, oneLine_of_length (by omega)⟩
    cases hb : lineEnd body with
    | none => rfl
    | some k =>
      have h3 := @frames_closed_more body (by rw [hb]; nofun)
      omega

theorem frames_closeLines : ∀ {bodies : List Text}, (∀ body ∈ bodies, lineEnd body = none) →
    crlf.frames (closeLines bodies) = bodies.map fun body => body ++ delimit
  | [], _ => Framer.frames_none (by rfl)
  | body :: bodies, h => by
    rw [List.forall_mem_cons] at h
    rw [frames_closeLines_cons, frames_closed h.1, frames_closeLines h.2]
    rfl

/-- Closed lines are read as they were, if there are no others. -/
theorem readLines_closeLines {bodies : List Text} (h : ∀ body ∈ bodies, lineEnd body = none) :
    readLines (closeLines bodies) = some bodies := by
  have hstrip : ∀ body : Text, (body ++ delimit).take ((body ++ delimit).length - 2) = body := by
    intro body
    rw [List.length_append, show delimit.length = 2 from rfl, Nat.add_sub_cancel, List.take_left]
  unfold readLines
  rw [if_pos (Framer.rest_whole (whole_closeLines bodies)), frames_closeLines h, List.map_map]
  exact congrArg some (List.map_id'' hstrip bodies)

/-! ## 6. Listings -/

section

variable {ε α β : Type}

/-- A traversal that succeeds is the pointwise relation of what it returns. -/
theorem forall₂_of_mapM_except {f : α → Except ε β} : ∀ {xs : List α} {ys : List β},
    xs.mapM f = .ok ys → List.Forall₂ (fun x y => f x = .ok y) xs ys
  | [], _, h => by cases h; exact .nil
  | x :: xs, ys, h => by
    rw [List.mapM_cons] at h
    obtain ⟨y, hy, h⟩ := bind_ok_except h
    obtain ⟨ys', hys, h⟩ := bind_ok_except h
    cases h
    exact .cons hy (forall₂_of_mapM_except hys)

theorem forall₂_of_mapM_option {f : α → Option β} : ∀ {xs : List α} {ys : List β},
    xs.mapM f = some ys → List.Forall₂ (fun x y => f x = some y) xs ys
  | [], _, h => by cases h; exact .nil
  | x :: xs, ys, h => by
    rw [List.mapM_cons] at h
    obtain ⟨y, hy, h⟩ := Option.bind_eq_some_iff.mp h
    obtain ⟨ys', hys, h⟩ := Option.bind_eq_some_iff.mp h
    cases h
    exact .cons hy (forall₂_of_mapM_option hys)

end

variable {entries : List DirEntry} {bodies : List Text} {dir : DirListing}

/-- The lines of entries whose types are known are read. -/
theorem mapM_readRow (h : List.Forall₂ (Written cfg) entries bodies)
    (hk : ∀ it ∈ entries, ∀ type, fsStatus (it.stat 0) = .ok type → type.Known) :
    ∃ rows, bodies.mapM readRow = some rows ∧ List.Forall₂ (ListRow.Shows cfg) entries rows := by
  induction h with
  | nil => exact ⟨[], rfl, .nil⟩
  | @cons it body entries bodies hw _ ih =>
    rw [List.forall_mem_cons] at hk
    obtain ⟨row, hrow, hshows⟩ := hw.known hk.1
    obtain ⟨rows, hrows, hall⟩ := ih hk.2
    refine ⟨row :: rows, ?_, .cons hshows hall⟩
    rw [List.mapM_cons, hrow, hrows]
    rfl

/-- Lines that are read are of entries whose types are known. -/
theorem known_of_read {rows : List ListRow} (h : List.Forall₂ (Written cfg) entries bodies)
    (hr : List.Forall₂ (fun body row => readRow body = some row) bodies rows) :
    ∀ it ∈ entries, ∀ type, fsStatus (it.stat 0) = .ok type → type.Known := by
  induction h generalizing rows with
  | nil => nofun
  | cons hw _ ih =>
    cases hr with
    | cons hrow hrows =>
      rw [List.forall_mem_cons]
      refine ⟨?_, ih hrows⟩
      by_contra hk
      rw [hw.unknown hk] at hrow
      cases hrow

theorem oneLine_iff (h : List.Forall₂ (Written cfg) entries bodies) :
    (∀ body ∈ bodies, lineEnd body = none) ↔ ∀ it ∈ entries, ¬ delimit <:+: it.name := by
  induction h with
  | nil => exact iff_of_true nofun nofun
  | cons hw _ ih => rw [List.forall_mem_cons, List.forall_mem_cons, hw.oneLine, ih]

theorem givesBack_iff (h : List.Forall₂ (Written cfg) entries bodies) :
    GivesBack cfg entries (closeLines bodies) ↔ ∀ it ∈ entries, it.Plain := by
  constructor
  · rintro ⟨rows, hread, hshows⟩
    obtain ⟨lines, hlines, hrows⟩ := Option.bind_eq_some_iff.mp hread
    have hrest := Framer.rest_whole (whole_closeLines bodies)
    unfold readLines at hlines
    rw [if_pos hrest] at hlines
    -- as many lines as entries: no name makes a second one
    have hcount : (crlf.frames (closeLines bodies)).length = bodies.length := by
      have h1 : lines.length = rows.length := (forall₂_of_mapM_option hrows).length_eq
      have h2 : entries.length = rows.length := hshows.length_eq
      have h3 : entries.length = bodies.length := h.length_eq
      have h4 := congrArg List.length (Option.some.inj hlines)
      rw [List.length_map] at h4
      omega
    have hone := oneLine_of_length hcount
    have hbodies : lines = bodies := by
      have h1 := readLines_closeLines hone
      unfold readLines at h1
      rw [if_pos hrest] at h1
      exact Option.some.inj (hlines.symm.trans h1)
    have hknown := known_of_read h (forall₂_of_mapM_option (hbodies ▸ hrows))
    exact fun it hit => ⟨hknown it hit, (oneLine_iff h).mp hone it hit⟩
  · intro hp
    have hone := (oneLine_iff h).mpr fun it hit => (hp it hit).2
    obtain ⟨rows, hrows, hshows⟩ := mapM_readRow h fun it hit => (hp it hit).1
    refine ⟨rows, ?_, hshows⟩
    unfold readListing
    rw [readLines_closeLines hone]
    exact hrows

/-- Lines that were written are closed. -/
theorem written_of_lines {lines : List Text}
    (h : List.Forall₂ (fun it line => listEntry cfg it = .ok line) entries lines) :
    ∃ bodies, lines.flatten = closeLines bodies ∧ List.Forall₂ (Written cfg) entries bodies := by
  induction h with
  | nil => exact ⟨[], rfl, .nil⟩
  | cons hline _ ih =>
    obtain ⟨body, rfl, hw⟩ := listEntry_written hline
    obtain ⟨bodies, hb, hall⟩ := ih
    refine ⟨body :: bodies, ?_, .cons hw hall⟩
    rw [List.flatten_cons, hb]
    rfl

/-- What `list_file` returns is the lines of the entries. -/
theorem listFile_written (h : listFile cfg dir = .ok t) :
    ∃ bodies, t = closeLines bodies ∧ List.Forall₂ (Written cfg) dir.entries bodies := by
  obtain ⟨lines, hlines, h⟩ := bind_ok_except h
  have ht : t = lines.flatten := by
    cases hf : dir.failed with
    | none => rw [hf] at h; cases h; rfl
    | some e => rw [hf] at h; cases h
  rw [ht]
  exact written_of_lines (forall₂_of_mapM_except hlines)

/-- A file of five bytes, with a type and a name. -/
def someEntry (type : FileType) (name : Text) : DirEntry :=
  { name, stat := fun _ => .ok ⟨type, 0o644, 5⟩, hardLinkCount := .ok 1,
    localTime := ⟨0, 2, 3, 4⟩, gmTime := ⟨0, 2, 3, 4⟩ }

end

end OrangeFtpd
