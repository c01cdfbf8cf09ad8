/-
  File:      OrangeFtpd/Op/ListFile.lean
  Subject:   The text of a directory listing (`list_file` in `op/list_op.cc`).
-/
import OrangeFtpd.Config
import OrangeFtpd.Filesystem

namespace OrangeFtpd

/-- `month_mapping`. -/
def monthMapping : Fin 12 → Text := fun m =>
  (["Jan", "Feb", "Mar", "Apr", "May", "Jun", "Jul", "Aug", "Sept", "Oct", "Nov", "Dec"].getD
    m.val "").toList

/-- The type character; the `default` of the switch writes nothing. -/
def typeChar : FileType → Text
  | .directory => ['d']
  | .block => ['b']
  | .character => ['c']
  | .fifo => ['p']
  | .regular => ['-']
  | .symlink => ['l']
  | .socket => ['s']
  | .notFound | .unknown => []

/-- One permission character: `c` where the bit is set. -/
def permChar (perms bit : Nat) (c : Char) : Char := if perms.testBit bit then c else '-'

/-- The nine permission characters, owner first. -/
def permText (perms : Nat) : Text :=
  [permChar perms 8 'r', permChar perms 7 'w', permChar perms 6 'x',
   permChar perms 5 'r', permChar perms 4 'w', permChar perms 3 'x',
   permChar perms 2 'r', permChar perms 1 'w', permChar perms 0 'x']

/-- The line of one entry. -/
def listEntry (cfg : Config) (it : DirEntry) : Except Errno Text := do
  let type ← fsStatus (it.stat 0)
  let perms ← fsPermissions (it.stat 1)
  let links ← it.hardLinkCount
  let regular ← fsIsRegularFile (it.stat 2)
  let size ← if regular then (fsFileSize (it.stat 3)).map (fun n => dec n.toNat ++ [' '])
    else .ok "0 ".toList
  let tm := if cfg.useLocalTime then it.localTime else it.gmTime
  return typeChar type ++ permText perms ++ [' '] ++ dec links ++ " ftpd ftpd ".toList ++ size ++
    monthMapping tm.mon ++ [' '] ++ dec tm.mday ++ [' '] ++ dec tm.hour ++ [':'] ++ dec tm.min ++
    [' '] ++ it.name ++ delimit

/-- `list_file`: the lines of the entries in iteration order; an error of any call
    is thrown. -/
def listFile (cfg : Config) (dir : DirListing) : Except Errno Text := do
  let lines ← dir.entries.mapM (listEntry cfg)
  match dir.failed with
  | some e => .error e
  | none => return lines.flatten

end OrangeFtpd
