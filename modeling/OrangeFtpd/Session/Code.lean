/-
  File:      OrangeFtpd/Session/Code.lean
  Subject:   Reply codes and reply texts (`session/code.h`, `session/code.cc`).
-/
import OrangeFtpd.Text

namespace OrangeFtpd

/-- `ret_code`. -/
inductive RetCode where
  | dataConn | ok | statOk | sizeOrMdtmOk | systOk | welcome | transferComplete | pasvOk
  | loggedOn | cwdRmdirDeleRenameOk | pwdOrMkdirOk | passwordRequired | badSendNet
  | syntaxError | badOpts | invalidSeq | notAllowed | nopermFilefatal | uploadFail
  deriving DecidableEq, Repr

/-- `static_cast<int>(code)`. -/
def RetCode.toNat : RetCode → Nat
  | dataConn => 150
  | ok => 200
  | statOk => 211
  | sizeOrMdtmOk => 213
  | systOk => 215
  | welcome => 220
  | transferComplete => 226
  | pasvOk => 227
  | loggedOn => 230
  | cwdRmdirDeleRenameOk => 250
  | pwdOrMkdirOk => 257
  | passwordRequired => 331
  | badSendNet => 426
  | syntaxError => 500
  | badOpts => 501
  | invalidSeq => 503
  | notAllowed => 530
  | nopermFilefatal => 550
  | uploadFail => 553

/-- A final reply: its code is at least 200 (the server's only preliminary reply
    is 150). -/
def RetCode.isFinal (c : RetCode) : Bool := decide (200 ≤ c.toNat)

theorem isFinal_iff (c : RetCode) : c.isFinal = true ↔ c ≠ .dataConn := by
  cases c <;> decide

/-- `SharedConstBuffer`: the bytes of a reply. `code` is the code its text starts
    with, kept so that a statement about replies need not parse them. -/
structure SharedConstBuffer where
  code : RetCode
  data : Text
  deriving DecidableEq, Repr

namespace Response

/-- `Response::code_map`. -/
def codeMap : RetCode → Option Text
  | .dataConn => some "Data connection accepted; transfer starting.".toList
  | .systOk => some "UNIX emulated by ftpd".toList
  | .welcome => some "Welcome to ftpd.".toList
  | .loggedOn => some "Logged on.".toList
  | .transferComplete => some "Transfer complete.".toList
  | .pasvOk => some "Entering Passive Mode.".toList
  | .passwordRequired => some "Password required.".toList
  | .syntaxError => some "Syntax error, command unrecognized.".toList
  | .invalidSeq => some "Invalid sequence of commands.".toList
  | .notAllowed => some "Login or password incorrect.".toList
  | _ => none

/-- `Response::get_code_string(code, info)`. -/
def getCodeStringInfo (code : RetCode) (info : Text) : SharedConstBuffer :=
  ⟨code, dec code.toNat ++ ' ' :: info ++ delimit⟩

/-- `Response::get_code_string(code)`. -/
def getCodeString (code : RetCode) : SharedConstBuffer :=
  match codeMap code with
  | none => ⟨code, dec code.toNat ++ delimit⟩
  | some info => ⟨code, dec code.toNat ++ ' ' :: info ++ delimit⟩

/-- `Response::get_pasv_response(ip, port)`. -/
def getPasvResponse (ip : Text) (port : UInt16) : SharedConstBuffer :=
  ⟨.pasvOk, dec RetCode.pasvOk.toNat ++ ' ' :: (codeMap .pasvOk).getD [] ++ " (".toList ++
    ip.map (fun c => if c = '.' then ',' else c) ++ ',' :: dec (port.toNat / 256) ++
    ',' :: dec (port.toNat % 256) ++ ')' :: delimit⟩

/-- `"\"" + path + "\" is the current directory."` -/
def currentDirectory (path : Path) : Text :=
  '"' :: path ++ "\" is the current directory.".toList

/-- `Response::get_pwd_response(path)`. -/
def getPwdResponse (path : Path) : SharedConstBuffer :=
  getCodeStringInfo .pwdOrMkdirOk (currentDirectory path)

/-- `Response::get_cwd_response(path)`; `none` is the null pointer. -/
def getCwdResponse : Option Path → SharedConstBuffer
  | some path => getCodeStringInfo .cwdRmdirDeleRenameOk
      ("CWD successful. ".toList ++ currentDirectory path)
  | none => getCodeStringInfo .nopermFilefatal "Directory not found.".toList

@[simp] theorem getCodeStringInfo_code (c : RetCode) (t : Text) :
    (getCodeStringInfo c t).code = c := rfl

@[simp] theorem getCodeString_code (c : RetCode) : (getCodeString c).code = c := by
  unfold getCodeString
  split <;> rfl

@[simp] theorem getPasvResponse_code (ip : Text) (port : UInt16) :
    (getPasvResponse ip port).code = .pasvOk := rfl

@[simp] theorem getPwdResponse_code (p : Path) : (getPwdResponse p).code = .pwdOrMkdirOk := rfl

@[simp] theorem getCwdResponse_some_code (p : Path) :
    (getCwdResponse (some p)).code = .cwdRmdirDeleRenameOk := rfl

@[simp] theorem getCwdResponse_none_code : (getCwdResponse none).code = .nopermFilefatal := rfl

end Response

end OrangeFtpd
