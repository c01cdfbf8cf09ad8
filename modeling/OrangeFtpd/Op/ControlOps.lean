/-
  File:      OrangeFtpd/Op/ControlOps.lean
  Subject:   The operations without a data connection: `do_operation` of each.

  None of them outlives the call: the reference of `dispatch_task` is the only
  one there ever is. `id` is the request the operation was created for.
-/
import OrangeFtpd.Op.BasicOp

namespace OrangeFtpd

open BasicOp

/-! ## 1. Login -/

namespace AuthOp

/-- `AuthOp::validate`. -/
def validate (cfg : Config) (id : Nat) : Ftp Bool := do
  let s ← .get
  if s.user.isEmpty then do
    writeReply cfg id (Response.getCodeStringInfo .invalidSeq "Login with USER first.".toList)
    .modify fun s => { s with password := [] }
    pure false
  else if cfg.anonymousEnable && toLower s.user == "anonymous".toList then do
    .modify fun s => { s with isAnonymous := true, verified := true }
    pure true
  else do
    .modify fun s => { s with isAnonymous := false, verified := true }
    pure true

/-- `AuthOp::do_operation`. -/
def doOperation (cfg : Config) (id : Nat) : Ftp Unit := do
  let s ← .get
  if s.request.command = "USER".toList then do
    .modify fun s => { s with user := s.request.body }
    writeReply cfg id (Response.getCodeString .passwordRequired)
  else if s.request.command = "PASS".toList then do
    .modify fun s => { s with password := s.request.body }
    if ← validate cfg id then writeReply cfg id (Response.getCodeString .loggedOn)
    else pure ()
  else
    writeReply cfg id
      (Response.getCodeStringInfo .notAllowed "Please login with USER and PASS.".toList)

end AuthOp

/-! ## 2. Fixed answers -/

/-- `AckOp::do_operation`. -/
def AckOp.doOperation (cfg : Config) (id : Nat) : Ftp Unit :=
  writeReply cfg id (Response.getCodeStringInfo .ok "NOOP ok".toList)

/-- `SystOp::do_operation`. -/
def SystOp.doOperation (cfg : Config) (id : Nat) : Ftp Unit :=
  writeReply cfg id (Response.getCodeString .systOk)

/-- `PrintWorkingDirOp::do_operation`. -/
def PrintWorkingDirOp.doOperation (cfg : Config) (id : Nat) : Ftp Unit := do
  let s ← .get
  writeReply cfg id (Response.getPwdResponse s.currentPath)

namespace StatOp

def typeToString : TransportType → Text
  | .ascii => "ASCII".toList
  | .binary => "BINARY".toList

/-- `StatOp::do_operation`. -/
def doOperation (cfg : Config) (os : Os) (id : Nat) : Ftp Unit := do
  controlLocalEndpoint
  let s ← .get
  let code := dec RetCode.statOk.toNat
  writeReply cfg id ⟨.statOk,
    code ++ "-FTP server status:\n".toList ++
    "  Connected to ".toList ++ os.localAddress ++ "\n".toList ++
    "  Logged in as ".toList ++ s.user ++ "\n".toList ++
    "  TYPE: ".toList ++ typeToString s.type ++ "\n".toList ++
    "  Session timeout in seconds is ".toList ++ decInt cfg.maxIdleTimeout ++ "\n".toList ++
    "  Total client connected num is ".toList ++ decInt os.clientNum ++ "\n".toList ++
    code ++ " End of status\r\n".toList⟩

end StatOp

/-! ## 3. Directories and sizes -/

/-- `fs::exists(path) && fs::is_directory(path)`, the `k`th and the next status
    query. -/
def existsAndIsDirectory (os : Os) (k : Nat) : Ftp Bool := do
  if ← liftFs (fsExists (os.stat k)) then liftFs (fsIsDirectory (os.stat (k + 1)))
  else pure false

/-- The common part of `CWD` and `CDUP`: go to `targetPath` if it is a directory. -/
def changeDirectory (cfg : Config) (os : Os) (id : Nat) : Ftp Unit := do
  if ← existsAndIsDirectory os 0 then do
    let path ← liftFs os.canonical
    .modify fun s => { s with currentPath := path }
    writeReply cfg id (Response.getCwdResponse (some path))
  else writeReply cfg id (Response.getCwdResponse none)

/-- `ChangeWorkingDirOp::do_operation`. -/
def ChangeWorkingDirOp.doOperation (cfg : Config) (os : Os) (id : Nat) : Ftp Unit := do
  let s ← .get
  if s.request.body.isEmpty then
    writeReply cfg id (Response.getCwdResponse (some s.currentPath))
  else do
    .modify (St.emit (.target id (s.getTargetPath s.request.body)))
    changeDirectory cfg os id

/-- `CdToParentOp::do_operation`. -/
def CdToParentOp.doOperation (cfg : Config) (os : Os) (id : Nat) : Ftp Unit := do
  let s ← .get
  .modify (St.emit (.target id (s.getTargetPath "..".toList)))
  changeDirectory cfg os id

namespace CreateDirOp

def failedReply : SharedConstBuffer :=
  Response.getCodeStringInfo .nopermFilefatal "Create directory operation failed.".toList

/-- `fs::create_directory(target_path)`. -/
def createDirectory (os : Os) (id : Nat) (target : Path) : Ftp Unit :=
  match os.mkdir with
  | .created => .modify (St.emit (.fs id (.madeDirectory target)))
  | .alreadyThere => pure ()
  | .failed e => .throw (.filesystemError e)

/-- `CreateDirOp::do_operation`. -/
def doOperation (cfg : Config) (os : Os) (id : Nat) : Ftp Unit := do
  let s ← .get
  if !cfg.writeEnable then
    writeReply cfg id (Response.getCodeStringInfo .nopermFilefatal "Permission denied.".toList)
  else if s.request.body.isEmpty then writeReply cfg id failedReply
  else do
    let target := s.getTargetPath s.request.body
    .modify (St.emit (.target id target))
    if ← liftFs (fsExists (os.stat 0)) then writeReply cfg id failedReply
    else do
      createDirectory os id target
      if ← existsAndIsDirectory os 1 then do
        let path ← liftFs os.canonical
        writeReply cfg id
          (Response.getCodeStringInfo .pwdOrMkdirOk ('"' :: path ++ "\" created.".toList))
      else writeReply cfg id failedReply

end CreateDirOp

/-- `SizeOp::do_operation`. -/
def SizeOp.doOperation (cfg : Config) (os : Os) (id : Nat) : Ftp Unit := do
  let s ← .get
  .modify (St.emit (.target id (s.getTargetPath s.request.body)))
  let found ← (do
    if ← liftFs (fsExists (os.stat 0)) then liftFs (fsIsRegularFile (os.stat 1)) else pure false)
  if !found then
    writeReply cfg id
      (Response.getCodeStringInfo .nopermFilefatal "Could not get file size.".toList)
  else do
    let n ← liftFs (fsFileSize (os.stat 2))
    writeReply cfg id (Response.getCodeStringInfo .sizeOrMdtmOk (dec n.toNat))

/-! ## 4. TYPE and OPTS -/

/-- `PropertyOp::do_operation`. It upper-cases the body of the stored request. -/
def PropertyOp.doOperation (cfg : Config) (id : Nat) : Ftp Unit := do
  .modify fun s => { s with request := { s.request with body := toUpper s.request.body } }
  let s ← .get
  let body := s.request.body
  if s.request.command = "TYPE".toList then
    if body = "I".toList ∨ body = "L8".toList ∨ body = "L 8".toList then do
      .modify fun s => { s with type := .binary }
      writeReply cfg id (Response.getCodeStringInfo .ok "Switching to Binary mode.".toList)
    else if body = "A".toList ∨ body = "A N".toList then do
      .modify fun s => { s with type := .ascii }
      writeReply cfg id (Response.getCodeStringInfo .ok "Switching to ASCII mode.".toList)
    else
      writeReply cfg id
        (Response.getCodeStringInfo .syntaxError "Unrecognised TYPE command.".toList)
  else if s.request.command = "OPTS".toList then
    if body = "UTF8 ON".toList then
      writeReply cfg id (Response.getCodeStringInfo .ok "Always in UTF8 mode.".toList)
    else
      writeReply cfg id (Response.getCodeStringInfo .badOpts "Option not understood.".toList)
  else pure ()

/-! ## 5. PASV -/

namespace PassiveModeOp

def deniedReply : SharedConstBuffer :=
  Response.getCodeStringInfo .nopermFilefatal "Permission denied.".toList

/-- A throwing socket call. -/
def require (succeeds : Bool) : Ftp Unit := if succeeds then pure () else .throw .socketError

/-- Opening and binding go through an `error_code`; `set_option`, `listen` and the
    endpoint queries throw. -/
def doOperation (cfg : Config) (os : Os) (id : Nat) : Ftp Unit := do
  .modify fun s => if s.acceptor.isOpen then s.closeAcceptor else s
  if !os.acceptorOpen then writeReply cfg id deniedReply
  else do
    .modify fun s => { s with acceptor := ⟨true, none⟩ }
    require os.reuseAddress
    match os.bind with
    | none => writeReply cfg id deniedReply
    | some port => do
      require os.listen
      .modify fun s => { s with acceptor := ⟨true, some port⟩ }
      controlLocalEndpoint
      .modify (St.emit (.announced port))
      writeReply cfg id (Response.getPasvResponse os.localAddress port)

end PassiveModeOp

end OrangeFtpd
