/-
  File:      OrangeFtpd/Op/SendFileOp.lean
  Subject:   RETR (`op/send_file_op.h`, `op/send_file_op.cc`).
-/
import Mathlib.Algebra.Group.Nat.Defs
import OrangeFtpd.Op.BasicOp

namespace OrangeFtpd

namespace SendFileOp

open BasicOp

/-- `time_splice`. -/
def timeSplice : Nat := 10

/-- `get_download_speed_limit_in_kb_per_s() * 1024 / time_splice`. -/
def sliceSize (cfg : Config) : Nat := cfg.downloadSpeedLimitInKbPerS.toNat * 1024 / timeSplice

/-- `file_size_ - file_offset_` as `size_t`. -/
def fileLeft (op : Op) : Nat := (op.fileSize + 2 ^ 64 - op.fileOffset) % 2 ^ 64

/-- The number of bytes `sendfile` is asked for. -/
def sendCount (op : Op) (slice : Nat) : Nat :=
  if slice = 0 then fileLeft op else min (fileLeft op) slice

/-- `SendFileOp::SendFileOp`. -/
def construct (cfg : Config) (os : Os) (op : Op) : Ftp Op := do
  .modify St.basicOp
  let s ← .get
  if s.request.body.isEmpty then do
    writeReply cfg op.id (Response.getCodeStringInfo .nopermFilefatal "File not found".toList)
    pure op
  else do
    let target := s.getTargetPath s.request.body
    .modify (St.emit (.target op.id target))
    if !(← liftFs (fsExists (os.stat 0))) then do
      writeReply cfg op.id (Response.getCodeStringInfo .nopermFilefatal "File not found".toList)
      pure op
    else do
      let size ← liftFs (fsFileSize (os.stat 1))
      match os.openFile with
      | .error _ => do
        writeReply cfg op.id
          (Response.getCodeStringInfo .nopermFilefatal "Failed to open file.".toList)
        pure { op with fileName := target, fileSize := size.toNat, fd := -1 }
      | .ok (fd, file) =>
        pure { op with fileName := target, fileSize := size.toNat, fd := fd, file := file }

/-- `SendFileOp::do_operation`. -/
def doOperation (cfg : Config) (op : Op) : Ftp (Option Op) :=
  if op.fd ≤ 0 then pure (some op)
  else fetchPassiveConnection cfg { op with completionToken := true }

/-- What runs once the data connection is stored. -/
def onConnection (cfg : Config) (os : Os) (op : Op) : Ftp (Option Op) := do
  if os.noDelay then do
    writeMessage cfg op.id ⟨Response.getCodeString .dataConn, some (.doSendFile op)⟩
    pure none
  else .throw .socketError

/-- `SendFileOp::do_send_file`. -/
def doSendFile (op : Op) : Ftp Unit := do
  let d ← useDataSocket op.id
  .modify (St.startOn d.isOpen (.dataWait op d.conn))

/-- `completion_token_`, where it is set. -/
def runCompletionToken (cfg : Config) (op : Op) : Ftp Unit :=
  if op.completionToken then do
    .modify (St.emit (.complete op))
    writeReply cfg op.id (Response.getCodeString .transferComplete)
    .modify St.clearDataSocket
  else pure ()

/-- `SendFileOp::deal_event`. -/
def dealEvent (cfg : Config) (os : Os) (op : Op) (r : Result) (slice : Nat) : Ftp (Option Op) := do
  if r ≠ .ok then pure (some op)
  else do
    let d ← useDataSocket op.id
    ensureNonBlocking d
    match os.sendfile with
    | .failed => pure (some op)
    | .wouldBlock => do
      doSendFile op
      pure none
    | .sent k => do
      let n := min k (sendCount op slice)
      .modify (St.emit (.payload op.id d.conn (.sent op.fileOffset n)))
      let op' := { op with fileOffset := op.fileOffset + n }
      if fileLeft op' > 0 then
        if slice = 0 then do
          doSendFile op'
          pure none
        else do
          .modify (St.start (.limiter op'))
          pure none
      else do
        runCompletionToken cfg op'
        pure (some op')

end SendFileOp

end OrangeFtpd
