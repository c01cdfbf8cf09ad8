/-
  File:      OrangeFtpd/Op/RecvFileOp.lean
  Subject:   STOR (`op/recv_file_op.h`, `op/recv_file_op.cc`).
-/
import OrangeFtpd.Op.SendFileOp

namespace OrangeFtpd

namespace RecvFileOp

open BasicOp

def failedReply : SharedConstBuffer :=
  Response.getCodeStringInfo .uploadFail "Could not create file.".toList

/-- `RecvFileOp::RecvFileOp` from the open on: the file is created or truncated
    before the pipe is made. -/
def openAndPipe (cfg : Config) (os : Os) (op : Op) : Ftp Op :=
  match os.openFile with
  | .error _ => do
    writeReply cfg op.id failedReply
    pure { op with fd := -1 }
  | .ok (fd, file) => do
    .modify (St.emit (.fs op.id (.opened file op.fileName os.created)))
    let op' := { op with fd := fd, file := file }
    match os.pipe with
    | none => do
      writeReply cfg op.id failedReply
      pure op'
    | some p => pure { op' with pipeFd := some p }

/-- `RecvFileOp::RecvFileOp`. -/
def construct (cfg : Config) (os : Os) (op : Op) : Ftp Op := do
  .modify St.basicOp
  let s ← .get
  if s.request.body.isEmpty then do
    writeReply cfg op.id failedReply
    pure op
  else do
    let target := s.getTargetPath s.request.body
    .modify (St.emit (.target op.id target))
    -- for an anonymous user, disable overwrite
    let refuse ← (if s.isAnonymous then liftFs (fsExists (os.stat 0)) else pure false)
    if refuse then do
      writeReply cfg op.id failedReply
      pure op
    else openAndPipe cfg os { op with fileName := target }

/-- `RecvFileOp::do_operation`: only `fd_` is looked at. -/
def doOperation (cfg : Config) (op : Op) : Ftp (Option Op) :=
  if op.fd ≤ 0 then pure (some op)
  else fetchPassiveConnection cfg { op with completionToken := true }

/-- What runs once the data connection is stored. -/
def onConnection (cfg : Config) (op : Op) : Ftp (Option Op) := do
  writeMessage cfg op.id ⟨Response.getCodeString .dataConn, some (.doRecvFile op)⟩
  pure none

/-- `RecvFileOp::do_recv_file`. -/
def doRecvFile (op : Op) : Ftp Unit := do
  let d ← useDataSocket op.id
  .modify (St.startOn d.isOpen (.dataWait op d.conn))

/-- The inner loop of `deal_event`: `bytesInPipe` is its signed counter, `pipe` what
    is in the pipe, `out` what was written so far. `none`: still looping. -/
def drain : List DrainResult → (bytesInPipe : Int) → (pipe out : Bytes) → Option (Bytes × Bytes)
  | rs, n, pipe, out =>
    if n ≤ 0 then some (pipe, out)
    else match rs with
      | [] => none
      | .put k :: rs =>
        let m := min k (min n.toNat pipe.length)
        drain rs (n - m) (pipe.drop m) (out ++ pipe.take m)
      | .failed :: rs => drain rs (n + 1) pipe out

/-- The bytes one splice can take from the socket. -/
def spliceLen : Nat := 65536

def inboxOf (c : ConnId) (s : St) : Bytes := (s.conns.getD c {}).inbox

/-- Bytes leave the receive buffer of a connection. -/
def takeInbox (c : ConnId) (n : Nat) (s : St) : St :=
  { s with conns := s.conns.modify c fun k => { k with inbox := k.inbox.drop n } }

/-- How the outer loop of `deal_event` ends: in `do_recv_file`, or in the early
    return after an error. -/
inductive LoopEnd where
  | waitAgain | failed
  deriving DecidableEq, Repr

/-- The outer loop of `deal_event`, over the answers of its splices. -/
def spliceLoop (d : DataSocket) : List SpliceResult → Op → Ftp (LoopEnd × Op)
  | [], _ => .throw .running
  | .eof :: _, op => pure (.waitAgain, op)
  | .wouldBlock :: _, op => pure (.waitAgain, op)
  | .interrupted :: rs, op => spliceLoop d rs op
  | .failed :: _, op => pure (.failed, op)
  | .moved k rs' :: rs, op => do
    let s ← .get
    let n := min k (min spliceLen (inboxOf d.conn s).length)
    if n = 0 then pure (.waitAgain, op)
    else do
      let bytes := (inboxOf d.conn s).take n
      .modify (St.emit (.payload op.id d.conn (.received bytes)) ∘ takeInbox d.conn n)
      match drain rs' n bytes [] with
      | none => .throw .running
      | some (_, out) => do
        .modify (St.emit (.fs op.id (.wrote op.file op.fdOffset out)))
        spliceLoop d rs { op with fdOffset := op.fdOffset + out.length }

/-- `RecvFileOp::deal_event`. -/
def dealEvent (cfg : Config) (os : Os) (op : Op) (r : Result) : Ftp (Option Op) := do
  if r ≠ .ok then pure (some op)
  else do
    let d ← useDataSocket op.id
    ensureNonBlocking d
    let s ← .get
    if (inboxOf d.conn s).isEmpty then do
      SendFileOp.runCompletionToken cfg op
      pure (some op)
    else do
      -- without a pipe the splice is tried on descriptor 0, and fails
      let (e, op') ← (if op.pipeFd.isNone then pure (.failed, op) else spliceLoop d os.splices op)
      match e with
      | .failed => pure (some op')
      | .waitAgain => do
        doRecvFile op'
        pure none

end RecvFileOp

end OrangeFtpd
