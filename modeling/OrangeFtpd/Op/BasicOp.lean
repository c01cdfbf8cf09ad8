/-
  File:      OrangeFtpd/Op/BasicOp.lean
  Subject:   What the operations inherit (`op/basic_op.h`, `op/basic_op.cc`).

  A function that may hand the operation on (to the handler of an accept, a
  wait, a write, or to a message token) returns the operation where it did not:
  its last reference then dies with the running handler.
-/
import OrangeFtpd.Session.Context

namespace OrangeFtpd

namespace BasicOp

/-- `BasicOp::write_message` of a reply without token. -/
def writeReply (cfg : Config) (id : Nat) (b : SharedConstBuffer) : Ftp Unit :=
  writeMessage cfg id ⟨b, none⟩

@[simp] theorem writeReply_ok {cfg : Config} {id : Nat} {b : SharedConstBuffer} {s s' : St}
    {u : Unit} : writeReply cfg id b s = .ok (u, s') ↔ s' = s.pushMessage id ⟨b, none⟩ :=
  writeMessage_ok

/-- `BasicOp::check_data_port`. -/
def checkDataPort (cfg : Config) (id : Nat) : Ftp Bool := do
  let s ← .get
  if s.acceptor.isOpen then pure true
  else do
    writeReply cfg id (Response.getCodeString .invalidSeq)
    pure false

/-- `BasicOp::fetch_passive_connection`, up to the start of the accept. Its handler
    is `onAccept` in Session.lean. -/
def fetchPassiveConnection (cfg : Config) (op : Op) : Ftp (Option Op) := do
  if ← checkDataPort cfg op.id then do
    .modify (St.start (.accept op))
    pure none
  else pure (some op)

/-- `context_->data_socket()` where the transfer code uses it. -/
def useDataSocket (id : Nat) : Ftp DataSocket := do
  let s ← .get
  match s.dataSocket with
  | some d => do
    .modify (St.emit (.touch id (some d.conn)))
    pure d
  | none => .throw .nullDataSocket

/-- `data_socket()->native_non_blocking()` is set on every data socket and cleared by
    closing it; setting it again on a closed socket throws. -/
def ensureNonBlocking (d : DataSocket) : Ftp Unit :=
  if d.isOpen then pure () else .throw .socketError

end BasicOp

end OrangeFtpd
