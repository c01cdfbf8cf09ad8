/-
  File:      OrangeFtpd/Op/ListOp.lean
  Subject:   LIST (`op/list_op.h`, `op/list_op.cc`).
-/
import OrangeFtpd.Op.BasicOp
import OrangeFtpd.Op.ListFile

namespace OrangeFtpd

namespace ListOp

open BasicOp

/-- `ListOp::do_operation`. -/
def doOperation (cfg : Config) (op : Op) : Ftp (Option Op) := fetchPassiveConnection cfg op

/-- `ListOp::handle_data_connection`: the listing is made before the 150 is queued. -/
def handleDataConnection (cfg : Config) (os : Os) (op : Op) : Ftp (Option Op) := do
  let s ← .get
  .modify (St.emit (.target op.id s.currentPath))
  let response ← liftFs (listFile cfg os.listing)
  writeMessage cfg op.id ⟨Response.getCodeString .dataConn, some (.writeListing op response)⟩
  pure none

/-- The token of the 150: the listing is written on the data socket. -/
def writeListing (op : Op) (response : Text) : Ftp Unit := do
  let d ← useDataSocket op.id
  .modify (St.emit (.payload op.id d.conn (.listing response)))
  .modify (St.startOn d.isOpen (.listWrite op d.conn))

/-- The handler of the write of the listing. It ignores the error code. -/
def onWritten (cfg : Config) (op : Op) (c : ConnId) (r : Result) : Ftp (Option Op) := do
  .modify (St.emit (.listed op.id c (r == .ok)))
  .modify (St.emit (.complete op))
  writeReply cfg op.id (Response.getCodeString .transferComplete)
  .modify St.clearDataSocket
  pure (some op)

end ListOp

end OrangeFtpd
