import OrangeFtpd.Lib.Act
import OrangeFtpd.Lib.Run
import OrangeFtpd.Lib.Pool
import OrangeFtpd.Text
import OrangeFtpd.Config
import OrangeFtpd.Filesystem
import OrangeFtpd.Session.Code
import OrangeFtpd.Session.State
import OrangeFtpd.Op.ListFile
import OrangeFtpd.Session.Context
import OrangeFtpd.Op.BasicOp
import OrangeFtpd.Op.ControlOps
import OrangeFtpd.Op.ListOp
import OrangeFtpd.Op.RecvFileOp
import OrangeFtpd.Session.Session
import OrangeFtpd.Session.Lemmas
import OrangeFtpd.Session.Requests
import OrangeFtpd.Session.Handlers
import OrangeFtpd.Session.Steps
import OrangeFtpd.Session.OpRun
import OrangeFtpd.Session.Brings
import OrangeFtpd.Invariant.Operations
import OrangeFtpd.Invariant.Machinery
import OrangeFtpd.Invariant.Idle
import OrangeFtpd.Invariant.Drained
import OrangeFtpd.Invariant.Ownership
import OrangeFtpd.Invariant.DataConnection
import OrangeFtpd.Lib.Returns
import OrangeFtpd.Request.Exceptions
import OrangeFtpd.Invariant.Book
import OrangeFtpd.Request.Codec
import OrangeFtpd.Session.Effects
import OrangeFtpd.Session.Members
import OrangeFtpd.Invariant.Identity
import OrangeFtpd.Invariant.PassivePort
import OrangeFtpd.Invariant.Reading
import OrangeFtpd.Invariant.Closed
import OrangeFtpd.Invariant.Framing
import OrangeFtpd.Invariant.ReplyQueue
import OrangeFtpd.Invariant.ReplyText
import OrangeFtpd.Invariant.Uploads
import OrangeFtpd.Invariant.WriteAccess
import OrangeFtpd.Invariant.Targets
import OrangeFtpd.Lib.Stops
import OrangeFtpd.Request.Endpoints
import OrangeFtpd.Invariant.Queries
import OrangeFtpd.Request.RefusedUpload
import OrangeFtpd.Invariant.Armed
import OrangeFtpd.Invariant.Replies
import OrangeFtpd.Lib.RoundRobin
import OrangeFtpd.Server
import OrangeFtpd.Invariant.Counter
import OrangeFtpd.Lib.Pattern
import OrangeFtpd.Client.Text
import OrangeFtpd.Client.Response
import OrangeFtpd.Client.Passive
import OrangeFtpd.Lib.Spans
import OrangeFtpd.Invariant.Sending
import OrangeFtpd.Invariant.Endless
import OrangeFtpd.Lib.Spaced
import OrangeFtpd.Invariant.Pacing
import OrangeFtpd.Lib.Loop
import OrangeFtpd.Client.RecvFileImpl
import OrangeFtpd.Op.DrainLoop
import OrangeFtpd.Lib.Columns
import OrangeFtpd.Op.ListFormat
import OrangeFtpd.Client.Session
import OrangeFtpd.Lib.Gather
import OrangeFtpd.Invariant.Receiving
import OrangeFtpd.Invariant.Completion
import OrangeFtpd.Invariant.Control
import OrangeFtpd.Host
import OrangeFtpd.Lib.Track
import OrangeFtpd.Invariant.Lifecycle
import OrangeFtpd.Invariant.Wording
import OrangeFtpd.Client.Conversation
import OrangeFtpd.Client.Survival
import OrangeFtpd.Invariant.OneTransfer
import OrangeFtpd.Client.Download
