import Std.Data.ExtTreeMap
import Mistle.Lib.Handler
import Mistle.Tunnel.Telemetry

/-!
# State of the Live Tunnel Session

One loop owns the state of a connection: it takes events of the gateway and of
the runtime tasks and requests of the rest of `sandboxd`, one at a time, and
handles each to its end. A handler reads and changes `TunnelSessionMutableState`
and leaves `TunnelEffect`s behind: frames handed to the tunnel writer, answers
to callers, and commands to tasks.

Tasks, callers and files are not part of the state. A task is addressed by the
stream it serves, a caller by the sender it waits on, and what the world answers
within one step stands in a `World`. The one thing that outlives a step and is
not the loop's own is the writer channel: its receiver may be dropped between
any two sends, and from then on every send fails.

## Main definitions

* `TunnelSessionError`: Why a handler failed.
* `TunnelSessionMutableState`: The state of the loop.
* `TunnelWriter`: The sending half of the writer channel.
* `TunnelEffect`: What a handler leaves behind.
* `TunnelSessionLoopContext`, `World`: What a handler reads besides the state.
* `TunnelSessionLoopContext.ofDocuments`, `World.idle`: Surroundings of example runs.
* `Session`: A handler of the session.
-/

namespace Mistle

inductive TunnelSessionError where
  | writeTunnelText (error : String)
  | writeTunnelBinary (error : String)
  | parseControl (error : String)
  | parseDataFrame (error : String)
  | signing (error : String)
  | egressToken (error : String)
  | agentRead (error : String)
  | agentWrite (error : String)
  | portAccess (error : String)
  | processes (error : String)
  | fileUpload (error : String)
  deriving DecidableEq

/-- The text of an error. -/
def TunnelSessionError.display : TunnelSessionError → String
  | writeTunnelText error => "failed to write bootstrap tunnel text frame: " ++ error
  | writeTunnelBinary error => "failed to write bootstrap tunnel binary frame: " ++ error
  | parseControl error => "invalid bootstrap tunnel control frame: " ++ error
  | parseDataFrame error => "invalid bootstrap tunnel data frame: " ++ error
  | signing error => "failed to handle signing request: " ++ error
  | egressToken error => "failed to handle egress token request: " ++ error
  | agentRead error => "failed to read agent runtime socket: " ++ error
  | agentWrite error => "failed to write agent runtime socket: " ++ error
  | portAccess error => "failed to handle port access control message: " ++ error
  | processes error => "failed to service processes tunnel stream: " ++ error
  | fileUpload error => "failed to handle file upload stream: " ++ error

/-! ### Streams -/

/-- Streams of one kind, by id. -/
abbrev Table (α : Type) := Std.ExtTreeMap StreamId α

/-- A handle of a spawned task. Commands to the task are effects that name its
    stream, so the handle itself holds nothing. -/
abbrev TaskHandle := Unit

/-- One past the largest `u64`, which is also the largest `usize` here. -/
def u64Bound : Nat := 2 ^ 64

/-- `saturating_add` on 64-bit counters. -/
def saturatingAdd (a b : Nat) : Nat := min (a + b) (u64Bound - 1)

structure OutstandingAgentSend where
  bytes : Nat
  sentAtMs : Nat
  deriving DecidableEq

structure AgentStreamStats where
  openedAtMs : Nat
  messageCountOut : Nat
  messageCountIn : Nat
  totalBytesOut : Nat
  totalBytesIn : Nat
  maxMessageBytesOut : Nat
  maxMessageBytesIn : Nat
  maxOutstandingBytes : Nat
  creditReturnCount : Nat
  creditReturnTotalMs : Nat
  thresholdEmissionsMask : UInt8
  outstandingSends : List OutstandingAgentSend
  deriving DecidableEq

structure AgentStreamState where
  sendWindow : StreamSendWindow
  stats : AgentStreamStats
  deriving DecidableEq

structure ProcessStreamState where
  sendWindows : Table StreamSendWindow
  lastSnapshotAtMs : Option Nat

structure FileSearchStreamState where
  sendWindow : StreamSendWindow
  openedAtMs : Nat
  queryCount : Nat
  errorCount : Nat
  totalResultCount : Nat
  collapsedQueryCount : Nat
  totalLatencyMs : Nat
  maxLatencyMs : Nat
  deriving DecidableEq

structure FileUploadState where
  attachmentId : String
  threadDirectoryPath : String
  threadId : String
  mimeType : String
  originalFilename : String
  sizeBytes : Nat
  tempPath : String
  receivedBytes : Nat
  deriving DecidableEq

structure PortAccessTcpStreamState where
  requestWindow : StreamSendWindow
  requestClosed : Bool
  responseClosed : Bool
  deriving DecidableEq

/-! ### Effects -/

/-- A caller that waits for one answer. -/
abbrev ResponseSender := Nat

/-- A websocket message, as the tungstenite library has it. -/
inductive WebsocketMessage where
  | text (payload : String)
  | binary (payload : List UInt8)
  | ping (payload : List UInt8)
  | pong (payload : List UInt8)
  | close
  | frame
  deriving DecidableEq

inductive TunnelWriterMessage where
  | text (message : OutboundMessage)
  | binary (frame : StreamDataFrame)
  | pong (payload : List UInt8)
  | flush (responseSender : ResponseSender)
  | close
  deriving DecidableEq

inductive TunnelSigningResponse where
  | success (requestId signatureBase64 : String)
  | failure (requestId code message : String)
  deriving DecidableEq

structure TunnelEgressToken where
  token : String
  expiresAt : String
  ttlMs : Nat
  deriving DecidableEq

inductive FileSearchWorkerCommand where
  | query (message : FileSearchQuery)
  | select (message : FileSearchSelect)
  | close
  deriving DecidableEq

inductive PortAccessHttpCommand where
  | requestBodyChunk (bytes : List UInt8)
  | requestBodyEnd
  | close
  deriving DecidableEq

inductive PortAccessTcpCommand where
  | data (bytes : List UInt8)
  | close (direction : String)
  | window (bytes : Nat)
  | terminate
  deriving DecidableEq

/-- What the loop asks of a task or of the file system. -/
inductive TaskCommand where
  | spawnAgentDial (streamId : StreamId) (runtimeEndpointUrl : String)
  | abortAgentDial (streamId : StreamId)
  | spawnAgentStream (streamId : StreamId)
  | agent (streamId : StreamId) (message : WebsocketMessage)
  | spawnExec (message : ExecStreamOpen) (runtimeEnv : List (String × String))
  | cancelExec (streamId : StreamId)
  | spawnFileSearch (streamId : StreamId) (cwd : String)
  | fileSearch (streamId : StreamId) (command : FileSearchWorkerCommand)
  | spawnTcp (message : PortsTcpOpen)
  | tcp (streamId : StreamId) (command : PortAccessTcpCommand)
  | spawnHttp (message : PortsHttpOpen)
  | http (streamId : StreamId) (command : PortAccessHttpCommand)
  | spawnPty (message : PtySessionOpen) (runtimeEnv : List (String × String))
  | createFile (path : String)
  | writeFile (path : String) (bytes : List UInt8)
  | removeFile (path : String)
  | renameFile (source target : String)
  deriving DecidableEq

/-- What one step of the loop leaves behind. -/
inductive TunnelEffect where
  | write (message : TunnelWriterMessage)
  | task (command : TaskCommand)
  | answerClose (sender : ResponseSender) (result : Except String Unit)
  | answerSigning (sender : ResponseSender)
      (result : Except TunnelSessionError TunnelSigningResponse)
  | answerEgressToken (sender : ResponseSender)
      (result : Except TunnelSessionError TunnelEgressToken)
  | answerSet (sender : ResponseSender)
  deriving DecidableEq

/-- The stream a frame handed to the writer bears, if any. -/
def TunnelEffect.streamId? : TunnelEffect → Option StreamId
  | write (.text message) => message.streamId?
  | write (.binary frame) => some frame.streamId
  | _ => none

/-- The caller of a close of the operation stream that an effect answers. A
    flush handed to the writer is answered by the writer. -/
def TunnelEffect.closeAnswer? : TunnelEffect → Option ResponseSender
  | answerClose sender _ => some sender
  | write (.flush sender) => some sender
  | _ => none

/-! ### The state -/

/-- The sending half of the writer channel, with the number of sends it still
    takes before its receiver is dropped; `none` if the receiver stays. -/
structure TunnelWriter where
  sendsLeft : Option Nat
  deriving DecidableEq

/-- One send, or `none` once the receiver is gone. -/
def TunnelWriter.send (writer : TunnelWriter) : Option TunnelWriter :=
  match writer.sendsLeft with
  | none => some writer
  | some 0 => none
  | some (n + 1) => some ⟨some n⟩

/-- A writer whose receiver stays. -/
def TunnelWriter.open : TunnelWriter := ⟨none⟩

structure TunnelSessionMutableState where
  tunnelWriter : TunnelWriter
  agentEndpointUrl : Option String
  runtimeEnv : List (String × String)
  telemetryRelay : TelemetryRelay
  pendingSigningRequests : Std.ExtTreeMap String ResponseSender
  pendingEgressTokenRequests : Std.ExtTreeMap String ResponseSender
  pendingAgentOpens : Table TaskHandle
  pendingExecOpens : Table TaskHandle
  agentStreams : Table AgentStreamState
  portAccessHttpStreams : Table TaskHandle
  portAccessTcpStreams : Table PortAccessTcpStreamState
  processStreams : ProcessStreamState
  fileSearchStreams : Table FileSearchStreamState
  operationStreamRequested : Bool
  operationStreamCloseRequested : Bool
  operationStreamCloseResponseSender : Option ResponseSender
  operationStreamSendWindow : Option StreamSendWindow
  pendingOperationRecords : List String
  fileUploads : Table FileUploadState

/-- How the loop goes on after a step. -/
inductive TunnelSessionControlFlow where
  | continue
  | restartRequired
  | shutdownRequested
  deriving DecidableEq

/-- A handler of the session. -/
abbrev Session := Handler TunnelSessionError TunnelSessionMutableState TunnelEffect

/-! ### What a handler reads besides the state -/

/-- What is fixed for a connection: the libraries and two settings. -/
structure TunnelSessionLoopContext where
  serde : SerdeJson
  decodeBase64 : String → Except String (List UInt8)
  /-- The text of the library's error for bytes that are no UTF-8. -/
  utf8Error : List UInt8 → String
  attachmentRoot : String
  sandboxInstanceId : String

inductive PortAccessAuthorizeDecision where
  | authorized (upstreamProtocol : String) (websocketCapable : Bool)
  | rejected (reason : String)
  deriving DecidableEq

/-- What the clock, the tasks and the file system answer within one step. -/
structure World where
  nowMs : Nat
  systemTime : Except String String
  elapsedMs : Nat
  /-- Whether the task still takes commands. -/
  agentListens : Bool
  tcpListens : Bool
  httpListens : Bool
  fileSearchListens : Bool
  /-- Two reads of the process table: the check of an open and the snapshot sent. -/
  processesAvailable : Except String Unit
  processesSnapshot : Except String ProcessesSnapshot
  fileSearchWorker : Except String Unit
  uploadCounter : Nat
  createDirectory : Except String Unit
  createFile : Except String Unit
  writeFile : Except String Unit
  syncFile : Except String Unit
  renameFile : Except String Unit
  /-- The first bytes of the uploaded file, or why they could not be read. -/
  uploadSignature : Except String (List UInt8)
  authorizeTargetPort : Except String PortAccessAuthorizeDecision

/-- A context whose library knows a list of documents. -/
def TunnelSessionLoopContext.ofDocuments (documents : List (String × Json String)) :
    TunnelSessionLoopContext where
  serde := .ofDocuments documents
  decodeBase64 _ := .error "Invalid padding"
  utf8Error _ := "invalid utf-8 sequence of 1 bytes from index 0"
  attachmentRoot := "/root/attachments"
  sandboxInstanceId := "sbi_1"

/-- A world in which every task listens and every call succeeds. -/
def World.idle : World where
  nowMs := 0
  systemTime := .ok "2026-01-01T00:00:00Z"
  elapsedMs := 0
  agentListens := true
  tcpListens := true
  httpListens := true
  fileSearchListens := true
  processesAvailable := .ok ()
  processesSnapshot := .ok
    { messageType := "processes.snapshot", observedAt := "2026-01-01T00:00:00Z", processes := [] }
  fileSearchWorker := .ok ()
  uploadCounter := 0
  createDirectory := .ok ()
  createFile := .ok ()
  writeFile := .ok ()
  syncFile := .ok ()
  renameFile := .ok ()
  uploadSignature := .ok []
  authorizeTargetPort := .ok (.authorized "http" false)

end Mistle
