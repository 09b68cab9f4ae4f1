import Mistle.Lib.Json

/-!
# Tunnel Protocol Types

The vocabulary of the bootstrap tunnel as `sandboxd` holds it: frame and payload
kinds, the codes of `stream.open.error` and `stream.reset`, one structure per
control message, and the send window of a stream. Field names are the source's;
a `usize` or `u64` is a `Nat` whose bound its reader checks, and the narrower
integers keep their width.

## Main definitions

* `StreamControlMessage`: The messages that open, signal, close and credit a stream.
* `ProcessesStreamMessage`, `FileSearchStreamMessage`: Messages inside data frames.
* `PortsControlMessage`, `PortsTransportMessage`: Port access.
* `BootstrapTelemetryControlMessage`: The gateway's side of the telemetry stream.
* `SigningControlMessage`, `EgressTokenControlMessage`, `PtySessionControlMessage`:
  Requests and their answers.
* `StreamSendWindow`: Outbound credit, with `add` and `tryConsume`.

## Theorems

* `StreamSendWindow.tryConsume_some`: Consuming takes exactly what was asked.
* `StreamSendWindow.add_ok`: A grant that is accepted adds exactly what it grants.
-/

namespace Mistle

/-- Message of a control message or frame that could not be parsed or encoded. -/
structure TunnelProtocolError where
  message : String
  deriving DecidableEq

abbrev StreamId := UInt32

def defaultStreamWindowBytes : Nat := 16 * 1024 * 1024
def agentStreamWindowBytes : Nat := 16 * 1024 * 1024
def maxStreamWindowBytes : Nat := agentStreamWindowBytes

def dataFrameKind : UInt8 := 0x01
def dataFrameHeaderLen : Nat := 6
def payloadKindRawBytes : UInt8 := 0x01
def payloadKindWebsocketText : UInt8 := 0x02
def payloadKindWebsocketBinary : UInt8 := 0x03

/-! ### Codes -/

def connectErrorCodeInvalidConnectRequest := "invalid_connect_request"
def connectErrorCodeUnsupportedChannel := "unsupported_channel"
def connectErrorCodeAgentEndpointDialFailed := "agent_endpoint_dial_failed"
def connectErrorCodeExecCommandStartFailed := "exec_command_start_failed"
def connectErrorCodeProcessesStreamUnavailable := "processes_stream_unavailable"
def connectErrorCodeFileSearchStreamUnavailable := "file_search_stream_unavailable"

def streamResetCodeInvalidStreamSignal := "invalid_stream_signal"
def streamResetCodeInvalidStreamClose := "invalid_stream_close"
def streamResetCodeInvalidStreamData := "invalid_stream_data"
def streamResetCodeInvalidStreamWindow := "invalid_stream_window"
def streamResetCodeStreamCloseFailed := "stream_close_failed"
def streamResetCodeTargetClosed := "target_closed"
def streamResetCodeStreamWindowExhausted := "stream_window_exhausted"
def streamResetCodeExecCommandFailed := "exec_command_failed"
def streamResetCodeProcessesSnapshotFailed := "processes_snapshot_failed"

def fileUploadResetCodeByteCountExceeded := "byte_count_exceeded"
def fileUploadResetCodeByteCountMismatch := "byte_count_mismatch"
def fileUploadResetCodeInvalidFileType := "invalid_file_type"
def fileUploadResetCodeMimeTypeMismatch := "mime_type_mismatch"

def portAccessAuthorizeReasonPortUnreachable := "port_unreachable"
def portAccessAuthorizeReasonUnsupportedProtocol := "unsupported_protocol"

/-! ### Stream control messages -/

structure AgentStreamChannel where
  kind : String
  deriving DecidableEq

structure ProcessesStreamChannel where
  kind : String
  deriving DecidableEq

structure FileUploadStreamChannel where
  kind : String
  threadId : String
  mimeType : String
  originalFilename : String
  sizeBytes : Nat
  deriving DecidableEq

structure ExecStreamChannel where
  kind : String
  command : String
  args : Option (List String)
  cwd : Option String
  stdin : Option String
  timeoutMs : Option Nat
  maxOutputBytes : Option Nat
  deriving DecidableEq

structure FileSearchStreamChannel where
  kind : String
  cwd : String
  deriving DecidableEq

/-- A `stream.open`, whose channel depends on what is opened. -/
structure StreamOpen (channel : Type) where
  messageType : String
  streamId : StreamId
  channel : channel
  deriving DecidableEq

abbrev AgentStreamOpen := StreamOpen AgentStreamChannel
abbrev ProcessesStreamOpen := StreamOpen ProcessesStreamChannel
abbrev FileUploadStreamOpen := StreamOpen FileUploadStreamChannel
abbrev ExecStreamOpen := StreamOpen ExecStreamChannel
abbrev FileSearchStreamOpen := StreamOpen FileSearchStreamChannel

structure PtyResizeSignal where
  signalType : String
  cols : UInt16
  rows : UInt16
  deriving DecidableEq

structure PtyStreamSignal where
  messageType : String
  streamId : StreamId
  signal : PtyResizeSignal
  deriving DecidableEq

structure StreamClose where
  messageType : String
  streamId : StreamId
  deriving DecidableEq

structure StreamWindow where
  messageType : String
  streamId : StreamId
  bytes : Nat
  deriving DecidableEq

inductive StreamControlMessage where
  | openAgent (message : AgentStreamOpen)
  | openProcesses (message : ProcessesStreamOpen)
  | openFileUpload (message : FileUploadStreamOpen)
  | openExec (message : ExecStreamOpen)
  | openFileSearch (message : FileSearchStreamOpen)
  | signal (message : PtyStreamSignal)
  | close (message : StreamClose)
  | window (message : StreamWindow)
  deriving DecidableEq

/-- The stream a control message names. -/
def StreamControlMessage.streamId : StreamControlMessage → StreamId
  | .openAgent m => m.streamId
  | .openProcesses m => m.streamId
  | .openFileUpload m => m.streamId
  | .openExec m => m.streamId
  | .openFileSearch m => m.streamId
  | .signal m => m.streamId
  | .close m => m.streamId
  | .window m => m.streamId

/-! ### Messages inside data frames -/

structure ProcessListener where
  port : UInt16
  bindAddress : String
  deriving DecidableEq

structure ProcessEntry where
  pid : UInt32
  command : Option String
  listeners : List ProcessListener
  deriving DecidableEq

structure ProcessesRefresh where
  messageType : String
  deriving DecidableEq

structure ProcessesSnapshot where
  messageType : String
  observedAt : String
  processes : List ProcessEntry
  deriving DecidableEq

inductive ProcessesStreamMessage where
  | refresh (message : ProcessesRefresh)
  | snapshot (message : ProcessesSnapshot)
  deriving DecidableEq

structure FileSearchQuery where
  messageType : String
  requestId : String
  query : String
  limit : Option Nat
  deriving DecidableEq

inductive FileSearchResultKind where
  | file
  | directory
  deriving DecidableEq

structure FileSearchResultItem where
  path : String
  kind : FileSearchResultKind
  deriving DecidableEq

structure FileSearchResults where
  messageType : String
  requestId : String
  query : String
  items : List FileSearchResultItem
  deriving DecidableEq

structure FileSearchError where
  messageType : String
  requestId : String
  code : String
  message : String
  deriving DecidableEq

structure FileSearchSelect where
  messageType : String
  query : String
  path : String
  deriving DecidableEq

inductive FileSearchStreamMessage where
  | query (message : FileSearchQuery)
  | results (message : FileSearchResults)
  | error (message : FileSearchError)
  | select (message : FileSearchSelect)
  deriving DecidableEq

/-! ### Port access -/

structure PortAccessTarget where
  kind : String
  port : UInt16
  deriving DecidableEq

structure PortsTargetAuthorize where
  messageType : String
  requestId : String
  target : PortAccessTarget
  deriving DecidableEq

structure PortsTargetAuthorizeSuccessResult where
  messageType : String
  requestId : String
  authorized : Bool
  upstreamProtocol : String
  websocketCapable : Bool
  deriving DecidableEq

structure PortsTargetAuthorizeFailureResult where
  messageType : String
  requestId : String
  authorized : Bool
  reason : String
  deriving DecidableEq

/-- Header names in key order, each with its values. -/
abbrev RepeatedHeaderValues := List (String × List String)

structure PortsTcpOpen where
  messageType : String
  streamId : StreamId
  target : PortAccessTarget
  upstreamProtocol : String
  deriving DecidableEq

structure PortsTcpConnected where
  messageType : String
  streamId : StreamId
  deriving DecidableEq

structure PortsTcpClose where
  messageType : String
  streamId : StreamId
  direction : String
  deriving DecidableEq

structure PortsTcpError where
  messageType : String
  streamId : StreamId
  code : String
  message : String
  deriving DecidableEq

structure PortsHttpRequest where
  method : String
  path : String
  query : Option String
  headers : RepeatedHeaderValues
  deriving DecidableEq

structure PortsHttpOpen where
  messageType : String
  streamId : StreamId
  target : PortAccessTarget
  upstreamProtocol : String
  request : PortsHttpRequest
  deriving DecidableEq

structure PortsHttpResponseStart where
  messageType : String
  streamId : StreamId
  status : UInt16
  headers : RepeatedHeaderValues
  deriving DecidableEq

structure PortsHttpBodyChunk where
  messageType : String
  streamId : StreamId
  direction : String
  bytes : String
  encoding : String
  deriving DecidableEq

structure PortsHttpBodyEnd where
  messageType : String
  streamId : StreamId
  direction : String
  deriving DecidableEq

structure PortsStreamClose where
  messageType : String
  streamId : StreamId
  deriving DecidableEq

structure PortsStreamError where
  messageType : String
  streamId : StreamId
  code : String
  message : String
  deriving DecidableEq

inductive PortsControlMessage where
  | targetAuthorize (message : PortsTargetAuthorize)
  deriving DecidableEq

inductive PortsTransportMessage where
  | tcpOpen (message : PortsTcpOpen)
  | tcpConnected (message : PortsTcpConnected)
  | tcpClose (message : PortsTcpClose)
  | tcpError (message : PortsTcpError)
  | httpOpen (message : PortsHttpOpen)
  | httpResponseStart (message : PortsHttpResponseStart)
  | httpBodyChunk (message : PortsHttpBodyChunk)
  | httpBodyEnd (message : PortsHttpBodyEnd)
  | streamClose (message : PortsStreamClose)
  | streamError (message : PortsStreamError)
  deriving DecidableEq

/-- The stream a transport message names. -/
def PortsTransportMessage.streamId : PortsTransportMessage → StreamId
  | .tcpOpen m => m.streamId
  | .tcpConnected m => m.streamId
  | .tcpClose m => m.streamId
  | .tcpError m => m.streamId
  | .httpOpen m => m.streamId
  | .httpResponseStart m => m.streamId
  | .httpBodyChunk m => m.streamId
  | .httpBodyEnd m => m.streamId
  | .streamClose m => m.streamId
  | .streamError m => m.streamId

/-! ### Telemetry -/

structure TelemetryOpen where
  messageType : String
  streamId : StreamId
  signal : String
  format : String
  deriving DecidableEq

structure TelemetryOpenOk where
  messageType : String
  streamId : StreamId
  initialWindowBytes : Nat
  deriving DecidableEq

structure TelemetryOpenError where
  messageType : String
  streamId : StreamId
  code : String
  message : String
  deriving DecidableEq

structure TelemetryWindow where
  messageType : String
  streamId : StreamId
  bytes : Nat
  deriving DecidableEq

structure TelemetryReset where
  messageType : String
  streamId : StreamId
  code : String
  message : String
  deriving DecidableEq

inductive BootstrapTelemetryControlMessage where
  | openOk (message : TelemetryOpenOk)
  | openError (message : TelemetryOpenError)
  | window (message : TelemetryWindow)
  | reset (message : TelemetryReset)
  deriving DecidableEq

/-! ### Signing, egress tokens and PTY sessions -/

structure SigningRequest where
  messageType : String
  requestId : String
  organizationId : String
  sandboxInstanceId : String
  actingUserId : String
  providerFamily : String
  integrationConnectionId : Option String
  format : String
  keyRef : String
  grant : String
  payload : String
  encoding : String
  deriving DecidableEq

structure SigningSuccessResult where
  messageType : String
  requestId : String
  ok : Bool
  signature : String
  encoding : String
  deriving DecidableEq

structure SigningFailureResult where
  messageType : String
  requestId : String
  ok : Bool
  code : String
  message : String
  deriving DecidableEq

inductive SigningControlMessage where
  | request (message : SigningRequest)
  | resultSuccess (message : SigningSuccessResult)
  | resultFailure (message : SigningFailureResult)
  deriving DecidableEq

structure EgressTokenRequest where
  messageType : String
  requestId : String
  actingUserId : Option String
  deriving DecidableEq

structure EgressTokenResponse where
  messageType : String
  requestId : String
  token : String
  expiresAt : String
  ttlMs : Nat
  deriving DecidableEq

structure EgressTokenError where
  messageType : String
  requestId : String
  code : String
  message : String
  deriving DecidableEq

inductive EgressTokenControlMessage where
  | request (message : EgressTokenRequest)
  | response (message : EgressTokenResponse)
  | error (message : EgressTokenError)
  deriving DecidableEq

inductive PtySessionLaunchMode where
  | create
  | attach
  deriving DecidableEq

structure PtySessionLaunch where
  session : PtySessionLaunchMode
  cols : Option UInt16
  rows : Option UInt16
  cwd : Option String
  command : Option String
  args : Option (List String)
  deriving DecidableEq

structure PtySessionOpen where
  messageType : String
  requestId : String
  ptySessionId : String
  transportUrl : String
  transportToken : String
  launch : PtySessionLaunch
  deriving DecidableEq

structure PtySessionOpened where
  messageType : String
  requestId : String
  ptySessionId : String
  deriving DecidableEq

structure PtySessionError where
  messageType : String
  requestId : String
  ptySessionId : String
  code : String
  message : String
  deriving DecidableEq

inductive PtySessionControlMessage where
  | «open» (message : PtySessionOpen)
  | opened (message : PtySessionOpened)
  | error (message : PtySessionError)
  deriving DecidableEq

/-! ### Frames and windows -/

/-- One decoded binary data frame. -/
structure StreamDataFrame where
  streamId : StreamId
  payloadKind : UInt8
  payload : List UInt8
  deriving DecidableEq

/-- Outbound byte credit of one stream. -/
structure StreamSendWindow where
  availableBytes : Nat
  deriving DecidableEq

namespace StreamSendWindow

instance : Inhabited StreamSendWindow := ⟨⟨defaultStreamWindowBytes⟩⟩

/-- Add credit the peer granted. A grant of nothing is refused, and so is one
    on top of more than the maximum leaves room for. -/
def add (window : StreamSendWindow) (bytes : Nat) : Except TunnelProtocolError StreamSendWindow :=
  if bytes = 0 then
    .error ⟨"stream.window bytes must be a positive integer"⟩
  else if window.availableBytes > maxStreamWindowBytes - bytes then
    .error ⟨s!"stream.window credit exceeds configured maximum of {maxStreamWindowBytes} bytes"⟩
  else
    .ok ⟨window.availableBytes + bytes⟩

/-- Consume credit before sending, or refuse. -/
def tryConsume (window : StreamSendWindow) (bytes : Nat) : Option StreamSendWindow :=
  if bytes > window.availableBytes then none
  else some ⟨window.availableBytes - bytes⟩

theorem tryConsume_some {w w' : StreamSendWindow} {n : Nat} (h : w.tryConsume n = some w') :
    n ≤ w.availableBytes ∧ w'.availableBytes + n = w.availableBytes := by
  unfold tryConsume at h
  split at h
  · exact absurd h (by simp only [reduceCtorEq, not_false_eq_true])
  · rename_i hle
    rw [Option.some.injEq] at h
    rw [← h]
    exact ⟨by omega, by simp only []; omega⟩

theorem tryConsume_none {w : StreamSendWindow} {n : Nat} (h : w.tryConsume n = none) :
    w.availableBytes < n := by
  unfold tryConsume at h
  split at h
  · assumption
  · exact absurd h (by simp only [reduceCtorEq, not_false_eq_true])

theorem add_ok {w w' : StreamSendWindow} {n : Nat} (h : w.add n = .ok w') :
    0 < n ∧ w'.availableBytes = w.availableBytes + n := by
  unfold add at h
  split at h
  · exact absurd h (by simp only [reduceCtorEq, not_false_eq_true])
  split at h
  · exact absurd h (by simp only [reduceCtorEq, not_false_eq_true])
  · rename_i hpos _
    rw [Except.ok.injEq] at h
    rw [← h]
    exact ⟨Nat.pos_of_ne_zero hpos, rfl⟩

/-- A grant that keeps the credit within the maximum is accepted. -/
theorem add_of_le {w : StreamSendWindow} {n : Nat} (hpos : 0 < n)
    (hle : w.availableBytes + n ≤ maxStreamWindowBytes) :
    w.add n = .ok ⟨w.availableBytes + n⟩ := by
  unfold add
  rw [if_neg (by omega), if_neg (by omega)]

end StreamSendWindow

end Mistle
