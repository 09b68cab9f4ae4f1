import Mistle.Protocol.Serde

/-!
# Outbound Control Messages

Everything `sandboxd` writes on the bootstrap tunnel as text: one constructor per
message with the values its builder takes, and the tree serde writes for it. The
fixed `type` and `kind` texts live in `serialize`; an absent optional field is
left out of the tree, as `skip_serializing_if` has it.

## Main definitions

* `OutboundMessage`: The messages `sandboxd` writes.
* `OutboundMessage.serialize`: The tree serde writes.
* `OutboundMessage.streamId?`: The stream a message names, if any.
-/

namespace Mistle

/-- Reserved stream of sandbox diagnostics. -/
def sandboxTelemetryLogStreamId : StreamId := 0xfffffffe

/-- Reserved stream of operation records. -/
def sandboxOperationStreamId : StreamId := 0xfffffffd

def sandboxOperationStreamFormat := "mistle.sandbox-operation.v1+jsonl"

structure FileUploadCompletedEventInput where
  streamId : StreamId
  kind : String
  attachmentId : String
  threadId : String
  originalFilename : String
  mimeType : String
  sizeBytes : Nat
  path : String
  deriving DecidableEq

structure ExecResultEventInput where
  streamId : StreamId
  exitCode : Int
  stdout : String
  stderr : String
  truncated : Bool
  deriving DecidableEq

inductive OutboundMessage where
  | streamOpenOk (streamId : StreamId)
  | streamOpenError (streamId : StreamId) (code message : String)
  | streamReset (streamId : StreamId) (code message : String)
  | streamWindow (streamId : StreamId) (bytes : Nat)
  | streamComplete (streamId : StreamId)
  | fileUploadCompletedEvent (input : FileUploadCompletedEventInput)
  | execResultEvent (input : ExecResultEventInput)
  | portsTargetAuthorizeSuccessResult (requestId upstreamProtocol : String)
      (websocketCapable : Bool)
  | portsTargetAuthorizeFailureResult (requestId reason : String)
  | portsTcpConnected (message : PortsTcpConnected)
  | portsTcpClose (message : PortsTcpClose)
  | portsTcpError (message : PortsTcpError)
  | portsHttpResponseStart (message : PortsHttpResponseStart)
  | portsHttpBodyChunk (message : PortsHttpBodyChunk)
  | portsHttpBodyEnd (message : PortsHttpBodyEnd)
  | portsStreamError (message : PortsStreamError)
  | signingRequest (request : SigningRequest)
  | egressTokenRequest (request : EgressTokenRequest)
  | ptySessionOpened (requestId ptySessionId : String)
  | ptySessionError (requestId ptySessionId code message : String)
  | telemetryOpen (streamId : StreamId) (signal format : String)
  | telemetryClose (streamId : StreamId)
  | operationOpen (operationId operationKind : String)
  | operationClose
  | keepaliveState (ttlMs : Nat) (active : Bool)
  | runtimeReady (ready : Bool)
  deriving DecidableEq

namespace OutboundMessage

def idField (streamId : StreamId) : String × Json String :=
  ("streamId", .int streamId.toNat)

def textField (key value : String) : String × Json String :=
  (key, .str value)

def optionTextField (key : String) : Option String → Fields
  | some value => [(key, .str value)]
  | none => []

def headerValues (values : RepeatedHeaderValues) : Json String :=
  .obj (values.map fun (name, items) => (name, .arr (items.map .str)))

/-- A message that carries a code and a text about a stream. -/
def report (messageType : String) (streamId : StreamId) (code message : String) :
    Json String :=
  .obj [textField "type" messageType, idField streamId, textField "code" code,
    textField "message" message]

/-- The tree serde writes. -/
def serialize : OutboundMessage → Json String
  | streamOpenOk streamId => .obj [textField "type" "stream.open.ok", idField streamId]
  | streamOpenError streamId code message => report "stream.open.error" streamId code message
  | streamReset streamId code message => report "stream.reset" streamId code message
  | streamWindow streamId bytes =>
    .obj [textField "type" "stream.window", idField streamId, ("bytes", .int bytes)]
  | streamComplete streamId => .obj [textField "type" "stream.complete", idField streamId]
  | fileUploadCompletedEvent input =>
    .obj [textField "type" "stream.event", idField input.streamId,
      ("event", .obj [textField "type" "fileUpload.completed", textField "kind" input.kind,
        textField "attachmentId" input.attachmentId, textField "threadId" input.threadId,
        textField "originalFilename" input.originalFilename, textField "mimeType" input.mimeType,
        ("sizeBytes", .int input.sizeBytes), textField "path" input.path])]
  | execResultEvent input =>
    .obj [textField "type" "stream.event", idField input.streamId,
      ("event", .obj [textField "type" "exec.result", ("exitCode", .int input.exitCode),
        textField "stdout" input.stdout, textField "stderr" input.stderr,
        ("truncated", .bool input.truncated)])]
  | portsTargetAuthorizeSuccessResult requestId upstreamProtocol websocketCapable =>
    .obj [textField "type" "ports.target.authorize.result", textField "requestId" requestId,
      ("authorized", .bool true), textField "upstreamProtocol" upstreamProtocol,
      ("websocketCapable", .bool websocketCapable)]
  | portsTargetAuthorizeFailureResult requestId reason =>
    .obj [textField "type" "ports.target.authorize.result", textField "requestId" requestId,
      ("authorized", .bool false), textField "reason" reason]
  | portsTcpConnected m => .obj [textField "type" m.messageType, idField m.streamId]
  | portsTcpClose m =>
    .obj [textField "type" m.messageType, idField m.streamId, textField "direction" m.direction]
  | portsTcpError m => report m.messageType m.streamId m.code m.message
  | portsHttpResponseStart m =>
    .obj [textField "type" m.messageType, idField m.streamId, ("status", .int m.status.toNat),
      ("headers", headerValues m.headers)]
  | portsHttpBodyChunk m =>
    .obj [textField "type" m.messageType, idField m.streamId, textField "direction" m.direction,
      textField "bytes" m.bytes, textField "encoding" m.encoding]
  | portsHttpBodyEnd m =>
    .obj [textField "type" m.messageType, idField m.streamId, textField "direction" m.direction]
  | portsStreamError m => report m.messageType m.streamId m.code m.message
  | signingRequest r =>
    .obj ([textField "type" r.messageType, textField "requestId" r.requestId,
      textField "organizationId" r.organizationId,
      textField "sandboxInstanceId" r.sandboxInstanceId,
      textField "actingUserId" r.actingUserId, textField "providerFamily" r.providerFamily] ++
      optionTextField "integrationConnectionId" r.integrationConnectionId ++
      [textField "format" r.format, textField "keyRef" r.keyRef, textField "grant" r.grant,
        textField "payload" r.payload, textField "encoding" r.encoding])
  | egressTokenRequest r =>
    .obj ([textField "type" r.messageType, textField "requestId" r.requestId] ++
      optionTextField "actingUserId" r.actingUserId)
  | ptySessionOpened requestId ptySessionId =>
    .obj [textField "type" "pty.session.opened", textField "requestId" requestId,
      textField "ptySessionId" ptySessionId]
  | ptySessionError requestId ptySessionId code message =>
    .obj [textField "type" "pty.session.error", textField "requestId" requestId,
      textField "ptySessionId" ptySessionId, textField "code" code, textField "message" message]
  | telemetryOpen streamId signal format =>
    .obj [textField "type" "telemetry.open", idField streamId, textField "signal" signal,
      textField "format" format]
  | telemetryClose streamId => .obj [textField "type" "telemetry.close", idField streamId]
  | operationOpen operationId operationKind =>
    .obj [textField "type" "operation.open", idField sandboxOperationStreamId,
      textField "operationId" operationId, textField "operationKind" operationKind,
      textField "format" sandboxOperationStreamFormat]
  | operationClose => .obj [textField "type" "operation.close", idField sandboxOperationStreamId]
  | keepaliveState ttlMs active =>
    .obj [textField "type" "keepalive.state", ("ttlMs", .int ttlMs), ("active", .bool active)]
  | runtimeReady ready => .obj [textField "type" "runtime.ready", ("ready", .bool ready)]

/-- The stream a message names, if any. -/
def streamId? : OutboundMessage → Option StreamId
  | streamOpenOk streamId => some streamId
  | streamOpenError streamId _ _ => some streamId
  | streamReset streamId _ _ => some streamId
  | streamWindow streamId _ => some streamId
  | streamComplete streamId => some streamId
  | fileUploadCompletedEvent input => some input.streamId
  | execResultEvent input => some input.streamId
  | portsTcpConnected m => some m.streamId
  | portsTcpClose m => some m.streamId
  | portsTcpError m => some m.streamId
  | portsHttpResponseStart m => some m.streamId
  | portsHttpBodyChunk m => some m.streamId
  | portsHttpBodyEnd m => some m.streamId
  | portsStreamError m => some m.streamId
  | telemetryOpen streamId _ _ => some streamId
  | telemetryClose streamId => some streamId
  | operationOpen _ _ => some sandboxOperationStreamId
  | operationClose => some sandboxOperationStreamId
  | portsTargetAuthorizeSuccessResult _ _ _ => none
  | portsTargetAuthorizeFailureResult _ _ => none
  | signingRequest _ => none
  | egressTokenRequest _ => none
  | ptySessionOpened _ _ => none
  | ptySessionError _ _ _ _ => none
  | keepaliveState _ _ => none
  | runtimeReady _ => none

end OutboundMessage

/-! ### Payloads of data frames -/

open OutboundMessage

def ProcessListener.serialize (l : ProcessListener) : Json String :=
  .obj [("port", .int l.port.toNat), textField "bindAddress" l.bindAddress]

def ProcessEntry.serialize (e : ProcessEntry) : Json String :=
  .obj [("pid", .int e.pid.toNat),
    ("command", match e.command with | some command => .str command | none => .null),
    ("listeners", .arr (e.listeners.map ProcessListener.serialize))]

def ProcessesSnapshot.serialize (m : ProcessesSnapshot) : Json String :=
  .obj [textField "type" m.messageType, textField "observedAt" m.observedAt,
    ("processes", .arr (m.processes.map ProcessEntry.serialize))]

def FileSearchResultKind.serialize : FileSearchResultKind → Json String
  | .file => .str "file"
  | .directory => .str "directory"

def FileSearchResultItem.serialize (i : FileSearchResultItem) : Json String :=
  .obj [textField "path" i.path, ("kind", i.kind.serialize)]

def FileSearchResults.serialize (m : FileSearchResults) : Json String :=
  .obj [textField "type" m.messageType, textField "requestId" m.requestId,
    textField "query" m.query, ("items", .arr (m.items.map FileSearchResultItem.serialize))]

def FileSearchError.serialize (m : FileSearchError) : Json String :=
  .obj [textField "type" m.messageType, textField "requestId" m.requestId,
    textField "code" m.code, textField "message" m.message]

end Mistle
