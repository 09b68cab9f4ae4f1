import Mistle.Protocol.Serde

/-!
# Validation Rules

The constraints a control message must meet beyond its shape, checked in the
source's order and with the source's texts. A required string may not be blank:
the check trims white space first.

## Main definitions

* `rejectIf`: One check.
* `validate…`: The checks of each message.
-/

namespace Mistle

/-- Refuse with a message if the condition holds. -/
def rejectIf (condition : Bool) (message : String) : Except TunnelProtocolError Unit :=
  if condition then .error ⟨message⟩ else .ok ()

def validateStreamId (streamId : StreamId) : Except TunnelProtocolError Unit :=
  rejectIf (streamId == 0) "streamId must be an integer between 1 and 4294967295"

def validatePayloadKind (payloadKind : UInt8) : Except TunnelProtocolError Unit :=
  rejectIf (payloadKind != payloadKindRawBytes && payloadKind != payloadKindWebsocketText &&
    payloadKind != payloadKindWebsocketBinary) s!"payloadKind is not supported: {payloadKind}"

def validateAgentStreamOpen (message : AgentStreamOpen) : Except TunnelProtocolError Unit := do
  rejectIf (message.messageType != "stream.open")
    "agent stream.open request type must be 'stream.open'"
  validateStreamId message.streamId
  rejectIf (message.channel.kind != "agent")
    "agent stream.open request channel.kind must be 'agent'"

def validateProcessesStreamOpen (message : ProcessesStreamOpen) :
    Except TunnelProtocolError Unit := do
  rejectIf (message.messageType != "stream.open")
    "processes stream.open request type must be 'stream.open'"
  validateStreamId message.streamId
  rejectIf (message.channel.kind != "processes")
    "processes stream.open request channel.kind must be 'processes'"

def validateFileUploadStreamOpen (message : FileUploadStreamOpen) :
    Except TunnelProtocolError Unit := do
  rejectIf (message.messageType != "stream.open")
    "file upload stream.open request type must be 'stream.open'"
  validateStreamId message.streamId
  rejectIf (message.channel.kind != "fileUpload")
    "file upload stream.open request channel.kind must be 'fileUpload'"
  rejectIf (isBlank message.channel.threadId)
    "file upload stream.open request channel.threadId is required"
  rejectIf (isBlank message.channel.mimeType)
    "file upload stream.open request channel.mimeType is required"
  rejectIf (isBlank message.channel.originalFilename)
    "file upload stream.open request channel.originalFilename is required"
  rejectIf (message.channel.sizeBytes == 0)
    "file upload stream.open request channel.sizeBytes must be a positive integer"

def validateExecStreamOpen (message : ExecStreamOpen) : Except TunnelProtocolError Unit := do
  rejectIf (message.messageType != "stream.open")
    "exec stream.open request type must be 'stream.open'"
  validateStreamId message.streamId
  rejectIf (message.channel.kind != "exec")
    "exec stream.open request channel.kind must be 'exec'"
  rejectIf (isBlank message.channel.command)
    "exec stream.open request channel.command is required"
  rejectIf (message.channel.args.any (·.any isBlank))
    "exec stream.open request args must contain only non-empty strings"
  rejectIf (message.channel.timeoutMs == some 0)
    "exec stream.open request timeoutMs must be a positive integer"
  rejectIf (message.channel.maxOutputBytes == some 0)
    "exec stream.open request maxOutputBytes must be a positive integer"

def validateFileSearchStreamOpen (message : FileSearchStreamOpen) :
    Except TunnelProtocolError Unit := do
  rejectIf (message.messageType != "stream.open")
    "file search stream.open request type must be 'stream.open'"
  validateStreamId message.streamId
  rejectIf (message.channel.kind != "fileSearch")
    "file search stream.open request channel.kind must be 'fileSearch'"
  rejectIf (isBlank message.channel.cwd)
    "file search stream.open request channel.cwd is required"

def validateFileSearchQuery (message : FileSearchQuery) : Except TunnelProtocolError Unit := do
  rejectIf (message.messageType != "fileSearch.query")
    "fileSearch.query type must be 'fileSearch.query'"
  rejectIf (isBlank message.requestId) "fileSearch.query requestId is required"
  rejectIf (message.limit == some 0) "fileSearch.query limit must be a positive integer"

def validateFileSearchResults (message : FileSearchResults) :
    Except TunnelProtocolError Unit := do
  rejectIf (message.messageType != "fileSearch.results")
    "fileSearch.results type must be 'fileSearch.results'"
  rejectIf (isBlank message.requestId) "fileSearch.results requestId is required"
  rejectIf (message.items.any (isBlank ·.path))
    "fileSearch.results items must contain only non-empty paths"

def validateFileSearchError (message : FileSearchError) : Except TunnelProtocolError Unit := do
  rejectIf (message.messageType != "fileSearch.error")
    "fileSearch.error type must be 'fileSearch.error'"
  rejectIf (isBlank message.requestId) "fileSearch.error requestId is required"
  rejectIf (isBlank message.code) "fileSearch.error code is required"
  rejectIf (isBlank message.message) "fileSearch.error message is required"

def validateFileSearchSelect (message : FileSearchSelect) : Except TunnelProtocolError Unit := do
  rejectIf (message.messageType != "fileSearch.select")
    "fileSearch.select type must be 'fileSearch.select'"
  rejectIf (isBlank message.path) "fileSearch.select path is required"

def validateStreamSignal (message : PtyStreamSignal) : Except TunnelProtocolError Unit := do
  rejectIf (message.messageType != "stream.signal")
    "stream.signal request type must be 'stream.signal'"
  validateStreamId message.streamId
  rejectIf (message.signal.signalType != "pty.resize")
    "stream.signal signal.type must be 'pty.resize'"
  rejectIf (message.signal.cols == 0 || message.signal.rows == 0)
    "pty resize signal cols and rows must be greater than or equal to 1"

def validateStreamClose (message : StreamClose) : Except TunnelProtocolError Unit := do
  rejectIf (message.messageType != "stream.close")
    "stream.close request type must be 'stream.close'"
  validateStreamId message.streamId

def validateStreamWindow (message : StreamWindow) : Except TunnelProtocolError Unit := do
  rejectIf (message.messageType != "stream.window")
    "stream.window request type must be 'stream.window'"
  validateStreamId message.streamId
  rejectIf (message.bytes == 0) "stream.window bytes must be a positive integer"

def validatePortAccessTarget (target : PortAccessTarget) : Except TunnelProtocolError Unit := do
  rejectIf (target.kind != "port") s!"ports target kind must be 'port', got '{target.kind}'"
  rejectIf (target.port == 0) "ports target port must be greater than zero"

def validatePortsTargetAuthorize (message : PortsTargetAuthorize) :
    Except TunnelProtocolError Unit := do
  rejectIf (message.messageType != "ports.target.authorize")
    ("ports.target.authorize message type must be 'ports.target.authorize', got '" ++
      message.messageType ++ "'")
  rejectIf (isBlank message.requestId) "ports.target.authorize requestId is required"
  validatePortAccessTarget message.target

def validateRepeatedHeaderValues (headers : RepeatedHeaderValues) (fieldName : String) :
    Except TunnelProtocolError Unit :=
  rejectIf (headers.any (isBlank ·.1)) s!"{fieldName} header names must be non-empty"

def validateTcpUpstreamProtocol (messageType upstreamProtocol : String) :
    Except TunnelProtocolError Unit :=
  rejectIf (upstreamProtocol != "http" && upstreamProtocol != "https")
    s!"{messageType} upstreamProtocol must be 'http' or 'https', got '{upstreamProtocol}'"

def validatePortsTcpOpen (message : PortsTcpOpen) : Except TunnelProtocolError Unit := do
  rejectIf (message.messageType != "ports.tcp.open")
    s!"ports.tcp.open message type must be 'ports.tcp.open', got '{message.messageType}'"
  validateStreamId message.streamId
  validatePortAccessTarget message.target
  validateTcpUpstreamProtocol "ports.tcp.open" message.upstreamProtocol

def validatePortsTcpConnected (message : PortsTcpConnected) :
    Except TunnelProtocolError Unit := do
  rejectIf (message.messageType != "ports.tcp.connected")
    s!"ports.tcp.connected message type must be 'ports.tcp.connected', got '{message.messageType}'"
  validateStreamId message.streamId

/-- The two ends a transport message can speak for. -/
def isDirection (direction : String) : Bool :=
  direction == "request" || direction == "response"

/-- The codes an upstream failure is reported under. -/
def isUpstreamErrorCode (code : String) : Bool :=
  code == "upstream_connect_failed" || code == "upstream_handshake_failed" ||
    code == "upstream_io_error"

def validatePortsTcpClose (message : PortsTcpClose) : Except TunnelProtocolError Unit := do
  rejectIf (message.messageType != "ports.tcp.close")
    s!"ports.tcp.close message type must be 'ports.tcp.close', got '{message.messageType}'"
  validateStreamId message.streamId
  rejectIf (!isDirection message.direction)
    s!"ports.tcp.close direction must be 'request' or 'response', got '{message.direction}'"

def validatePortsTcpError (message : PortsTcpError) : Except TunnelProtocolError Unit := do
  rejectIf (message.messageType != "ports.tcp.error")
    s!"ports.tcp.error message type must be 'ports.tcp.error', got '{message.messageType}'"
  validateStreamId message.streamId
  rejectIf (!isUpstreamErrorCode message.code)
    s!"ports.tcp.error code is invalid: '{message.code}'"
  rejectIf (isBlank message.message) "ports.tcp.error message is required"

/-- Opening an HTTP stream does not check the stream id. -/
def validatePortsHttpOpen (message : PortsHttpOpen) : Except TunnelProtocolError Unit := do
  rejectIf (message.messageType != "ports.http.open")
    s!"ports.http.open message type must be 'ports.http.open', got '{message.messageType}'"
  validatePortAccessTarget message.target
  validateTcpUpstreamProtocol "ports.http.open" message.upstreamProtocol
  rejectIf (isBlank message.request.method) "ports.http.open request method is required"
  rejectIf (isBlank message.request.path) "ports.http.open request path is required"
  rejectIf (message.request.query.any isBlank)
    "ports.http.open request query must be non-empty when present"
  validateRepeatedHeaderValues message.request.headers "ports.http.open request"

def validatePortsHttpResponseStart (message : PortsHttpResponseStart) :
    Except TunnelProtocolError Unit := do
  rejectIf (message.messageType != "ports.http.response.start")
    ("ports.http.response.start message type must be 'ports.http.response.start', got '" ++
      message.messageType ++ "'")
  rejectIf (!(200 ≤ message.status && message.status ≤ 599))
    "ports.http.response.start status must be between 200 and 599"
  validateRepeatedHeaderValues message.headers "ports.http.response.start"

def validatePortsHttpBodyChunk (message : PortsHttpBodyChunk) :
    Except TunnelProtocolError Unit := do
  rejectIf (message.messageType != "ports.http.body.chunk")
    ("ports.http.body.chunk message type must be 'ports.http.body.chunk', got '" ++
      message.messageType ++ "'")
  rejectIf (!isDirection message.direction)
    s!"ports.http.body.chunk direction must be 'request' or 'response', got '{message.direction}'"
  rejectIf (message.encoding != "base64")
    s!"ports.http.body.chunk encoding must be 'base64', got '{message.encoding}'"

def validatePortsHttpBodyEnd (message : PortsHttpBodyEnd) : Except TunnelProtocolError Unit := do
  rejectIf (message.messageType != "ports.http.body.end")
    s!"ports.http.body.end message type must be 'ports.http.body.end', got '{message.messageType}'"
  rejectIf (!isDirection message.direction)
    s!"ports.http.body.end direction must be 'request' or 'response', got '{message.direction}'"

def validatePortsStreamClose (message : PortsStreamClose) : Except TunnelProtocolError Unit :=
  rejectIf (message.messageType != "ports.stream.close")
    s!"ports.stream.close message type must be 'ports.stream.close', got '{message.messageType}'"

def validatePortsStreamError (message : PortsStreamError) : Except TunnelProtocolError Unit := do
  rejectIf (message.messageType != "ports.stream.error")
    s!"ports.stream.error message type must be 'ports.stream.error', got '{message.messageType}'"
  rejectIf (!isUpstreamErrorCode message.code)
    s!"ports.stream.error code is invalid: '{message.code}'"
  rejectIf (isBlank message.message) "ports.stream.error message is required"

def validateTelemetryOpenOk (message : TelemetryOpenOk) : Except TunnelProtocolError Unit := do
  rejectIf (message.messageType != "telemetry.open.ok")
    "telemetry.open.ok response type must be 'telemetry.open.ok'"
  validateStreamId message.streamId
  rejectIf (message.initialWindowBytes == 0)
    "telemetry.open.ok initialWindowBytes must be a positive integer"

def validateTelemetryOpenError (message : TelemetryOpenError) :
    Except TunnelProtocolError Unit := do
  rejectIf (message.messageType != "telemetry.open.error")
    "telemetry.open.error response type must be 'telemetry.open.error'"
  validateStreamId message.streamId
  rejectIf (isBlank message.code) "telemetry.open.error code is required"
  rejectIf (isBlank message.message) "telemetry.open.error message is required"

def validateTelemetryWindow (message : TelemetryWindow) : Except TunnelProtocolError Unit := do
  rejectIf (message.messageType != "telemetry.window")
    "telemetry.window response type must be 'telemetry.window'"
  validateStreamId message.streamId
  rejectIf (message.bytes == 0) "telemetry.window bytes must be a positive integer"

def validateTelemetryReset (message : TelemetryReset) : Except TunnelProtocolError Unit := do
  rejectIf (message.messageType != "telemetry.reset")
    "telemetry.reset response type must be 'telemetry.reset'"
  validateStreamId message.streamId
  rejectIf (isBlank message.code) "telemetry.reset code is required"
  rejectIf (isBlank message.message) "telemetry.reset message is required"

def validateSigningRequest (message : SigningRequest) : Except TunnelProtocolError Unit := do
  rejectIf (message.messageType != "signing.request")
    "signing.request message type must be 'signing.request'"
  rejectIf (isBlank message.requestId) "signing.request requestId is required"
  rejectIf (isBlank message.organizationId) "signing.request organizationId is required"
  rejectIf (isBlank message.sandboxInstanceId) "signing.request sandboxInstanceId is required"
  rejectIf (isBlank message.actingUserId) "signing.request actingUserId is required"
  rejectIf (isBlank message.providerFamily) "signing.request providerFamily is required"
  rejectIf (message.integrationConnectionId.any isBlank)
    "signing.request integrationConnectionId cannot be empty when provided"
  rejectIf (isBlank message.format) "signing.request format is required"
  rejectIf (isBlank message.keyRef) "signing.request keyRef is required"
  rejectIf (isBlank message.grant) "signing.request grant is required"
  rejectIf (message.encoding != "base64") "signing.request encoding must be 'base64'"

def validateSigningSuccessResult (message : SigningSuccessResult) :
    Except TunnelProtocolError Unit := do
  rejectIf (message.messageType != "signing.result")
    "signing.result message type must be 'signing.result'"
  rejectIf (!message.ok) "successful signing.result payload must set ok=true"
  rejectIf (isBlank message.requestId) "signing.result requestId is required"
  rejectIf (message.encoding != "base64") "successful signing.result encoding must be 'base64'"

def validateSigningFailureResult (message : SigningFailureResult) :
    Except TunnelProtocolError Unit := do
  rejectIf (message.messageType != "signing.result")
    "signing.result message type must be 'signing.result'"
  rejectIf message.ok "failed signing.result payload must set ok=false"
  rejectIf (isBlank message.requestId) "signing.result requestId is required"
  rejectIf (isBlank message.code) "signing.result code is required"
  rejectIf (isBlank message.message) "signing.result message is required"

def validateEgressTokenRequest (message : EgressTokenRequest) :
    Except TunnelProtocolError Unit := do
  rejectIf (message.messageType != "egress.token.request")
    "egress.token.request message type must be 'egress.token.request'"
  rejectIf (isBlank message.requestId) "egress.token.request requestId is required"
  rejectIf (message.actingUserId.any isBlank)
    "egress.token.request actingUserId must not be empty when present"

def validateEgressTokenResponse (message : EgressTokenResponse) :
    Except TunnelProtocolError Unit := do
  rejectIf (message.messageType != "egress.token.response")
    "egress.token.response message type must be 'egress.token.response'"
  rejectIf (isBlank message.requestId) "egress.token.response requestId is required"
  rejectIf (isBlank message.token) "egress.token.response token is required"
  rejectIf (isBlank message.expiresAt) "egress.token.response expiresAt is required"
  rejectIf (message.ttlMs == 0) "egress.token.response ttlMs must be positive"

def validateEgressTokenError (message : EgressTokenError) : Except TunnelProtocolError Unit := do
  rejectIf (message.messageType != "egress.token.error")
    "egress.token.error message type must be 'egress.token.error'"
  rejectIf (isBlank message.requestId) "egress.token.error requestId is required"
  rejectIf (message.code != "invalid_sandbox_state" && message.code != "internal_error")
    "egress.token.error code is invalid"
  rejectIf (isBlank message.message) "egress.token.error message is required"

def validatePtySessionLaunch (launch : PtySessionLaunch) : Except TunnelProtocolError Unit := do
  rejectIf (launch.cols.isSome != launch.rows.isSome)
    "pty.session.open launch cols and rows must both be provided when either is set"
  rejectIf (launch.cols == some 0 || launch.rows == some 0)
    "pty.session.open launch cols and rows must be greater than or equal to 1"
  rejectIf (launch.command.any isBlank)
    "pty.session.open launch command must be a non-empty string"
  rejectIf (launch.args.any (·.any isBlank))
    "pty.session.open launch args must contain only non-empty strings"

def validatePtySessionOpen (message : PtySessionOpen) : Except TunnelProtocolError Unit := do
  rejectIf (message.messageType != "pty.session.open")
    "pty.session.open message type must be 'pty.session.open'"
  rejectIf (isBlank message.requestId) "pty.session.open requestId is required"
  rejectIf (isBlank message.ptySessionId) "pty.session.open ptySessionId is required"
  rejectIf (!"ws://".toList.isPrefixOf message.transportUrl.toList &&
      !"wss://".toList.isPrefixOf message.transportUrl.toList)
    "pty.session.open transportUrl must use ws or wss"
  rejectIf (isBlank message.transportToken) "pty.session.open transportToken is required"
  validatePtySessionLaunch message.launch

def validatePtySessionOpened (message : PtySessionOpened) : Except TunnelProtocolError Unit := do
  rejectIf (message.messageType != "pty.session.opened")
    "pty.session.opened message type must be 'pty.session.opened'"
  rejectIf (isBlank message.requestId) "pty.session.opened requestId is required"
  rejectIf (isBlank message.ptySessionId) "pty.session.opened ptySessionId is required"

def validatePtySessionError (message : PtySessionError) : Except TunnelProtocolError Unit := do
  rejectIf (message.messageType != "pty.session.error")
    "pty.session.error message type must be 'pty.session.error'"
  rejectIf (isBlank message.requestId) "pty.session.error requestId is required"
  rejectIf (isBlank message.ptySessionId) "pty.session.error ptySessionId is required"
  rejectIf (message.code != "transport_connect_failed" && message.code != "pty_create_failed" &&
      message.code != "pty_attach_failed" && message.code != "internal_error")
    "pty.session.error code is invalid"
  rejectIf (isBlank message.message) "pty.session.error message is required"

end Mistle
