import Mistle.Protocol.Validation

/-!
# Parsing Control Messages

Each parser reads a text into a tree, looks at the tree's `type`, reads the
structure that type names and validates it. Some parsers answer `none` for a
type that is not theirs, so that the router can try the next one on the same
text; others treat it as an error.

## Main definitions

* `parseStreamControlMessage`: `stream.*` messages.
* `parsePortsControlMessage`, `parsePortsTransportMessage`: `ports.*` messages.
* `parseBootstrapTelemetryControlMessage`: The gateway's `telemetry.*` answers.
* `parseSigningControlMessage`, `parseEgressTokenControlMessage`,
  `parsePtySessionControlMessage`: Requests and their answers.
* `parseProcessesStreamMessage`, `parseFileSearchStreamMessage`: Payloads of
  text data frames.
-/

namespace Mistle

variable (serde : SerdeJson)

/-- Read a text, with the parser's own words before the library's. -/
def fromStr (what payload : String) : Except TunnelProtocolError (Json String) :=
  match serde.fromStr payload with
  | .ok value => .ok value
  | .error message => .error ⟨what ++ " must be valid json: " ++ message⟩

/-- The `type` of a message. -/
def messageTypeOf (value : Json String) : Option String :=
  (value.get? "type").bind Json.str?

/-- The `type` of a message, which must be there. -/
def requireMessageType (what : String) (value : Json String) : Except TunnelProtocolError String :=
  match messageTypeOf value with
  | some messageType => .ok messageType
  | none => .error ⟨what ++ " type is required"⟩

/-- Read a structure, validate it and wrap it. -/
def readMessage {α β : Type} (name : String) (read : Json String → Option α)
    (validate : α → Except TunnelProtocolError Unit) (wrap : α → β) (value : Json String) :
    Except TunnelProtocolError β := do
  let message ← fromValue serde name read value
  validate message
  return wrap message

/-- `stream.open`, by the kind of its channel. -/
def parseStreamOpen (value : Json String) : Except TunnelProtocolError StreamControlMessage := do
  let channelKind ← match (value.get? "channel").bind fun channel =>
      (channel.get? "kind").bind Json.str? with
    | some channelKind => .ok channelKind
    | none => .error ⟨"stream.open request channel.kind is required"⟩
  match channelKind with
  | "agent" =>
      readMessage serde "AgentStreamOpen" (StreamOpen.deserialize AgentStreamChannel.deserialize)
        validateAgentStreamOpen .openAgent value
  | "processes" =>
      readMessage serde "ProcessesStreamOpen" (StreamOpen.deserialize
        ProcessesStreamChannel.deserialize) validateProcessesStreamOpen .openProcesses value
  | "fileUpload" =>
      readMessage serde "FileUploadStreamOpen" (StreamOpen.deserialize
        FileUploadStreamChannel.deserialize) validateFileUploadStreamOpen .openFileUpload value
  | "exec" =>
      readMessage serde "ExecStreamOpen" (StreamOpen.deserialize ExecStreamChannel.deserialize)
        validateExecStreamOpen .openExec value
  | "fileSearch" =>
      readMessage serde "FileSearchStreamOpen" (StreamOpen.deserialize
        FileSearchStreamChannel.deserialize) validateFileSearchStreamOpen .openFileSearch value
  | _ => .error ⟨s!"stream.open request channel.kind '{channelKind}' is not supported"⟩

def parseStreamControlMessage (payload : String) :
    Except TunnelProtocolError StreamControlMessage := do
  let value ← fromStr serde "control message" payload
  let messageType ← requireMessageType "control message" value
  match messageType with
  | "stream.open" => parseStreamOpen serde value
  | "stream.signal" =>
      readMessage serde "PtyStreamSignal" PtyStreamSignal.deserialize validateStreamSignal .signal
        value
  | "stream.close" =>
      readMessage serde "StreamClose" StreamClose.deserialize validateStreamClose .close value
  | "stream.window" =>
      readMessage serde "StreamWindow" StreamWindow.deserialize validateStreamWindow .window value
  | _ => .error ⟨s!"unsupported control message type '{messageType}'"⟩

def parseProcessesStreamMessage (payload : String) :
    Except TunnelProtocolError ProcessesStreamMessage := do
  let value ← fromStr serde "processes stream message" payload
  let messageType ← requireMessageType "processes stream message" value
  match messageType with
  | "processes.refresh" =>
      readMessage serde "ProcessesRefresh" ProcessesRefresh.deserialize (fun _ => .ok ()) .refresh
        value
  | "processes.snapshot" =>
      readMessage serde "ProcessesSnapshot" ProcessesSnapshot.deserialize (fun _ => .ok ())
        .snapshot value
  | _ => .error ⟨s!"unsupported processes stream message type '{messageType}'"⟩

def parseFileSearchStreamMessage (payload : String) :
    Except TunnelProtocolError FileSearchStreamMessage := do
  let value ← fromStr serde "fileSearch stream message" payload
  let messageType ← requireMessageType "fileSearch stream message" value
  match messageType with
  | "fileSearch.query" =>
      readMessage serde "FileSearchQuery" FileSearchQuery.deserialize validateFileSearchQuery
        .query value
  | "fileSearch.results" =>
      readMessage serde "FileSearchResults" FileSearchResults.deserialize
        validateFileSearchResults .results value
  | "fileSearch.error" =>
      readMessage serde "FileSearchError" FileSearchError.deserialize validateFileSearchError
        .error value
  | "fileSearch.select" =>
      readMessage serde "FileSearchSelect" FileSearchSelect.deserialize validateFileSearchSelect
        .select value
  | _ => .error ⟨s!"unsupported fileSearch stream message type '{messageType}'"⟩

def parsePortsControlMessage (payload : String) :
    Except TunnelProtocolError (Option PortsControlMessage) := do
  let value ← fromStr serde "ports control message" payload
  match messageTypeOf value with
  | some "ports.target.authorize" =>
      readMessage serde "PortsTargetAuthorize" PortsTargetAuthorize.deserialize
        validatePortsTargetAuthorize (some ∘ .targetAuthorize) value
  | _ => return none

def parsePortsTransportMessage (payload : String) :
    Except TunnelProtocolError (Option PortsTransportMessage) := do
  let value ← fromStr serde "ports transport message" payload
  match messageTypeOf value with
  | some "ports.tcp.open" =>
      readMessage serde "PortsTcpOpen" PortsTcpOpen.deserialize validatePortsTcpOpen (some ∘
        .tcpOpen) value
  | some "ports.tcp.connected" =>
      readMessage serde "PortsTcpConnected" PortsTcpConnected.deserialize
        validatePortsTcpConnected (some ∘ .tcpConnected) value
  | some "ports.tcp.close" =>
      readMessage serde "PortsTcpClose" PortsTcpClose.deserialize validatePortsTcpClose (some ∘
        .tcpClose) value
  | some "ports.tcp.error" =>
      readMessage serde "PortsTcpError" PortsTcpError.deserialize validatePortsTcpError (some ∘
        .tcpError) value
  | some "ports.http.open" =>
      readMessage serde "PortsHttpOpen" PortsHttpOpen.deserialize validatePortsHttpOpen (some ∘
        .httpOpen) value
  | some "ports.http.response.start" =>
      readMessage serde "PortsHttpResponseStart" PortsHttpResponseStart.deserialize
        validatePortsHttpResponseStart (some ∘ .httpResponseStart) value
  | some "ports.http.body.chunk" =>
      readMessage serde "PortsHttpBodyChunk" PortsHttpBodyChunk.deserialize
        validatePortsHttpBodyChunk (some ∘ .httpBodyChunk) value
  | some "ports.http.body.end" =>
      readMessage serde "PortsHttpBodyEnd" PortsHttpBodyEnd.deserialize validatePortsHttpBodyEnd
        (some ∘ .httpBodyEnd) value
  | some "ports.stream.close" =>
      readMessage serde "PortsStreamClose" PortsStreamClose.deserialize validatePortsStreamClose
        (some ∘ .streamClose) value
  | some "ports.stream.error" =>
      readMessage serde "PortsStreamError" PortsStreamError.deserialize validatePortsStreamError
        (some ∘ .streamError) value
  | _ => return none

def parseBootstrapTelemetryControlMessage (payload : String) :
    Except TunnelProtocolError (Option BootstrapTelemetryControlMessage) := do
  let value ← fromStr serde "control message" payload
  let messageType ← requireMessageType "control message" value
  match messageType with
  | "telemetry.open.ok" =>
      readMessage serde "TelemetryOpenOk" TelemetryOpenOk.deserialize validateTelemetryOpenOk
        (some ∘ .openOk) value
  | "telemetry.open.error" =>
      readMessage serde "TelemetryOpenError" TelemetryOpenError.deserialize
        validateTelemetryOpenError (some ∘ .openError) value
  | "telemetry.window" =>
      readMessage serde "TelemetryWindow" TelemetryWindow.deserialize validateTelemetryWindow
        (some ∘ .window) value
  | "telemetry.reset" =>
      readMessage serde "TelemetryReset" TelemetryReset.deserialize validateTelemetryReset (some ∘
        .reset) value
  | _ => return none

def parseSigningControlMessage (payload : String) :
    Except TunnelProtocolError (Option SigningControlMessage) := do
  let value ← fromStr serde "signing control message" payload
  match messageTypeOf value with
  | some "signing.request" =>
      readMessage serde "SigningRequest" SigningRequest.deserialize validateSigningRequest (some ∘
        .request) value
  | some "signing.result" =>
    match (value.get? "ok").bind Json.bool? with
    | none => .error ⟨"signing.result ok flag is required"⟩
    | some true =>
        readMessage serde "SigningSuccessResult" SigningSuccessResult.deserialize
          validateSigningSuccessResult (some ∘ .resultSuccess) value
    | some false =>
        readMessage serde "SigningFailureResult" SigningFailureResult.deserialize
          validateSigningFailureResult (some ∘ .resultFailure) value
  | _ => return none

def parseEgressTokenControlMessage (payload : String) :
    Except TunnelProtocolError (Option EgressTokenControlMessage) := do
  let value ← fromStr serde "egress token control message" payload
  match messageTypeOf value with
  | some "egress.token.request" =>
      readMessage serde "EgressTokenRequest" EgressTokenRequest.deserialize
        validateEgressTokenRequest (some ∘ .request) value
  | some "egress.token.response" =>
      readMessage serde "EgressTokenResponse" EgressTokenResponse.deserialize
        validateEgressTokenResponse (some ∘ .response) value
  | some "egress.token.error" =>
      readMessage serde "EgressTokenError" EgressTokenError.deserialize validateEgressTokenError
        (some ∘ .error) value
  | _ => return none

def parsePtySessionControlMessage (payload : String) :
    Except TunnelProtocolError (Option PtySessionControlMessage) := do
  let value ← fromStr serde "pty session control message" payload
  match messageTypeOf value with
  | some "pty.session.open" =>
      readMessage serde "PtySessionOpen" PtySessionOpen.deserialize validatePtySessionOpen (some ∘
        .open) value
  | some "pty.session.opened" =>
      readMessage serde "PtySessionOpened" PtySessionOpened.deserialize validatePtySessionOpened
        (some ∘ .opened) value
  | some "pty.session.error" =>
      readMessage serde "PtySessionError" PtySessionError.deserialize validatePtySessionError
        (some ∘ .error) value
  | _ => return none

end Mistle
