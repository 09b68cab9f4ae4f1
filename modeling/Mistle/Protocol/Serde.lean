import Mistle.Protocol.Types

/-!
# Reading and Writing with serde

`serde_json` reads a text into a tree and derives, for each structure, a reader
and a writer of trees. The text half is the library's own and stands here as
`SerdeJson`; the derived half is spelled out, one reader or writer per structure.

A derived reader takes an object, ignoring keys it does not know, and also an
array with exactly one item per field. A missing key is an error unless the
field is an `Option`, which also reads `null` as absent.

## Main definitions

* `SerdeJson`: The library's text functions.
* `SerdeJson.ofDocuments`: The library on a few documents.
* `structFields`, `field`, `optionField`: What derived readers are made of.
* `fromValue`: A derived reader, with the library's error text.
-/

namespace Mistle

/-- `serde_json`'s functions on texts. An empty text is no JSON document. -/
structure SerdeJson where
  fromStr : String → Except String (Json String)
  toText : Json String → String
  fromValueError : String → Json String → String
  fromStr_empty : ∃ message, fromStr "" = .error message

abbrev Fields := List (String × Json String)

/-- The library on a list of documents whose trees are known; it rejects any
    other text. -/
def SerdeJson.ofDocuments (documents : List (String × Json String)) : SerdeJson where
  fromStr text :=
    if text = "" then .error "EOF while parsing a value at line 1 column 0"
    else match documents.lookup text with
      | none => .error "expected value at line 1 column 1"
      | some value => .ok value
  toText value := ((documents.find? fun document => document.2 = value).map Prod.fst).getD "null"
  fromValueError name _ := "invalid " ++ name
  fromStr_empty := ⟨_, rfl⟩

/-- The named fields of a structure, from an object or positionally from an array. -/
def structFields (names : List String) : Json String → Option Fields
  | .obj fields => some fields
  | .arr items => if items.length = names.length then some (names.zip items) else none
  | _ => none

/-- Read a required field. -/
def field {α : Type} (fields : Fields) (name : String) (read : Json String → Option α) : Option α :=
  (Json.lookup name fields).bind read

/-- Read a field that may be missing or `null`. -/
def optionField {α : Type} (fields : Fields) (name : String) (read : Json String → Option α) :
    Option (Option α) :=
  match Json.lookup name fields with
  | none => some none
  | some .null => some none
  | some value => (read value).map some

/-- Read a list, item by item. -/
def list? {α : Type} (read : Json String → Option α) (j : Json String) : Option (List α) :=
  j.arr?.bind fun items => items.mapM read

def u16? (j : Json String) : Option UInt16 := (j.nat? UInt16.size).map UInt16.ofNat
def u32? (j : Json String) : Option UInt32 := (j.nat? UInt32.size).map UInt32.ofNat
def u64? (j : Json String) : Option Nat := j.nat? UInt64.size
def usize? (j : Json String) : Option Nat := j.nat? UInt64.size

/-- Run a derived reader on a tree. -/
def fromValue {α : Type} (serde : SerdeJson) (name : String) (read : Json String → Option α)
    (value : Json String) : Except TunnelProtocolError α :=
  match read value with
  | some a => .ok a
  | none => .error ⟨serde.fromValueError name value⟩

/-! ### Stream control messages -/

def AgentStreamChannel.deserialize (j : Json String) : Option AgentStreamChannel := do
  let fields ← structFields ["kind"] j
  return { kind := ← field fields "kind" Json.str? }

def ProcessesStreamChannel.deserialize (j : Json String) : Option ProcessesStreamChannel := do
  let fields ← structFields ["kind"] j
  return { kind := ← field fields "kind" Json.str? }

def FileUploadStreamChannel.deserialize (j : Json String) : Option FileUploadStreamChannel := do
  let fields ← structFields ["kind", "threadId", "mimeType", "originalFilename", "sizeBytes"] j
  return {
    kind := ← field fields "kind" Json.str?
    threadId := ← field fields "threadId" Json.str?
    mimeType := ← field fields "mimeType" Json.str?
    originalFilename := ← field fields "originalFilename" Json.str?
    sizeBytes := ← field fields "sizeBytes" usize? }

def ExecStreamChannel.deserialize (j : Json String) : Option ExecStreamChannel := do
  let fields ← structFields
    ["kind", "command", "args", "cwd", "stdin", "timeoutMs", "maxOutputBytes"] j
  return {
    kind := ← field fields "kind" Json.str?
    command := ← field fields "command" Json.str?
    args := ← optionField fields "args" (list? Json.str?)
    cwd := ← optionField fields "cwd" Json.str?
    stdin := ← optionField fields "stdin" Json.str?
    timeoutMs := ← optionField fields "timeoutMs" u64?
    maxOutputBytes := ← optionField fields "maxOutputBytes" usize? }

def FileSearchStreamChannel.deserialize (j : Json String) : Option FileSearchStreamChannel := do
  let fields ← structFields ["kind", "cwd"] j
  return {
    kind := ← field fields "kind" Json.str?
    cwd := ← field fields "cwd" Json.str? }

def StreamOpen.deserialize {channel : Type} (readChannel : Json String → Option channel)
    (j : Json String) : Option (StreamOpen channel) := do
  let fields ← structFields ["type", "streamId", "channel"] j
  return {
    messageType := ← field fields "type" Json.str?
    streamId := ← field fields "streamId" u32?
    channel := ← field fields "channel" readChannel }

def PtyResizeSignal.deserialize (j : Json String) : Option PtyResizeSignal := do
  let fields ← structFields ["type", "cols", "rows"] j
  return {
    signalType := ← field fields "type" Json.str?
    cols := ← field fields "cols" u16?
    rows := ← field fields "rows" u16? }

def PtyStreamSignal.deserialize (j : Json String) : Option PtyStreamSignal := do
  let fields ← structFields ["type", "streamId", "signal"] j
  return {
    messageType := ← field fields "type" Json.str?
    streamId := ← field fields "streamId" u32?
    signal := ← field fields "signal" PtyResizeSignal.deserialize }

def StreamClose.deserialize (j : Json String) : Option StreamClose := do
  let fields ← structFields ["type", "streamId"] j
  return {
    messageType := ← field fields "type" Json.str?
    streamId := ← field fields "streamId" u32? }

def StreamWindow.deserialize (j : Json String) : Option StreamWindow := do
  let fields ← structFields ["type", "streamId", "bytes"] j
  return {
    messageType := ← field fields "type" Json.str?
    streamId := ← field fields "streamId" u32?
    bytes := ← field fields "bytes" usize? }

/-! ### Messages inside data frames -/

def ProcessListener.deserialize (j : Json String) : Option ProcessListener := do
  let fields ← structFields ["port", "bindAddress"] j
  return {
    port := ← field fields "port" u16?
    bindAddress := ← field fields "bindAddress" Json.str? }

def ProcessEntry.deserialize (j : Json String) : Option ProcessEntry := do
  let fields ← structFields ["pid", "command", "listeners"] j
  return {
    pid := ← field fields "pid" u32?
    command := ← optionField fields "command" Json.str?
    listeners := ← field fields "listeners" (list? ProcessListener.deserialize) }

def ProcessesRefresh.deserialize (j : Json String) : Option ProcessesRefresh := do
  let fields ← structFields ["type"] j
  return { messageType := ← field fields "type" Json.str? }

def ProcessesSnapshot.deserialize (j : Json String) : Option ProcessesSnapshot := do
  let fields ← structFields ["type", "observedAt", "processes"] j
  return {
    messageType := ← field fields "type" Json.str?
    observedAt := ← field fields "observedAt" Json.str?
    processes := ← field fields "processes" (list? ProcessEntry.deserialize) }

def FileSearchQuery.deserialize (j : Json String) : Option FileSearchQuery := do
  let fields ← structFields ["type", "requestId", "query", "limit"] j
  return {
    messageType := ← field fields "type" Json.str?
    requestId := ← field fields "requestId" Json.str?
    query := ← field fields "query" Json.str?
    limit := ← optionField fields "limit" usize? }

/-- A variant without data is its name, or an object from its name to `null`. -/
def variant? {α : Type} (variants : List (String × α)) : Json String → Option α
  | .str name => variants.lookup name
  | .obj [(name, .null)] => variants.lookup name
  | _ => none

def FileSearchResultKind.deserialize : Json String → Option FileSearchResultKind :=
  variant? [("file", .file), ("directory", .directory)]

def FileSearchResultItem.deserialize (j : Json String) : Option FileSearchResultItem := do
  let fields ← structFields ["path", "kind"] j
  return {
    path := ← field fields "path" Json.str?
    kind := ← field fields "kind" FileSearchResultKind.deserialize }

def FileSearchResults.deserialize (j : Json String) : Option FileSearchResults := do
  let fields ← structFields ["type", "requestId", "query", "items"] j
  return {
    messageType := ← field fields "type" Json.str?
    requestId := ← field fields "requestId" Json.str?
    query := ← field fields "query" Json.str?
    items := ← field fields "items" (list? FileSearchResultItem.deserialize) }

def FileSearchError.deserialize (j : Json String) : Option FileSearchError := do
  let fields ← structFields ["type", "requestId", "code", "message"] j
  return {
    messageType := ← field fields "type" Json.str?
    requestId := ← field fields "requestId" Json.str?
    code := ← field fields "code" Json.str?
    message := ← field fields "message" Json.str? }

def FileSearchSelect.deserialize (j : Json String) : Option FileSearchSelect := do
  let fields ← structFields ["type", "query", "path"] j
  return {
    messageType := ← field fields "type" Json.str?
    query := ← field fields "query" Json.str?
    path := ← field fields "path" Json.str? }

/-! ### Port access -/

def PortAccessTarget.deserialize (j : Json String) : Option PortAccessTarget := do
  let fields ← structFields ["kind", "port"] j
  return {
    kind := ← field fields "kind" Json.str?
    port := ← field fields "port" u16? }

def PortsTargetAuthorize.deserialize (j : Json String) : Option PortsTargetAuthorize := do
  let fields ← structFields ["type", "requestId", "target"] j
  return {
    messageType := ← field fields "type" Json.str?
    requestId := ← field fields "requestId" Json.str?
    target := ← field fields "target" PortAccessTarget.deserialize }

def RepeatedHeaderValues.deserialize : Json String → Option RepeatedHeaderValues
  | .obj fields => fields.mapM fun (name, values) => (list? Json.str? values).map (name, ·)
  | _ => none

def PortsTcpOpen.deserialize (j : Json String) : Option PortsTcpOpen := do
  let fields ← structFields ["type", "streamId", "target", "upstreamProtocol"] j
  return {
    messageType := ← field fields "type" Json.str?
    streamId := ← field fields "streamId" u32?
    target := ← field fields "target" PortAccessTarget.deserialize
    upstreamProtocol := ← field fields "upstreamProtocol" Json.str? }

def PortsTcpConnected.deserialize (j : Json String) : Option PortsTcpConnected := do
  let fields ← structFields ["type", "streamId"] j
  return {
    messageType := ← field fields "type" Json.str?
    streamId := ← field fields "streamId" u32? }

def PortsTcpClose.deserialize (j : Json String) : Option PortsTcpClose := do
  let fields ← structFields ["type", "streamId", "direction"] j
  return {
    messageType := ← field fields "type" Json.str?
    streamId := ← field fields "streamId" u32?
    direction := ← field fields "direction" Json.str? }

def PortsTcpError.deserialize (j : Json String) : Option PortsTcpError := do
  let fields ← structFields ["type", "streamId", "code", "message"] j
  return {
    messageType := ← field fields "type" Json.str?
    streamId := ← field fields "streamId" u32?
    code := ← field fields "code" Json.str?
    message := ← field fields "message" Json.str? }

def PortsHttpRequest.deserialize (j : Json String) : Option PortsHttpRequest := do
  let fields ← structFields ["method", "path", "query", "headers"] j
  return {
    method := ← field fields "method" Json.str?
    path := ← field fields "path" Json.str?
    query := ← optionField fields "query" Json.str?
    headers := ← field fields "headers" RepeatedHeaderValues.deserialize }

def PortsHttpOpen.deserialize (j : Json String) : Option PortsHttpOpen := do
  let fields ← structFields ["type", "streamId", "target", "upstreamProtocol", "request"] j
  return {
    messageType := ← field fields "type" Json.str?
    streamId := ← field fields "streamId" u32?
    target := ← field fields "target" PortAccessTarget.deserialize
    upstreamProtocol := ← field fields "upstreamProtocol" Json.str?
    request := ← field fields "request" PortsHttpRequest.deserialize }

def PortsHttpResponseStart.deserialize (j : Json String) : Option PortsHttpResponseStart := do
  let fields ← structFields ["type", "streamId", "status", "headers"] j
  return {
    messageType := ← field fields "type" Json.str?
    streamId := ← field fields "streamId" u32?
    status := ← field fields "status" u16?
    headers := ← field fields "headers" RepeatedHeaderValues.deserialize }

def PortsHttpBodyChunk.deserialize (j : Json String) : Option PortsHttpBodyChunk := do
  let fields ← structFields ["type", "streamId", "direction", "bytes", "encoding"] j
  return {
    messageType := ← field fields "type" Json.str?
    streamId := ← field fields "streamId" u32?
    direction := ← field fields "direction" Json.str?
    bytes := ← field fields "bytes" Json.str?
    encoding := ← field fields "encoding" Json.str? }

def PortsHttpBodyEnd.deserialize (j : Json String) : Option PortsHttpBodyEnd := do
  let fields ← structFields ["type", "streamId", "direction"] j
  return {
    messageType := ← field fields "type" Json.str?
    streamId := ← field fields "streamId" u32?
    direction := ← field fields "direction" Json.str? }

def PortsStreamClose.deserialize (j : Json String) : Option PortsStreamClose := do
  let fields ← structFields ["type", "streamId"] j
  return {
    messageType := ← field fields "type" Json.str?
    streamId := ← field fields "streamId" u32? }

def PortsStreamError.deserialize (j : Json String) : Option PortsStreamError := do
  let fields ← structFields ["type", "streamId", "code", "message"] j
  return {
    messageType := ← field fields "type" Json.str?
    streamId := ← field fields "streamId" u32?
    code := ← field fields "code" Json.str?
    message := ← field fields "message" Json.str? }

/-! ### Telemetry -/

def TelemetryOpenOk.deserialize (j : Json String) : Option TelemetryOpenOk := do
  let fields ← structFields ["type", "streamId", "initialWindowBytes"] j
  return {
    messageType := ← field fields "type" Json.str?
    streamId := ← field fields "streamId" u32?
    initialWindowBytes := ← field fields "initialWindowBytes" usize? }

def TelemetryOpenError.deserialize (j : Json String) : Option TelemetryOpenError := do
  let fields ← structFields ["type", "streamId", "code", "message"] j
  return {
    messageType := ← field fields "type" Json.str?
    streamId := ← field fields "streamId" u32?
    code := ← field fields "code" Json.str?
    message := ← field fields "message" Json.str? }

def TelemetryWindow.deserialize (j : Json String) : Option TelemetryWindow := do
  let fields ← structFields ["type", "streamId", "bytes"] j
  return {
    messageType := ← field fields "type" Json.str?
    streamId := ← field fields "streamId" u32?
    bytes := ← field fields "bytes" usize? }

def TelemetryReset.deserialize (j : Json String) : Option TelemetryReset := do
  let fields ← structFields ["type", "streamId", "code", "message"] j
  return {
    messageType := ← field fields "type" Json.str?
    streamId := ← field fields "streamId" u32?
    code := ← field fields "code" Json.str?
    message := ← field fields "message" Json.str? }

/-! ### Signing, egress tokens and PTY sessions -/

def SigningRequest.deserialize (j : Json String) : Option SigningRequest := do
  let fields ← structFields
    ["type", "requestId", "organizationId", "sandboxInstanceId", "actingUserId",
      "providerFamily", "integrationConnectionId", "format", "keyRef", "grant", "payload",
      "encoding"] j
  return {
    messageType := ← field fields "type" Json.str?
    requestId := ← field fields "requestId" Json.str?
    organizationId := ← field fields "organizationId" Json.str?
    sandboxInstanceId := ← field fields "sandboxInstanceId" Json.str?
    actingUserId := ← field fields "actingUserId" Json.str?
    providerFamily := ← field fields "providerFamily" Json.str?
    integrationConnectionId := ← optionField fields "integrationConnectionId" Json.str?
    format := ← field fields "format" Json.str?
    keyRef := ← field fields "keyRef" Json.str?
    grant := ← field fields "grant" Json.str?
    payload := ← field fields "payload" Json.str?
    encoding := ← field fields "encoding" Json.str? }

def SigningSuccessResult.deserialize (j : Json String) : Option SigningSuccessResult := do
  let fields ← structFields ["type", "requestId", "ok", "signature", "encoding"] j
  return {
    messageType := ← field fields "type" Json.str?
    requestId := ← field fields "requestId" Json.str?
    ok := ← field fields "ok" Json.bool?
    signature := ← field fields "signature" Json.str?
    encoding := ← field fields "encoding" Json.str? }

def SigningFailureResult.deserialize (j : Json String) : Option SigningFailureResult := do
  let fields ← structFields ["type", "requestId", "ok", "code", "message"] j
  return {
    messageType := ← field fields "type" Json.str?
    requestId := ← field fields "requestId" Json.str?
    ok := ← field fields "ok" Json.bool?
    code := ← field fields "code" Json.str?
    message := ← field fields "message" Json.str? }

def EgressTokenRequest.deserialize (j : Json String) : Option EgressTokenRequest := do
  let fields ← structFields ["type", "requestId", "actingUserId"] j
  return {
    messageType := ← field fields "type" Json.str?
    requestId := ← field fields "requestId" Json.str?
    actingUserId := ← optionField fields "actingUserId" Json.str? }

def EgressTokenResponse.deserialize (j : Json String) : Option EgressTokenResponse := do
  let fields ← structFields ["type", "requestId", "token", "expiresAt", "ttlMs"] j
  return {
    messageType := ← field fields "type" Json.str?
    requestId := ← field fields "requestId" Json.str?
    token := ← field fields "token" Json.str?
    expiresAt := ← field fields "expiresAt" Json.str?
    ttlMs := ← field fields "ttlMs" u64? }

def EgressTokenError.deserialize (j : Json String) : Option EgressTokenError := do
  let fields ← structFields ["type", "requestId", "code", "message"] j
  return {
    messageType := ← field fields "type" Json.str?
    requestId := ← field fields "requestId" Json.str?
    code := ← field fields "code" Json.str?
    message := ← field fields "message" Json.str? }

def PtySessionLaunchMode.deserialize : Json String → Option PtySessionLaunchMode :=
  variant? [("create", .create), ("attach", .attach)]

def PtySessionLaunch.deserialize (j : Json String) : Option PtySessionLaunch := do
  let fields ← structFields ["session", "cols", "rows", "cwd", "command", "args"] j
  return {
    session := ← field fields "session" PtySessionLaunchMode.deserialize
    cols := ← optionField fields "cols" u16?
    rows := ← optionField fields "rows" u16?
    cwd := ← optionField fields "cwd" Json.str?
    command := ← optionField fields "command" Json.str?
    args := ← optionField fields "args" (list? Json.str?) }

def PtySessionOpen.deserialize (j : Json String) : Option PtySessionOpen := do
  let fields ← structFields
    ["type", "requestId", "ptySessionId", "transportUrl", "transportToken", "launch"] j
  return {
    messageType := ← field fields "type" Json.str?
    requestId := ← field fields "requestId" Json.str?
    ptySessionId := ← field fields "ptySessionId" Json.str?
    transportUrl := ← field fields "transportUrl" Json.str?
    transportToken := ← field fields "transportToken" Json.str?
    launch := ← field fields "launch" PtySessionLaunch.deserialize }

def PtySessionOpened.deserialize (j : Json String) : Option PtySessionOpened := do
  let fields ← structFields ["type", "requestId", "ptySessionId"] j
  return {
    messageType := ← field fields "type" Json.str?
    requestId := ← field fields "requestId" Json.str?
    ptySessionId := ← field fields "ptySessionId" Json.str? }

def PtySessionError.deserialize (j : Json String) : Option PtySessionError := do
  let fields ← structFields ["type", "requestId", "ptySessionId", "code", "message"] j
  return {
    messageType := ← field fields "type" Json.str?
    requestId := ← field fields "requestId" Json.str?
    ptySessionId := ← field fields "ptySessionId" Json.str?
    code := ← field fields "code" Json.str?
    message := ← field fields "message" Json.str? }

end Mistle
