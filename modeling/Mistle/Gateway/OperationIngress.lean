import Mistle.Lib.Json
import Mistle.Lib.Program
import Mistle.Lib.Rows
import Mistle.SessionProtocol.DataFrame

/-!
# The Gateway's Operation Ingress

A sandbox reports on an operation over a stream of its bootstrap connection: lines of
JSON, each a lifecycle record or a piece of a transcript. The ingress service of the
gateway reads the lines and inserts a row for each of them, and of the transcript of
one operation it means to keep no more than a budget.

The deliveries of one connection are handled one after another, and those of different
connections at once. A delivery is a program: others go on while it waits for its turn
or for an insert, and the connection may be detached meanwhile. The model lets others go
on between any two lines of a frame, where the code goes on by itself from a line that
inserts nothing, so its runs are among those of the model.

A stream belongs to a session object, which a delivery holds on to although the service
may have let go of it, so objects are told apart from what the service finds by key.
What a delivery of a connection waits for is the delivery before it, by its number.

## Main definitions

* `parseOperationRecord`: What a line says.
* `BootstrapOperationSession`: The streams of one bootstrap connection.
* `SandboxOperationIngress`: The service, the table it inserts into and what it sent.
* `claimRecord`: Whether a line is inserted, and what it takes of the budget.
* `handleDelivery`: The program of a delivery.
* `ingressSystem`: The service, with the connections that are detached.
-/

namespace Mistle

namespace OperationIngress

/-- A text of an ASCII literal. -/
abbrev lit (s : String) : Text := s.toList

inductive SandboxOperationKind where
  | start
  | resume
  | setupCheck
  | snapshot
  | stop
  deriving DecidableEq

inductive SandboxLifecyclePhase where
  | provider
  | storageProvision
  | storageAttach
  | sandboxd
  | operationStream
  | gitIdentity
  | egress
  | runtimePlan
  | setupScript
  | runtimeProcesses
  | runtimeAdapters
  | agentEndpoint
  | ready
  | running
  | snapshot
  | stop
  | teardown
  deriving DecidableEq

inductive SandboxLifecycleStatus where
  | started
  | completed
  | failed
  | warning
  deriving DecidableEq

inductive SandboxOperationEventSource where
  | worker
  | gateway
  | sandboxd
  deriving DecidableEq

inductive SandboxOperationTranscriptStream where
  | stdout
  | stderr
  | system
  deriving DecidableEq

inductive OperationRecord where
  | lifecycle (attributes : List (Text × Json Text)) (message observedAt : Text)
      (phase : SandboxLifecyclePhase) (source : Option SandboxOperationEventSource)
      (status : SandboxLifecycleStatus)
  | transcript (observedAt : Text) (payloadBytes : List UInt8)
      (phase : Option SandboxLifecyclePhase) (source : Option SandboxOperationEventSource)
      (stream : SandboxOperationTranscriptStream)
  deriving DecidableEq

def maxOperationRecordBytes : Nat := 64 * 1024
def maxPersistedTranscriptBytesPerOperation : Nat := 1024 * 1024

/-! ### Lines -/

/-- What the runtime makes of bytes and of text: `TextDecoder.decode`, and `JSON.parse`
    with the last field of every key. -/
structure JsonLines where
  decode : List UInt8 → Text
  parse : Text → Option (Json Text)

def base64Alphabet : Text :=
  lit "ABCDEFGHIJKLMNOPQRSTUVWXYZabcdefghijklmnopqrstuvwxyz0123456789+/"

def base64Char (n : Nat) : Char :=
  base64Alphabet.getD n 'A'

def base64Value (c : Char) : Nat :=
  base64Alphabet.idxOf c

def toBase64 : List UInt8 → Text
  | [] => []
  | [a] => [base64Char (a.toNat / 4), base64Char (a.toNat % 4 * 16), '=', '=']
  | [a, b] => [base64Char (a.toNat / 4), base64Char (a.toNat % 4 * 16 + b.toNat / 16),
      base64Char (b.toNat % 16 * 4), '=']
  | a :: b :: c :: rest =>
    base64Char (a.toNat / 4) :: base64Char (a.toNat % 4 * 16 + b.toNat / 16) ::
      base64Char (b.toNat % 16 * 4 + c.toNat / 64) :: base64Char (c.toNat % 64) :: toBase64 rest

/-- The bytes of a text that `toBase64` writes. The runtime reads other texts too, which
    the comparison in `decodeBase64Payload` then rejects. -/
def fromBase64 : Text → List UInt8
  | a :: b :: '=' :: '=' :: _ => [.ofNat (base64Value a * 4 + base64Value b / 16)]
  | a :: b :: c :: '=' :: _ =>
    [.ofNat (base64Value a * 4 + base64Value b / 16),
      .ofNat (base64Value b % 16 * 16 + base64Value c / 4)]
  | a :: b :: c :: d :: rest =>
    .ofNat (base64Value a * 4 + base64Value b / 16) ::
      .ofNat (base64Value b % 16 * 16 + base64Value c / 4) ::
      .ofNat (base64Value c % 4 * 64 + base64Value d) :: fromBase64 rest
  | _ => []

abbrev Record := List (Text × Json Text)

def readString (record : Record) (key : String) : Except String Text :=
  match (Json.obj record).get? (lit key) with
  | some (.str value) => .ok value
  | _ => .error s!"Operation record field '{key}' must be a string."

def readNonEmptyString (record : Record) (key : String) : Except String Text := do
  let value ← readString record key
  if value.length = 0 then
    throw s!"Operation record field '{key}' must be non-empty."
  return value

def readOptionalNonEmptyString (record : Record) (key : String) : Except String (Option Text) :=
  match (Json.obj record).get? (lit key) with
  | none => .ok none
  | some _ => (readNonEmptyString record key).map some

/-- The value that a text stands for, of those that are supported. -/
def readSupported {α : Type} (values : List (String × α)) (what key : String) (value : Text) :
    Except String α :=
  match values.find? fun entry => lit entry.1 == value with
  | some entry => .ok entry.2
  | none => .error s!"Operation record field '{key}' is not a supported {what}."

def lifecyclePhases : List (String × SandboxLifecyclePhase) :=
  [("provider", .provider), ("storage_provision", .storageProvision),
    ("storage_attach", .storageAttach), ("sandboxd", .sandboxd),
    ("operation_stream", .operationStream), ("git_identity", .gitIdentity), ("egress", .egress),
    ("runtime_plan", .runtimePlan), ("setup_script", .setupScript),
    ("runtime_processes", .runtimeProcesses), ("runtime_adapters", .runtimeAdapters),
    ("agent_endpoint", .agentEndpoint), ("ready", .ready), ("running", .running),
    ("snapshot", .snapshot), ("stop", .stop), ("teardown", .teardown)]

def readLifecyclePhase (record : Record) (key : String) : Except String SandboxLifecyclePhase := do
  readSupported lifecyclePhases "lifecycle phase" key (← readNonEmptyString record key)

def readLifecycleStatus (record : Record) (key : String) :
    Except String SandboxLifecycleStatus := do
  readSupported [("started", .started), ("completed", .completed), ("failed", .failed),
    ("warning", .warning)] "lifecycle status" key (← readNonEmptyString record key)

def readOptionalOperationSource (record : Record) (key : String) :
    Except String (Option SandboxOperationEventSource) := do
  match ← readOptionalNonEmptyString record key with
  | none => return none
  | some value =>
    some <$> readSupported [("worker", .worker), ("gateway", .gateway), ("sandboxd", .sandboxd)]
      "source" key value

def readTranscriptStream (record : Record) (key : String) :
    Except String SandboxOperationTranscriptStream := do
  readSupported [("stdout", .stdout), ("stderr", .stderr), ("system", .system)]
    "transcript stream" key (← readNonEmptyString record key)

def readRecordAttributes (record : Record) : Except String (List (Text × Json Text)) :=
  match (Json.obj record).get? (lit "attributes") with
  | none => .ok []
  | some (.obj attributes) => .ok attributes
  | some _ => .error "Lifecycle operation record attributes must be an object."

def decodeBase64Payload (value : Text) : Except String (List UInt8) :=
  let buffer := fromBase64 value
  if buffer.length = 0 ∨ toBase64 buffer ≠ value then
    .error "Transcript operation record payloadBase64 must contain valid base64 bytes."
  else .ok buffer

def parseOperationRecord (json : JsonLines) (line : Text) : Except String OperationRecord :=
  match json.parse line with
  | none => .error "Operation record is not JSON."
  | some (.obj record) =>
    match (Json.obj record).get? (lit "kind") with
    | some (.str kind) =>
      if kind = lit "lifecycle" then do
        let source ← readOptionalOperationSource record "source"
        let observedAt ← readNonEmptyString record "observedAt"
        let phase ← readLifecyclePhase record "phase"
        let status ← readLifecycleStatus record "status"
        let message ← readString record "message"
        let attributes ← readRecordAttributes record
        return .lifecycle attributes message observedAt phase source status
      else if kind = lit "transcript" then do
        let payloadBase64 ← readNonEmptyString record "payloadBase64"
        let source ← readOptionalOperationSource record "source"
        let observedAt ← readNonEmptyString record "observedAt"
        let payloadBytes ← decodeBase64Payload payloadBase64
        let phase ← match (Json.obj record).get? (lit "phase") with
          | some .null => pure none
          | _ => some <$> readLifecyclePhase record "phase"
        let stream ← readTranscriptStream record "stream"
        return .transcript observedAt payloadBytes phase source stream
      else .error "Operation record kind must be lifecycle or transcript."
    | _ => .error "Operation record kind must be lifecycle or transcript."
  | some _ => .error "Operation record must be a JSON object."

/-- The bytes that a record has of the transcript. -/
def OperationRecord.transcriptBytes : OperationRecord → Nat
  | .lifecycle .. => 0
  | .transcript _ payloadBytes _ _ _ => payloadBytes.length

/-- The bytes of a text in UTF-8. -/
def utf8ByteLength (text : Text) : Nat :=
  (text.map Char.utf8Size).sum

/-! ### Control messages and sessions -/

inductive OperationControlMessage where
  | openOk (streamId initialWindowBytes : Nat)
  | openError (streamId : Nat) (code message : String)
  | reset (streamId : Nat) (code message : String)
  | window (streamId bytes : Nat)
  deriving DecidableEq

structure ActiveBootstrapOperationStream where
  consumedSinceLastWindowGrantBytes : Nat
  operationId : Text
  operationKind : SandboxOperationKind
  remainingWindowBytes : Nat
  streamId : Nat
  deriving DecidableEq

def operationWindowGrantBatchBytes : Nat := 16 * 1024
def operationStreamFormat : Text := lit "mistle.sandbox-operation.v1+jsonl"
def operationStreamId : Nat := 0xfffffffd

structure OperationOpen where
  streamId : Nat
  operationId : Text
  operationKind : SandboxOperationKind
  format : Text
  deriving DecidableEq

/-- The streams of one bootstrap connection, by id. -/
structure BootstrapOperationSession where
  streamsById : List ActiveBootstrapOperationStream
  initialWindowBytes : Nat
  windowGrantBatchBytes : Nat
  deriving DecidableEq

namespace BootstrapOperationSession

def new : BootstrapOperationSession where
  streamsById := []
  initialWindowBytes := defaultStreamWindowBytes
  windowGrantBatchBytes := operationWindowGrantBatchBytes

def stream? (session : BootstrapOperationSession) (streamId : Nat) :
    Option ActiveBootstrapOperationStream :=
  findRow ActiveBootstrapOperationStream.streamId streamId session.streamsById

/-- Open a stream, or answer why not. -/
def openStream (session : BootstrapOperationSession) (input : OperationOpen) :
    Except OperationControlMessage BootstrapOperationSession :=
  if input.streamId ≠ operationStreamId then
    .error (.openError input.streamId "unsupported_operation_stream"
      s!"Operation stream {input.streamId} is not reserved for sandbox operation records.")
  else if input.format ≠ operationStreamFormat then
    .error (.openError input.streamId "unsupported_operation_stream"
      s!"Operation stream format '{String.ofList input.format}' is not supported.")
  else if (session.stream? input.streamId).isSome then
    .error (.openError input.streamId "operation_stream_already_open"
      s!"Operation stream {input.streamId} is already open.")
  else
    .ok { session with
      streamsById := session.streamsById ++ [{
        consumedSinceLastWindowGrantBytes := 0
        operationId := input.operationId
        operationKind := input.operationKind
        remainingWindowBytes := session.initialWindowBytes
        streamId := input.streamId }] }

def closeStream (session : BootstrapOperationSession) (streamId : Nat) :
    BootstrapOperationSession × Option ActiveBootstrapOperationStream :=
  ({ session with
      streamsById := session.streamsById.filter fun stream => stream.streamId != streamId },
    session.stream? streamId)

/-- Take a payload off the stream's window, or close the stream. -/
def consumeWindow (session : BootstrapOperationSession) (payloadByteLength streamId : Nat) :
    BootstrapOperationSession ×
      Except (OperationControlMessage × Option ActiveBootstrapOperationStream)
        ActiveBootstrapOperationStream :=
  match session.stream? streamId with
  | none =>
    (session, .error (.reset streamId "operation_stream_not_found"
      s!"Operation stream {streamId} is not open on this bootstrap session.", none))
  | some stream =>
    if payloadByteLength > stream.remainingWindowBytes then
      ((session.closeStream stream.streamId).1,
        .error (.reset streamId "operation_window_exhausted"
          s!"Operation stream {streamId} exhausted its receive window.", some stream))
    else
      let consumed := { stream with
        remainingWindowBytes := stream.remainingWindowBytes - payloadByteLength
        consumedSinceLastWindowGrantBytes :=
          stream.consumedSinceLastWindowGrantBytes + payloadByteLength }
      ({ session with
          streamsById := updateRows (fun other => other.streamId == streamId) (fun _ => consumed)
            session.streamsById }, .ok consumed)

/-- Give back the window that was consumed, once that is worth a message. -/
def grantWindowIfNeeded (session : BootstrapOperationSession) (streamId : Nat) :
    BootstrapOperationSession × Option OperationControlMessage :=
  match session.stream? streamId with
  | none => (session, none)
  | some stream =>
    if stream.consumedSinceLastWindowGrantBytes < session.windowGrantBatchBytes then
      (session, none)
    else
      let granted := { stream with
        consumedSinceLastWindowGrantBytes := 0
        remainingWindowBytes :=
          stream.remainingWindowBytes + stream.consumedSinceLastWindowGrantBytes }
      ({ session with
          streamsById := updateRows (fun other => other.streamId == streamId) (fun _ => granted)
            session.streamsById },
        some (.window streamId stream.consumedSinceLastWindowGrantBytes))

def streamCount (session : BootstrapOperationSession) : Nat :=
  session.streamsById.length

end BootstrapOperationSession

/-! ### The service -/

inductive OperationDelivery where
  | operationOpen (message : OperationOpen)
  | operationClose (streamId : Nat)
  | operationData (payload : List UInt8) (streamId : Nat)
  | operationInvalidData (payloadKind streamId : Nat)
  deriving DecidableEq

structure SessionKeyInput where
  relaySessionId : Text
  sandboxInstanceId : Text
  deriving DecidableEq

def toSessionKey (input : SessionKeyInput) : Text :=
  input.sandboxInstanceId ++ lit ":" ++ input.relaySessionId

def toOperationKey (sandboxInstanceId operationId : Text) : Text :=
  sandboxInstanceId ++ lit ":" ++ operationId

/-- A row of the operation events. -/
structure SandboxOperationEvent where
  sandboxInstanceId : Text
  operationKind : SandboxOperationKind
  operationId : Text
  source : SandboxOperationEventSource
  record : OperationRecord
  deriving DecidableEq

/-- The service: the deliveries of every connection that others wait for, by number, the
    session objects and what finds them, and the bytes counted for every operation. Next
    to it the rows inserted and the messages sent. -/
structure SandboxOperationIngress where
  deliveryChains : Text → Option Nat
  deliveries : Nat
  settled : List Nat
  sessions : Text → Option Nat
  sessionObjects : List BootstrapOperationSession
  persistedTranscriptBytesByOperation : Text → Option Nat
  sandboxOperationEvents : List SandboxOperationEvent
  sent : List (SessionKeyInput × OperationControlMessage)

namespace SandboxOperationIngress

def new : SandboxOperationIngress where
  deliveryChains _ := none
  deliveries := 0
  settled := []
  sessions _ := none
  sessionObjects := []
  persistedTranscriptBytesByOperation _ := none
  sandboxOperationEvents := []
  sent := []

def sendControlMessage (s : SandboxOperationIngress) (input : SessionKeyInput)
    (message : OperationControlMessage) : SandboxOperationIngress :=
  { s with sent := s.sent ++ [(input, message)] }

/-- The object behind a reference. -/
def object (s : SandboxOperationIngress) (ref : Nat) : BootstrapOperationSession :=
  s.sessionObjects.getD ref .new

def setObject (s : SandboxOperationIngress) (ref : Nat) (session : BootstrapOperationSession) :
    SandboxOperationIngress :=
  { s with sessionObjects := s.sessionObjects.set ref session }

def deleteSession (s : SandboxOperationIngress) (sessionKey : Text) : SandboxOperationIngress :=
  { s with sessions := Function.update s.sessions sessionKey none }

def deleteSessionIfEmpty (s : SandboxOperationIngress) (sessionKey : Text) (ref : Nat) :
    SandboxOperationIngress :=
  if (s.object ref).streamCount = 0 then s.deleteSession sessionKey else s

def clearTranscriptBudget (s : SandboxOperationIngress) (sandboxInstanceId : Text)
    (stream : ActiveBootstrapOperationStream) : SandboxOperationIngress :=
  { s with
    persistedTranscriptBytesByOperation := Function.update s.persistedTranscriptBytesByOperation
      (toOperationKey sandboxInstanceId stream.operationId) none }

/-- Clear the budget of a stream that was there to be closed. -/
def clearClosed (s : SandboxOperationIngress) (sandboxInstanceId : Text) :
    Option ActiveBootstrapOperationStream → SandboxOperationIngress
  | none => s
  | some stream => s.clearTranscriptBudget sandboxInstanceId stream

/-- Close a stream of a session object, with its budget. -/
def closeStream (s : SandboxOperationIngress) (sandboxInstanceId : Text) (ref streamId : Nat) :
    SandboxOperationIngress :=
  let closed := (s.object ref).closeStream streamId
  (s.setObject ref closed.1).clearClosed sandboxInstanceId closed.2

/-- The session object that a stream is opened in. A new one is not found by its key yet. -/
def sessionForOpen (s : SandboxOperationIngress) (input : SessionKeyInput) :
    SandboxOperationIngress × Nat :=
  match s.sessions (toSessionKey input) with
  | some ref => (s, ref)
  | none =>
    ({ s with sessionObjects := s.sessionObjects ++ [BootstrapOperationSession.new] },
      s.sessionObjects.length)

/-- `handleOpen` with its session object. -/
def openIn (s : SandboxOperationIngress) (input : SessionKeyInput) (message : OperationOpen)
    (ref : Nat) : SandboxOperationIngress :=
  match (s.object ref).openStream message with
  | .error response =>
    (s.sendControlMessage input response).deleteSessionIfEmpty (toSessionKey input) ref
  | .ok opened =>
    ({ s.setObject ref opened with
        sessions := Function.update s.sessions (toSessionKey input) (some ref)
      }).sendControlMessage input
        (.openOk message.streamId (s.object ref).initialWindowBytes)

def handleOpen (s : SandboxOperationIngress) (input : SessionKeyInput) (message : OperationOpen) :
    SandboxOperationIngress :=
  (s.sessionForOpen input).1.openIn input message (s.sessionForOpen input).2

/-- Where a delivery is once it has run up to its first line. -/
inductive Processed where
  | done
  | threw (message : String)
  | persisting (ref : Nat) (stream : ActiveBootstrapOperationStream) (lines : List Text)

/-- The part of `handleData` before its lines are read. -/
def startData (json : JsonLines) (s : SandboxOperationIngress) (input : SessionKeyInput)
    (payload : List UInt8) (streamId ref : Nat) : SandboxOperationIngress × Processed :=
  match SessionProtocol.decodeDataFrame payload with
  | .error message => (s, .threw message)
  | .ok frame =>
    match (s.object ref).consumeWindow frame.payload.length streamId with
    | (session, .error (response, stream)) =>
      ((((s.setObject ref session).clearClosed input.sandboxInstanceId stream).sendControlMessage
        input response).deleteSessionIfEmpty (toSessionKey input) ref, .done)
    | (session, .ok stream) =>
      (s.setObject ref session, .persisting ref stream
        (((json.decode frame.payload).splitOn '\n').filter fun line => line.length > 0))

def processDelivery (json : JsonLines) (s : SandboxOperationIngress) (input : SessionKeyInput) :
    OperationDelivery → SandboxOperationIngress × Processed
  | .operationOpen message => (s.handleOpen input message, .done)
  | .operationClose streamId =>
    match s.sessions (toSessionKey input) with
    | none => (s, .done)
    | some ref =>
      ((s.closeStream input.sandboxInstanceId ref streamId).deleteSessionIfEmpty
        (toSessionKey input) ref, .done)
  | .operationData payload streamId =>
    match s.sessions (toSessionKey input) with
    | none => (s.sendControlMessage input (.reset streamId "operation_stream_not_found"
        s!"Operation stream {streamId} is not open on this bootstrap session."), .done)
    | some ref => s.startData json input payload streamId ref
  | .operationInvalidData _ streamId =>
    match s.sessions (toSessionKey input) with
    | none => (s.sendControlMessage input (.reset streamId "operation_stream_not_found"
        s!"Operation stream {streamId} is not open on this bootstrap session."), .done)
    | some ref =>
      (((s.closeStream input.sandboxInstanceId ref streamId).sendControlMessage input
        (.reset streamId "invalid_operation_payload_kind"
          "Operation streams only accept raw-bytes payloads.")).deleteSessionIfEmpty
        (toSessionKey input) ref, .done)

/-- The bytes counted for an operation. -/
def countedBytes (s : SandboxOperationIngress) (operationKey : Text) : Nat :=
  (s.persistedTranscriptBytesByOperation operationKey).getD 0

/-- Read a line, and count its bytes of the transcript if they are within the budget.
    `none` says that the line is passed over. -/
def claimRecord (json : JsonLines) (s : SandboxOperationIngress) (sandboxInstanceId : Text)
    (stream : ActiveBootstrapOperationStream) (line : Text) :
    SandboxOperationIngress × Except String (Option OperationRecord) :=
  if utf8ByteLength line > maxOperationRecordBytes then (s, .ok none)
  else match parseOperationRecord json line with
    | .error message => (s, .error message)
    | .ok record =>
      let transcriptBytes := record.transcriptBytes
      if transcriptBytes > 0 then
        let operationKey := toOperationKey sandboxInstanceId stream.operationId
        let persistedBytes := s.countedBytes operationKey
        if persistedBytes + transcriptBytes > maxPersistedTranscriptBytesPerOperation then
          (s, .ok none)
        else
          ({ s with
              persistedTranscriptBytesByOperation :=
                Function.update s.persistedTranscriptBytesByOperation operationKey
                  (some (persistedBytes + transcriptBytes)) }, .ok (some record))
      else (s, .ok (some record))

def OperationRecord.source? : OperationRecord → Option SandboxOperationEventSource
  | .lifecycle _ _ _ _ source _ => source
  | .transcript _ _ _ source _ => source

def insertRow (s : SandboxOperationIngress) (sandboxInstanceId : Text)
    (stream : ActiveBootstrapOperationStream) (record : OperationRecord) :
    SandboxOperationIngress :=
  { s with
    sandboxOperationEvents := s.sandboxOperationEvents ++ [{
      sandboxInstanceId
      operationKind := stream.operationKind
      operationId := stream.operationId
      source := (OperationRecord.source? record).getD .sandboxd
      record }] }

/-- The transaction of an insert, which may fail, or commit without an answer. -/
def insertSandboxOperationEvent (s : SandboxOperationIngress) (sandboxInstanceId : Text)
    (stream : ActiveBootstrapOperationStream) (record : OperationRecord) :
    StatementAnswer → SandboxOperationIngress × Except String Unit
  | .arrives => (s.insertRow sandboxInstanceId stream record, .ok ())
  | .fails message => (s, .error message)
  | .lost message => (s.insertRow sandboxInstanceId stream record, .error message)

/-- What `handleData` does about records that could not be read or inserted. -/
def ingestFailed (s : SandboxOperationIngress) (input : SessionKeyInput) (ref streamId : Nat) :
    SandboxOperationIngress :=
  ((s.closeStream input.sandboxInstanceId ref streamId).sendControlMessage input
    (.reset streamId "operation_ingest_failed"
      "Gateway failed to ingest operation records.")).deleteSessionIfEmpty (toSessionKey input) ref

/-- What `handleData` does once its records are inserted. -/
def replenishWindow (s : SandboxOperationIngress) (input : SessionKeyInput) (ref streamId : Nat) :
    SandboxOperationIngress :=
  match (s.object ref).grantWindowIfNeeded streamId with
  | (session, none) => s.setObject ref session
  | (session, some message) => (s.setObject ref session).sendControlMessage input message

/-- Close all streams of a session object, with their budgets. -/
def closeAllStreams (s : SandboxOperationIngress) (sandboxInstanceId : Text) (ref : Nat) :
    SandboxOperationIngress :=
  ((s.object ref).streamsById.foldl (clearTranscriptBudget · sandboxInstanceId ·) s).setObject ref
    { s.object ref with streamsById := [] }

def detachBootstrapSession (s : SandboxOperationIngress) (input : SessionKeyInput) :
    SandboxOperationIngress :=
  match s.sessions (toSessionKey input) with
  | none => { s with deliveryChains := Function.update s.deliveryChains (toSessionKey input) none }
  | some ref =>
    { (s.closeAllStreams input.sandboxInstanceId ref).deleteSession (toSessionKey input) with
      deliveryChains := Function.update s.deliveryChains (toSessionKey input) none }

def shutdown (s : SandboxOperationIngress) : SandboxOperationIngress :=
  { s with
    deliveryChains := fun _ => none
    sessions := fun _ => none
    persistedTranscriptBytesByOperation := fun _ => none }

end SandboxOperationIngress

open SandboxOperationIngress (Processed)

/-! ### Deliveries -/

inductive IngressOp where
  | previousSettles (previous : Option Nat)
  | processDelivery
  | claimRecord (sandboxInstanceId : Text) (stream : ActiveBootstrapOperationStream) (line : Text)
  | insertSandboxOperationEvent (sandboxInstanceId : Text)
      (stream : ActiveBootstrapOperationStream) (record : OperationRecord)
  | ingestFailed (ref streamId : Nat)
  | replenishWindow (ref streamId : Nat)
  | settle (delivery : Nat)
  | unchain (delivery : Nat)

abbrev IngressRes : IngressOp → Type
  | .processDelivery => Processed
  | .claimRecord .. => Except String (Option OperationRecord)
  | .insertSandboxOperationEvent .. => Except String Unit
  | _ => Unit

abbrev IngressProgram : Type → Type := Program IngressOp IngressRes

def persistRecords (sandboxInstanceId : Text) (stream : ActiveBootstrapOperationStream) :
    List Text → IngressProgram (Except String Unit)
  | [] => .done (.ok ())
  | line :: lines => .perform (.claimRecord sandboxInstanceId stream line) fun
    | .error message => .done (.error message)
    | .ok none => persistRecords sandboxInstanceId stream lines
    | .ok (some record) =>
      .perform (.insertSandboxOperationEvent sandboxInstanceId stream record) fun
        | .error message => .done (.error message)
        | .ok () => persistRecords sandboxInstanceId stream lines

/-- `handleData` from its lines on. -/
def handleLines (sandboxInstanceId : Text) (ref : Nat) (stream : ActiveBootstrapOperationStream)
    (lines : List Text) : IngressProgram (Except String Unit) :=
  (persistRecords sandboxInstanceId stream lines).bind fun
    | .error _ => .perform (.ingestFailed ref stream.streamId) fun _ => .done (.ok ())
    | .ok () => .perform (.replenishWindow ref stream.streamId) fun _ => .done (.ok ())

/-- `processDelivery` from where it has run up to its first line. -/
def goOn (sandboxInstanceId : Text) : Processed → IngressProgram (Except String Unit)
  | .done => .done (.ok ())
  | .threw message => .done (.error message)
  | .persisting ref stream lines => handleLines sandboxInstanceId ref stream lines

def handleDelivery (sandboxInstanceId : Text) (delivery : Nat) (previous : Option Nat) :
    IngressProgram (Except String Unit) :=
  .perform (.previousSettles previous) fun _ =>
    .perform .processDelivery fun r =>
      (goOn sandboxInstanceId r).bind fun result =>
        .perform (.settle delivery) fun _ =>
          .perform (.unchain delivery) fun _ => .done result

structure IngressCall where
  key : SessionKeyInput
  delivery : OperationDelivery

/-- What happens to the service besides deliveries. -/
inductive IngressEvent where
  | detachBootstrapSession (input : SessionKeyInput)
  | shutdown

def performIngress (json : JsonLines) (call : IngressCall) (answer : StatementAnswer)
    (s : SandboxOperationIngress) :
    (op : IngressOp) → Option (SandboxOperationIngress × IngressRes op)
  | .previousSettles previous =>
    if ∀ delivery ∈ previous, delivery ∈ s.settled then some (s, ()) else none
  | .processDelivery => some (s.processDelivery json call.key call.delivery)
  | .claimRecord sandboxInstanceId stream line =>
    some (s.claimRecord json sandboxInstanceId stream line)
  | .insertSandboxOperationEvent sandboxInstanceId stream record =>
    some (s.insertSandboxOperationEvent sandboxInstanceId stream record answer)
  | .ingestFailed ref streamId => some (s.ingestFailed call.key ref streamId, ())
  | .replenishWindow ref streamId => some (s.replenishWindow call.key ref streamId, ())
  | .settle delivery => some ({ s with settled := delivery :: s.settled }, ())
  | .unchain delivery =>
    if s.deliveryChains (toSessionKey call.key) = some delivery then
      some ({ s with
        deliveryChains := Function.update s.deliveryChains (toSessionKey call.key) none }, ())
    else some (s, ())

/-- The ingress service among the connections it serves. -/
def ingressSystem (json : JsonLines) :
    System SandboxOperationIngress IngressEvent IngressCall StatementAnswer (Except String Unit)
      IngressOp IngressRes where
  outside event s := some (match event with
    | .detachBootstrapSession input => s.detachBootstrapSession input
    | .shutdown => s.shutdown)
  start call s :=
    some ({ s with
        deliveries := s.deliveries + 1
        deliveryChains :=
          Function.update s.deliveryChains (toSessionKey call.key) (some s.deliveries) },
      handleDelivery call.key.sandboxInstanceId s.deliveries
        (s.deliveryChains (toSessionKey call.key)))
  perform call op answer s := performIngress json call answer s op
  again _ _ := none

/-- The service before its first delivery. -/
def ingressPool : Pool SandboxOperationIngress IngressCall (Except String Unit) IngressOp
    IngressRes :=
  ⟨.new, []⟩

end OperationIngress

end Mistle
