import Mistle.Tunnel.FileSearch
import Mistle.Tunnel.FileUpload
import Mistle.Tunnel.PortAccess
import Mistle.Tunnel.Process
import Mistle.Tunnel.Requests

/-!
# The Session Router

The router takes one event or request at a time and hands it to the handler of
its kind. A text of the gateway is offered to one parser after another: the
telemetry relay, port access, signing, egress tokens, the operation stream, PTY
sessions, and last the stream control messages. A text that a parser claims and
rejects is dropped with a log record.

Handlers may fail, and a failure is not confined to a stream: it leaves the
router as the error of the whole step, and the session ends.

## Main definitions

* `handleTunnelControlMessage`: Opening, crediting and closing streams.
* `handleTunnelBinaryFrame`: Data frames.
* `handleBootstrapText`, `handleBootstrapBinary`: Messages of the gateway.
* `handleTunnelSessionEvent`, `handleTunnelSessionRequest`: The router.
-/

namespace Mistle

open Handler

section

variable (context : TunnelSessionLoopContext) (world : World)

/-! ### Control messages -/

/-- Refuse to open a stream whose id is taken; `true` if it was. -/
def rejectDuplicateTunnelStreamOpen (streamId : StreamId) : Session Bool := do
  let st ← get
  if portAccessStreamIsActive st streamId then
    writeTunnelText (.streamOpenError streamId connectErrorCodeInvalidConnectRequest
      s!"stream.open streamId {streamId} already exists")
    return true
  else return false

/-- Open a stream unless its id is taken. -/
def openUnlessDuplicate (streamId : StreamId) (openStream : Session Unit) : Session Unit := do
  if ← rejectDuplicateTunnelStreamOpen streamId then return ()
  else openStream

def openAgentStream (message : AgentStreamOpen) : Session Unit := do
  let st ← get
  match st.agentEndpointUrl with
  | none =>
      writeTunnelText (.streamOpenError message.streamId connectErrorCodeAgentEndpointDialFailed
        "agent runtime endpoint is not available")
  | some runtimeEndpointUrl =>
    emit (.task (.spawnAgentDial message.streamId runtimeEndpointUrl))
    modify fun st => { st with
      pendingAgentOpens := st.pendingAgentOpens.insert message.streamId () }

def openExecStream (message : ExecStreamOpen) : Session Unit := do
  let st ← get
  modify fun st => { st with pendingExecOpens := st.pendingExecOpens.insert message.streamId () }
  emit (.task (.spawnExec message st.runtimeEnv))
  writeTunnelText (.streamOpenOk message.streamId)

/-- Drop the entry of a pending open and stop its task; `false` if there is none. -/
def abortPendingAgentOpen (streamId : StreamId) : Session Bool := do
  let st ← get
  match st.pendingAgentOpens[streamId]? with
  | none => return false
  | some _ =>
    modify fun st => { st with pendingAgentOpens := st.pendingAgentOpens.erase streamId }
    emit (.task (.abortAgentDial streamId))
    return true

/-- Close an agent stream; `false` if there is none. -/
def closeAgentStream (streamId : StreamId) : Session Bool := do
  let removed ← removeAgentStreamAndPublishSummary context world streamId
    { outcome := agentStreamOutcomeClosed
      closeSource := agentStreamCloseSourceGateway
      resetCode := none
      reason := none }
  match removed with
  | none => return false
  | some _ =>
    emit (.task (.agent streamId .close))
    return true

/-- Close a file search stream; `false` if there is none. -/
def closeFileSearchStreamOfGateway (streamId : StreamId) : Session Bool := do
  let st ← get
  match st.fileSearchStreams[streamId]? with
  | none => return false
  | some _ =>
    closeFileSearchStream context world streamId
      { outcome := fileSearchOutcomeClosed
        closeSource := fileSearchCloseSourceGateway
        reason := none }
    return true

/-- Cancel a command under way; `false` if there is none. -/
def cancelPendingExecOpen (streamId : StreamId) : Session Bool := do
  let st ← get
  match st.pendingExecOpens[streamId]? with
  | none => return false
  | some _ =>
    modify fun st => { st with pendingExecOpens := st.pendingExecOpens.erase streamId }
    emit (.task (.cancelExec streamId))
    return true

/-- Finish an upload; `false` if there is none. -/
def closeFileUpload (streamId : StreamId) : Session Bool := do
  let st ← get
  match st.fileUploads[streamId]? with
  | none => return false
  | some uploadState =>
    modify fun st => { st with fileUploads := st.fileUploads.erase streamId }
    finalizeFileUpload world streamId uploadState
    return true

/-- The steps in turn, up to the first that answers `true`. -/
def firstOf : List (Session Bool) → Session Bool
  | [] => return false
  | step :: rest => do
    if ← step then return true
    else firstOf rest

def handleStreamClose (streamId : StreamId) : Session Unit := do
  if ← firstOf [abortPendingAgentOpen streamId, closeAgentStream context world streamId,
      closeProcessStream streamId, closeFileSearchStreamOfGateway context world streamId,
      cancelPendingExecOpen streamId, closeFileUpload world streamId] then return ()
  else writeTunnelText (.streamReset streamId streamResetCodeInvalidStreamClose
    s!"stream.close streamId {streamId} is not bound to an active tunnel stream")

/-- Credit of the gateway; `false` if the stream is no file search stream. -/
def addFileSearchStreamWindow (streamId : StreamId) (bytes : Nat) : Session Bool := do
  let st ← get
  match st.fileSearchStreams[streamId]? with
  | none => return false
  | some state =>
    match state.sendWindow.add bytes with
    | .error error => throw (.parseControl error.message)
    | .ok window =>
      modify fun st => { st with
        fileSearchStreams := st.fileSearchStreams.modify streamId fun state =>
          { state with sendWindow := window } }
      return true

/-- Credit for a TCP stream goes to its task; `false` if there is none. -/
def forwardTcpWindow (streamId : StreamId) (bytes : Nat) : Session Bool := do
  let st ← get
  match st.portAccessTcpStreams[streamId]? with
  | none => return false
  | some _ =>
    sendTcpCommand world streamId (.window bytes)
    return true

/-- Credit for a stream that is still opening is ignored. -/
def isPendingOpen (streamId : StreamId) : Session Bool := do
  let st ← get
  return st.pendingAgentOpens.contains streamId || st.pendingExecOpens.contains streamId

def handleStreamWindow (streamId : StreamId) (bytes : Nat) : Session Unit := do
  if ← firstOf [addAgentStreamWindowCredit streamId bytes world.nowMs,
      addProcessStreamWindow streamId bytes, addFileSearchStreamWindow streamId bytes,
      forwardTcpWindow world streamId bytes, isPendingOpen streamId] then return ()
  else writeTunnelText (.streamReset streamId streamResetCodeInvalidStreamWindow
    s!"stream.window streamId {streamId} is not bound to an active tunnel stream")

def handleTunnelControlMessage (message : StreamControlMessage) : Session Unit :=
  match message with
  | .openAgent message => openUnlessDuplicate message.streamId (openAgentStream message)
  | .openProcesses message =>
      openUnlessDuplicate message.streamId (openProcessStream context world message.streamId)
  | .openFileUpload message =>
      openUnlessDuplicate message.streamId (openFileUpload context world message)
  | .openExec message => openUnlessDuplicate message.streamId (openExecStream message)
  | .openFileSearch message =>
      openUnlessDuplicate message.streamId (openFileSearchStream context world message)
  | .signal message =>
      writeTunnelText (.streamReset message.streamId streamResetCodeInvalidStreamSignal
        "stream.signal is not supported on bootstrap tunnel streams")
  | .close message => handleStreamClose context world message.streamId
  | .window message => handleStreamWindow world message.streamId message.bytes

/-! ### Data frames -/

def handleTunnelBinaryFrame (frame : StreamDataFrame) : Session Unit := do
  let st ← get
  if st.agentStreams.contains frame.streamId then
    forwardGatewayFrameToAgent context world frame
  else if st.processStreams.sendWindows.contains frame.streamId then
    handleProcessStreamFrame context world frame
  else if st.fileSearchStreams.contains frame.streamId then
    handleFileSearchFrame context world frame
  else if st.portAccessTcpStreams.contains frame.streamId then
    handlePortAccessTcpDataFrame world frame
  else if st.fileUploads.contains frame.streamId then
    handleFileUploadFrame world frame
  else
    writeTunnelText (.streamReset frame.streamId streamResetCodeInvalidStreamData
      s!"stream data frame streamId {frame.streamId} is not bound to an active tunnel stream")

/-! ### Messages of the gateway -/

/-- The telemetry relay's turn at a text; `true` if the text is dealt with. -/
def handleTelemetryText (payload : String) : Session Bool := do
  let st ← get
  let (result, relay) := st.telemetryRelay.handleControlMessage context.serde payload
  modify fun st => { st with telemetryRelay := relay }
  match result with
  | .ok (some frames) =>
    sendTelemetryFrames frames
    return true
  | .ok none => return false
  | .error error =>
    reportDroppedBootstrapTextMessage context world ("telemetry control rejected: " ++ error.message)
    return true

/-- One parser's turn at a text: a message goes to its handler, a text that is
    not the parser's goes on, and one it rejects is dropped. -/
def offerText {α : Type} (parsed : Except TunnelProtocolError (Option α))
    (handle : α → Session Unit) : Session Bool := do
  match parsed with
  | .ok (some message) =>
    handle message
    return true
  | .ok none => return false
  | .error error =>
    reportDroppedBootstrapTextMessage context world error.message
    return true

def handlePortsControlText : PortsControlMessage → Session Unit
  | .targetAuthorize message => handlePortsControlMessage world message

/-- A transport message that its handler rejects is dropped like one that does
    not parse. -/
def handlePortsTransportText (message : PortsTransportMessage) : Session Unit := do
  match ← attempt (handlePortsTransportMessage context world message) with
  | .ok () => return ()
  | .error error => reportDroppedBootstrapTextMessage context world error.display

def handleStreamControlText (payload : String) : Session Bool := do
  match parseStreamControlMessage context.serde payload with
  | .ok message =>
    handleTunnelControlMessage context world message
    return true
  | .error error =>
    reportDroppedBootstrapTextMessage context world error.message
    return true

/-- The parsers a text is offered to, in order. -/
def textHandlers (payload : String) : List (Session Bool) :=
  [handleTelemetryText context world payload,
    offerText context world (parsePortsControlMessage context.serde payload)
      (handlePortsControlText world),
    offerText context world (parsePortsTransportMessage context.serde payload)
      (handlePortsTransportText context world),
    offerText context world (parseSigningControlMessage context.serde payload)
      handleSigningControlMessage,
    offerText context world (parseEgressTokenControlMessage context.serde payload)
      (handleEgressTokenControlMessage context world),
    handleOperationControlMessage context.serde payload,
    offerText context world (parsePtySessionControlMessage context.serde payload)
      handlePtySessionControlMessage,
    handleStreamControlText context world payload]

def handleBootstrapText (payload : String) : Session Unit := do
  let _ ← firstOf (textHandlers context world payload)

def handleBootstrapBinary (payload : List UInt8) : Session Unit := do
  match decodeStreamDataFrame payload with
  | .error error => reportDroppedBootstrapBinaryFrame context world error.message
  | .ok frame => handleTunnelBinaryFrame context world frame

end

/-! ### Events -/

structure ExecCommandResult where
  exitCode : Int
  stdout : String
  stderr : String
  truncated : Bool
  deriving DecidableEq

inductive TunnelSessionEvent where
  | bootstrapMessage (message : WebsocketMessage)
  | bootstrapClosed (isGatewayServiceRestart : Bool) (reason : Option String)
  | agentDialed (streamId : StreamId) (result : Except String Unit)
  | agentMessage (streamId : StreamId) (message : WebsocketMessage)
  | agentWriteCompleted (streamId : StreamId) (bytes : Nat)
  | portAccessTransport (event : PortAccessTransportEvent)
  | agentClosed (streamId : StreamId) (reason : Option String)
  | execCompleted (streamId : StreamId) (result : Except String ExecCommandResult)
  | fileSearch (event : FileSearchWorkerEvent)
  | wake

section

variable (context : TunnelSessionLoopContext) (world : World)

def handleAgentDialed (streamId : StreamId) (result : Except String Unit) : Session Unit := do
  let st ← get
  match st.pendingAgentOpens[streamId]? with
  | none => return ()
  | some _ =>
    modify fun st => { st with pendingAgentOpens := st.pendingAgentOpens.erase streamId }
    match result with
    | .ok () =>
      emit (.task (.spawnAgentStream streamId))
      modify fun st => { st with
        agentStreams := st.agentStreams.insert streamId (createAgentStream world.nowMs) }
      writeTunnelText (.streamOpenOk streamId)
    | .error error =>
        writeTunnelText (.streamOpenError streamId connectErrorCodeAgentEndpointDialFailed
          ("failed to connect agent endpoint: " ++ error))

/-- What an agent socket that closes without a reason is reported with. -/
def agentClosedReason (reason : Option String) : String :=
  reason.getD "agent runtime websocket closed"

def handleAgentClosed (streamId : StreamId) (reason : Option String) : Session Unit := do
  let removed ← removeAgentStreamAndPublishSummary context world streamId
    { outcome := agentStreamOutcomeReset
      closeSource := agentStreamCloseSourceRuntime
      resetCode := some streamResetCodeTargetClosed
      reason := some (agentClosedReason reason) }
  match removed with
  | none => return ()
  | some _ =>
      writeTunnelText
        (.streamReset streamId streamResetCodeTargetClosed (agentClosedReason reason))

def handleAgentWriteCompleted (streamId : StreamId) (bytes : Nat) : Session Unit := do
  let st ← get
  if st.agentStreams.contains streamId then writeTunnelText (.streamWindow streamId bytes)
  else return ()

def handleExecCompleted (streamId : StreamId) (result : Except String ExecCommandResult) :
    Session Unit := do
  let st ← get
  match st.pendingExecOpens[streamId]? with
  | none => return ()
  | some _ =>
    modify fun st => { st with pendingExecOpens := st.pendingExecOpens.erase streamId }
    match result with
    | .ok execResult =>
      writeTunnelText (.execResultEvent {
        streamId
        exitCode := execResult.exitCode
        stdout := execResult.stdout
        stderr := execResult.stderr
        truncated := execResult.truncated })
      writeTunnelText (.streamComplete streamId)
    | .error error =>
        writeTunnelText (.streamReset streamId streamResetCodeExecCommandFailed error)

/-- The timer: snapshots to the process streams, all of them reset on failure. -/
def handleWake : Session Unit := do
  match ← attempt (pollProcessStreams context world) with
  | .ok () => return ()
  | .error error => resetProcessStreams error.display

/-- The streams of a connection that closed are dropped; agent streams get a summary. -/
def handleBootstrapClosed (reason : Option String) : Session Unit := do
  closePortAccessTcpStreams
  let st ← get
  modify fun st => { st with agentStreams := ∅ }
  each (fun (streamId, agentStream) =>
    publishAgentStreamSummary context world streamId agentStream
      { outcome := agentStreamOutcomeBootstrapClosed
        closeSource := agentStreamCloseSourceBootstrap
        resetCode := none
        reason := some (reason.getD "bootstrap tunnel closed") }) st.agentStreams.toList

/-- Go on with the loop after a handler that succeeded. -/
def continueWith (handler : Session Unit) : Session TunnelSessionControlFlow := do
  handler
  return .continue

theorem continueWith_emitted (handler : Session Unit) (st : TunnelSessionMutableState) :
    (continueWith handler st).emitted = (handler st).emitted := by
  rcases hresult : handler st with ⟨result, st', out⟩
  unfold continueWith
  cases result with
  | error error => rw [bind_error hresult]
  | ok =>
      rw [bind_ok hresult]
      exact List.append_nil out

theorem continueWith_state (handler : Session Unit) (st : TunnelSessionMutableState) :
    (continueWith handler st).state = (handler st).state := by
  rcases hresult : handler st with ⟨result, st', out⟩
  unfold continueWith
  cases result with
  | error error => rw [bind_error hresult]
  | ok =>
      rw [bind_ok hresult]
      rfl

def handleBootstrapMessage (message : WebsocketMessage) : Session TunnelSessionControlFlow :=
  match message with
  | .text payload => continueWith (handleBootstrapText context world payload)
  | .binary payload => continueWith (handleBootstrapBinary context world payload)
  | .ping payload => continueWith (writeTunnelPong payload)
  | .pong _ => return .continue
  | .close => return .restartRequired
  | .frame => return .continue

def handleTunnelSessionEvent (event : TunnelSessionEvent) : Session TunnelSessionControlFlow :=
  match event with
  | .bootstrapClosed isGatewayServiceRestart reason => do
    handleBootstrapClosed context world reason
    return if isGatewayServiceRestart then .restartRequired else .shutdownRequested
  | .wake => continueWith (handleWake context world)
  | .fileSearch event => continueWith (handleFileSearchWorkerEvent context world event)
  | .agentDialed streamId result => continueWith (handleAgentDialed world streamId result)
  | .bootstrapMessage message => handleBootstrapMessage context world message
  | .agentMessage streamId message =>
      continueWith (handleAgentRuntimeMessage context world streamId message)
  | .agentWriteCompleted streamId bytes => continueWith (handleAgentWriteCompleted streamId bytes)
  | .portAccessTransport event => continueWith (handlePortAccessTransportEvent event)
  | .agentClosed streamId reason => continueWith (handleAgentClosed context world streamId reason)
  | .execCompleted streamId result => continueWith (handleExecCompleted streamId result)

end

/-! ### Requests -/

inductive TunnelSessionRequest where
  | shutdown
  | setAgentEndpoint (agentEndpointUrl : Option String) (responseSender : ResponseSender)
  | setRuntimeEnvironment (runtimeEnv : List (String × String)) (responseSender : ResponseSender)
  | signing (request : TunnelSigningRequest) (responseSender : ResponseSender)
  | egressToken (requestId : String) (actingUserId : Option String)
      (responseSender : ResponseSender)
  | operationRecord (line : String)
  | operationClose (responseSender : ResponseSender)

def handleTunnelSessionRequest (context : TunnelSessionLoopContext) (world : World)
    (request : TunnelSessionRequest) : Session TunnelSessionControlFlow :=
  match request with
  | .shutdown => return .shutdownRequested
  | .setAgentEndpoint agentEndpointUrl responseSender => do
    modify fun st => { st with agentEndpointUrl }
    emit (.answerSet responseSender)
    return .continue
  | .setRuntimeEnvironment runtimeEnv responseSender => do
    modify fun st => { st with runtimeEnv }
    emit (.answerSet responseSender)
    return .continue
  | .signing request responseSender =>
      continueWith (handleSigningSessionRequest request responseSender)
  | .egressToken requestId actingUserId responseSender =>
      continueWith (handleEgressTokenSessionRequest context world requestId actingUserId
        responseSender)
  | .operationRecord line => continueWith (recordOperation line)
  | .operationClose responseSender => continueWith (closeOperationStream responseSender)

end Mistle
