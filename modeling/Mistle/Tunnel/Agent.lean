import Mistle.Tunnel.Footprint

/-!
# Agent Streams

An agent stream relays websocket messages between the gateway and the agent's
socket. Messages of the agent consume send credit, which the gateway grants back;
messages of the gateway are handed to the agent's task, which reports when they
are written. Every stream keeps statistics, published when it ends and when its
window runs low.

## Main definitions

* `AgentStreamStats`: `recordOutboundMessage`, `recordInboundMessage`,
  `recordCreditRestore`, `takeNewThresholdCrossings`.
* `addAgentStreamWindowCredit`: A grant of the gateway.
* `forwardGatewayFrameToAgent`: A data frame of the gateway.
* `handleAgentRuntimeMessage`: A message of the agent.
* `removeAgentStreamAndPublishSummary`: The end of a stream.

## Theorems

* `addAgentStreamWindowCredit_footprint`, `forwardGatewayFrameToAgent_footprint`,
  `handleAgentRuntimeMessage_footprint`: Each serves its stream only.
-/

namespace Mistle

open Handler

/-! ### Statistics -/

def agentStreamWindowThresholdBytes : List Nat :=
  [1024 * 1024, 2 * 1024 * 1024, 4 * 1024 * 1024, 8 * 1024 * 1024,
    agentStreamWindowBytes * 95 / 100]

namespace AgentStreamStats

def new (openedAtMs : Nat) : AgentStreamStats where
  openedAtMs := openedAtMs
  messageCountOut := 0
  messageCountIn := 0
  totalBytesOut := 0
  totalBytesIn := 0
  maxMessageBytesOut := 0
  maxMessageBytesIn := 0
  maxOutstandingBytes := 0
  creditReturnCount := 0
  creditReturnTotalMs := 0
  thresholdEmissionsMask := 0
  outstandingSends := []

def recordOutboundMessage (stats : AgentStreamStats)
    (payloadBytes sentAtMs outstandingBytes : Nat) : AgentStreamStats :=
  { stats with
    messageCountOut := saturatingAdd stats.messageCountOut 1
    totalBytesOut := saturatingAdd stats.totalBytesOut payloadBytes
    maxMessageBytesOut := max stats.maxMessageBytesOut payloadBytes
    maxOutstandingBytes := max stats.maxOutstandingBytes outstandingBytes
    outstandingSends := stats.outstandingSends ++ [⟨payloadBytes, sentAtMs⟩] }

def recordInboundMessage (stats : AgentStreamStats) (payloadBytes : Nat) : AgentStreamStats :=
  { stats with
    messageCountIn := saturatingAdd stats.messageCountIn 1
    totalBytesIn := saturatingAdd stats.totalBytesIn payloadBytes
    maxMessageBytesIn := max stats.maxMessageBytesIn payloadBytes }

/-- Acknowledge the oldest sends with `remaining` granted bytes. -/
def acknowledgeSends (restoredAtMs : Nat) :
    Nat → List OutstandingAgentSend → AgentStreamStats → AgentStreamStats
  | _, [], stats => { stats with outstandingSends := [] }
  | remaining, send :: rest, stats =>
    if remaining = 0 then { stats with outstandingSends := send :: rest }
    else
      let acknowledged := min remaining send.bytes
      let stats := { stats with
        creditReturnCount := saturatingAdd stats.creditReturnCount 1
        creditReturnTotalMs :=
          saturatingAdd stats.creditReturnTotalMs (restoredAtMs - send.sentAtMs) }
      if send.bytes - acknowledged = 0 then
        acknowledgeSends restoredAtMs (remaining - acknowledged) rest stats
      else
        -- A send is left over only when all of the grant went into it.
        { stats with
          outstandingSends := { send with bytes := send.bytes - acknowledged } :: rest }

def recordCreditRestore (stats : AgentStreamStats) (bytes restoredAtMs : Nat) :
    AgentStreamStats :=
  acknowledgeSends restoredAtMs bytes stats.outstandingSends stats

def avgCreditReturnMs (stats : AgentStreamStats) : Option Nat :=
  if stats.creditReturnCount = 0 then none
  else some (stats.creditReturnTotalMs / stats.creditReturnCount)

def streamAgeMs (stats : AgentStreamStats) (nowMs : Nat) : Nat := nowMs - stats.openedAtMs

def oldestUnackedAgeMs (stats : AgentStreamStats) (nowMs : Nat) : Option Nat :=
  stats.outstandingSends.head?.map fun send => nowMs - send.sentAtMs

/-- The thresholds crossed for the first time, from the one with bit `bit` on. -/
def crossThresholds (outstandingBytes : Nat) :
    List Nat → UInt8 → UInt8 → List Nat × UInt8
  | [], _, mask => ([], mask)
  | threshold :: rest, bit, mask =>
    if threshold ≤ outstandingBytes ∧ mask &&& bit = 0 then
      let (crossed, mask) := crossThresholds outstandingBytes rest (bit <<< 1) (mask ||| bit)
      (threshold :: crossed, mask)
    else crossThresholds outstandingBytes rest (bit <<< 1) mask

def takeNewThresholdCrossings (stats : AgentStreamStats) (outstandingBytes : Nat) :
    List Nat × AgentStreamStats :=
  let (crossed, mask) := crossThresholds outstandingBytes agentStreamWindowThresholdBytes 1
    stats.thresholdEmissionsMask
  (crossed, { stats with thresholdEmissionsMask := mask })

end AgentStreamStats

/-! ### Telemetry of agent streams -/

/-- How an agent stream ended. -/
structure AgentStreamTermination where
  outcome : String
  closeSource : String
  resetCode : Option String
  reason : Option String

def agentStreamOutcomeClosed := "closed"
def agentStreamOutcomeReset := "reset"
def agentStreamOutcomeBootstrapClosed := "bootstrap_closed"
def agentStreamCloseSourceGateway := "gateway"
def agentStreamCloseSourceRuntime := "runtime"
def agentStreamCloseSourceBootstrap := "bootstrap"

/-- A number that may be missing, as a log field. -/
def optionNat : Option Nat → Json String
  | some n => .int n
  | none => .null

/-- A text that may be missing, as a log field. -/
def optionText : Option String → Json String
  | some text => .str text
  | none => .null

def agentStreamSummaryFields (nowMs : Nat) (streamId : StreamId) (agentStream : AgentStreamState)
    (termination : AgentStreamTermination) : Fields :=
  let stats := agentStream.stats
  [("streamId", .int streamId.toNat), ("channelKind", .str "agent"),
    ("outcome", .str termination.outcome), ("closeSource", .str termination.closeSource),
    ("durationMs", .int (stats.streamAgeMs nowMs)),
    ("messageCountOut", .int stats.messageCountOut),
    ("messageCountIn", .int stats.messageCountIn), ("totalBytesOut", .int stats.totalBytesOut),
    ("totalBytesIn", .int stats.totalBytesIn),
    ("maxMessageBytesOut", .int stats.maxMessageBytesOut),
    ("maxMessageBytesIn", .int stats.maxMessageBytesIn),
    ("maxOutstandingBytes", .int stats.maxOutstandingBytes),
    ("avgCreditReturnMs", optionNat stats.avgCreditReturnMs),
    ("creditReturnCount", .int stats.creditReturnCount),
    ("resetCode", optionText termination.resetCode), ("reason", optionText termination.reason)]

/-- What the records about the send window of an agent stream report. -/
structure AgentOutboundTelemetry where
  availableBytes : Nat
  outstandingBytes : Nat
  messageCountOut : Nat
  streamAgeMs : Nat
  oldestUnackedMs : Option Nat

def websocketPayloadKindName (payloadKind : UInt8) : String :=
  if payloadKind = payloadKindWebsocketText then "websocket_text"
  else if payloadKind = payloadKindWebsocketBinary then "websocket_binary"
  else "unknown"

/-- The fields both records share, with the ones that differ in the middle. -/
def agentStreamWindowFields (streamId : StreamId) (payloadKind : UInt8) (payloadBytes : Nat)
    (telemetry : AgentOutboundTelemetry) (between : Fields) : Fields :=
  [("streamId", .int streamId.toNat), ("channelKind", .str "agent"),
    ("payloadKind", .str (websocketPayloadKindName payloadKind)),
    ("payloadBytes", .int payloadBytes), ("availableBytes", .int telemetry.availableBytes),
    ("outstandingBytes", .int telemetry.outstandingBytes)] ++ between ++
  [("messageCountOut", .int telemetry.messageCountOut),
    ("streamAgeMs", .int telemetry.streamAgeMs),
    ("oldestUnackedMs", optionNat telemetry.oldestUnackedMs)]

def agentStreamWindowExhaustedFields (streamId : StreamId) (payloadKind : UInt8)
    (payloadBytes : Nat) (telemetry : AgentOutboundTelemetry) : Fields :=
  agentStreamWindowFields streamId payloadKind payloadBytes telemetry
    [("maxWindowBytes", .int agentStreamWindowBytes),
      ("payloadExceedsMaxWindow", .bool (payloadBytes > agentStreamWindowBytes)),
      ("payloadExceedsAvailableWindow", .bool (payloadBytes > telemetry.availableBytes))]

def agentStreamThresholdCrossedFields (streamId : StreamId) (payloadKind : UInt8)
    (payloadBytes : Nat) (telemetry : AgentOutboundTelemetry) (thresholdBytes : Nat) : Fields :=
  agentStreamWindowFields streamId payloadKind payloadBytes telemetry
    [("thresholdBytes", .int thresholdBytes), ("maxWindowBytes", .int agentStreamWindowBytes)]

section

variable (context : TunnelSessionLoopContext) (world : World)

def publishAgentStreamSummary (streamId : StreamId) (agentStream : AgentStreamState)
    (termination : AgentStreamTermination) : Session Unit :=
  publishTunnelTelemetryLog context world .info "agent_stream_summary"
    (agentStreamSummaryFields world.nowMs streamId agentStream termination)

def removeAgentStreamAndPublishSummary (streamId : StreamId)
    (termination : AgentStreamTermination) : Session (Option AgentStreamState) := do
  let st ← get
  match st.agentStreams[streamId]? with
  | none => return none
  | some agentStream =>
    modify fun st => { st with agentStreams := st.agentStreams.erase streamId }
    publishAgentStreamSummary context world streamId agentStream termination
    return some agentStream

/-- The end of a stream that no table holds does nothing. -/
theorem removeAgentStreamAndPublishSummary_of_none {streamId : StreamId}
    {st : TunnelSessionMutableState} (hnone : st.agentStreams[streamId]? = none)
    (termination : AgentStreamTermination) :
    removeAgentStreamAndPublishSummary context world streamId termination st
      = ⟨.ok none, st, []⟩ := by
  unfold removeAgentStreamAndPublishSummary
  rw [bind_ok (get_apply st), hnone]
  rfl

/-! ### Handlers -/

def createAgentStream (openedAtMs : Nat) : AgentStreamState where
  sendWindow := ⟨agentStreamWindowBytes⟩
  stats := .new openedAtMs

/-- Credit of the gateway; `false` if the stream is no agent stream. -/
def addAgentStreamWindowCredit (streamId : StreamId) (bytes restoredAtMs : Nat) :
    Session Bool := do
  let st ← get
  match st.agentStreams[streamId]? with
  | none => return false
  | some agentStream =>
    match agentStream.sendWindow.add bytes with
    | .error error => throw (.parseControl error.message)
    | .ok window =>
      modify fun st => { st with
        agentStreams := st.agentStreams.modify streamId fun agentStream => { agentStream with
          sendWindow := window
          stats := agentStream.stats.recordCreditRestore bytes restoredAtMs } }
      return true

/-- The error of a send to a task that is gone. -/
def channelClosed := "channel closed"

/-- Hand a message of the gateway to the agent's task. -/
def sendToAgent (streamId : StreamId) (message : WebsocketMessage) (payloadBytes : Nat) :
    Session Unit := do
  let st ← get
  match st.agentStreams[streamId]? with
  | none => return ()
  | some _ =>
    if world.agentListens then
      emit (.task (.agent streamId message))
      modify fun st => { st with
        agentStreams := st.agentStreams.modify streamId fun agentStream =>
          { agentStream with stats := agentStream.stats.recordInboundMessage payloadBytes } }
    else throw (.agentWrite channelClosed)

def forwardGatewayFrameToAgent (frame : StreamDataFrame) : Session Unit := do
  if frame.payloadKind = payloadKindWebsocketText then
    match ofUtf8 frame.payload with
    | none => throw (.agentWrite (context.utf8Error frame.payload))
    | some payload => sendToAgent world frame.streamId (.text payload) frame.payload.length
  else if frame.payloadKind = payloadKindWebsocketBinary then
    sendToAgent world frame.streamId (.binary frame.payload) frame.payload.length
  else
    let reason := "agent stream only accepts websocket text or binary payload kinds"
    let removed ← removeAgentStreamAndPublishSummary context world frame.streamId
      { outcome := agentStreamOutcomeReset
        closeSource := agentStreamCloseSourceGateway
        resetCode := some streamResetCodeInvalidStreamData
        reason := some reason }
    if removed.isSome then
      emit (.task (.agent frame.streamId .close))
    writeTunnelText (.streamReset frame.streamId streamResetCodeInvalidStreamData reason)

def agentStreamOutstandingBytes (sendWindow : StreamSendWindow) : Nat :=
  agentStreamWindowBytes - sendWindow.availableBytes

/-- Take credit for one message of the agent: `none` if there is no such stream,
    an error if the window does not admit it. -/
def reserveAgentStreamSendWindow (streamId : StreamId) (payloadBytes nowMs : Nat) :
    Session (Option (Except AgentOutboundTelemetry (AgentOutboundTelemetry × List Nat))) := do
  let st ← get
  match st.agentStreams[streamId]? with
  | none => return none
  | some agentStream =>
    match agentStream.sendWindow.tryConsume payloadBytes with
    | none => return some <| .error {
        availableBytes := agentStream.sendWindow.availableBytes
        outstandingBytes := agentStreamOutstandingBytes agentStream.sendWindow
        messageCountOut := agentStream.stats.messageCountOut
        streamAgeMs := agentStream.stats.streamAgeMs nowMs
        oldestUnackedMs := agentStream.stats.oldestUnackedAgeMs nowMs }
    | some window =>
      let outstandingBytes := agentStreamOutstandingBytes window
      let stats := agentStream.stats.recordOutboundMessage payloadBytes nowMs outstandingBytes
      let (thresholdCrossings, stats) := stats.takeNewThresholdCrossings outstandingBytes
      modify fun st => { st with
        agentStreams := st.agentStreams.modify streamId fun _ => { sendWindow := window, stats } }
      return some <| .ok ({
        availableBytes := window.availableBytes
        outstandingBytes
        messageCountOut := stats.messageCountOut
        streamAgeMs := stats.streamAgeMs nowMs
        oldestUnackedMs := stats.oldestUnackedAgeMs nowMs }, thresholdCrossings)

def publishAgentRuntimePayload (streamId : StreamId) (payloadKind : UInt8)
    (payload : List UInt8) : Session Unit := do
  let reserved ← reserveAgentStreamSendWindow streamId payload.length world.nowMs
  match reserved with
  | none => return ()
  | some (.error telemetry) =>
    publishTunnelTelemetryLog context world .warn "agent_stream_window_exhausted"
      (agentStreamWindowExhaustedFields streamId payloadKind payload.length telemetry)
    let reason := "agent stream send window is exhausted"
    let _ ← removeAgentStreamAndPublishSummary context world streamId
      { outcome := agentStreamOutcomeReset
        closeSource := agentStreamCloseSourceRuntime
        resetCode := some streamResetCodeStreamWindowExhausted
        reason := some reason }
    writeTunnelText (.streamReset streamId streamResetCodeStreamWindowExhausted reason)
  | some (.ok (telemetry, thresholdCrossings)) =>
    each (fun thresholdBytes =>
      publishTunnelTelemetryLog context world .warn "agent_stream_window_threshold_crossed"
        (agentStreamThresholdCrossedFields streamId payloadKind payload.length telemetry
          thresholdBytes)) thresholdCrossings
    match checkedFrame streamId payloadKind payload with
    | .error error => throw (.agentRead error.message)
    | .ok frame => writeTunnelBinary frame

def handleAgentRuntimeMessage (streamId : StreamId) (message : WebsocketMessage) :
    Session Unit := do
  match message with
  | .text payload =>
      publishAgentRuntimePayload context world streamId payloadKindWebsocketText (utf8 payload)
  | .binary payload =>
      publishAgentRuntimePayload context world streamId payloadKindWebsocketBinary payload
  | .ping payload =>
    let st ← get
    match st.agentStreams[streamId]? with
    | none => return ()
    | some _ =>
      if world.agentListens then emit (.task (.agent streamId (.pong payload)))
      else throw (.agentWrite channelClosed)
  | .pong _ => return ()
  | .close =>
    let reason := "agent runtime websocket closed"
    let _ ← removeAgentStreamAndPublishSummary context world streamId
      { outcome := agentStreamOutcomeReset
        closeSource := agentStreamCloseSourceRuntime
        resetCode := some streamResetCodeTargetClosed
        reason := some reason }
    writeTunnelText (.streamReset streamId streamResetCodeTargetClosed reason)
  | .frame => return ()

end

/-! ### Footprints -/

section

variable {scope : Scope} {streamId : StreamId} (h : scope.streams streamId)
variable (context : TunnelSessionLoopContext) (world : World)

include h in
theorem removeAgentStreamAndPublishSummary_footprint (termination : AgentStreamTermination) :
    Follows (footprint scope)
      (removeAgentStreamAndPublishSummary context world streamId termination) := by
  refine Follows.read fun st => ?_
  split
  · exact Follows.pure _ st
  · exact Follows.bind (StreamTable.agentStreams.erase_footprint h)
      (fun _ => Follows.bind (publishTunnelTelemetryLog_footprint _ _ _ _ _)
        fun _ => Follows.pure _) st

include h in
theorem addAgentStreamWindowCredit_footprint (bytes restoredAtMs : Nat) :
    Follows (footprint scope) (addAgentStreamWindowCredit streamId bytes restoredAtMs) := by
  refine Follows.read fun st => ?_
  split
  · exact Follows.pure _ st
  · split
    · exact Follows.throw _ st
    · exact Follows.bind (StreamTable.agentStreams.modify_footprint h _)
        (fun _ => Follows.pure _) st

include h in
theorem sendToAgent_footprint (message : WebsocketMessage) (payloadBytes : Nat) :
    Follows (footprint scope) (sendToAgent world streamId message payloadBytes) := by
  refine Follows.read fun st => ?_
  split
  · exact Follows.pure _ st
  · split
    · exact Follows.bind (task_footprint _)
        (fun _ => StreamTable.agentStreams.modify_footprint h _) st
    · exact Follows.throw _ st

theorem forwardGatewayFrameToAgent_footprint {frame : StreamDataFrame}
    (h : scope.streams frame.streamId) :
    Follows (footprint scope) (forwardGatewayFrameToAgent context world frame) := by
  unfold forwardGatewayFrameToAgent
  split
  · split
    · exact Follows.throw _
    · exact sendToAgent_footprint h world _ _
  split
  · exact sendToAgent_footprint h world _ _
  · refine Follows.bind (removeAgentStreamAndPublishSummary_footprint h _ _ _) fun removed => ?_
    have hreset : ∀ code message, Follows (footprint scope)
        (writeTunnelText (.streamReset frame.streamId code message)) :=
      fun _ _ => writeTunnelText_on rfl h
    split
    · exact Follows.bind (task_footprint _) fun _ => hreset _ _
    · exact hreset _ _

include h in
theorem reserveAgentStreamSendWindow_footprint (payloadBytes nowMs : Nat) :
    Follows (footprint scope) (reserveAgentStreamSendWindow streamId payloadBytes nowMs) := by
  refine Follows.read fun st => ?_
  split
  · exact Follows.pure _ st
  · split
    · exact Follows.pure _ st
    · exact Follows.bind (StreamTable.agentStreams.modify_footprint h _)
        (fun _ => Follows.pure _) st

include h in
theorem publishAgentRuntimePayload_footprint (payloadKind : UInt8) (payload : List UInt8) :
    Follows (footprint scope)
      (publishAgentRuntimePayload context world streamId payloadKind payload) := by
  refine Follows.bind (reserveAgentStreamSendWindow_footprint h _ _) fun reserved => ?_
  split
  · exact Follows.pure _
  · refine Follows.bind (publishTunnelTelemetryLog_footprint _ _ _ _ _) fun _ => ?_
    refine Follows.bind (removeAgentStreamAndPublishSummary_footprint h _ _ _) fun _ => ?_
    exact writeTunnelText_on rfl h
  · refine Follows.bind (Follows.forEach fun _ _ => publishTunnelTelemetryLog_footprint _ _ _ _ _)
      fun _ => ?_
    cases hframe : checkedFrame streamId payloadKind payload with
    | error error => exact Follows.throw _
    | ok frame =>
        refine writeTunnelBinary_footprint ?_
        rw [(checkedFrame_ok hframe).2]
        exact h

include h in
theorem handleAgentRuntimeMessage_footprint (message : WebsocketMessage) :
    Follows (footprint scope) (handleAgentRuntimeMessage context world streamId message) := by
  cases message with
  | text payload => exact publishAgentRuntimePayload_footprint h _ _ _ _
  | binary payload => exact publishAgentRuntimePayload_footprint h _ _ _ _
  | ping payload =>
      refine Follows.read fun st => ?_
      split
      · exact Follows.pure _ st
      · split
        · exact task_footprint _ st
        · exact Follows.throw _ st
  | pong payload => exact Follows.pure _
  | close =>
      refine Follows.bind (removeAgentStreamAndPublishSummary_footprint h _ _ _) fun _ => ?_
      exact writeTunnelText_on rfl h
  | frame => exact Follows.pure _

end

end Mistle
