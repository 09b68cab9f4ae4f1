import Mistle.Tunnel.Agent

/-!
# File Search Streams

A file search stream takes queries and selections as text frames, hands them to
a worker, and sends the worker's results back on the stream's credit. Opening,
every answered query and the end of a stream are published as log records.

## Main definitions

* `openFileSearchStream`: Spawning the worker.
* `handleFileSearchWorkerEvent`: Results or an error of the worker.
* `handleFileSearchFrame`: A data frame of the gateway.
* `closeFileSearchStream`: The end of a stream.

## Theorems

* `handleFileSearchWorkerEvent_footprint`, `handleFileSearchFrame_footprint`,
  `openFileSearchStream_footprint`: Each serves its stream only.
-/

namespace Mistle

open Handler

structure FileSearchQueryMetrics where
  queryLength : Nat
  requestedLimit : Option Nat
  effectiveLimit : Nat
  collapsedQueryCount : Nat
  debounceWaitMs : Nat
  scanWaitMs : Nat
  searchMs : Nat
  totalLatencyMs : Nat
  resultCount : Nat
  limited : Bool
  deriving DecidableEq

inductive FileSearchWorkerEvent where
  | results (streamId : StreamId) (requestId query : String) (items : List FileSearchResultItem)
      (metrics : FileSearchQueryMetrics)
  | error (streamId : StreamId) (requestId code message : String)
      (metrics : FileSearchQueryMetrics)
  deriving DecidableEq

def FileSearchWorkerEvent.streamId : FileSearchWorkerEvent → StreamId
  | results streamId _ _ _ _ => streamId
  | error streamId _ _ _ _ => streamId

def FileSearchWorkerEvent.metrics : FileSearchWorkerEvent → FileSearchQueryMetrics
  | results _ _ _ _ metrics => metrics
  | error _ _ _ _ metrics => metrics

def FileSearchWorkerEvent.isError : FileSearchWorkerEvent → Bool
  | results .. => false
  | error .. => true

/-- The payload sent for an event. -/
def FileSearchWorkerEvent.payload : FileSearchWorkerEvent → Json String
  | results _ requestId query items _ =>
    FileSearchResults.serialize { messageType := "fileSearch.results", requestId, query, items }
  | error _ requestId code message _ =>
    FileSearchError.serialize { messageType := "fileSearch.error", requestId, code, message }

structure FileSearchStreamCloseTelemetry where
  outcome : String
  closeSource : String
  reason : Option String

def fileSearchOutcomeClosed := "closed"
def fileSearchOutcomeReset := "reset"
def fileSearchCloseSourceGateway := "gateway"
def fileSearchCloseSourceSandboxd := "sandboxd"

def FileSearchStreamState.new (openedAtMs : Nat) : FileSearchStreamState where
  sendWindow := default
  openedAtMs := openedAtMs
  queryCount := 0
  errorCount := 0
  totalResultCount := 0
  collapsedQueryCount := 0
  totalLatencyMs := 0
  maxLatencyMs := 0

/-- Fields every record about a file search stream starts with. -/
def fileSearchStreamFields (streamId : StreamId) : Fields :=
  [("streamId", .int streamId.toNat), ("channelKind", .str "fileSearch")]

def fileSearchQueryTelemetryFields (streamId : StreamId) (requestId : String)
    (metrics : FileSearchQueryMetrics) : Fields :=
  fileSearchStreamFields streamId ++
  [("requestId", .str requestId), ("queryLength", .int metrics.queryLength),
    ("requestedLimit", optionNat metrics.requestedLimit),
    ("effectiveLimit", .int metrics.effectiveLimit),
    ("collapsedQueryCount", .int metrics.collapsedQueryCount),
    ("debounceWaitMs", .int metrics.debounceWaitMs), ("scanWaitMs", .int metrics.scanWaitMs),
    ("searchMs", .int metrics.searchMs), ("latencyMs", .int metrics.totalLatencyMs),
    ("resultCount", .int metrics.resultCount), ("limited", .bool metrics.limited)]

def FileSearchWorkerEvent.telemetryFields : FileSearchWorkerEvent → Fields
  | results streamId requestId _ _ metrics =>
    fileSearchQueryTelemetryFields streamId requestId metrics
  | error streamId requestId code message metrics =>
    fileSearchQueryTelemetryFields streamId requestId metrics ++
      [("code", .str code), ("error", .str message)]

def recordFileSearchQueryMetrics (state : FileSearchStreamState)
    (metrics : FileSearchQueryMetrics) (isError : Bool) : FileSearchStreamState :=
  { state with
    queryCount := saturatingAdd state.queryCount 1
    errorCount := if isError then saturatingAdd state.errorCount 1 else state.errorCount
    totalResultCount := saturatingAdd state.totalResultCount metrics.resultCount
    collapsedQueryCount := saturatingAdd state.collapsedQueryCount metrics.collapsedQueryCount
    totalLatencyMs := saturatingAdd state.totalLatencyMs metrics.totalLatencyMs
    maxLatencyMs := max state.maxLatencyMs metrics.totalLatencyMs }

def fileSearchStreamSummaryFields (nowMs : Nat) (streamId : StreamId)
    (state : FileSearchStreamState) (closeTelemetry : FileSearchStreamCloseTelemetry) : Fields :=
  fileSearchStreamFields streamId ++
  [("outcome", .str closeTelemetry.outcome), ("closeSource", .str closeTelemetry.closeSource),
    ("durationMs", .int ↑(nowMs - state.openedAtMs)), ("queryCount", .int state.queryCount),
    ("errorCount", .int state.errorCount), ("totalResultCount", .int state.totalResultCount),
    ("collapsedQueryCount", .int state.collapsedQueryCount),
    ("totalLatencyMs", .int state.totalLatencyMs), ("maxLatencyMs", .int state.maxLatencyMs)] ++
  match closeTelemetry.reason with
  | some reason => [("reason", .str reason)]
  | none => []

section

variable (context : TunnelSessionLoopContext) (world : World)

def closeFileSearchStream (streamId : StreamId)
    (closeTelemetry : FileSearchStreamCloseTelemetry) : Session Unit := do
  let st ← get
  match st.fileSearchStreams[streamId]? with
  | none => return ()
  | some state =>
    modify fun st => { st with fileSearchStreams := st.fileSearchStreams.erase streamId }
    publishTunnelTelemetryLog context world .info "file_search_stream_summary"
      (fileSearchStreamSummaryFields world.nowMs streamId state closeTelemetry)
    emit (.task (.fileSearch streamId .close))

/-- Reset a stream and close it over the same reason. -/
def resetFileSearchStream (streamId : StreamId) (code reason : String) : Session Unit := do
  writeTunnelText (.streamReset streamId code reason)
  closeFileSearchStream context world streamId
    { outcome := fileSearchOutcomeReset
      closeSource := fileSearchCloseSourceSandboxd
      reason := some reason }

/-- Send a payload of the worker, if the window admits it. -/
def sendFileSearchPayload (streamId : StreamId) (payload : List UInt8) : Session Unit := do
  let st ← get
  match st.fileSearchStreams[streamId]? with
  | none => return ()
  | some state =>
    match state.sendWindow.tryConsume payload.length with
    | none =>
        resetFileSearchStream context world streamId streamResetCodeStreamWindowExhausted
          "file search stream send window is exhausted"
    | some window =>
      modify fun st => { st with
        fileSearchStreams := st.fileSearchStreams.modify streamId fun state =>
          { state with sendWindow := window } }
      match checkedFrame streamId payloadKindWebsocketText payload with
      | .error error => throw (.parseDataFrame error.message)
      | .ok frame => writeTunnelBinary frame

def handleFileSearchWorkerEvent (event : FileSearchWorkerEvent) : Session Unit := do
  let st ← get
  match st.fileSearchStreams[event.streamId]? with
  | none => return ()
  | some _ =>
    modify fun st => { st with
      fileSearchStreams := st.fileSearchStreams.modify event.streamId fun state =>
        recordFileSearchQueryMetrics state event.metrics event.isError }
    publishTunnelTelemetryLog context world (if event.isError then .warn else .info)
      (if event.isError then "file_search_query_failed" else "file_search_query_completed")
      event.telemetryFields
    sendFileSearchPayload context world event.streamId
      (utf8 (context.serde.toText event.payload))

def sendFileSearchCommand (streamId : StreamId) (command : FileSearchWorkerCommand) :
    Session Unit := do
  let st ← get
  match st.fileSearchStreams[streamId]? with
  | none => return ()
  | some _ =>
    if world.fileSearchListens then emit (.task (.fileSearch streamId command))
    else
      resetFileSearchStream context world streamId streamResetCodeTargetClosed
        "file search worker closed"

/-- Grant back the bytes of a command and hand it to the worker. -/
def acceptFileSearchCommand (frame : StreamDataFrame) (command : FileSearchWorkerCommand) :
    Session Unit := do
  writeTunnelText (.streamWindow frame.streamId frame.payload.length)
  sendFileSearchCommand context world frame.streamId command

/-- The file search branch of the frame router. -/
def handleFileSearchFrame (frame : StreamDataFrame) : Session Unit := do
  if frame.payloadKind ≠ payloadKindWebsocketText then
    resetFileSearchStream context world frame.streamId streamResetCodeInvalidStreamData
      "file search stream only accepts websocket text payloads"
  else match ofUtf8 frame.payload with
    | none => throw (.parseDataFrame (context.utf8Error frame.payload))
    | some payload =>
      match parseFileSearchStreamMessage context.serde payload with
      | .ok (.query message) => acceptFileSearchCommand context world frame (.query message)
      | .ok (.select message) => acceptFileSearchCommand context world frame (.select message)
      | .ok (.results _) | .ok (.error _) =>
          resetFileSearchStream context world frame.streamId streamResetCodeInvalidStreamData
            "file search stream does not accept result payloads from the gateway"
      | .error error =>
          resetFileSearchStream context world frame.streamId streamResetCodeInvalidStreamData
            error.message

/-- The file search branch of the control router, after the check for duplicates. -/
def openFileSearchStream (message : FileSearchStreamOpen) : Session Unit := do
  match world.fileSearchWorker with
  | .error error =>
    publishTunnelTelemetryLog context world .warn "file_search_stream_open_failed"
      (fileSearchStreamFields message.streamId ++
        [("latencyMs", .int world.elapsedMs), ("error", .str error)])
    writeTunnelText (.streamOpenError message.streamId "file_search_open_failed" error)
  | .ok () =>
    emit (.task (.spawnFileSearch message.streamId message.channel.cwd))
    modify fun st => { st with
      fileSearchStreams := st.fileSearchStreams.insert message.streamId (.new world.nowMs) }
    publishTunnelTelemetryLog context world .info "file_search_stream_opened"
      (fileSearchStreamFields message.streamId ++ [("latencyMs", .int world.elapsedMs)])
    writeTunnelText (.streamOpenOk message.streamId)

/-! ### Footprints -/

variable {scope : Scope}

theorem closeFileSearchStream_footprint {streamId : StreamId} (h : scope.streams streamId)
    (closeTelemetry : FileSearchStreamCloseTelemetry) :
    Follows (footprint scope) (closeFileSearchStream context world streamId closeTelemetry) := by
  refine Follows.read fun st => ?_
  split
  · exact Follows.pure _ st
  · exact Follows.bind (StreamTable.fileSearchStreams.erase_footprint h)
      (fun _ => Follows.bind (publishTunnelTelemetryLog_footprint _ _ _ _ _)
        fun _ => task_footprint _) st

theorem resetFileSearchStream_footprint {streamId : StreamId} (h : scope.streams streamId)
    (code reason : String) :
    Follows (footprint scope) (resetFileSearchStream context world streamId code reason) :=
  Follows.bind (writeTunnelText_on rfl h)
    fun _ => closeFileSearchStream_footprint context world h _

theorem sendFileSearchPayload_footprint {streamId : StreamId} (h : scope.streams streamId)
    (payload : List UInt8) :
    Follows (footprint scope) (sendFileSearchPayload context world streamId payload) := by
  refine Follows.read fun st => ?_
  split
  · exact Follows.pure _ st
  · split
    · exact resetFileSearchStream_footprint context world h _ _ st
    · refine Follows.bind (StreamTable.fileSearchStreams.modify_footprint h _) (fun _ => ?_) st
      cases hframe : checkedFrame streamId payloadKindWebsocketText payload with
      | error error => exact Follows.throw _
      | ok frame =>
          refine writeTunnelBinary_footprint ?_
          rw [(checkedFrame_ok hframe).2]
          exact h

theorem handleFileSearchWorkerEvent_footprint {event : FileSearchWorkerEvent}
    (h : scope.streams event.streamId) :
    Follows (footprint scope) (handleFileSearchWorkerEvent context world event) := by
  refine Follows.read fun st => ?_
  split
  · exact Follows.pure _ st
  · exact Follows.bind (StreamTable.fileSearchStreams.modify_footprint h _)
      (fun _ => Follows.bind (publishTunnelTelemetryLog_footprint _ _ _ _ _)
        fun _ => sendFileSearchPayload_footprint context world h _) st

theorem acceptFileSearchCommand_footprint {frame : StreamDataFrame}
    (h : scope.streams frame.streamId) (command : FileSearchWorkerCommand) :
    Follows (footprint scope) (acceptFileSearchCommand context world frame command) := by
  refine Follows.bind (writeTunnelText_on rfl h) fun _ => ?_
  refine Follows.read fun st => ?_
  split
  · exact Follows.pure _ st
  · split
    · exact task_footprint _ st
    · exact resetFileSearchStream_footprint context world h _ _ st

theorem handleFileSearchFrame_footprint {frame : StreamDataFrame}
    (h : scope.streams frame.streamId) :
    Follows (footprint scope) (handleFileSearchFrame context world frame) := by
  unfold handleFileSearchFrame
  split
  · exact resetFileSearchStream_footprint context world h _ _
  split
  · exact Follows.throw _
  split
  · exact acceptFileSearchCommand_footprint context world h _
  · exact acceptFileSearchCommand_footprint context world h _
  · exact resetFileSearchStream_footprint context world h _ _
  · exact resetFileSearchStream_footprint context world h _ _
  · exact resetFileSearchStream_footprint context world h _ _

theorem openFileSearchStream_footprint {message : FileSearchStreamOpen}
    {st : TunnelSessionMutableState} (h : scope.streams message.streamId)
    (hfree : (st.entries message.streamId).count = 0) :
    FollowsFrom (footprint scope) (openFileSearchStream context world message) st := by
  unfold openFileSearchStream
  split
  · exact Follows.bind (publishTunnelTelemetryLog_footprint _ _ _ _ _)
      (fun _ => writeTunnelText_on rfl h) st
  · refine FollowsFrom.bind (task_footprint _ st) fun _ _ => ?_
    refine FollowsFrom.bind (StreamTable.fileSearchStreams.insert_from h hfree _) fun _ _ => ?_
    exact Follows.bind (publishTunnelTelemetryLog_footprint _ _ _ _ _)
      (fun _ => writeTunnelText_on rfl h) _

end

end Mistle
