import Mistle.Tunnel.Connection

/-!
# Handlers that Start and Stop Nothing

Three tables stand for something outside the session that has to be released in
the end: the agent dials under way, the commands under way, and the uploads with
their temporary files. Few handlers touch them. All others leave the three tables
as they are and ask for nothing to be started, stopped, created or removed, and
that is a trail: it holds of each send and of each change of another table, and
is assembled from there.

## Main definitions

* `ResourceTables`: The three tables.
* `TaskCommand.isResource`, `TunnelEffect.isResource`: What starts or stops one of them.
* `Sparing`, `sparing`: Nothing was started or stopped, and the trail.

## Theorems

* `modify_sparing`, `emit_sparing`, `writeTunnelText_sparing`: The primitive steps.
* `handleStreamWindow_sparing`, `handlePortsTransportMessage_sparing`,
  `handleAgentRuntimeMessage_sparing` and their like: The handlers.
-/

namespace Mistle

open Handler

/-- The tables of what a session has to release. -/
structure ResourceTables where
  agentDials : Table TaskHandle
  execs : Table TaskHandle
  uploads : Table FileUploadState

def TunnelSessionMutableState.resourceTables (st : TunnelSessionMutableState) : ResourceTables where
  agentDials := st.pendingAgentOpens
  execs := st.pendingExecOpens
  uploads := st.fileUploads

/-- A command that starts or stops a dial or a command, or makes, removes or moves a file. -/
def TaskCommand.isResource : TaskCommand → Bool
  | spawnAgentDial _ _ | abortAgentDial _ | spawnExec _ _ | cancelExec _ => true
  | createFile _ | removeFile _ | renameFile _ _ => true
  | _ => false

def TunnelEffect.isResource : TunnelEffect → Bool
  | task command => command.isResource
  | _ => false

/-- A handler went from `a` to `b` emitting `out`, and started and stopped nothing. -/
structure Sparing (a : TunnelSessionMutableState) (out : List TunnelEffect)
    (b : TunnelSessionMutableState) : Prop where
  tables : b.resourceTables = a.resourceTables
  quiet : ∀ o ∈ out, o.isResource = false

theorem Sparing.refl (a : TunnelSessionMutableState) : Sparing a [] a :=
  ⟨rfl, fun _ h => absurd h List.not_mem_nil⟩

theorem Sparing.comp {a b c : TunnelSessionMutableState} {out out' : List TunnelEffect}
    (first : Sparing a out b) (second : Sparing b out' c) : Sparing a (out ++ out') c where
  tables := second.tables.trans first.tables
  quiet o h := (List.mem_append.mp h).elim (first.quiet o) (second.quiet o)

def sparing : Trail TunnelSessionMutableState TunnelEffect where
  rel := Sparing
  refl := Sparing.refl
  comp := Sparing.comp

/-! ### Primitive steps -/

theorem modify_sparing {f : TunnelSessionMutableState → TunnelSessionMutableState}
    (h : ∀ st, (f st).resourceTables = st.resourceTables) :
    Follows sparing (modify f : Session Unit) :=
  Follows.modify fun st => ⟨h st, fun _ ho => absurd ho List.not_mem_nil⟩

theorem emit_sparing {effect : TunnelEffect} (h : effect.isResource = false) :
    Follows sparing (emit effect : Session Unit) :=
  Follows.emit fun _ => ⟨rfl, fun o ho => by rwa [List.mem_singleton.mp ho]⟩

theorem sendToWriter_sparing (message : TunnelWriterMessage) :
    Follows sparing (sendToWriter message) := by
  refine Follows.read fun st => ?_
  split
  · exact Follows.pure _ st
  · exact Follows.bind (modify_sparing fun _ => by rfl)
      (fun _ => Follows.bind (emit_sparing (by rfl)) fun _ => Follows.pure _) st

/-- A send whose failure is an error. -/
theorem sendOrThrow_sparing (message : TunnelWriterMessage) {failed : Session Unit}
    (h : Follows sparing failed) :
    Follows sparing (do if ← sendToWriter message then return () else failed) := by
  refine Follows.bind (sendToWriter_sparing message) fun sent => ?_
  cases sent with
  | true => exact Follows.pure ()
  | false => exact h

theorem writeTunnelText_sparing (message : OutboundMessage) :
    Follows sparing (writeTunnelText message) := sendOrThrow_sparing _ (Follows.throw _)

theorem writeTunnelBinary_sparing (frame : StreamDataFrame) :
    Follows sparing (writeTunnelBinary frame) := sendOrThrow_sparing _ (Follows.throw _)

theorem writeTunnelPong_sparing (payload : List UInt8) :
    Follows sparing (writeTunnelPong payload) := sendOrThrow_sparing _ (Follows.throw _)

theorem writeTunnelFlush_sparing (sender : ResponseSender) :
    Follows sparing (writeTunnelFlush sender) :=
  sendOrThrow_sparing _ (Follows.bind (emit_sparing (by rfl)) fun _ => Follows.throw _)

/-- A frame that may not pass its checks. -/
theorem checkedFrame_sparing (streamId : StreamId) (payloadKind : UInt8) (payload : List UInt8)
    (failure : TunnelProtocolError → TunnelSessionError) :
    Follows sparing (match checkedFrame streamId payloadKind payload with
      | .error error => (throw (failure error) : Session Unit)
      | .ok frame => writeTunnelBinary frame) := by
  split
  · exact Follows.throw _
  · exact writeTunnelBinary_sparing _

theorem sendTelemetryFrames_sparing (frames : List TelemetryRelayFrame) :
    Follows sparing (sendTelemetryFrames frames) := by
  refine Follows.forEach fun frame _ => ?_
  cases frame with
  | text message => exact writeTunnelText_sparing message
  | binary frame => exact writeTunnelBinary_sparing frame

theorem publishFrames_sparing
    (result : Except TelemetryRelayError (List TelemetryRelayFrame) × TelemetryRelay) :
    Follows sparing (publishFrames result) := by
  refine Follows.bind (modify_sparing fun _ => by rfl) fun _ => ?_
  split
  · exact Follows.bind (Follows.attempt (sendTelemetryFrames_sparing _)) fun _ => Follows.pure _
  · exact Follows.pure _

theorem forwardSupervisorLifecycleEvents_sparing (lines : List String) :
    Follows sparing (forwardSupervisorLifecycleEvents lines) :=
  Follows.forEach fun _ _ => Follows.read fun st => publishFrames_sparing _ st

/-! ### Requests -/

theorem answerPendingSigning_sparing (requestId : String)
    (result : Except TunnelSessionError TunnelSigningResponse) :
    Follows sparing (answerPendingSigning requestId result) := by
  refine Follows.read fun st => ?_
  split
  · exact Follows.pure _ st
  · exact Follows.bind (modify_sparing fun _ => by rfl) (fun _ => emit_sparing (by rfl)) st

theorem handleSigningSessionRequest_sparing (request : TunnelSigningRequest)
    (sender : ResponseSender) : Follows sparing (handleSigningSessionRequest request sender) := by
  refine Follows.read fun st => ?_
  split
  · exact emit_sparing (by rfl) st
  split
  · exact emit_sparing (by rfl) st
  · refine Follows.bind (modify_sparing fun _ => by rfl) (fun _ => ?_) st
    refine Follows.bind (Follows.attempt (writeTunnelText_sparing _)) fun result => ?_
    cases result with
    | ok => exact Follows.pure _
    | error error =>
        exact Follows.bind (answerPendingSigning_sparing _ _) fun _ => Follows.throw _

theorem handleSigningControlMessage_sparing (message : SigningControlMessage) :
    Follows sparing (handleSigningControlMessage message) := by
  cases message with
  | request message => exact Follows.pure _
  | resultSuccess message => exact answerPendingSigning_sparing _ _
  | resultFailure message => exact answerPendingSigning_sparing _ _

theorem answerPendingEgressToken_sparing (requestId : String)
    (result : Except TunnelSessionError TunnelEgressToken) :
    Follows sparing (answerPendingEgressToken requestId result) := by
  refine Follows.read fun st => ?_
  split
  · exact Follows.pure _ st
  · exact Follows.bind (modify_sparing fun _ => by rfl)
      (fun _ => Follows.bind (emit_sparing (by rfl)) fun _ => Follows.pure _) st

theorem handlePtySessionControlMessage_sparing (message : PtySessionControlMessage) :
    Follows sparing (handlePtySessionControlMessage message) := by
  cases message with
  | «open» message => exact Follows.read fun st => emit_sparing (by rfl) st
  | opened message => exact Follows.pure _
  | error message => exact Follows.pure _

theorem failPendingRequests_sparing (ending : String) :
    Follows sparing (failPendingRequests ending) := by
  refine Follows.read fun st => ?_
  refine Follows.bind (modify_sparing fun _ => by rfl) (fun _ => ?_) st
  refine Follows.bind (Follows.forEach fun _ _ => emit_sparing (by rfl)) fun _ => ?_
  exact Follows.bind (modify_sparing fun _ => by rfl)
    fun _ => Follows.forEach fun _ _ => emit_sparing (by rfl)

/-! ### The operation stream -/

theorem answerClose_sparing (sender : Option ResponseSender) (result : Except String Unit) :
    Follows sparing (answerClose sender result) := by
  cases sender with
  | none => exact Follows.pure _
  | some sender => exact emit_sparing (by rfl)

theorem flushForClose_sparing (sender : Option ResponseSender) :
    Follows sparing (flushForClose sender) := by
  cases sender with
  | none => exact Follows.pure _
  | some sender =>
      exact Follows.bind (Follows.attempt (writeTunnelFlush_sparing sender)) fun _ => Follows.pure _

theorem closeOperationStreamIfDrained_sparing : Follows sparing closeOperationStreamIfDrained := by
  refine Follows.read fun st => ?_
  split
  · exact Follows.pure _ st
  · refine Follows.bind (modify_sparing fun _ => by rfl) (fun _ => ?_) st
    split
    · refine Follows.bind (Follows.attempt (writeTunnelText_sparing _)) fun result => ?_
      cases result with
      | error error =>
          exact Follows.bind (answerClose_sparing _ _) fun _ => modify_sparing fun _ => by rfl
      | ok => exact Follows.bind (flushForClose_sparing _) fun _ => modify_sparing fun _ => by rfl
    · exact Follows.bind (answerClose_sparing _ _) fun _ => modify_sparing fun _ => by rfl

theorem flushRecords_sparing (lines : List String) : Follows sparing (flushRecords lines) := by
  induction lines with
  | nil => exact Follows.pure _
  | cons line rest ih =>
      refine Follows.read fun st => ?_
      split
      · exact Follows.pure _ st
      split
      · exact Follows.pure _ st
      · refine Follows.bind (modify_sparing fun _ => by rfl) (fun _ => ?_) st
        refine Follows.bind (Follows.attempt (writeTunnelBinary_sparing _)) fun result => ?_
        cases result with
        | ok => exact ih
        | error error => exact Follows.bind (modify_sparing fun _ => by rfl) fun _ => Follows.pure _

theorem flushPendingOperationRecords_sparing : Follows sparing flushPendingOperationRecords := by
  refine Follows.read fun st => ?_
  split
  · exact Follows.pure _ st
  · refine Follows.bind (flushRecords_sparing _) (fun dry => ?_) st
    cases dry with
    | true => exact closeOperationStreamIfDrained_sparing
    | false => exact Follows.pure _

/-- What a change of the operation stream ends with. -/
theorem settleOperation_sparing :
    Follows sparing (do flushPendingOperationRecords; closeOperationStreamIfDrained) :=
  Follows.bind flushPendingOperationRecords_sparing
    fun _ => closeOperationStreamIfDrained_sparing

theorem recordOperation_sparing (line : String) : Follows sparing (recordOperation line) := by
  refine Follows.bind (Follows.read fun st => ?_) fun _ => flushPendingOperationRecords_sparing
  split
  · exact Follows.pure _ st
  · exact modify_sparing (fun _ => by rfl) st

theorem closeOperationStream_sparing (sender : ResponseSender) :
    Follows sparing (closeOperationStream sender) :=
  Follows.bind (modify_sparing fun _ => by rfl) fun _ => settleOperation_sparing

theorem handleOperationReset_sparing (messageType : String) :
    Follows sparing (handleOperationReset messageType) :=
  Follows.read fun _ => Follows.bind (modify_sparing fun _ => by rfl)
    (fun _ => Follows.bind (answerClose_sparing _ _) fun _ => modify_sparing fun _ => by rfl) _

theorem handleOperationOpenOk_sparing (value : Json String) :
    Follows sparing (handleOperationOpenOk value) := by
  unfold handleOperationOpenOk
  split
  · split
    · exact modify_sparing fun _ => by rfl
    · exact Follows.bind (modify_sparing fun _ => by rfl) fun _ => settleOperation_sparing
  · exact Follows.pure _

theorem handleOperationWindow_sparing (value : Json String) :
    Follows sparing (handleOperationWindow value) := by
  have hcredit : Follows sparing (addOperationCredit value) := by
    refine Follows.read fun st => ?_
    split
    · split
      · exact modify_sparing (fun _ => by rfl) st
      · exact Follows.pure _ st
    · exact Follows.pure _ st
  unfold handleOperationWindow
  split
  · exact Follows.bind hcredit fun _ => settleOperation_sparing
  · exact Follows.pure _

theorem handleOperationControlMessage_sparing (serde : SerdeJson) (payload : String) :
    Follows sparing (handleOperationControlMessage serde payload) := by
  unfold handleOperationControlMessage
  split
  · exact Follows.pure _
  unfold handleOperationValue
  split
  · exact Follows.pure _
  · exact Follows.bind (handleOperationOpenOk_sparing _) fun _ => Follows.pure _
  · exact Follows.bind (handleOperationWindow_sparing _) fun _ => Follows.pure _
  · exact Follows.bind (handleOperationReset_sparing _) fun _ => Follows.pure _
  · exact Follows.bind (handleOperationReset_sparing _) fun _ => Follows.pure _
  · exact Follows.pure _

section

variable (context : TunnelSessionLoopContext) (world : World)

theorem publishTunnelTelemetryLog_sparing (level : SandboxTelemetryLogLevel) (event : String)
    (extraFields : Fields) :
    Follows sparing (publishTunnelTelemetryLog context world level event extraFields) :=
  Follows.read fun st => publishFrames_sparing _ st

theorem recordEgressTokenEvent_sparing (event requestId : String) (extraFields : Fields) :
    Follows sparing (recordEgressTokenEvent context world event requestId extraFields) := by
  refine Follows.read fun st => ?_
  split
  · exact Follows.pure _ st
  split
  · exact Follows.pure _ st
  split
  · exact Follows.pure _ st
  · exact recordOperation_sparing _ st

theorem handleEgressTokenSessionRequest_sparing (requestId : String) (actingUserId : Option String)
    (sender : ResponseSender) : Follows sparing
      (handleEgressTokenSessionRequest context world requestId actingUserId sender) := by
  refine Follows.read fun st => ?_
  split
  · exact emit_sparing (by rfl) st
  split
  · exact emit_sparing (by rfl) st
  · refine Follows.bind (recordEgressTokenEvent_sparing _ _ _ _ _) (fun _ => ?_) st
    refine Follows.bind (modify_sparing fun _ => by rfl) fun _ => ?_
    refine Follows.bind (Follows.attempt (writeTunnelText_sparing _)) fun result => ?_
    cases result with
    | ok => exact Follows.pure _
    | error error =>
        exact Follows.bind (answerPendingEgressToken_sparing _ _) fun _ =>
          Follows.bind (recordEgressTokenEvent_sparing _ _ _ _ _) fun _ => Follows.throw _

theorem handleEgressTokenControlMessage_sparing (message : EgressTokenControlMessage) :
    Follows sparing (handleEgressTokenControlMessage context world message) := by
  have hanswer : ∀ (requestId event : String) result fields, Follows sparing (do
      if ← answerPendingEgressToken requestId result then
        recordEgressTokenEvent context world event requestId fields
      else return () : Session Unit) := by
    intro requestId event result fields
    refine Follows.bind (answerPendingEgressToken_sparing _ _) fun answered => ?_
    cases answered with
    | true => exact recordEgressTokenEvent_sparing _ _ _ _ _
    | false => exact Follows.pure _
  cases message with
  | request message => exact Follows.pure _
  | response message => exact hanswer _ _ _ _
  | error message => exact hanswer _ _ _ _

/-! ### Agent streams -/

theorem removeAgentStreamAndPublishSummary_sparing (streamId : StreamId)
    (termination : AgentStreamTermination) : Follows sparing
      (removeAgentStreamAndPublishSummary context world streamId termination) := by
  refine Follows.read fun st => ?_
  split
  · exact Follows.pure _ st
  · exact Follows.bind (modify_sparing fun _ => by rfl)
      (fun _ => Follows.bind (publishTunnelTelemetryLog_sparing _ _ _ _ _)
        fun _ => Follows.pure _) st

theorem addAgentStreamWindowCredit_sparing (streamId : StreamId) (bytes restoredAtMs : Nat) :
    Follows sparing (addAgentStreamWindowCredit streamId bytes restoredAtMs) := by
  refine Follows.read fun st => ?_
  split
  · exact Follows.pure _ st
  · split
    · exact Follows.throw _ st
    · exact Follows.bind (modify_sparing fun _ => by rfl) (fun _ => Follows.pure _) st

theorem sendToAgent_sparing (streamId : StreamId) (message : WebsocketMessage)
    (payloadBytes : Nat) :
    Follows sparing (sendToAgent world streamId message payloadBytes) := by
  refine Follows.read fun st => ?_
  split
  · exact Follows.pure _ st
  · split
    · exact Follows.bind (emit_sparing (by rfl)) (fun _ => modify_sparing fun _ => by rfl) st
    · exact Follows.throw _ st

theorem forwardGatewayFrameToAgent_sparing (frame : StreamDataFrame) :
    Follows sparing (forwardGatewayFrameToAgent context world frame) := by
  unfold forwardGatewayFrameToAgent
  split
  · split
    · exact Follows.throw _
    · exact sendToAgent_sparing world _ _ _
  split
  · exact sendToAgent_sparing world _ _ _
  · refine Follows.bind (removeAgentStreamAndPublishSummary_sparing _ _ _ _) fun removed => ?_
    dsimp only
    split
    · exact Follows.bind (emit_sparing (by rfl)) fun _ => writeTunnelText_sparing _
    · exact writeTunnelText_sparing _

theorem reserveAgentStreamSendWindow_sparing (streamId : StreamId) (payloadBytes nowMs : Nat) :
    Follows sparing (reserveAgentStreamSendWindow streamId payloadBytes nowMs) := by
  refine Follows.read fun st => ?_
  split
  · exact Follows.pure _ st
  · split
    · exact Follows.pure _ st
    · exact Follows.bind (modify_sparing fun _ => by rfl) (fun _ => Follows.pure _) st

theorem publishAgentRuntimePayload_sparing (streamId : StreamId) (payloadKind : UInt8)
    (payload : List UInt8) : Follows sparing
      (publishAgentRuntimePayload context world streamId payloadKind payload) := by
  refine Follows.bind (reserveAgentStreamSendWindow_sparing _ _ _) fun reserved => ?_
  split
  · exact Follows.pure _
  · refine Follows.bind (publishTunnelTelemetryLog_sparing _ _ _ _ _) fun _ => ?_
    refine Follows.bind (removeAgentStreamAndPublishSummary_sparing _ _ _ _) fun _ => ?_
    exact writeTunnelText_sparing _
  · refine Follows.bind (Follows.forEach fun _ _ => publishTunnelTelemetryLog_sparing _ _ _ _ _)
      fun _ => ?_
    exact checkedFrame_sparing _ _ _ _

theorem handleAgentRuntimeMessage_sparing (streamId : StreamId) (message : WebsocketMessage) :
    Follows sparing (handleAgentRuntimeMessage context world streamId message) := by
  cases message with
  | text payload => exact publishAgentRuntimePayload_sparing _ _ _ _ _
  | binary payload => exact publishAgentRuntimePayload_sparing _ _ _ _ _
  | ping payload =>
      refine Follows.read fun st => ?_
      split
      · exact Follows.pure _ st
      · split
        · exact emit_sparing (by rfl) st
        · exact Follows.throw _ st
  | pong payload => exact Follows.pure _
  | close =>
      exact Follows.bind (removeAgentStreamAndPublishSummary_sparing _ _ _ _)
        fun _ => writeTunnelText_sparing _
  | frame => exact Follows.pure _

theorem handleAgentClosed_sparing (streamId : StreamId) (reason : Option String) :
    Follows sparing (handleAgentClosed context world streamId reason) := by
  refine Follows.bind (removeAgentStreamAndPublishSummary_sparing _ _ _ _) fun removed => ?_
  split
  · exact Follows.pure _
  · exact writeTunnelText_sparing _

theorem handleAgentWriteCompleted_sparing (streamId : StreamId) (bytes : Nat) :
    Follows sparing (handleAgentWriteCompleted streamId bytes) := by
  refine Follows.read fun st => ?_
  split
  · exact writeTunnelText_sparing _ st
  · exact Follows.pure _ st

/-! ### Process streams -/

theorem closeProcessStream_sparing (streamId : StreamId) :
    Follows sparing (closeProcessStream streamId) := by
  refine Follows.read fun st => ?_
  split
  · exact Follows.pure _ st
  · exact Follows.bind (modify_sparing fun _ => by rfl) (fun _ => Follows.pure _) st

theorem addProcessStreamWindow_sparing (streamId : StreamId) (bytes : Nat) :
    Follows sparing (addProcessStreamWindow streamId bytes) := by
  refine Follows.read fun st => ?_
  split
  · exact Follows.pure _ st
  · split
    · exact Follows.throw _ st
    · exact Follows.bind (modify_sparing fun _ => by rfl) (fun _ => Follows.pure _) st

theorem rejectProcessStreamFrame_sparing (streamId : StreamId) (reason : String) :
    Follows sparing (rejectProcessStreamFrame streamId reason) :=
  Follows.bind (writeTunnelText_sparing _)
    fun _ => Follows.bind (closeProcessStream_sparing _) fun _ => Follows.pure _

theorem sendSnapshotToStream_sparing (payload : List UInt8) (streamId : StreamId) :
    Follows sparing (sendSnapshotToStream payload streamId) := by
  refine Follows.read fun st => ?_
  split
  · exact Follows.pure _ st
  · split
    · exact Follows.pure _ st
    · refine Follows.bind (modify_sparing fun _ => by rfl) (fun _ => ?_) st
      split
      · exact Follows.throw _
      · exact Follows.bind (writeTunnelBinary_sparing _) fun _ => Follows.pure _

theorem sendSnapshotToEach_sparing (payload : List UInt8) (ids : List StreamId) :
    Follows sparing (sendSnapshotToEach payload ids) := by
  induction ids with
  | nil => exact Follows.pure _
  | cons streamId rest ih =>
      exact Follows.bind (sendSnapshotToStream_sparing _ _) fun _ =>
        Follows.bind ih fun _ => Follows.pure _

theorem sendProcessesSnapshotToStreams_sparing :
    Follows sparing (sendProcessesSnapshotToStreams context world) := by
  refine Follows.read fun st => ?_
  split
  · exact Follows.pure _ st
  · split
    · exact Follows.throw _ st
    · refine Follows.bind (sendSnapshotToEach_sparing _ _) (fun exhausted => ?_) st
      refine Follows.forEach fun t _ => ?_
      exact Follows.bind (writeTunnelText_sparing _)
        fun _ => Follows.bind (closeProcessStream_sparing _) fun _ => Follows.pure _

theorem resetProcessStreams_sparing (message : String) :
    Follows sparing (resetProcessStreams message) :=
  Follows.read fun st => Follows.bind (modify_sparing fun _ => by rfl)
    (fun _ => Follows.forEach fun _ _ => writeTunnelText_sparing _) st

/-- A snapshot to all streams, with all of them reset if it fails. -/
theorem snapshotOrReset_sparing {snapshot after : Session Unit}
    (hsnapshot : Follows sparing snapshot) (hafter : Follows sparing after) :
    Follows sparing (do
      match ← attempt snapshot with
      | .ok () => after
      | .error error => resetProcessStreams error.display : Session Unit) := by
  refine Follows.bind (Follows.attempt hsnapshot) fun result => ?_
  cases result with
  | ok => exact hafter
  | error error => exact resetProcessStreams_sparing _

theorem openProcessStream_sparing (streamId : StreamId) :
    Follows sparing (openProcessStream context world streamId) := by
  unfold openProcessStream
  split
  · exact writeTunnelText_sparing _
  · refine Follows.bind (modify_sparing fun _ => by rfl) fun _ => ?_
    refine Follows.bind (writeTunnelText_sparing _) fun _ => ?_
    refine snapshotOrReset_sparing ?_ (Follows.pure ())
    exact Follows.bind (sendProcessesSnapshotToStreams_sparing _ _)
      fun _ => modify_sparing fun _ => by rfl

theorem handleWake_sparing : Follows sparing (handleWake context world) := by
  refine snapshotOrReset_sparing (Follows.read fun st => ?_) (Follows.pure ())
  split
  · exact modify_sparing (fun _ => by rfl) st
  · split
    · exact Follows.bind (sendProcessesSnapshotToStreams_sparing _ _)
        (fun _ => modify_sparing fun _ => by rfl) st
    · exact Follows.pure _ st

theorem handleProcessStreamFrame_sparing (frame : StreamDataFrame) :
    Follows sparing (handleProcessStreamFrame context world frame) := by
  unfold handleProcessStreamFrame
  split
  · exact rejectProcessStreamFrame_sparing _ _
  split
  · exact Follows.throw _
  split
  · refine Follows.bind (writeTunnelText_sparing _) fun _ => ?_
    exact snapshotOrReset_sparing (sendProcessesSnapshotToStreams_sparing _ _)
      (modify_sparing fun _ => by rfl)
  · exact rejectProcessStreamFrame_sparing _ _
  · exact rejectProcessStreamFrame_sparing _ _

/-! ### File search streams -/

theorem closeFileSearchStream_sparing (streamId : StreamId)
    (closeTelemetry : FileSearchStreamCloseTelemetry) :
    Follows sparing (closeFileSearchStream context world streamId closeTelemetry) := by
  refine Follows.read fun st => ?_
  split
  · exact Follows.pure _ st
  · exact Follows.bind (modify_sparing fun _ => by rfl)
      (fun _ => Follows.bind (publishTunnelTelemetryLog_sparing _ _ _ _ _)
        fun _ => emit_sparing (by rfl)) st

theorem resetFileSearchStream_sparing (streamId : StreamId) (code reason : String) :
    Follows sparing (resetFileSearchStream context world streamId code reason) :=
  Follows.bind (writeTunnelText_sparing _) fun _ => closeFileSearchStream_sparing _ _ _ _

theorem handleFileSearchWorkerEvent_sparing (event : FileSearchWorkerEvent) :
    Follows sparing (handleFileSearchWorkerEvent context world event) := by
  have hsend : ∀ payload,
      Follows sparing (sendFileSearchPayload context world event.streamId payload) := by
    intro payload
    refine Follows.read fun st => ?_
    split
    · exact Follows.pure _ st
    · split
      · exact resetFileSearchStream_sparing _ _ _ _ _ st
      · exact Follows.bind (modify_sparing fun _ => by rfl)
          (fun _ => checkedFrame_sparing _ _ _ _) st
  refine Follows.read fun st => ?_
  split
  · exact Follows.pure _ st
  · exact Follows.bind (modify_sparing fun _ => by rfl)
      (fun _ => Follows.bind (publishTunnelTelemetryLog_sparing _ _ _ _ _) fun _ => hsend _) st

theorem acceptFileSearchCommand_sparing (frame : StreamDataFrame)
    (command : FileSearchWorkerCommand) :
    Follows sparing (acceptFileSearchCommand context world frame command) := by
  refine Follows.bind (writeTunnelText_sparing _) fun _ => Follows.read fun st => ?_
  split
  · exact Follows.pure _ st
  · split
    · exact emit_sparing (by rfl) st
    · exact resetFileSearchStream_sparing _ _ _ _ _ st

theorem handleFileSearchFrame_sparing (frame : StreamDataFrame) :
    Follows sparing (handleFileSearchFrame context world frame) := by
  unfold handleFileSearchFrame
  split
  · exact resetFileSearchStream_sparing _ _ _ _ _
  split
  · exact Follows.throw _
  split
  · exact acceptFileSearchCommand_sparing _ _ _ _
  · exact acceptFileSearchCommand_sparing _ _ _ _
  · exact resetFileSearchStream_sparing _ _ _ _ _
  · exact resetFileSearchStream_sparing _ _ _ _ _
  · exact resetFileSearchStream_sparing _ _ _ _ _

theorem openFileSearchStream_sparing (message : FileSearchStreamOpen) :
    Follows sparing (openFileSearchStream context world message) := by
  unfold openFileSearchStream
  split
  · exact Follows.bind (publishTunnelTelemetryLog_sparing _ _ _ _ _)
      fun _ => writeTunnelText_sparing _
  · refine Follows.bind (emit_sparing (by rfl)) fun _ => ?_
    refine Follows.bind (modify_sparing fun _ => by rfl) fun _ => ?_
    exact Follows.bind (publishTunnelTelemetryLog_sparing _ _ _ _ _)
      fun _ => writeTunnelText_sparing _

/-! ### Port access -/

theorem closeTcpDirection_sparing (streamId : StreamId)
    (mark : PortAccessTcpStreamState → PortAccessTcpStreamState) :
    Follows sparing (closeTcpDirection streamId mark) := by
  refine Follows.bind (modify_sparing fun _ => by rfl) fun _ => Follows.read fun st => ?_
  split
  · exact Follows.pure _ st
  · split
    · exact modify_sparing (fun _ => by rfl) st
    · exact Follows.pure _ st

theorem markPortAccessTcpDirectionClosed_sparing (streamId : StreamId) (direction : String) :
    Follows sparing (markPortAccessTcpDirectionClosed streamId direction) := by
  unfold markPortAccessTcpDirectionClosed
  split
  · exact closeTcpDirection_sparing _ _
  · exact closeTcpDirection_sparing _ _
  · exact Follows.pure _

theorem terminatePortAccessTcpStream_sparing (streamId : StreamId) :
    Follows sparing (terminatePortAccessTcpStream streamId) := by
  refine Follows.read fun st => ?_
  split
  · exact Follows.pure _ st
  · exact Follows.bind (modify_sparing fun _ => by rfl) (fun _ => emit_sparing (by rfl)) st

theorem closePortAccessTcpStreams_sparing : Follows sparing closePortAccessTcpStreams :=
  Follows.read fun st => Follows.bind (modify_sparing fun _ => by rfl)
    (fun _ => Follows.forEach fun _ _ => emit_sparing (by rfl)) st

theorem handleBootstrapClosed_sparing (reason : Option String) :
    Follows sparing (handleBootstrapClosed context world reason) := by
  refine Follows.bind closePortAccessTcpStreams_sparing fun _ => Follows.read fun st => ?_
  exact Follows.bind (modify_sparing fun _ => by rfl)
    (fun _ => Follows.forEach fun _ _ => publishTunnelTelemetryLog_sparing _ _ _ _ _) st

theorem handlePortsControlMessage_sparing (message : PortsTargetAuthorize) :
    Follows sparing (handlePortsControlMessage world message) := by
  unfold handlePortsControlMessage
  split
  · exact Follows.throw _
  · exact writeTunnelText_sparing _
  · split
    · exact writeTunnelText_sparing _
    · exact Follows.throw _

theorem applyPortAccessTransportEvent_sparing (event : PortAccessTransportEvent) :
    Follows sparing (applyPortAccessTransportEvent event) := by
  cases event with
  | httpBodyEnd message => exact modify_sparing fun _ => by rfl
  | tcpClose message => exact markPortAccessTcpDirectionClosed_sparing _ _
  | tcpError message => exact modify_sparing fun _ => by rfl
  | streamError message =>
      exact Follows.bind (modify_sparing fun _ => by rfl) fun _ => modify_sparing fun _ => by rfl
  | _ => exact Follows.pure _

theorem writePortAccessTransportEvent_sparing (event : PortAccessTransportEvent) :
    Follows sparing (writePortAccessTransportEvent event) := by
  cases event with
  | tcpData streamId bytes => exact checkedFrame_sparing _ _ _ _
  | tcpInputWindow streamId bytes =>
      refine Follows.read fun st => ?_
      split
      · exact Follows.pure _ st
      · split
        · exact Follows.throw _ st
        · exact Follows.bind (modify_sparing fun _ => by rfl)
            (fun _ => writeTunnelText_sparing _) st
  | _ => exact writeTunnelText_sparing _

theorem handlePortAccessTransportEvent_sparing (event : PortAccessTransportEvent) :
    Follows sparing (handlePortAccessTransportEvent event) :=
  Follows.bind (applyPortAccessTransportEvent_sparing event)
    fun _ => writePortAccessTransportEvent_sparing event

theorem sendTcpCommand_sparing (streamId : StreamId) (command : PortAccessTcpCommand) :
    Follows sparing (sendTcpCommand world streamId command) := by
  unfold sendTcpCommand
  split
  · exact emit_sparing (by rfl)
  · exact Follows.throw _

theorem sendHttpCommand_sparing (streamId : StreamId) (command : PortAccessHttpCommand) :
    Follows sparing (sendHttpCommand world streamId command) := by
  unfold sendHttpCommand
  split
  · exact emit_sparing (by rfl)
  · exact Follows.throw _

theorem handlePortsTransportMessage_sparing (message : PortsTransportMessage) :
    Follows sparing (handlePortsTransportMessage context world message) := by
  refine Follows.read fun st => ?_
  cases message with
  | tcpOpen message =>
      dsimp only
      split
      · exact Follows.throw _ st
      · exact Follows.bind (emit_sparing (by rfl)) (fun _ => modify_sparing fun _ => by rfl) st
  | tcpConnected message => exact Follows.throw _ st
  | tcpClose message =>
      dsimp only
      split
      · exact Follows.throw _ st
      split
      · exact Follows.throw _ st
      · exact sendTcpCommand_sparing _ _ _ st
  | tcpError message => exact Follows.throw _ st
  | httpOpen message =>
      dsimp only
      split
      · exact Follows.throw _ st
      · exact Follows.bind (emit_sparing (by rfl)) (fun _ => modify_sparing fun _ => by rfl) st
  | httpBodyChunk message =>
      dsimp only
      split
      · exact Follows.throw _ st
      split
      · exact Follows.throw _ st
      split
      · exact Follows.throw _ st
      · exact sendHttpCommand_sparing _ _ _ st
  | httpBodyEnd message =>
      dsimp only
      split
      · exact Follows.throw _ st
      split
      · exact Follows.throw _ st
      · exact sendHttpCommand_sparing _ _ _ st
  | streamClose message =>
      dsimp only
      split
      · exact Follows.bind (modify_sparing fun _ => by rfl)
          (fun _ => sendHttpCommand_sparing _ _ _) st
      split
      · exact Follows.bind (modify_sparing fun _ => by rfl)
          (fun _ => sendTcpCommand_sparing _ _ _) st
      · exact Follows.throw _ st
  | httpResponseStart message => exact Follows.throw _ st
  | streamError message => exact Follows.throw _ st

theorem handlePortAccessTcpDataFrame_sparing (frame : StreamDataFrame) :
    Follows sparing (handlePortAccessTcpDataFrame world frame) := by
  have hreject : ∀ code reason,
      Follows sparing (rejectPortAccessTcpFrame frame.streamId code reason) :=
    fun _ _ => Follows.bind (writeTunnelText_sparing _)
      fun _ => terminatePortAccessTcpStream_sparing _
  unfold handlePortAccessTcpDataFrame
  split
  · exact hreject _ _
  · refine Follows.read fun st => ?_
    split
    · exact Follows.pure _ st
    · split
      · exact hreject _ _ st
      · exact Follows.bind (modify_sparing fun _ => by rfl)
          (fun _ => sendTcpCommand_sparing _ _ _) st

/-! ### Credit -/

theorem handleStreamWindow_sparing (streamId : StreamId) (bytes : Nat) :
    Follows sparing (handleStreamWindow world streamId bytes) := by
  have hcredit : ∀ step ∈ [addAgentStreamWindowCredit streamId bytes world.nowMs,
      addProcessStreamWindow streamId bytes, addFileSearchStreamWindow streamId bytes,
      forwardTcpWindow world streamId bytes, isPendingOpen streamId], Follows sparing step := by
    simp only [List.forall_mem_cons, List.not_mem_nil, IsEmpty.forall_iff, implies_true, and_true]
    refine ⟨addAgentStreamWindowCredit_sparing _ _ _, addProcessStreamWindow_sparing _ _, ?_, ?_,
      Follows.read fun st => Follows.pure _ st⟩
    · refine Follows.read fun st => ?_
      split
      · exact Follows.pure _ st
      · split
        · exact Follows.throw _ st
        · exact Follows.bind (modify_sparing fun _ => by rfl) (fun _ => Follows.pure _) st
    · refine Follows.read fun st => ?_
      split
      · exact Follows.pure _ st
      · exact Follows.bind (sendTcpCommand_sparing _ _ _) (fun _ => Follows.pure _) st
  refine Follows.bind (firstOf_follows _ hcredit) fun done => ?_
  cases done with
  | true => exact Follows.pure _
  | false => exact writeTunnelText_sparing _

/-! ### Texts of the gateway -/

theorem handleTelemetryText_sparing (payload : String) :
    Follows sparing (handleTelemetryText context world payload) := by
  refine Follows.read fun st => ?_
  refine Follows.bind (modify_sparing fun _ => by rfl) (fun _ => ?_) st
  split
  · exact Follows.bind (sendTelemetryFrames_sparing _) fun _ => Follows.pure _
  · exact Follows.pure _
  · exact Follows.bind (publishTunnelTelemetryLog_sparing _ _ _ _ _) fun _ => Follows.pure _

theorem offerText_sparing {α : Type} (parsed : Except TunnelProtocolError (Option α))
    {handle : α → Session Unit} (h : ∀ message, Follows sparing (handle message)) :
    Follows sparing (offerText context world parsed handle) := by
  unfold offerText
  split
  · exact Follows.bind (h _) fun _ => Follows.pure _
  · exact Follows.pure _
  · exact Follows.bind (publishTunnelTelemetryLog_sparing _ _ _ _ _) fun _ => Follows.pure _

theorem handlePortsTransportText_sparing (message : PortsTransportMessage) :
    Follows sparing (handlePortsTransportText context world message) := by
  refine Follows.bind (Follows.attempt (handlePortsTransportMessage_sparing _ _ _))
    fun result => ?_
  cases result with
  | ok => exact Follows.pure _
  | error error => exact publishTunnelTelemetryLog_sparing _ _ _ _ _

end

end Mistle
