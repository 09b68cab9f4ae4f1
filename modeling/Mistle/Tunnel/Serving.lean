import Mistle.Tunnel.Connection

/-!
# Handlers that Complete

While the writer's receiver stays, most handlers cannot fail. What is left are a
few places where a handler of one stream throws: a grant that does not fit, a
task that is gone, bytes that are no text, an upload that the file system or its
metadata refuse. Here is what each handler needs in order to complete.

## Main definitions

* `Completes`: A call succeeds and the writer's receiver stays.
* `Unfailing`: Every such call does.
* `Tries`: A step passes on the turn, or takes it and completes.

## Theorems

* `unfailing_bind`, `completes_bind`: Sequencing.
* `firstOf_completes`: Steps that are tried in turn.
* `handleStreamWindow_completes`, `handleStreamClose_completes`,
  `handleTunnelBinaryFrame_completes`, `handleTunnelControlMessage_completes`:
  Messages of the gateway.
-/

namespace Mistle

open Handler

/-- The call succeeds, and the writer's receiver stays. -/
def Completes {α : Type} (x : Session α) (st : TunnelSessionMutableState) : Prop :=
  Returns x st fun _ st' _ => st'.tunnelWriter = .open

/-- Every call completes while the writer's receiver stays. -/
def Unfailing {α : Type} (x : Session α) : Prop :=
  ∀ st, st.tunnelWriter = .open → Completes x st

section

variable {α β : Type}

theorem completes_pure (a : α) {st : TunnelSessionMutableState} (h : st.tunnelWriter = .open) :
    Completes (pure a : Session α) st := Returns.pure h

theorem unfailing_pure (a : α) : Unfailing (pure a : Session α) :=
  fun _ h => completes_pure a h

theorem completes_bind {x : Session α} {f : α → Session β} {st : TunnelSessionMutableState}
    (hx : Completes x st) (hf : ∀ a, Unfailing (f a)) : Completes (x >>= f) st :=
  Returns.bind hx fun a _ _ hwriter => hf a _ hwriter

theorem unfailing_bind {x : Session α} {f : α → Session β} (hx : Unfailing x)
    (hf : ∀ a, Unfailing (f a)) : Unfailing (x >>= f) :=
  fun st h => completes_bind (hx st h) hf

theorem unfailing_read {f : TunnelSessionMutableState → Session β}
    (h : ∀ st, st.tunnelWriter = .open → Completes (f st) st) : Unfailing (get >>= f) :=
  fun st hst => Returns.read (h st hst)

theorem completes_modify {f : TunnelSessionMutableState → TunnelSessionMutableState}
    {st : TunnelSessionMutableState} (h : (f st).tunnelWriter = .open) :
    Completes (modify f : Session Unit) st := Returns.modify h

theorem unfailing_emit (effect : TunnelEffect) : Unfailing (emit effect : Session Unit) :=
  fun _ h => Returns.emit h

theorem unfailing_each {f : α → Session Unit} (as : List α) (hf : ∀ a ∈ as, Unfailing (f a)) :
    Unfailing (each f as) :=
  fun st h => Returns.forEach as st h fun a ha st hst => hf a ha st hst

/-- An attempt completes, whatever was attempted. -/
theorem unfailing_attempt {scope : Scope} {x : Session α} (h : Follows (footprint scope) x) :
    Unfailing (attempt x) :=
  fun st hst => Returns.attempt ((h st).writer hst)

end

theorem unfailing_writeTunnelText (message : OutboundMessage) :
    Unfailing (writeTunnelText message) := by
  intro st h
  have hsend : st.tunnelWriter.send = some .open := by rw [h]; rfl
  exact ⟨(), _, _, writeTunnelText_of_send hsend message, rfl⟩

theorem unfailing_writeTunnelBinary (frame : StreamDataFrame) :
    Unfailing (writeTunnelBinary frame) := by
  intro st h
  have hsend : st.tunnelWriter.send = some .open := by rw [h]; rfl
  exact ⟨(), _, _, writeTunnelBinary_of_send hsend frame, rfl⟩

/-- A log record completes: a send that fails is printed and forgotten. -/
theorem unfailing_publishTunnelTelemetryLog (context : TunnelSessionLoopContext) (world : World)
    (level : SandboxTelemetryLogLevel) (event : String) (extraFields : Fields) :
    Unfailing (publishTunnelTelemetryLog context world level event extraFields) := by
  refine unfailing_read fun st h => ?_
  unfold publishFrames
  refine completes_bind (completes_modify h) fun _ => ?_
  split
  · rename_i frames _
    refine unfailing_bind (fun st h => Returns.attempt ?_) fun _ => unfailing_pure ()
    -- Lines or not, what is sent never uses up a writer whose receiver stays.
    have hsent : ∀ frames, Unfailing (sendTelemetryFrames frames) := by
      intro frames
      refine unfailing_each frames fun frame _ => ?_
      cases frame with
      | text message => exact unfailing_writeTunnelText message
      | binary frame => exact unfailing_writeTunnelBinary frame
    rcases hsent frames st h with ⟨_, st', out, houtcome, hst'⟩
    rw [houtcome]
    exact hst'
  · exact unfailing_pure ()

/-! ### Turns -/

/-- A step passes on the turn without a trace, or takes it and completes. -/
def Tries (step : Session Bool) (st : TunnelSessionMutableState) : Prop :=
  step st = ⟨.ok false, st, []⟩ ∨
    Returns step st fun done st' _ => done = true ∧ st'.tunnelWriter = .open

theorem firstOf_completes (steps : List (Session Bool)) (st : TunnelSessionMutableState)
    (h : st.tunnelWriter = .open) (hsteps : ∀ step ∈ steps, Tries step st) :
    Completes (firstOf steps) st := by
  induction steps with
  | nil => exact completes_pure false h
  | cons step rest ih =>
      have hrest := ih fun step hmem => hsteps step (List.mem_cons_of_mem _ hmem)
      rcases hsteps step (List.mem_cons_self ..) with hpasses | htakes
      · rcases hrest with ⟨done, st', out, houtcome, hst'⟩
        refine ⟨done, st', out, ?_, hst'⟩
        unfold firstOf
        rw [bind_ok hpasses, if_neg Bool.false_ne_true, houtcome]
        rfl
      · unfold firstOf
        refine Returns.bind htakes fun done st' _ hdone => ?_
        rw [hdone.1, if_pos rfl]
        exact Returns.pure hdone.2

/-- A step that looks for an entry: without one it passes, with one it completes. -/
theorem tries_of_lookup {β : Type} {st : TunnelSessionMutableState} (entry : Option β)
    {step : Session Bool} (hnone : entry = none → step st = ⟨.ok false, st, []⟩)
    (hsome : ∀ b, entry = some b →
      Returns step st fun done st' _ => done = true ∧ st'.tunnelWriter = .open) :
    Tries step st := by
  cases hentry : entry with
  | none => exact .inl (hnone hentry)
  | some b => exact .inr (hsome b hentry)

/-- A call that completes and then reports that the turn is taken. -/
theorem taken {α : Type} {x : Session α} {st : TunnelSessionMutableState} (h : Completes x st) :
    Returns (x >>= fun _ => (pure true : Session Bool)) st
      fun done st' _ => done = true ∧ st'.tunnelWriter = .open :=
  Returns.bind h fun _ _ _ hst' => Returns.pure ⟨rfl, hst'⟩

section

variable (context : TunnelSessionLoopContext) (world : World)

/-! ### Closing -/

theorem unfailing_removeAgentStreamAndPublishSummary (streamId : StreamId)
    (termination : AgentStreamTermination) :
    Unfailing (removeAgentStreamAndPublishSummary context world streamId termination) := by
  refine unfailing_read fun st h => ?_
  split
  · exact completes_pure _ h
  · refine completes_bind (completes_modify h) fun _ => ?_
    exact unfailing_bind (unfailing_publishTunnelTelemetryLog _ _ _ _ _) fun _ => unfailing_pure _

/-- An agent stream that was there is handed back. -/
theorem removeAgentStreamAndPublishSummary_of_some {streamId : StreamId}
    {st : TunnelSessionMutableState} (h : st.tunnelWriter = .open) {agentStream : AgentStreamState}
    (hsome : st.agentStreams[streamId]? = some agentStream)
    (termination : AgentStreamTermination) :
    Returns (removeAgentStreamAndPublishSummary context world streamId termination) st
      fun removed st' _ => removed = some agentStream ∧ st'.tunnelWriter = .open := by
  refine Returns.read ?_
  rw [hsome]
  refine Returns.bind (completes_modify h) fun _ st' _ hst' => ?_
  refine Returns.bind (unfailing_publishTunnelTelemetryLog _ _ _ _ _ st' hst')
    fun _ st'' _ hst'' => ?_
  exact Returns.pure ⟨rfl, hst''⟩

theorem unfailing_closeFileSearchStream (streamId : StreamId)
    (closeTelemetry : FileSearchStreamCloseTelemetry) :
    Unfailing (closeFileSearchStream context world streamId closeTelemetry) := by
  refine unfailing_read fun st h => ?_
  split
  · exact completes_pure _ h
  · refine completes_bind (completes_modify h) fun _ => ?_
    exact unfailing_bind (unfailing_publishTunnelTelemetryLog _ _ _ _ _) fun _ => unfailing_emit _

theorem unfailing_resetFileSearchStream (streamId : StreamId) (code reason : String) :
    Unfailing (resetFileSearchStream context world streamId code reason) :=
  unfailing_bind (unfailing_writeTunnelText _) fun _ => unfailing_closeFileSearchStream _ _ _ _

theorem unfailing_closeProcessStream (streamId : StreamId) :
    Unfailing (closeProcessStream streamId) := by
  refine unfailing_read fun st h => ?_
  split
  · exact completes_pure _ h
  · exact completes_bind (completes_modify h) fun _ => unfailing_pure _

theorem unfailing_terminatePortAccessTcpStream (streamId : StreamId) :
    Unfailing (terminatePortAccessTcpStream streamId) := by
  refine unfailing_read fun st h => ?_
  split
  · exact completes_pure _ h
  · exact completes_bind (completes_modify h) fun _ => unfailing_emit _

theorem unfailing_rejectPortAccessTcpFrame (streamId : StreamId) (code reason : String) :
    Unfailing (rejectPortAccessTcpFrame streamId code reason) :=
  unfailing_bind (unfailing_writeTunnelText _) fun _ => unfailing_terminatePortAccessTcpStream _

theorem unfailing_rejectFileUpload (streamId : StreamId) (uploadState : FileUploadState)
    (code message : String) :
    Unfailing (rejectFileUpload streamId uploadState code message) :=
  unfailing_bind (unfailing_writeTunnelText _) fun _ => unfailing_emit _

theorem unfailing_discardFileUpload (streamId : StreamId) (tempPath code reason : String) :
    Unfailing (discardFileUpload streamId tempPath code reason) := by
  refine unfailing_bind (fun st h => completes_modify h) fun _ => ?_
  exact unfailing_bind (unfailing_emit _) fun _ => unfailing_writeTunnelText _

/-- An upload is finished, if the file system lets it be. -/
theorem finalizeFileUpload_completes {streamId : StreamId} {uploadState : FileUploadState}
    (hsync : uploadState.receivedBytes = uploadState.sizeBytes → world.syncFile = .ok ())
    (hrename : uploadState.receivedBytes = uploadState.sizeBytes → ∀ classification,
      classifyUploadedFile uploadState.mimeType uploadState.originalFilename
        world.uploadSignature = .ok classification → world.renameFile = .ok ()) :
    Unfailing (finalizeFileUpload world streamId uploadState) := by
  unfold finalizeFileUpload
  split
  · exact unfailing_rejectFileUpload _ _ _ _
  · rename_i hcount
    rw [ne_eq, not_not] at hcount
    rw [hsync hcount]
    dsimp only
    split
    · exact unfailing_rejectFileUpload _ _ _ _
    · exact unfailing_rejectFileUpload _ _ _ _
    · rename_i classification hclassification
      rw [hrename hcount classification hclassification]
      refine unfailing_bind (unfailing_emit _) fun _ => ?_
      exact unfailing_bind (unfailing_writeTunnelText _) fun _ => unfailing_writeTunnelText _

theorem handleStreamClose_completes {streamId : StreamId} {st : TunnelSessionMutableState}
    (h : st.tunnelWriter = .open)
    (hupload : ∀ uploadState, st.fileUploads[streamId]? = some uploadState →
      Unfailing (finalizeFileUpload world streamId uploadState)) :
    Completes (handleStreamClose context world streamId) st := by
  unfold handleStreamClose
  refine completes_bind (firstOf_completes _ st h ?_) fun done => ?_
  · simp only [List.forall_mem_cons, List.not_mem_nil, IsEmpty.forall_iff, implies_true, and_true]
    refine ⟨tries_of_lookup st.pendingAgentOpens[streamId]? (fun hnone => ?_) fun entry hsome => ?_,
      tries_of_lookup st.agentStreams[streamId]? (fun hnone => ?_) fun entry hsome => ?_,
      tries_of_lookup st.processStreams.sendWindows[streamId]? (fun hnone => ?_)
        fun entry hsome => ?_,
      tries_of_lookup st.fileSearchStreams[streamId]? (fun hnone => ?_) fun entry hsome => ?_,
      tries_of_lookup st.pendingExecOpens[streamId]? (fun hnone => ?_) fun entry hsome => ?_,
      tries_of_lookup st.fileUploads[streamId]? (fun hnone => ?_) fun entry hsome => ?_⟩
    · unfold abortPendingAgentOpen
      rw [bind_ok (get_apply st), hnone]
      rfl
    · refine Returns.read ?_
      rw [hsome]
      refine Returns.bind (completes_modify h) fun _ st' _ hst' => ?_
      exact taken (unfailing_emit _ st' hst')
    · unfold closeAgentStream
      rw [bind_ok (removeAgentStreamAndPublishSummary_of_none _ _ hnone _)]
      rfl
    · unfold closeAgentStream
      refine Returns.bind (removeAgentStreamAndPublishSummary_of_some _ _ h hsome _)
        fun removed st' _ hst' => ?_
      rw [hst'.1]
      exact taken (unfailing_emit _ st' hst'.2)
    · unfold closeProcessStream
      rw [bind_ok (get_apply st), hnone]
      rfl
    · unfold closeProcessStream
      refine Returns.read ?_
      rw [hsome]
      exact taken (completes_modify h)
    · unfold closeFileSearchStreamOfGateway
      rw [bind_ok (get_apply st), hnone]
      rfl
    · unfold closeFileSearchStreamOfGateway
      refine Returns.read ?_
      rw [hsome]
      exact taken (unfailing_closeFileSearchStream _ _ _ _ st h)
    · unfold cancelPendingExecOpen
      rw [bind_ok (get_apply st), hnone]
      rfl
    · unfold cancelPendingExecOpen
      refine Returns.read ?_
      rw [hsome]
      refine Returns.bind (completes_modify h) fun _ st' _ hst' => ?_
      exact taken (unfailing_emit _ st' hst')
    · unfold closeFileUpload
      rw [bind_ok (get_apply st), hnone]
      rfl
    · unfold closeFileUpload
      refine Returns.read ?_
      rw [hsome]
      refine Returns.bind (completes_modify h) fun _ st' _ hst' => ?_
      exact taken (hupload entry hsome st' hst')
  · cases done with
    | true => exact unfailing_pure ()
    | false => exact unfailing_writeTunnelText _

/-! ### Credit -/

/-- A grant fits every window the stream has. -/
def GrantFits (st : TunnelSessionMutableState) (streamId : StreamId) (bytes : Nat) : Prop :=
  (∀ agentStream, st.agentStreams[streamId]? = some agentStream →
    ∃ window, agentStream.sendWindow.add bytes = .ok window) ∧
  (∀ sendWindow, st.processStreams.sendWindows[streamId]? = some sendWindow →
    ∃ window, sendWindow.add bytes = .ok window) ∧
  ∀ state, st.fileSearchStreams[streamId]? = some state →
    ∃ window, state.sendWindow.add bytes = .ok window

theorem handleStreamWindow_completes {streamId : StreamId} {bytes : Nat}
    {st : TunnelSessionMutableState} (h : st.tunnelWriter = .open)
    (hfits : GrantFits st streamId bytes)
    (htcp : st.portAccessTcpStreams[streamId]?.isSome → world.tcpListens = true) :
    Completes (handleStreamWindow world streamId bytes) st := by
  rcases hfits with ⟨hagent, hprocess, hsearch⟩
  unfold handleStreamWindow
  refine completes_bind (firstOf_completes _ st h ?_) fun done => ?_
  · simp only [List.forall_mem_cons, List.not_mem_nil, IsEmpty.forall_iff, implies_true, and_true]
    refine ⟨tries_of_lookup st.agentStreams[streamId]? (fun hnone => ?_) fun entry hsome => ?_,
      tries_of_lookup st.processStreams.sendWindows[streamId]? (fun hnone => ?_)
        fun entry hsome => ?_,
      tries_of_lookup st.fileSearchStreams[streamId]? (fun hnone => ?_) fun entry hsome => ?_,
      tries_of_lookup st.portAccessTcpStreams[streamId]? (fun hnone => ?_)
        fun entry hsome => ?_, ?_⟩
    · unfold addAgentStreamWindowCredit
      rw [bind_ok (get_apply st), hnone]
      rfl
    · rcases hagent entry hsome with ⟨window, hadd⟩
      refine Returns.read ?_
      rw [hsome]
      simp only [hadd]
      exact taken (completes_modify h)
    · unfold addProcessStreamWindow
      rw [bind_ok (get_apply st), hnone]
      rfl
    · rcases hprocess entry hsome with ⟨window, hadd⟩
      refine Returns.read ?_
      rw [hsome]
      simp only [hadd]
      exact taken (completes_modify h)
    · unfold addFileSearchStreamWindow
      rw [bind_ok (get_apply st), hnone]
      rfl
    · rcases hsearch entry hsome with ⟨window, hadd⟩
      refine Returns.read ?_
      rw [hsome]
      simp only [hadd]
      exact taken (completes_modify h)
    · unfold forwardTcpWindow
      rw [bind_ok (get_apply st), hnone]
      rfl
    · have hlistens := htcp (by rw [hsome]; rfl)
      have hsend : Completes (sendTcpCommand world streamId (.window bytes)) st := by
        unfold sendTcpCommand
        rw [if_pos hlistens]
        exact unfailing_emit _ st h
      refine Returns.read ?_
      rw [hsome]
      exact taken hsend
    · -- The last step only looks, so it passes or takes the turn as it finds.
      unfold isPendingOpen
      cases hpending : (st.pendingAgentOpens.contains streamId
          || st.pendingExecOpens.contains streamId) with
      | true =>
          refine .inr (Returns.read (Returns.pure ⟨hpending, h⟩))
      | false =>
          refine .inl ?_
          rw [bind_ok (get_apply st), hpending]
          rfl
  · cases done with
    | true => exact unfailing_pure ()
    | false => exact unfailing_writeTunnelText _

/-! ### Opening -/

theorem openUnlessDuplicate_completes {streamId : StreamId} {openStream : Session Unit}
    {st : TunnelSessionMutableState} (h : st.tunnelWriter = .open)
    (hopen : portAccessStreamIsActive st streamId = false → Completes openStream st) :
    Completes (openUnlessDuplicate streamId openStream) st := by
  unfold openUnlessDuplicate
  cases hactive : portAccessStreamIsActive st streamId with
  | true =>
      have hreject : Returns (rejectDuplicateTunnelStreamOpen streamId) st fun duplicate st' _ =>
          duplicate = true ∧ st'.tunnelWriter = .open := by
        refine Returns.read ?_
        rw [if_pos hactive]
        exact taken (unfailing_writeTunnelText _ st h)
      refine Returns.bind hreject fun duplicate st' _ hst' => ?_
      rw [hst'.1, if_pos rfl]
      exact completes_pure () hst'.2
  | false =>
      have hfree : rejectDuplicateTunnelStreamOpen streamId st = ⟨.ok false, st, []⟩ := by
        unfold rejectDuplicateTunnelStreamOpen
        rw [bind_ok (get_apply st), if_neg (Bool.eq_false_iff.mp hactive)]
        rfl
      rcases hopen hactive with ⟨_, st', out, houtcome, hst'⟩
      refine ⟨(), st', out, ?_, hst'⟩
      rw [bind_ok hfree, if_neg Bool.false_ne_true, houtcome]
      rfl

theorem unfailing_openAgentStream (message : AgentStreamOpen) :
    Unfailing (openAgentStream message) := by
  refine unfailing_read fun st h => ?_
  split
  · exact unfailing_writeTunnelText _ st h
  · exact completes_bind (unfailing_emit _ st h) fun _ st h => completes_modify h

theorem unfailing_openExecStream (message : ExecStreamOpen) :
    Unfailing (openExecStream message) := by
  refine unfailing_read fun st h => ?_
  refine completes_bind (completes_modify h) fun _ => ?_
  exact unfailing_bind (unfailing_emit _) fun _ => unfailing_writeTunnelText _

theorem unfailing_openFileSearchStream (message : FileSearchStreamOpen) :
    Unfailing (openFileSearchStream context world message) := by
  unfold openFileSearchStream
  split
  · exact unfailing_bind (unfailing_publishTunnelTelemetryLog _ _ _ _ _)
      fun _ => unfailing_writeTunnelText _
  · refine unfailing_bind (unfailing_emit _) fun _ => ?_
    refine unfailing_bind (fun st h => completes_modify h) fun _ => ?_
    exact unfailing_bind (unfailing_publishTunnelTelemetryLog _ _ _ _ _)
      fun _ => unfailing_writeTunnelText _

theorem unfailing_openFileUpload {message : FileUploadStreamOpen} {uploadState : FileUploadState}
    (hcreated : createFileUploadState context world message = .ok uploadState) :
    Unfailing (openFileUpload context world message) := by
  unfold openFileUpload
  rw [hcreated]
  refine unfailing_bind (unfailing_emit _) fun _ => ?_
  refine unfailing_bind (fun st h => completes_modify h) fun _ => ?_
  exact unfailing_writeTunnelText _

theorem unfailing_resetProcessStreams (message : String) :
    Unfailing (resetProcessStreams message) := by
  refine unfailing_read fun st h => ?_
  refine completes_bind (completes_modify h) fun _ => ?_
  exact unfailing_each _ fun _ _ => unfailing_writeTunnelText _

/-- A snapshot to all process streams, or a reset of all of them. -/
theorem completes_snapshot {scope : Scope} {st : TunnelSessionMutableState}
    {snapshot after : Session Unit} (h : st.tunnelWriter = .open)
    (hsnapshot : FollowsFrom (footprint scope) snapshot st) (hafter : Unfailing after) :
    Completes (do
      match ← attempt snapshot with
      | .ok () => after
      | .error error => resetProcessStreams error.display : Session Unit) st := by
  have hattempt : Completes (attempt snapshot) st := Returns.attempt (hsnapshot.writer h)
  refine completes_bind hattempt fun result => ?_
  cases result with
  | ok => exact hafter
  | error error => exact unfailing_resetProcessStreams _

/-- The scope of every stream. -/
def Scope.everyStream : Scope where
  streams _ := True
  operation := False
  telemetry := False

theorem processesInEveryStream (st : TunnelSessionMutableState) :
    ProcessesInScope .everyStream st := fun _ _ => trivial

theorem sendProcessesSnapshot_everyStream (st : TunnelSessionMutableState) :
    FollowsFrom (footprint .everyStream) (sendProcessesSnapshot context world) st :=
  FollowsFrom.bind
    (sendProcessesSnapshotToStreams_footprint context world (processesInEveryStream st))
    fun _ _ => setLastSnapshotAtMs_footprint _ _

theorem unfailing_setLastSnapshotAtMs (lastSnapshotAtMs : Option Nat) :
    Unfailing (setLastSnapshotAtMs lastSnapshotAtMs) := fun _ h => completes_modify h

theorem unfailing_openProcessStream (streamId : StreamId) :
    Unfailing (openProcessStream context world streamId) := by
  unfold openProcessStream
  split
  · exact unfailing_writeTunnelText _
  · refine unfailing_bind (fun st h => completes_modify h) fun _ => ?_
    refine unfailing_bind (unfailing_writeTunnelText _) fun _ => ?_
    exact fun st h => completes_snapshot h (sendProcessesSnapshot_everyStream _ _ st)
      (unfailing_pure ())

/-! ### Frames -/

theorem unfailing_rejectProcessStreamFrame (streamId : StreamId) (reason : String) :
    Unfailing (rejectProcessStreamFrame streamId reason) :=
  unfailing_bind (unfailing_writeTunnelText _) fun _ =>
    unfailing_bind (unfailing_closeProcessStream _) fun _ => unfailing_pure _

theorem unfailing_handleProcessStreamFrame {frame : StreamDataFrame}
    (htext : frame.payloadKind = payloadKindWebsocketText → (ofUtf8 frame.payload).isSome) :
    Unfailing (handleProcessStreamFrame context world frame) := by
  unfold handleProcessStreamFrame
  split
  · exact unfailing_rejectProcessStreamFrame _ _
  · rename_i hkind
    rcases Option.isSome_iff_exists.mp (htext (not_not.mp hkind)) with ⟨payload, hpayload⟩
    rw [hpayload]
    dsimp only
    split
    · refine unfailing_bind (unfailing_writeTunnelText _) fun _ => ?_
      exact fun st h => completes_snapshot h
        (sendProcessesSnapshotToStreams_footprint context world (processesInEveryStream st))
        (unfailing_setLastSnapshotAtMs _)
    · exact unfailing_rejectProcessStreamFrame _ _
    · exact unfailing_rejectProcessStreamFrame _ _

theorem unfailing_sendFileSearchCommand (streamId : StreamId) (command : FileSearchWorkerCommand) :
    Unfailing (sendFileSearchCommand context world streamId command) := by
  refine unfailing_read fun st h => ?_
  split
  · exact completes_pure () h
  split
  · exact unfailing_emit _ st h
  · exact unfailing_resetFileSearchStream _ _ _ _ _ st h

theorem unfailing_handleFileSearchFrame {frame : StreamDataFrame}
    (htext : frame.payloadKind = payloadKindWebsocketText → (ofUtf8 frame.payload).isSome) :
    Unfailing (handleFileSearchFrame context world frame) := by
  have haccept : ∀ command, Unfailing (acceptFileSearchCommand context world frame command) :=
    fun _ => unfailing_bind (unfailing_writeTunnelText _)
      fun _ => unfailing_sendFileSearchCommand _ _ _ _
  unfold handleFileSearchFrame
  split
  · exact unfailing_resetFileSearchStream _ _ _ _ _
  · rename_i hkind
    rcases Option.isSome_iff_exists.mp (htext (not_not.mp hkind)) with ⟨payload, hpayload⟩
    rw [hpayload]
    dsimp only
    split
    · exact haccept _
    · exact haccept _
    · exact unfailing_resetFileSearchStream _ _ _ _ _
    · exact unfailing_resetFileSearchStream _ _ _ _ _
    · exact unfailing_resetFileSearchStream _ _ _ _ _

theorem unfailing_sendToAgent (hlistens : world.agentListens = true) (streamId : StreamId)
    (message : WebsocketMessage) (payloadBytes : Nat) :
    Unfailing (sendToAgent world streamId message payloadBytes) := by
  refine unfailing_read fun st h => ?_
  split
  · exact completes_pure () h
  · rw [if_pos hlistens]
    exact completes_bind (unfailing_emit _ st h) fun _ st h => completes_modify h

theorem unfailing_forwardGatewayFrameToAgent {frame : StreamDataFrame}
    (htext : frame.payloadKind = payloadKindWebsocketText → (ofUtf8 frame.payload).isSome)
    (hlistens : frame.payloadKind ≠ payloadKindRawBytes → world.agentListens = true) :
    Unfailing (forwardGatewayFrameToAgent context world frame) := by
  unfold forwardGatewayFrameToAgent
  split
  · rename_i hkind
    rcases Option.isSome_iff_exists.mp (htext hkind) with ⟨payload, hpayload⟩
    have hsends := hlistens (by rw [hkind]; decide)
    rw [hpayload]
    exact unfailing_sendToAgent _ hsends _ _ _
  split
  · rename_i hkind
    have hsends := hlistens (by rw [hkind]; decide)
    exact unfailing_sendToAgent _ hsends _ _ _
  · refine unfailing_bind (unfailing_removeAgentStreamAndPublishSummary _ _ _ _) fun removed => ?_
    dsimp only
    split
    · exact unfailing_bind (unfailing_emit _) fun _ => unfailing_writeTunnelText _
    · exact unfailing_writeTunnelText _

theorem handlePortAccessTcpDataFrame_completes {frame : StreamDataFrame}
    {st : TunnelSessionMutableState} (h : st.tunnelWriter = .open)
    (hlistens : frame.payloadKind = payloadKindRawBytes →
      (∃ state, st.portAccessTcpStreams[frame.streamId]? = some state ∧
        (state.requestWindow.tryConsume frame.payload.length).isSome) →
      world.tcpListens = true) :
    Completes (handlePortAccessTcpDataFrame world frame) st := by
  unfold handlePortAccessTcpDataFrame
  split
  · exact unfailing_rejectPortAccessTcpFrame _ _ _ st h
  · rename_i hkind
    rw [ne_eq, not_not] at hkind
    refine Returns.read ?_
    split
    · exact completes_pure () h
    · rename_i state hstate
      cases hpaid : state.requestWindow.tryConsume frame.payload.length with
      | none => exact unfailing_rejectPortAccessTcpFrame _ _ _ st h
      | some window =>
          have hsends := hlistens hkind ⟨state, hstate, by rw [hpaid]; rfl⟩
          refine completes_bind (completes_modify h) fun _ => ?_
          unfold sendTcpCommand
          rw [if_pos hsends]
          exact unfailing_emit _

theorem handleFileUploadFrame_completes {frame : StreamDataFrame}
    {st : TunnelSessionMutableState} (h : st.tunnelWriter = .open)
    (hwrite : frame.payloadKind = payloadKindRawBytes →
      (∃ uploadState, st.fileUploads[frame.streamId]? = some uploadState ∧
        saturatingAdd uploadState.receivedBytes frame.payload.length ≤ uploadState.sizeBytes) →
      world.writeFile = .ok ()) :
    Completes (handleFileUploadFrame world frame) st := by
  refine Returns.read ?_
  split
  · exact completes_pure () h
  · rename_i uploadState hupload
    split
    · exact unfailing_discardFileUpload _ _ _ _ st h
    · rename_i hkind
      rw [ne_eq, not_not] at hkind
      refine completes_bind (completes_modify h) fun _ => ?_
      split
      · exact unfailing_discardFileUpload _ _ _ _
      · rename_i hcount
        rw [hwrite hkind ⟨uploadState, hupload, Nat.le_of_not_lt hcount⟩]
        exact unfailing_bind (unfailing_emit _) fun _ => unfailing_writeTunnelText _

/-! ### Messages of the gateway -/

/-- What a control message needs in order not to fail the session. -/
def ControlAdmissible (st : TunnelSessionMutableState) : StreamControlMessage → Prop
  | .openFileUpload message => portAccessStreamIsActive st message.streamId = false →
    assertUploadMetadata message.channel.threadId message.channel.mimeType
      message.channel.sizeBytes = .ok () ∧ world.createDirectory = .ok () ∧
      world.createFile = .ok ()
  | .close message => ∀ uploadState, st.fileUploads[message.streamId]? = some uploadState →
    uploadState.receivedBytes = uploadState.sizeBytes → world.syncFile = .ok () ∧
      ∀ classification, classifyUploadedFile uploadState.mimeType uploadState.originalFilename
        world.uploadSignature = .ok classification → world.renameFile = .ok ()
  | .window message => GrantFits st message.streamId message.bytes ∧
    (st.portAccessTcpStreams[message.streamId]?.isSome → world.tcpListens = true)
  | _ => True

/-- What a data frame needs in order not to fail the session. -/
structure FrameAdmissible (st : TunnelSessionMutableState) (frame : StreamDataFrame) : Prop where
  /-- A text of a stream that reads texts is UTF-8. -/
  text : st.agentStreams.contains frame.streamId = true ∨
    st.processStreams.sendWindows.contains frame.streamId = true ∨
    st.fileSearchStreams.contains frame.streamId = true →
    frame.payloadKind = payloadKindWebsocketText → (ofUtf8 frame.payload).isSome
  /-- The task the frame is for still listens. -/
  agent : st.agentStreams.contains frame.streamId = true →
    frame.payloadKind ≠ payloadKindRawBytes → world.agentListens = true
  tcp : frame.payloadKind = payloadKindRawBytes →
    (∃ state, st.portAccessTcpStreams[frame.streamId]? = some state ∧
      (state.requestWindow.tryConsume frame.payload.length).isSome) → world.tcpListens = true
  /-- The file takes what fits its declared size. -/
  upload : frame.payloadKind = payloadKindRawBytes →
    (∃ uploadState, st.fileUploads[frame.streamId]? = some uploadState ∧
      saturatingAdd uploadState.receivedBytes frame.payload.length ≤ uploadState.sizeBytes) →
    world.writeFile = .ok ()

theorem createFileUploadState_ok {message : FileUploadStreamOpen}
    (hmetadata : assertUploadMetadata message.channel.threadId message.channel.mimeType
      message.channel.sizeBytes = .ok ())
    (hdirectory : world.createDirectory = .ok ()) (hfile : world.createFile = .ok ()) :
    ∃ uploadState, createFileUploadState context world message = .ok uploadState := by
  unfold createFileUploadState
  simp only [hmetadata, hdirectory, hfile, bind, Except.bind, Except.mapError, pure, Except.pure]
  exact ⟨_, rfl⟩

theorem handleTunnelControlMessage_completes {message : StreamControlMessage}
    {st : TunnelSessionMutableState} (h : st.tunnelWriter = .open)
    (hadmissible : ControlAdmissible world st message) :
    Completes (handleTunnelControlMessage context world message) st := by
  cases message with
  | openAgent message =>
      exact openUnlessDuplicate_completes h fun _ => unfailing_openAgentStream message st h
  | openProcesses message =>
      exact openUnlessDuplicate_completes h fun _ => unfailing_openProcessStream _ _ _ st h
  | openFileUpload message =>
      refine openUnlessDuplicate_completes h fun hfree => ?_
      rcases hadmissible hfree with ⟨hmetadata, hdirectory, hfile⟩
      rcases createFileUploadState_ok context world hmetadata hdirectory hfile with
        ⟨uploadState, hcreated⟩
      exact unfailing_openFileUpload _ _ hcreated st h
  | openExec message =>
      exact openUnlessDuplicate_completes h fun _ => unfailing_openExecStream message st h
  | openFileSearch message =>
      exact openUnlessDuplicate_completes h fun _ => unfailing_openFileSearchStream _ _ message st h
  | signal message => exact unfailing_writeTunnelText _ st h
  | close message =>
      refine handleStreamClose_completes _ _ h fun uploadState hupload => ?_
      have hfinishes := hadmissible uploadState hupload
      exact finalizeFileUpload_completes _ (fun hcount => (hfinishes hcount).1)
        fun hcount => (hfinishes hcount).2
  | window message =>
      exact handleStreamWindow_completes _ h hadmissible.1 hadmissible.2

theorem handleTunnelBinaryFrame_completes {frame : StreamDataFrame}
    {st : TunnelSessionMutableState} (h : st.tunnelWriter = .open)
    (hadmissible : FrameAdmissible world st frame) :
    Completes (handleTunnelBinaryFrame context world frame) st := by
  refine Returns.read ?_
  split
  · rename_i hagent
    exact unfailing_forwardGatewayFrameToAgent _ _ (hadmissible.text (.inl hagent))
      (hadmissible.agent hagent) st h
  split
  · rename_i hprocess
    exact unfailing_handleProcessStreamFrame _ _ (hadmissible.text (.inr (.inl hprocess))) st h
  split
  · rename_i hsearch
    exact unfailing_handleFileSearchFrame _ _ (hadmissible.text (.inr (.inr hsearch))) st h
  split
  · exact handlePortAccessTcpDataFrame_completes _ h hadmissible.tcp
  split
  · exact handleFileUploadFrame_completes _ h hadmissible.upload
  · exact unfailing_writeTunnelText _ st h

/-! ### Events of tasks -/

/-- What an event of a task needs in order not to fail the session. -/
def TaskAdmissible (st : TunnelSessionMutableState) : TunnelSessionEvent → Prop
  | .agentMessage streamId (.ping _) =>
    st.agentStreams.contains streamId = true → world.agentListens = true
  | .portAccessTransport (.tcpInputWindow streamId bytes) =>
    ∀ state, st.portAccessTcpStreams[streamId]? = some state →
      ∃ window, state.requestWindow.add bytes = .ok window
  | _ => True

theorem unfailing_checkedFrame {streamId : StreamId} {payloadKind : UInt8} {payload : List UInt8}
    {onError : TunnelProtocolError → Session Unit} (hid : streamId ≠ 0)
    (hkind : validatePayloadKind payloadKind = .ok ()) :
    Unfailing (match checkedFrame streamId payloadKind payload with
      | .error error => onError error
      | .ok frame => writeTunnelBinary frame) := by
  have hframe : checkedFrame streamId payloadKind payload
      = .ok { streamId, payloadKind, payload } := by
    have hzero : (streamId == 0) = false := beq_eq_false_iff_ne.mpr hid
    unfold checkedFrame validateStreamId
    rw [hzero, hkind]
    rfl
  rw [hframe]
  exact unfailing_writeTunnelBinary _

theorem unfailing_handleAgentDialed (streamId : StreamId) (result : Except String Unit) :
    Unfailing (handleAgentDialed world streamId result) := by
  refine unfailing_read fun st h => ?_
  split
  · exact completes_pure () h
  · refine completes_bind (completes_modify h) fun _ => ?_
    split
    · refine unfailing_bind (unfailing_emit _) fun _ => ?_
      exact unfailing_bind (fun st h => completes_modify h) fun _ => unfailing_writeTunnelText _
    · exact unfailing_writeTunnelText _

theorem unfailing_handleAgentClosed (streamId : StreamId) (reason : Option String) :
    Unfailing (handleAgentClosed context world streamId reason) := by
  refine unfailing_bind (unfailing_removeAgentStreamAndPublishSummary _ _ _ _) fun removed => ?_
  cases removed with
  | none => exact unfailing_pure ()
  | some agentStream => exact unfailing_writeTunnelText _

theorem unfailing_handleAgentWriteCompleted (streamId : StreamId) (bytes : Nat) :
    Unfailing (handleAgentWriteCompleted streamId bytes) := by
  refine unfailing_read fun st h => ?_
  split
  · exact unfailing_writeTunnelText _ st h
  · exact completes_pure () h

theorem unfailing_handleExecCompleted (streamId : StreamId)
    (result : Except String ExecCommandResult) :
    Unfailing (handleExecCompleted streamId result) := by
  refine unfailing_read fun st h => ?_
  split
  · exact completes_pure () h
  · refine completes_bind (completes_modify h) fun _ => ?_
    split
    · exact unfailing_bind (unfailing_writeTunnelText _) fun _ => unfailing_writeTunnelText _
    · exact unfailing_writeTunnelText _

theorem unfailing_publishAgentRuntimePayload {streamId : StreamId} {payloadKind : UInt8}
    {payload : List UInt8} (hid : streamId ≠ 0) (hkind : validatePayloadKind payloadKind = .ok ()) :
    Unfailing (publishAgentRuntimePayload context world streamId payloadKind payload) := by
  have hreserve : Unfailing
      (reserveAgentStreamSendWindow streamId payload.length world.nowMs) := by
    refine unfailing_read fun st h => ?_
    split
    · exact completes_pure _ h
    · split
      · exact completes_pure _ h
      · exact completes_bind (completes_modify h) fun _ => unfailing_pure _
  refine unfailing_bind hreserve fun reserved => ?_
  split
  · exact unfailing_pure ()
  · refine unfailing_bind (unfailing_publishTunnelTelemetryLog _ _ _ _ _) fun _ => ?_
    exact unfailing_bind (unfailing_removeAgentStreamAndPublishSummary _ _ _ _)
      fun _ => unfailing_writeTunnelText _
  · refine unfailing_bind (unfailing_each _ fun _ _ =>
      unfailing_publishTunnelTelemetryLog _ _ _ _ _) fun _ => ?_
    exact unfailing_checkedFrame hid hkind

theorem handleAgentRuntimeMessage_completes {streamId : StreamId} {message : WebsocketMessage}
    {st : TunnelSessionMutableState} (h : st.tunnelWriter = .open) (hid : streamId ≠ 0)
    (hadmissible : TaskAdmissible world st (.agentMessage streamId message)) :
    Completes (handleAgentRuntimeMessage context world streamId message) st := by
  cases message with
  | text payload => exact unfailing_publishAgentRuntimePayload _ _ hid rfl st h
  | binary payload => exact unfailing_publishAgentRuntimePayload _ _ hid rfl st h
  | ping payload =>
      refine Returns.read ?_
      split
      · exact completes_pure () h
      · rename_i entry hentry
        have hlistens : world.agentListens = true := hadmissible (by
          rw [Std.ExtTreeMap.contains_eq_isSome_getElem?, hentry]
          rfl)
        rw [if_pos hlistens]
        exact unfailing_emit _ st h
  | pong payload => exact completes_pure () h
  | close =>
      exact completes_bind (unfailing_removeAgentStreamAndPublishSummary _ _ _ _ st h)
        fun _ => unfailing_writeTunnelText _
  | frame => exact completes_pure () h

theorem unfailing_closeTcpDirection (streamId : StreamId)
    (mark : PortAccessTcpStreamState → PortAccessTcpStreamState) :
    Unfailing (closeTcpDirection streamId mark) := by
  refine unfailing_bind (fun st h => completes_modify h) fun _ => ?_
  refine unfailing_read fun st h => ?_
  split
  · exact completes_pure () h
  split
  · exact completes_modify h
  · exact completes_pure () h

theorem unfailing_markPortAccessTcpDirectionClosed (streamId : StreamId) (direction : String) :
    Unfailing (markPortAccessTcpDirectionClosed streamId direction) := by
  unfold markPortAccessTcpDirectionClosed
  split
  · exact unfailing_closeTcpDirection _ _
  · exact unfailing_closeTcpDirection _ _
  · exact unfailing_pure ()

theorem handlePortAccessTransportEvent_completes {event : PortAccessTransportEvent}
    {st : TunnelSessionMutableState} (h : st.tunnelWriter = .open) (hid : event.streamId ≠ 0)
    (hadmissible : TaskAdmissible world st (.portAccessTransport event)) :
    Completes (handlePortAccessTransportEvent event) st := by
  have herase : ∀ f : TunnelSessionMutableState → TunnelSessionMutableState,
      (∀ st, (f st).tunnelWriter = st.tunnelWriter) → Unfailing (modify f : Session Unit) :=
    fun f hf st h => completes_modify ((hf st).trans h)
  cases event with
  | tcpInputWindow streamId bytes =>
      -- Nothing changes before the report, so its window is the one looked up here.
      have hnothing : applyPortAccessTransportEvent (.tcpInputWindow streamId bytes) st
          = ⟨.ok (), st, []⟩ := rfl
      have hwrites : Completes
          (writePortAccessTransportEvent (.tcpInputWindow streamId bytes)) st := by
        refine Returns.read ?_
        split
        · exact completes_pure () h
        · rename_i state hstate
          rcases hadmissible state hstate with ⟨window, hadd⟩
          simp only [hadd]
          exact completes_bind (completes_modify h) fun _ => unfailing_writeTunnelText _
      rcases hwrites with ⟨_, st', out, houtcome, hst'⟩
      refine ⟨(), st', out, ?_, hst'⟩
      unfold handlePortAccessTransportEvent
      rw [bind_ok hnothing, houtcome]
      rfl
  | tcpData streamId bytes =>
      exact completes_bind (completes_pure () h) fun _ => unfailing_checkedFrame hid rfl
  | httpBodyEnd message =>
      exact completes_bind (completes_modify h) fun _ => unfailing_writeTunnelText _
  | tcpClose message =>
      exact completes_bind (unfailing_markPortAccessTcpDirectionClosed _ _ st h)
        fun _ => unfailing_writeTunnelText _
  | tcpError message =>
      exact completes_bind (completes_modify h) fun _ => unfailing_writeTunnelText _
  | streamError message =>
      refine completes_bind ?_ fun _ => unfailing_writeTunnelText _
      exact completes_bind (completes_modify h) fun _ => herase _ fun _ => rfl
  | httpResponseStart message =>
      exact completes_bind (completes_pure () h) fun _ => unfailing_writeTunnelText _
  | httpBodyChunk message =>
      exact completes_bind (completes_pure () h) fun _ => unfailing_writeTunnelText _
  | tcpConnected message =>
      exact completes_bind (completes_pure () h) fun _ => unfailing_writeTunnelText _

theorem unfailing_handleFileSearchWorkerEvent {event : FileSearchWorkerEvent}
    (hid : event.streamId ≠ 0) : Unfailing (handleFileSearchWorkerEvent context world event) := by
  have hsend : ∀ payload, Unfailing (sendFileSearchPayload context world event.streamId payload) := by
    intro payload
    refine unfailing_read fun st h => ?_
    split
    · exact completes_pure () h
    split
    · exact unfailing_resetFileSearchStream _ _ _ _ _ st h
    · exact completes_bind (completes_modify h) fun _ => unfailing_checkedFrame hid rfl
  refine unfailing_read fun st h => ?_
  split
  · exact completes_pure () h
  · refine completes_bind (completes_modify h) fun _ => ?_
    exact unfailing_bind (unfailing_publishTunnelTelemetryLog _ _ _ _ _) fun _ => hsend _

theorem continueWith_completes {handler : Session Unit} {st : TunnelSessionMutableState}
    (h : Completes handler st) : Returns (continueWith handler) st fun flow st' _ =>
      flow = .continue ∧ st'.tunnelWriter = .open :=
  Returns.bind h fun _ _ _ hst' => Returns.pure ⟨rfl, hst'⟩

/-- An event of a task goes on with the loop. -/
theorem handleTaskEvent_completes {event : TunnelSessionEvent} {st : TunnelSessionMutableState}
    {s : StreamId} (h : st.tunnelWriter = .open) (htask : event.taskStream? = some s) (hid : s ≠ 0)
    (hadmissible : TaskAdmissible world st event) :
    Returns (handleTunnelSessionEvent context world event) st fun flow st' _ =>
      flow = .continue ∧ st'.tunnelWriter = .open := by
  cases event with
  | bootstrapMessage message => cases htask
  | bootstrapClosed restart reason => cases htask
  | wake => cases htask
  | agentDialed streamId result =>
      exact continueWith_completes (unfailing_handleAgentDialed _ _ _ st h)
  | agentMessage streamId message =>
      cases htask
      exact continueWith_completes (handleAgentRuntimeMessage_completes _ _ h hid hadmissible)
  | agentWriteCompleted streamId bytes =>
      exact continueWith_completes (unfailing_handleAgentWriteCompleted _ _ st h)
  | portAccessTransport event =>
      cases htask
      exact continueWith_completes (handlePortAccessTransportEvent_completes _ h hid hadmissible)
  | agentClosed streamId reason =>
      exact continueWith_completes (unfailing_handleAgentClosed _ _ _ _ st h)
  | execCompleted streamId result =>
      exact continueWith_completes (unfailing_handleExecCompleted _ _ st h)
  | fileSearch event =>
      cases htask
      exact continueWith_completes (unfailing_handleFileSearchWorkerEvent _ _ hid st h)

end

end Mistle
