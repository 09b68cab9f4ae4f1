import Mistle.Tunnel.Router

/-!
# Footprints of the Router

What each step of the router may touch, assembled from the footprints of its
handlers. A message of the gateway touches the stream it names; opening or
refreshing a process stream touches the other process streams as well, since a
snapshot goes to all of them. An event of a task touches the stream of the task,
and only the timer reaches every process stream.

## Main definitions

* `textNames`, `textOpensTelemetry`: What a text is about.
* `TunnelSessionEvent.taskStream?`: The stream of a task's event.
* `eventScope`, `requestScope`: What a step may touch.

## Theorems

* `handleTunnelControlMessage_footprint`, `handleTunnelBinaryFrame_footprint`: A
  message about one stream.
* `handleTunnelSessionEvent_footprint`, `handleTunnelSessionRequest_footprint`:
  Every step.
-/

namespace Mistle

open Handler

variable {scope : Scope}

/-- Footprints of steps that are tried in turn. A step may rely on every process
    stream being in scope, which the steps before it keep. -/
theorem firstOf_footprint (steps : List (Session Bool)) :
    ∀ st, ProcessesInScope scope st →
      (∀ step ∈ steps, ∀ st, ProcessesInScope scope st → FollowsFrom (footprint scope) step st) →
      FollowsFrom (footprint scope) (firstOf steps) st := by
  induction steps with
  | nil => exact fun st _ _ => Follows.pure _ st
  | cons step rest ih =>
      intro st h hsteps
      have hstep := hsteps step (List.mem_cons_self ..) st h
      refine FollowsFrom.bind hstep fun done _ => ?_
      cases done with
      | true => exact Follows.pure _ _
      | false =>
          exact ih _ (h.of_footprint hstep) fun step hmem =>
            hsteps step (List.mem_cons_of_mem _ hmem)

/-- The same for steps that rely on nothing, and any trail. -/
theorem firstOf_follows {T : Trail TunnelSessionMutableState TunnelEffect}
    (steps : List (Session Bool)) :
    (∀ step ∈ steps, Follows T step) → Follows T (firstOf steps) := by
  induction steps with
  | nil => exact fun _ => Follows.pure _
  | cons step rest ih =>
      intro hsteps
      refine Follows.bind (hsteps step (List.mem_cons_self ..)) fun done => ?_
      cases done with
      | true => exact Follows.pure _
      | false => exact ih fun step hmem => hsteps step (List.mem_cons_of_mem _ hmem)

section

variable (context : TunnelSessionLoopContext) (world : World)

/-! ### Control messages -/

/-- An open that is not a duplicate starts with a stream that is in no table. -/
theorem openUnlessDuplicate_footprint {streamId : StreamId} (h : scope.streams streamId)
    {openStream : Session Unit} {st : TunnelSessionMutableState}
    (hopen : (st.entries streamId).count = 0 → FollowsFrom (footprint scope) openStream st) :
    FollowsFrom (footprint scope) (openUnlessDuplicate streamId openStream) st := by
  cases hactive : portAccessStreamIsActive st streamId with
  | true =>
      have hreject : FollowsFrom (footprint scope)
          (rejectDuplicateTunnelStreamOpen streamId) st := by
        refine FollowsFrom.read ?_
        rw [if_pos hactive]
        exact Follows.bind (writeTunnelText_on rfl h) (fun _ => Follows.pure _) st
      refine FollowsFrom.bind hreject fun duplicate hresult => ?_
      cases duplicate with
      | true => exact Follows.pure _ _
      | false =>
          unfold rejectDuplicateTunnelStreamOpen at hresult
          rw [bind_ok (get_apply st), if_pos hactive] at hresult
          rcases bind_result_ok hresult with ⟨_, _, hfalse⟩
          exact absurd hfalse (by simp only [pure_apply, Except.ok.injEq, Bool.true_eq_false,
            not_false_eq_true])
  | false =>
      have hfree : rejectDuplicateTunnelStreamOpen streamId st = ⟨.ok false, st, []⟩ := by
        unfold rejectDuplicateTunnelStreamOpen
        rw [bind_ok (get_apply st), if_neg (Bool.eq_false_iff.mp hactive)]
        rfl
      refine FollowsFrom.bind (x := rejectDuplicateTunnelStreamOpen streamId) ?_
        fun duplicate hresult => ?_
      · unfold FollowsFrom
        rw [hfree]
        exact Footprint.refl scope st
      · rw [hfree] at hresult ⊢
        cases hresult
        exact hopen (count_eq_zero_of_not_active hactive)

theorem openAgentStream_footprint {message : AgentStreamOpen} {st : TunnelSessionMutableState}
    (h : scope.streams message.streamId) (hfree : (st.entries message.streamId).count = 0) :
    FollowsFrom (footprint scope) (openAgentStream message) st := by
  refine FollowsFrom.read ?_
  split
  · exact writeTunnelText_on rfl h st
  · exact FollowsFrom.bind (task_footprint _ st) fun _ _ =>
      StreamTable.pendingAgentOpens.insert_from h hfree _

theorem openExecStream_footprint {message : ExecStreamOpen} {st : TunnelSessionMutableState}
    (h : scope.streams message.streamId) (hfree : (st.entries message.streamId).count = 0) :
    FollowsFrom (footprint scope) (openExecStream message) st :=
  FollowsFrom.read <| FollowsFrom.bind (StreamTable.pendingExecOpens.insert_from h hfree ())
    fun _ _ => Follows.bind (task_footprint _) (fun _ => writeTunnelText_on rfl h) _

theorem handleStreamClose_footprint {streamId : StreamId} (h : scope.streams streamId) :
    Follows (footprint scope) (handleStreamClose context world streamId) := by
  have hclose : ∀ step ∈ [abortPendingAgentOpen streamId, closeAgentStream context world streamId,
      closeProcessStream streamId, closeFileSearchStreamOfGateway context world streamId,
      cancelPendingExecOpen streamId, closeFileUpload world streamId],
      Follows (footprint scope) step := by
    simp only [List.forall_mem_cons, List.not_mem_nil, IsEmpty.forall_iff, implies_true, and_true]
    refine ⟨?_, ?_, closeProcessStream_footprint h, ?_, ?_, ?_⟩
    · refine Follows.read fun st => ?_
      split
      · exact Follows.pure _ st
      · exact Follows.bind (StreamTable.pendingAgentOpens.erase_footprint h)
          (fun _ => Follows.bind (task_footprint _) fun _ => Follows.pure _) st
    · refine Follows.bind (removeAgentStreamAndPublishSummary_footprint h _ _ _) fun removed => ?_
      split
      · exact Follows.pure _
      · exact Follows.bind (task_footprint _) fun _ => Follows.pure _
    · refine Follows.read fun st => ?_
      split
      · exact Follows.pure _ st
      · exact Follows.bind (closeFileSearchStream_footprint _ _ h _) (fun _ => Follows.pure _) st
    · refine Follows.read fun st => ?_
      split
      · exact Follows.pure _ st
      · exact Follows.bind (StreamTable.pendingExecOpens.erase_footprint h)
          (fun _ => Follows.bind (task_footprint _) fun _ => Follows.pure _) st
    · refine Follows.read fun st => ?_
      split
      · exact Follows.pure _ st
      · exact Follows.bind (StreamTable.fileUploads.erase_footprint h)
          (fun _ => Follows.bind (finalizeFileUpload_footprint _ h _) fun _ => Follows.pure _) st
  refine Follows.bind (firstOf_follows _ hclose) fun done => ?_
  cases done with
  | true => exact Follows.pure _
  | false => exact writeTunnelText_on rfl h

theorem handleStreamWindow_footprint {streamId : StreamId} (h : scope.streams streamId)
    (bytes : Nat) : Follows (footprint scope) (handleStreamWindow world streamId bytes) := by
  have hcredit : ∀ step ∈ [addAgentStreamWindowCredit streamId bytes world.nowMs,
      addProcessStreamWindow streamId bytes, addFileSearchStreamWindow streamId bytes,
      forwardTcpWindow world streamId bytes, isPendingOpen streamId],
      Follows (footprint scope) step := by
    simp only [List.forall_mem_cons, List.not_mem_nil, IsEmpty.forall_iff, implies_true, and_true]
    refine ⟨addAgentStreamWindowCredit_footprint h _ _, addProcessStreamWindow_footprint h _, ?_,
      ?_, Follows.read fun st => Follows.pure _ st⟩
    · refine Follows.read fun st => ?_
      split
      · exact Follows.pure _ st
      · split
        · exact Follows.throw _ st
        · exact Follows.bind (StreamTable.fileSearchStreams.modify_footprint h _)
            (fun _ => Follows.pure _) st
    · refine Follows.read fun st => ?_
      split
      · exact Follows.pure _ st
      · exact Follows.bind (sendTcpCommand_footprint _ _ _) (fun _ => Follows.pure _) st
  refine Follows.bind (firstOf_follows _ hcredit) fun done => ?_
  cases done with
  | true => exact Follows.pure _
  | false => exact writeTunnelText_on rfl h

/-- A control message touches its own stream, and the process streams if it
    opens one. -/
theorem handleTunnelControlMessage_footprint {message : StreamControlMessage}
    {st : TunnelSessionMutableState} (h : scope.streams message.streamId)
    (hprocesses : ∀ m, message = .openProcesses m → ProcessesInScope scope st) :
    FollowsFrom (footprint scope) (handleTunnelControlMessage context world message) st := by
  cases message with
  | openAgent message =>
      exact openUnlessDuplicate_footprint h fun hfree => openAgentStream_footprint h hfree
  | openProcesses message =>
      exact openUnlessDuplicate_footprint h fun hfree =>
        openProcessStream_footprint _ _ (hprocesses _ rfl) h hfree
  | openFileUpload message =>
      exact openUnlessDuplicate_footprint h fun hfree => openFileUpload_footprint _ _ h hfree
  | openExec message =>
      exact openUnlessDuplicate_footprint h fun hfree => openExecStream_footprint h hfree
  | openFileSearch message =>
      exact openUnlessDuplicate_footprint h fun hfree => openFileSearchStream_footprint _ _ h hfree
  | signal message => exact writeTunnelText_on rfl h st
  | close message => exact handleStreamClose_footprint _ _ h st
  | window message => exact handleStreamWindow_footprint _ h _ st

/-- A data frame touches its own stream, and the process streams if it asks for a
    new snapshot on one of them. -/
theorem handleTunnelBinaryFrame_footprint {frame : StreamDataFrame}
    {st : TunnelSessionMutableState} (h : scope.streams frame.streamId)
    (hprocesses : st.processStreams.sendWindows.contains frame.streamId = true →
      frame.AsksForRefresh context.serde → ProcessesInScope scope st) :
    FollowsFrom (footprint scope) (handleTunnelBinaryFrame context world frame) st := by
  refine FollowsFrom.read ?_
  split
  · exact forwardGatewayFrameToAgent_footprint _ _ h st
  split
  · rename_i hprocess
    exact handleProcessStreamFrame_footprint _ _ (hprocesses hprocess) h
  split
  · exact handleFileSearchFrame_footprint _ _ h st
  split
  · exact handlePortAccessTcpDataFrame_footprint _ h st
  split
  · exact handleFileUploadFrame_footprint _ h st
  · exact writeTunnelText_on rfl h st

/-! ### Texts -/

/-- A text that opens the telemetry stream. -/
def textOpensTelemetry (serde : SerdeJson) (payload : String) : Prop :=
  ∃ message, parseBootstrapTelemetryControlMessage serde payload = .ok (some (.openOk message))
    ∧ message.streamId = sandboxTelemetryLogStreamId

/-- What the relay answers a text with are lines. -/
theorem handleControlMessage_lines {serde : SerdeJson} {relay : TelemetryRelay}
    {payload : String} {frames : List TelemetryRelayFrame}
    (h : (relay.handleControlMessage serde payload).1 = .ok (some frames)) :
    ∀ frame ∈ frames, ∃ line, frame = .binary (telemetryFrame line) := by
  unfold TelemetryRelay.handleControlMessage at h
  split at h
  · exact absurd h (by simp only [reduceCtorEq, not_false_eq_true])
  · exact absurd h (by simp only [Except.ok.injEq, reduceCtorEq, not_false_eq_true])
  · unfold TelemetryRelay.applyControl at h
    split at h
    · split at h
      · exact absurd h (by simp only [Except.ok.injEq, reduceCtorEq, not_false_eq_true])
      · simp only [Except.ok.injEq, Option.some.injEq] at h
        rw [← h]
        exact fun frame hframe => (TelemetryRelay.mem_flush hframe).1
    · split at h
      · exact absurd h (by simp only [Except.ok.injEq, reduceCtorEq, not_false_eq_true])
      split at h
      · exact absurd h (by simp only [reduceCtorEq, not_false_eq_true])
      · simp only [Except.ok.injEq, Option.some.injEq] at h
        rw [← h]
        exact fun frame hframe => (TelemetryRelay.mem_flush hframe).1
    · split at h
      · exact absurd h (by simp only [Except.ok.injEq, reduceCtorEq, not_false_eq_true])
      · exact absurd h (by simp only [reduceCtorEq, not_false_eq_true])
    · split at h
      · exact absurd h (by simp only [Except.ok.injEq, reduceCtorEq, not_false_eq_true])
      · exact absurd h (by simp only [reduceCtorEq, not_false_eq_true])

/-- A text that does not open the stream leaves the relay in its mode, and is
    answered with lines only by an open relay. -/
theorem handleControlMessage_of_not_open {serde : SerdeJson} {payload : String}
    (hopens : ¬ textOpensTelemetry serde payload) (relay : TelemetryRelay) :
    (relay.handleControlMessage serde payload).2.state = relay.state ∧
      ∀ frames, (relay.handleControlMessage serde payload).1 = .ok (some frames) →
        frames ≠ [] → relay.state = .open := by
  have hnothing : ∀ {frames : List TelemetryRelayFrame} {error : TelemetryRelayError},
      (.error error : Except TelemetryRelayError (Option (List TelemetryRelayFrame)))
        = .ok (some frames) → frames ≠ [] → relay.state = .open :=
    fun h => absurd h (by simp only [reduceCtorEq, not_false_eq_true])
  have hother : ∀ {frames : List TelemetryRelayFrame},
      (.ok none : Except TelemetryRelayError (Option (List TelemetryRelayFrame)))
        = .ok (some frames) → frames ≠ [] → relay.state = .open :=
    fun h => absurd h (by simp only [Except.ok.injEq, reduceCtorEq, not_false_eq_true])
  unfold TelemetryRelay.handleControlMessage
  split
  · exact ⟨rfl, fun _ => hnothing⟩
  · exact ⟨rfl, fun _ => hother⟩
  · rename_i message hmessage
    unfold TelemetryRelay.applyControl
    split
    · rename_i message
      split
      · exact ⟨rfl, fun _ => hother⟩
      · rename_i hid
        exact absurd ⟨message, hmessage, not_not.mp hid⟩ hopens
    · split
      · exact ⟨rfl, fun _ => hother⟩
      split
      · exact ⟨rfl, fun _ => hnothing⟩
      · refine ⟨TelemetryRelay.flush_state _, fun frames h hne => ?_⟩
        simp only [Except.ok.injEq, Option.some.injEq] at h
        rcases List.exists_mem_of_ne_nil _ hne with ⟨frame, hframe⟩
        rw [← h] at hframe
        have hline := TelemetryRelay.mem_flush hframe
        exact hline.2
    · split
      · exact ⟨rfl, fun _ => hother⟩
      · exact ⟨rfl, fun _ => hnothing⟩
    · split
      · exact ⟨rfl, fun _ => hother⟩
      · exact ⟨rfl, fun _ => hnothing⟩

/-- A text changes the mode of the relay only if it opens the stream. -/
theorem handleTelemetryText_footprint {payload : String}
    (htelemetry : textOpensTelemetry context.serde payload → scope.telemetry) :
    Follows (footprint scope) (handleTelemetryText context world payload) := by
  refine Follows.read fun st => ?_
  have hrelay : ¬ scope.telemetry →
      (st.telemetryRelay.handleControlMessage context.serde payload).2.state
        = st.telemetryRelay.state :=
    fun h => (handleControlMessage_of_not_open (fun hopens => h (htelemetry hopens)) _).1
  have hmodify : FollowsFrom (footprint scope) (modify fun st' => { st' with
      telemetryRelay := (st.telemetryRelay.handleControlMessage context.serde payload).2 } :
        Session Unit) st :=
    ⟨fun _ _ => rfl, id, fun o ho => absurd ho List.not_mem_nil, fun _ => rfl, hrelay, id,
      fun _ o ho => absurd ho List.not_mem_nil⟩
  refine FollowsFrom.bind hmodify fun _ _ => ?_
  split
  · rename_i frames hframes
    refine FollowsFrom.bind ?_ fun _ _ => Follows.pure _ _
    by_cases hempty : frames = []
    · rw [hempty]
      exact Follows.pure () _
    · refine sendTelemetryFrames_from _ _ ?_ (handleControlMessage_lines hframes)
      by_cases hscope : scope.telemetry
      · exact .inl hscope
      · refine .inr ((hrelay hscope).trans ?_)
        exact (handleControlMessage_of_not_open (fun hopens => hscope (htelemetry hopens)) _).2
          frames hframes hempty
  · exact Follows.pure _ _
  · exact Follows.bind (publishTunnelTelemetryLog_footprint _ _ _ _ _) (fun _ => Follows.pure _) _

theorem offerText_footprint {α : Type} {parsed : Except TunnelProtocolError (Option α)}
    {handle : α → Session Unit} {st : TunnelSessionMutableState}
    (h : ∀ message, parsed = .ok (some message) →
      FollowsFrom (footprint scope) (handle message) st) :
    FollowsFrom (footprint scope) (offerText context world parsed handle) st := by
  unfold offerText
  split
  · exact FollowsFrom.bind (h _ rfl) fun _ _ => Follows.pure _ _
  · exact Follows.pure _ st
  · exact Follows.bind (publishTunnelTelemetryLog_footprint _ _ _ _ _) (fun _ => Follows.pure _) st

/-- The streams a text names: the one of a port access message, or of a stream
    control message. -/
def textNames (serde : SerdeJson) (payload : String) (s : StreamId) : Prop :=
  (∃ message, parsePortsTransportMessage serde payload = .ok (some message)
    ∧ message.streamId = s) ∨
  ∃ message, parseStreamControlMessage serde payload = .ok message ∧ message.streamId = s

/-- What a text may touch. -/
def textScope (serde : SerdeJson) (payload : String) (st : TunnelSessionMutableState) :
    Scope where
  streams t := textNames serde payload t ∨ t = sandboxOperationStreamId
    ∨ (st.entries t).processStream.isSome
  operation := True
  telemetry := textOpensTelemetry serde payload

theorem handleBootstrapText_footprint (payload : String) (start : TunnelSessionMutableState) :
    FollowsFrom (footprint (textScope context.serde payload start))
      (handleBootstrapText context world payload) start := by
  have hprocesses : ProcessesInScope (textScope context.serde payload start) start :=
    fun t ht => .inr (.inr ht)
  have hoperation : (textScope context.serde payload start).streams sandboxOperationStreamId :=
    .inr (.inl rfl)
  refine FollowsFrom.bind (firstOf_footprint _ start hprocesses ?_) fun _ _ => Follows.pure _ _
  unfold textHandlers
  simp only [List.forall_mem_cons, List.not_mem_nil, IsEmpty.forall_iff, implies_true, and_true]
  refine ⟨fun st _ => handleTelemetryText_footprint _ _ id st,
    fun st _ => offerText_footprint _ _ fun message _ => ?_,
    fun st _ => offerText_footprint _ _ fun message hmessage => ?_,
    fun st _ => offerText_footprint _ _ fun message _ =>
      handleSigningControlMessage_footprint _ st,
    fun st _ => offerText_footprint _ _ fun message _ =>
      handleEgressTokenControlMessage_footprint _ _ hoperation trivial _ st,
    fun st _ => handleOperationControlMessage_footprint hoperation trivial _ _ st,
    fun st _ => offerText_footprint _ _ fun message _ =>
      handlePtySessionControlMessage_footprint _ st, fun st hst => ?_⟩
  · cases message with
    | targetAuthorize message => exact handlePortsControlMessage_footprint _ _ st
  · have hnamed : (textScope context.serde payload start).streams message.streamId :=
      .inl (.inl ⟨message, hmessage, rfl⟩)
    refine FollowsFrom.bind
      (Follows.attempt (handlePortsTransportMessage_footprint _ _ hnamed) st) fun result _ => ?_
    cases result with
    | ok => exact Follows.pure _ _
    | error error => exact publishTunnelTelemetryLog_footprint _ _ _ _ _ _
  · unfold handleStreamControlText
    split
    · rename_i message hmessage
      refine FollowsFrom.bind ?_ fun _ _ => Follows.pure _ _
      exact handleTunnelControlMessage_footprint _ _ (.inl (.inr ⟨message, hmessage, rfl⟩))
        fun _ _ => hst
    · exact Follows.bind (publishTunnelTelemetryLog_footprint _ _ _ _ _)
        (fun _ => Follows.pure _) st

/-! ### Events -/

/-- The entry of a stream moves from the pending opens to the open ones. -/
theorem promoteAgentStream_footprint {streamId : StreamId} (h : scope.streams streamId)
    {st : TunnelSessionMutableState} (hpending : (st.entries streamId).pendingAgentOpen.isSome)
    (agentStream : AgentStreamState) :
    Footprint scope st [] { st with
      pendingAgentOpens := st.pendingAgentOpens.erase streamId
      agentStreams := st.agentStreams.insert streamId agentStream } := by
  have helsewhere : ∀ t, t ≠ streamId → TunnelSessionMutableState.entries { st with
      pendingAgentOpens := st.pendingAgentOpens.erase streamId
      agentStreams := st.agentStreams.insert streamId agentStream } t = st.entries t := by
    intro t ht
    have hne : compare streamId t ≠ .eq := fun hst => ht (Std.LawfulEqCmp.eq_of_compare hst).symm
    simp only [TunnelSessionMutableState.entries, Std.ExtTreeMap.getElem?_insert,
      Std.ExtTreeMap.getElem?_erase, if_neg hne]
  refine ⟨fun t ht => helsewhere t fun hts => ht (hts ▸ h), fun hexclusive t => ?_,
    fun o ho => absurd ho List.not_mem_nil, fun _ => rfl, fun _ => rfl, id,
    fun _ o ho => absurd ho List.not_mem_nil⟩
  by_cases hts : t = streamId
  · have hcount := hexclusive streamId
    rw [hts]
    simp only [StreamEntries.count, TunnelSessionMutableState.entries] at hcount hpending ⊢
    rw [hpending, Bool.toNat_true] at hcount
    simp only [Std.ExtTreeMap.getElem?_insert_self, Std.ExtTreeMap.getElem?_erase_self,
      Option.isSome_some, Option.isSome_none, Bool.toNat_true, Bool.toNat_false]
    have hagent := Bool.toNat_le (st.agentStreams[streamId]?.isSome)
    omega
  · rw [helsewhere t hts]
    exact hexclusive t

theorem handleAgentDialed_footprint {streamId : StreamId} (h : scope.streams streamId)
    (result : Except String Unit) :
    Follows (footprint scope) (handleAgentDialed world streamId result) := by
  refine Follows.read fun st => ?_
  split
  · exact Follows.pure _ st
  · rename_i entry hentry
    cases result with
    | error error =>
        exact Follows.bind (StreamTable.pendingAgentOpens.erase_footprint h)
          (fun _ => writeTunnelText_on rfl h) st
    | ok =>
        have hpending : (st.entries streamId).pendingAgentOpen.isSome := by
          simp only [TunnelSessionMutableState.entries, hentry, Option.isSome_some]
        have hspawn : Follows (footprint scope)
            (emit (.task (.spawnAgentStream streamId)) : Session Unit) := task_footprint _
        have hwrite : Follows (footprint scope) (writeTunnelText (.streamOpenOk streamId)) :=
          writeTunnelText_on rfl h
        -- The two changes are one move: between them the stream is in no table.
        have hmove := (hspawn st).comp
          (promoteAgentStream_footprint h hpending (createAgentStream world.nowMs))
        have hall := hmove.comp (hwrite _)
        exact hall

theorem handleAgentClosed_footprint {streamId : StreamId} (h : scope.streams streamId)
    (reason : Option String) :
    Follows (footprint scope) (handleAgentClosed context world streamId reason) := by
  refine Follows.bind (removeAgentStreamAndPublishSummary_footprint h _ _ _) fun removed => ?_
  split
  · exact Follows.pure _
  · exact writeTunnelText_on rfl h

theorem handleAgentWriteCompleted_footprint {streamId : StreamId} (h : scope.streams streamId)
    (bytes : Nat) : Follows (footprint scope) (handleAgentWriteCompleted streamId bytes) := by
  refine Follows.read fun st => ?_
  split
  · exact writeTunnelText_on rfl h st
  · exact Follows.pure _ st

theorem handleExecCompleted_footprint {streamId : StreamId} (h : scope.streams streamId)
    (result : Except String ExecCommandResult) :
    Follows (footprint scope) (handleExecCompleted streamId result) := by
  refine Follows.read fun st => ?_
  split
  · exact Follows.pure _ st
  · refine Follows.bind (StreamTable.pendingExecOpens.erase_footprint h) (fun _ => ?_) st
    split
    · exact Follows.bind (writeTunnelText_on rfl h) fun _ => writeTunnelText_on rfl h
    · exact writeTunnelText_on rfl h

theorem handleWake_footprint {st : TunnelSessionMutableState} (h : ProcessesInScope scope st) :
    FollowsFrom (footprint scope) (handleWake context world) st :=
  snapshotOrReset_footprint h (fun _ hst => pollProcessStreams_footprint _ _ hst)
    (Follows.pure ())

theorem handleBootstrapClosed_footprint {st : TunnelSessionMutableState}
    (hagents : ∀ t, (st.entries t).agentStream.isSome → scope.streams t)
    (htcp : ∀ t, (st.entries t).portAccessTcpStream.isSome → scope.streams t)
    (reason : Option String) :
    FollowsFrom (footprint scope) (handleBootstrapClosed context world reason) st := by
  have hclose := closePortAccessTcpStreams_footprint htcp
  refine FollowsFrom.bind hclose fun _ _ => FollowsFrom.read ?_
  refine FollowsFrom.bind
    (StreamTable.agentStreams.shrink_from (fun _ => ∅) (fun t ht => ?_) fun t ht => ?_)
    fun _ _ => Follows.forEach (fun _ _ => publishTunnelTelemetryLog_footprint _ _ _ _ _) _
  · have hnone : (closePortAccessTcpStreams st).state.entries t = st.entries t :=
      hclose.elsewhere t ht
    have hagent : (st.entries t).agentStream = none :=
      Option.not_isSome_iff_eq_none.mp fun hsome => ht (hagents t hsome)
    rw [Std.ExtTreeMap.getElem?_empty, StreamTable.agentStreams.get_entry, hnone]
    exact hagent.symm
  · rw [Std.ExtTreeMap.getElem?_empty] at ht
    exact absurd ht (by simp only [Option.isSome_none, Bool.false_eq_true, not_false_eq_true])

/-! ### Steps -/

/-- A scope of streams alone. -/
def Scope.ofStreams (streams : StreamId → Prop) : Scope where
  streams := streams
  operation := False
  telemetry := False

/-- The stream of a task's event. -/
def TunnelSessionEvent.taskStream? : TunnelSessionEvent → Option StreamId
  | agentDialed streamId _ => some streamId
  | agentMessage streamId _ => some streamId
  | agentWriteCompleted streamId _ => some streamId
  | portAccessTransport event => some event.streamId
  | agentClosed streamId _ => some streamId
  | execCompleted streamId _ => some streamId
  | fileSearch event => some event.streamId
  | bootstrapMessage _ => none
  | bootstrapClosed _ _ => none
  | wake => none

/-- What an event may touch. -/
def eventScope (serde : SerdeJson) (event : TunnelSessionEvent) (st : TunnelSessionMutableState) :
    Scope :=
  match event with
  | .bootstrapMessage (.text payload) => textScope serde payload st
  | .bootstrapMessage (.binary payload) => .ofStreams fun t =>
    (∃ frame, decodeStreamDataFrame payload = .ok frame ∧ frame.streamId = t)
      ∨ (st.entries t).processStream.isSome
  | .bootstrapMessage _ => .ofStreams fun _ => False
  | .bootstrapClosed _ _ => .ofStreams fun t =>
    (st.entries t).agentStream.isSome ∨ (st.entries t).portAccessTcpStream.isSome
  | .wake => .ofStreams fun t => (st.entries t).processStream.isSome
  | event => .ofStreams fun t => event.taskStream? = some t

theorem continueWith_footprint {handler : Session Unit} {st : TunnelSessionMutableState}
    (h : FollowsFrom (footprint scope) handler st) :
    FollowsFrom (footprint scope) (continueWith handler) st :=
  FollowsFrom.bind h fun _ _ => Follows.pure _ _

theorem handleBootstrapMessage_footprint (message : WebsocketMessage)
    (st : TunnelSessionMutableState) :
    FollowsFrom (footprint (eventScope context.serde (.bootstrapMessage message) st))
      (handleBootstrapMessage context world message) st := by
  cases message with
  | text payload => exact continueWith_footprint (handleBootstrapText_footprint _ _ payload st)
  | binary payload =>
      refine continueWith_footprint ?_
      unfold handleBootstrapBinary
      split
      · exact publishTunnelTelemetryLog_footprint _ _ _ _ _ st
      · rename_i frame hframe
        exact handleTunnelBinaryFrame_footprint _ _ (.inl ⟨frame, hframe, rfl⟩)
          fun _ _ t ht => .inr ht
  | ping payload => exact continueWith_footprint (writeTunnelPong_footprint _ st)
  | pong payload => exact Follows.pure _ st
  | close => exact Follows.pure _ st
  | frame => exact Follows.pure _ st

theorem handleTunnelSessionEvent_footprint (event : TunnelSessionEvent)
    (st : TunnelSessionMutableState) :
    FollowsFrom (footprint (eventScope context.serde event st))
      (handleTunnelSessionEvent context world event) st := by
  cases event with
  | bootstrapMessage message => exact handleBootstrapMessage_footprint _ _ message st
  | bootstrapClosed restart reason =>
      have hclosed : FollowsFrom
          (footprint (eventScope context.serde (.bootstrapClosed restart reason) st))
          (handleBootstrapClosed context world reason) st :=
        handleBootstrapClosed_footprint _ _ (fun _ ht => Or.inl ht) (fun _ ht => Or.inr ht) _
      exact FollowsFrom.bind hclosed fun _ _ => Follows.pure _ _
  | agentDialed streamId result =>
      exact continueWith_footprint (handleAgentDialed_footprint _ rfl _ st)
  | agentMessage streamId message =>
      exact continueWith_footprint (handleAgentRuntimeMessage_footprint rfl _ _ _ st)
  | agentWriteCompleted streamId bytes =>
      exact continueWith_footprint (handleAgentWriteCompleted_footprint rfl _ st)
  | portAccessTransport event =>
      exact continueWith_footprint (handlePortAccessTransportEvent_footprint rfl st)
  | agentClosed streamId reason =>
      exact continueWith_footprint (handleAgentClosed_footprint _ _ rfl _ st)
  | execCompleted streamId result =>
      exact continueWith_footprint (handleExecCompleted_footprint rfl _ st)
  | fileSearch event =>
      exact continueWith_footprint (handleFileSearchWorkerEvent_footprint _ _ rfl st)
  | wake => exact continueWith_footprint (handleWake_footprint _ _ fun t ht => ht)

/-- What a request may touch. -/
def requestScope : TunnelSessionRequest → Scope
  | .egressToken _ _ _ => .operationStream
  | .operationRecord _ => .operationStream
  | .operationClose _ => .operationStream
  | _ => .ofStreams fun _ => False

theorem answerSet_footprint (sender : ResponseSender) :
    Follows (footprint scope) (emit (.answerSet sender) : Session Unit) :=
  emit_footprint fun t h => absurd h (by simp only [TunnelEffect.streamId?, reduceCtorEq,
    not_false_eq_true])

theorem handleTunnelSessionRequest_footprint (request : TunnelSessionRequest)
    (st : TunnelSessionMutableState) :
    FollowsFrom (footprint (requestScope request))
      (handleTunnelSessionRequest context world request) st := by
  cases request with
  | shutdown => exact Follows.pure _ st
  | setAgentEndpoint url sender =>
      exact Follows.bind modify_footprint (fun _ => Follows.bind (answerSet_footprint sender)
        fun _ => Follows.pure _) st
  | setRuntimeEnvironment env sender =>
      exact Follows.bind modify_footprint (fun _ => Follows.bind (answerSet_footprint sender)
        fun _ => Follows.pure _) st
  | signing request sender =>
      exact continueWith_footprint (handleSigningSessionRequest_footprint request sender st)
  | egressToken requestId actingUserId sender =>
      exact continueWith_footprint
        (handleEgressTokenSessionRequest_footprint _ _ rfl trivial _ _ _ st)
  | operationRecord line =>
      exact continueWith_footprint (recordOperation_footprint rfl trivial line st)
  | operationClose sender =>
      exact continueWith_footprint (closeOperationStream_footprint rfl trivial sender st)

end

end Mistle
