import Mistle.Lib.Settlement
import Mistle.Lib.Turns
import Mistle.Protocol.SendWindow
import Mistle.Tunnel.Agent

/-!
# The Account of an Agent Stream

An agent stream counts its unacknowledged bytes twice. The send window holds the credit
that is left, and the statistics hold the queue of sends that no grant has covered yet,
each with the bytes that are missing. A send takes credit and joins the queue; a grant
adds credit and is worked off against the queue from its front, where the last entry it
reaches may be left in part. The two counts are kept by different functions, and nothing
in either refers to the other.

They agree as long as the window refuses what it should. A grant of more than the
maximum that meets an empty window is accepted: the credit is then above the maximum,
while the queue, once empty, drops what is left of the grant.

## Main definitions

* `agentSendDebt`: A send as a debt of bytes.
* `AgentStreamCall`, `AgentStreamCall.perform`: What the handlers do to a stream.
* `creditRestoreTurn`: One turn of the loop that works off a grant.
* `agentCalls`: What handlers may do to the entry of a stream.
* `sentAlong`, `restoredAlong`: The accepted sends and the restored bytes of a trace.
* `KeepsAccount`: The law of a stream over a trace.

## Theorems

* `recordCreditRestore_outstandingSends`: A grant settles the queue.
* `creditRestore_ends`: The loop ends, with the result of `recordCreditRestore`.
* `reserveAgentStreamSendWindow_performs`, `addAgentStreamWindowCredit_performs`,
  `sendToAgent_performs`: The handlers perform the calls.
* `addAgentStreamWindowCredit_agentCalls`, `handleAgentRuntimeMessage_agentCalls`,
  `forwardGatewayFrameToAgent_agentCalls`: Whatever happens to a stream is a run of calls.
* `keepsAccount_iff`: The law holds exactly when no grant above the maximum meets an
  empty window.
-/

namespace Mistle

open Handler

/-! ### The queue of sends -/

/-- A send, whose bytes a grant acknowledges. -/
def agentSendDebt : Debt OutstandingAgentSend where
  amount := OutstandingAgentSend.bytes
  lessen send acknowledged := { send with bytes := send.bytes - acknowledged }
  amount_lessen _ _ := rfl
  lessen_lessen send acknowledged more := by rw [Nat.sub_sub]

@[simp] theorem agentSendDebt_amount (send : OutstandingAgentSend) :
    agentSendDebt.amount send = send.bytes := rfl

@[simp] theorem agentSendDebt_lessen (send : OutstandingAgentSend) (acknowledged : Nat) :
    agentSendDebt.lessen send acknowledged
      = { send with bytes := send.bytes - acknowledged } := rfl

namespace AgentStreamStats

/-- The bytes of all sends that are not acknowledged. -/
def outstandingBytes (stats : AgentStreamStats) : Nat := agentSendDebt.owed stats.outstandingSends

theorem acknowledgeSends_outstandingSends (restoredAtMs : Nat) (sends : List OutstandingAgentSend) :
    ∀ (remaining : Nat) (stats : AgentStreamStats),
      (acknowledgeSends restoredAtMs remaining sends stats).outstandingSends
        = agentSendDebt.settle remaining sends := by
  induction sends with
  | nil => exact fun _ _ => rfl
  | cons send rest ih =>
      intro remaining stats
      rw [acknowledgeSends, Debt.settle, agentSendDebt_amount, agentSendDebt_lessen]
      by_cases hzero : remaining = 0
      · rw [if_pos hzero, if_pos hzero]
      rw [if_neg hzero, if_neg hzero]
      by_cases hle : send.bytes ≤ remaining
      · have hwhole : send.bytes - min remaining send.bytes = 0 := by omega
        rw [if_pos hwhole, ih, if_pos hle, Nat.min_eq_right hle]
      · have hpart : ¬ send.bytes - min remaining send.bytes = 0 := by omega
        rw [if_neg hpart, if_neg hle, Nat.min_eq_left (Nat.le_of_not_le hle)]

/-- A grant settles the queue. -/
theorem recordCreditRestore_outstandingSends (stats : AgentStreamStats) (bytes restoredAtMs : Nat) :
    (stats.recordCreditRestore bytes restoredAtMs).outstandingSends
      = agentSendDebt.settle bytes stats.outstandingSends :=
  acknowledgeSends_outstandingSends restoredAtMs stats.outstandingSends bytes stats

/-! ### The loop of a grant -/

/-- What a turn of the loop does to the send at the front. -/
def acknowledgeFront (stats : AgentStreamStats) (acknowledgedBytes restoredAtMs : Nat)
    (frontSend : OutstandingAgentSend) (rest : List OutstandingAgentSend) : AgentStreamStats :=
  let frontBytes := frontSend.bytes - acknowledgedBytes
  { stats with
    creditReturnCount := saturatingAdd stats.creditReturnCount 1
    creditReturnTotalMs :=
      saturatingAdd stats.creditReturnTotalMs (restoredAtMs - frontSend.sentAtMs)
    outstandingSends :=
      if frontBytes = 0 then rest else { frontSend with bytes := frontBytes } :: rest }

/-- One turn of the loop, on what remains of the grant and the statistics. -/
def creditRestoreTurn (restoredAtMs : Nat) (state : Nat × AgentStreamStats) (_ : Unit) :
    (Nat × AgentStreamStats) × TurnEnd Unit :=
  let (remainingBytes, stats) := state
  if 0 < remainingBytes then
    match stats.outstandingSends with
    | [] => (state, .returned ())
    | frontSend :: rest =>
      let acknowledgedBytes := min remainingBytes frontSend.bytes
      ((remainingBytes - acknowledgedBytes,
        stats.acknowledgeFront acknowledgedBytes restoredAtMs frontSend rest), .continues)
  else (state, .returned ())

/-- The loop ends in a turn of its own, with the given statistics. -/
def RestoreEnds (stats : AgentStreamStats) (bytes restoredAtMs : Nat)
    (result : AgentStreamStats) : Prop :=
  ∃ turns ≤ stats.outstandingSends.length + 1, ∃ remaining,
    loopTurns (creditRestoreTurn restoredAtMs) (List.replicate turns ()) (bytes, stats)
      = ((remaining, result), .returned ())

/-- The queue is written when the loop is left. -/
theorem acknowledgeSends_congr (restoredAtMs : Nat) (queue sends : List OutstandingAgentSend) :
    ∀ (remaining : Nat) (stats : AgentStreamStats),
      acknowledgeSends restoredAtMs remaining sends { stats with outstandingSends := queue }
        = acknowledgeSends restoredAtMs remaining sends stats := by
  induction sends with
  | nil => exact fun _ _ => rfl
  | cons send rest ih =>
      intro remaining stats
      rw [acknowledgeSends, acknowledgeSends]
      by_cases hzero : remaining = 0
      · rw [if_pos hzero, if_pos hzero]
      rw [if_neg hzero, if_neg hzero]
      by_cases hwhole : send.bytes - min remaining send.bytes = 0
      · rw [if_pos hwhole, if_pos hwhole]
        exact ih _ { stats with
          creditReturnCount := saturatingAdd stats.creditReturnCount 1
          creditReturnTotalMs :=
            saturatingAdd stats.creditReturnTotalMs (restoredAtMs - send.sentAtMs) }
      · rw [if_neg hwhole, if_neg hwhole]

theorem recordCreditRestore_zero (stats : AgentStreamStats) (restoredAtMs : Nat) :
    stats.recordCreditRestore 0 restoredAtMs = stats := by
  unfold recordCreditRestore
  cases hsends : stats.outstandingSends with
  | nil => rw [acknowledgeSends, ← hsends]
  | cons send rest => rw [acknowledgeSends, if_pos rfl, ← hsends]

theorem creditRestoreTurn_of_front {stats : AgentStreamStats} {remaining : Nat}
    {frontSend : OutstandingAgentSend} {rest : List OutstandingAgentSend}
    (hremaining : 0 < remaining) (hsends : stats.outstandingSends = frontSend :: rest)
    (restoredAtMs : Nat) :
    creditRestoreTurn restoredAtMs (remaining, stats) ()
      = ((remaining - min remaining frontSend.bytes,
          stats.acknowledgeFront (min remaining frontSend.bytes) restoredAtMs frontSend rest),
        .continues) := by
  simp only [creditRestoreTurn, if_pos hremaining, hsends]

/-- A turn does the first of what the whole grant does. -/
theorem recordCreditRestore_of_front {stats : AgentStreamStats} {remaining : Nat}
    {frontSend : OutstandingAgentSend} {rest : List OutstandingAgentSend}
    (hremaining : 0 < remaining) (hsends : stats.outstandingSends = frontSend :: rest)
    (restoredAtMs : Nat) :
    (stats.acknowledgeFront (min remaining frontSend.bytes) restoredAtMs frontSend
        rest).recordCreditRestore (remaining - min remaining frontSend.bytes) restoredAtMs
      = stats.recordCreditRestore remaining restoredAtMs := by
  have hpos : ¬ remaining = 0 := by omega
  unfold recordCreditRestore acknowledgeFront
  rw [hsends, acknowledgeSends, if_neg hpos]
  by_cases hwhole : frontSend.bytes - min remaining frontSend.bytes = 0
  · simp only [if_pos hwhole]
    exact acknowledgeSends_congr restoredAtMs rest rest _ { stats with
      creditReturnCount := saturatingAdd stats.creditReturnCount 1
      creditReturnTotalMs :=
        saturatingAdd stats.creditReturnTotalMs (restoredAtMs - frontSend.sentAtMs) }
  · -- All of the grant went into this send.
    have hspent : remaining - min remaining frontSend.bytes = 0 := by omega
    simp only [if_neg hwhole, hspent]
    rw [acknowledgeSends, if_pos rfl]

theorem RestoreEnds.of_spent (stats : AgentStreamStats) (restoredAtMs : Nat) :
    stats.RestoreEnds 0 restoredAtMs (stats.recordCreditRestore 0 restoredAtMs) := by
  rw [recordCreditRestore_zero]
  exact ⟨1, by omega, 0, rfl⟩

/-- The loop ends, with the result of `recordCreditRestore`. -/
theorem creditRestore_ends (restoredAtMs : Nat) (queue : List OutstandingAgentSend) :
    ∀ (stats : AgentStreamStats) (bytes : Nat), stats.outstandingSends = queue →
      stats.RestoreEnds bytes restoredAtMs (stats.recordCreditRestore bytes restoredAtMs) := by
  induction queue with
  | nil =>
      intro stats bytes hsends
      refine ⟨1, by omega, bytes, ?_⟩
      have hdropped : stats.recordCreditRestore bytes restoredAtMs = stats := by
        rw [recordCreditRestore, hsends, acknowledgeSends, ← hsends]
      rw [hdropped, List.replicate_one, loopTurns, creditRestoreTurn]
      by_cases hbytes : 0 < bytes
      · simp only [if_pos hbytes, hsends]
      · simp only [if_neg hbytes]
  | cons frontSend rest ih =>
      intro stats bytes hsends
      by_cases hbytes : bytes = 0
      · rw [hbytes]
        exact .of_spent stats restoredAtMs
      have hpos : 0 < bytes := Nat.pos_of_ne_zero hbytes
      have hturn := creditRestoreTurn_of_front hpos hsends restoredAtMs
      rw [← recordCreditRestore_of_front hpos hsends restoredAtMs]
      -- The turn takes the send away, or spends the grant.
      by_cases hwhole : frontSend.bytes - min bytes frontSend.bytes = 0
      · have hrest : (stats.acknowledgeFront (min bytes frontSend.bytes) restoredAtMs frontSend
            rest).outstandingSends = rest := if_pos hwhole
        rcases ih _ (bytes - min bytes frontSend.bytes) hrest with ⟨turns, hturns, remaining, hloop⟩
        refine ⟨turns + 1, ?_, remaining, ?_⟩
        · rw [hrest] at hturns
          rw [hsends, List.length_cons]
          omega
        · rw [List.replicate_succ, loopTurns, hturn]
          exact hloop
      · have hspent : bytes - min bytes frontSend.bytes = 0 := by omega
        rw [hspent, recordCreditRestore_zero]
        refine ⟨2, ?_, 0, ?_⟩
        · rw [hsends, List.length_cons]
          omega
        · rw [List.replicate_succ, loopTurns, hturn, hspent]
          rfl

end AgentStreamStats

/-! ### The calls of a stream -/

/-- What the handlers do to an agent stream: a message of the agent is sent, credit is
    restored, a message of the gateway is handed to the agent. -/
inductive AgentStreamCall where
  | send (payloadBytes sentAtMs : Nat)
  | restore (bytes restoredAtMs : Nat)
  | receive (payloadBytes : Nat)
  deriving DecidableEq

/-- What a call leaves, with whether it was accepted. -/
def AgentStreamCall.perform (agentStream : AgentStreamState) :
    AgentStreamCall → Option (AgentStreamState × List Bool)
  | .send payloadBytes sentAtMs =>
    match agentStream.sendWindow.tryConsume payloadBytes with
    | none => some (agentStream, [false])
    | some window =>
      let outstandingBytes := agentStreamOutstandingBytes window
      let stats := agentStream.stats.recordOutboundMessage payloadBytes sentAtMs outstandingBytes
      some (⟨window, (stats.takeNewThresholdCrossings outstandingBytes).2⟩, [true])
  | .restore bytes restoredAtMs =>
    match agentStream.sendWindow.add bytes with
    | .error _ => some (agentStream, [false])
    | .ok window => some (⟨window, agentStream.stats.recordCreditRestore bytes restoredAtMs⟩, [true])
  | .receive payloadBytes =>
    some ({ agentStream with stats := agentStream.stats.recordInboundMessage payloadBytes }, [true])

/-- The calls of a stream, one after the other. -/
def AgentStreamCall.Step (agentStream : AgentStreamState) (call : AgentStreamCall)
    (answers : List Bool) (next : AgentStreamState) : Prop :=
  call.perform agentStream = some (next, answers)

/-- Every call is answered. -/
theorem AgentStreamCall.exists_step (agentStream : AgentStreamState) (call : AgentStreamCall) :
    ∃ answers next, Step agentStream call answers next := by
  unfold Step
  cases call with
  | send payloadBytes sentAtMs =>
      simp only [perform]
      split <;> exact ⟨_, _, rfl⟩
  | restore bytes restoredAtMs =>
      simp only [perform]
      split <;> exact ⟨_, _, rfl⟩
  | receive payloadBytes => exact ⟨_, _, rfl⟩

section

variable {streamId : StreamId} {st : TunnelSessionMutableState}
variable {agentStream next : AgentStreamState} {answers : List Bool}
variable (hentry : st.agentStreams[streamId]? = some agentStream)

include hentry

/-- A message of the agent is a send of its stream. -/
theorem reserveAgentStreamSendWindow_performs {payloadBytes nowMs : Nat}
    (h : AgentStreamCall.Step agentStream (.send payloadBytes nowMs) answers next) :
    (reserveAgentStreamSendWindow streamId payloadBytes nowMs st).state.agentStreams[streamId]?
        = some next ∧
      ∃ reply, (reserveAgentStreamSendWindow streamId payloadBytes nowMs st).result
        = .ok (some reply) ∧ answers = [reply.isOk] := by
  unfold AgentStreamCall.Step AgentStreamCall.perform at h
  unfold reserveAgentStreamSendWindow
  rw [bind_ok (get_apply st), hentry]
  rcases agentStream.sendWindow.tryConsume_cases payloadBytes with ⟨htry, _⟩ | ⟨htry, _⟩
  · simp only [htry, Option.some.injEq, Prod.mk.injEq] at h ⊢
    rw [← h.1, ← h.2]
    refine ⟨?_, _, rfl, rfl⟩
    exact (Std.ExtTreeMap.getElem?_modify_self).trans (by rw [hentry, Option.map_some])
  · simp only [htry, Option.some.injEq, Prod.mk.injEq] at h ⊢
    rw [← h.1, ← h.2]
    exact ⟨hentry, _, rfl, rfl⟩

/-- A grant of the gateway is a restore of its stream. -/
theorem addAgentStreamWindowCredit_performs {bytes restoredAtMs : Nat}
    (h : AgentStreamCall.Step agentStream (.restore bytes restoredAtMs) answers next) :
    (addAgentStreamWindowCredit streamId bytes restoredAtMs st).state.agentStreams[streamId]?
        = some next ∧
      answers = [(addAgentStreamWindowCredit streamId bytes restoredAtMs st).result.isOk] := by
  unfold AgentStreamCall.Step AgentStreamCall.perform at h
  unfold addAgentStreamWindowCredit
  rw [bind_ok (get_apply st), hentry]
  rcases agentStream.sendWindow.add_cases bytes with ⟨hadd, _⟩ | ⟨error, hadd, _⟩
  · simp only [hadd, Option.some.injEq, Prod.mk.injEq] at h ⊢
    rw [← h.1, ← h.2]
    refine ⟨?_, rfl⟩
    exact (Std.ExtTreeMap.getElem?_modify_self).trans (by rw [hentry, Option.map_some])
  · simp only [hadd, Option.some.injEq, Prod.mk.injEq] at h ⊢
    rw [← h.1, ← h.2]
    exact ⟨hentry, rfl⟩

/-- A message that the agent is handed is received on its stream. -/
theorem sendToAgent_performs {world : World} {message : WebsocketMessage} {payloadBytes : Nat}
    (hlistens : world.agentListens = true)
    (h : AgentStreamCall.Step agentStream (.receive payloadBytes) answers next) :
    (sendToAgent world streamId message payloadBytes st).state.agentStreams[streamId]?
      = some next := by
  unfold AgentStreamCall.Step AgentStreamCall.perform at h
  unfold sendToAgent
  rw [bind_ok (get_apply st), hentry]
  simp only [hlistens, Option.some.injEq, Prod.mk.injEq] at h ⊢
  rw [← h.1]
  exact (Std.ExtTreeMap.getElem?_modify_self).trans (by rw [hentry, Option.map_some])

end

/-- The entry of a stream, where it is still there, is where calls led from the entry before. -/
def agentCalls (s : StreamId) : Trail TunnelSessionMutableState TunnelEffect where
  rel a _ b := ∀ next, b.agentStreams[s]? = some next → ∃ agentStream trace,
    a.agentStreams[s]? = some agentStream ∧ Run AgentStreamCall.Step agentStream trace next
  refl _ next h := ⟨next, [], h, .nil⟩
  comp := by
    intro a b c u v hfirst hrest next hnext
    rcases hrest next hnext with ⟨middle, rest, hmiddle, hlast⟩
    rcases hfirst middle hmiddle with ⟨agentStream, first, hagentStream, hrun⟩
    exact ⟨agentStream, first ++ rest, hagentStream, hrun.trans hlast⟩

section

variable (s : StreamId)

theorem agentCalls_of_eq {a b : TunnelSessionMutableState} {out : List TunnelEffect}
    (h : b.agentStreams[s]? = a.agentStreams[s]?) : (agentCalls s).rel a out b :=
  fun next hnext => ⟨next, [], h.symm.trans hnext, .nil⟩

theorem agentCalls_of_step {a b : TunnelSessionMutableState} {out : List TunnelEffect}
    {agentStream next : AgentStreamState} {call : AgentStreamCall} {answers : List Bool}
    (hbefore : a.agentStreams[s]? = some agentStream) (hafter : b.agentStreams[s]? = some next)
    (hstep : call.Step agentStream answers next) : (agentCalls s).rel a out b := by
  intro last hlast
  rw [hafter, Option.some.injEq] at hlast
  rw [← hlast]
  exact ⟨agentStream, _, hbefore, Run.single hstep⟩

theorem sendOrThrow_agentCalls (message : TunnelWriterMessage) (error : TunnelSessionError) :
    Follows (agentCalls s)
      (do if ← sendToWriter message then return () else throw error : Session Unit) := by
  refine Follows.bind ?_ fun sent => ?_
  · refine Follows.read fun st => ?_
    split
    · exact Follows.pure _ st
    · exact FollowsFrom.bind (agentCalls_of_eq s rfl) fun _ _ =>
        Follows.bind (Follows.emit fun _ => agentCalls_of_eq s rfl) (fun _ => Follows.pure _) _
  · cases sent with
    | true => exact Follows.pure ()
    | false => exact Follows.throw error

theorem publishTunnelTelemetryLog_agentCalls (context : TunnelSessionLoopContext) (world : World)
    (level : SandboxTelemetryLogLevel) (event : String) (extraFields : Fields) :
    Follows (agentCalls s) (publishTunnelTelemetryLog context world level event extraFields) := by
  intro st
  have hfootprint : FollowsFrom (footprint ⟨fun _ => False, False, False⟩)
      (publishTunnelTelemetryLog context world level event extraFields) st :=
    publishTunnelTelemetryLog_footprint context world level event extraFields st
  have hentries := hfootprint.elsewhere s id
  exact agentCalls_of_eq s (congrArg StreamEntries.agentStream hentries)

theorem removeAgentStreamAndPublishSummary_agentCalls (context : TunnelSessionLoopContext)
    (world : World) (termination : AgentStreamTermination) :
    Follows (agentCalls s)
      (removeAgentStreamAndPublishSummary context world s termination) := by
  refine Follows.read fun st => ?_
  split
  · exact Follows.pure _ st
  · refine Follows.bind (Follows.modify fun st next hnext => ?_) (fun _ => Follows.bind
      (publishTunnelTelemetryLog_agentCalls s _ _ _ _ _) fun _ => Follows.pure _) st
    -- The entry is gone.
    rw [Std.ExtTreeMap.getElem?_erase_self] at hnext
    exact absurd hnext (by simp only [reduceCtorEq, not_false_eq_true])

/-- A handler that does nothing on a stream it does not know, and else what a call does. -/
theorem agentCalls_from {α : Type} {x : Session α} {st : TunnelSessionMutableState}
    (call : AgentStreamCall) (hnone : st.agentStreams[s]? = none → (x st).state = st)
    (hsome : ∀ agentStream answers next, st.agentStreams[s]? = some agentStream →
      call.Step agentStream answers next → (x st).state.agentStreams[s]? = some next) :
    FollowsFrom (agentCalls s) x st := by
  cases hentry : st.agentStreams[s]? with
  | none => exact agentCalls_of_eq s (by rw [hnone hentry])
  | some agentStream =>
      rcases call.exists_step agentStream with ⟨answers, next, hstep⟩
      exact agentCalls_of_step s hentry (hsome agentStream answers next hentry hstep) hstep

/-- A grant of the gateway. -/
theorem addAgentStreamWindowCredit_agentCalls (bytes restoredAtMs : Nat) :
    Follows (agentCalls s) (addAgentStreamWindowCredit s bytes restoredAtMs) := by
  refine fun st => agentCalls_from s (.restore bytes restoredAtMs) (fun hnone => ?_)
    fun _ _ _ hentry hstep => (addAgentStreamWindowCredit_performs hentry hstep).1
  unfold addAgentStreamWindowCredit
  rw [bind_ok (get_apply st), hnone]
  rfl

theorem reserveAgentStreamSendWindow_agentCalls (payloadBytes nowMs : Nat) :
    Follows (agentCalls s) (reserveAgentStreamSendWindow s payloadBytes nowMs) := by
  refine fun st => agentCalls_from s (.send payloadBytes nowMs) (fun hnone => ?_)
    fun _ _ _ hentry hstep => (reserveAgentStreamSendWindow_performs hentry hstep).1
  unfold reserveAgentStreamSendWindow
  rw [bind_ok (get_apply st), hnone]
  rfl

theorem sendToAgent_agentCalls (world : World) (message : WebsocketMessage) (payloadBytes : Nat) :
    Follows (agentCalls s) (sendToAgent world s message payloadBytes) := by
  by_cases hlistens : world.agentListens = true
  · refine fun st => agentCalls_from s (.receive payloadBytes) (fun hnone => ?_)
      fun _ _ _ hentry hstep => sendToAgent_performs hentry hlistens hstep
    unfold sendToAgent
    rw [bind_ok (get_apply st), hnone]
    rfl
  · refine Follows.read fun st => ?_
    split
    · exact Follows.pure _ st
    · rw [if_neg hlistens]
      exact Follows.throw _ st

variable (context : TunnelSessionLoopContext) (world : World)

theorem publishAgentRuntimePayload_agentCalls (payloadKind : UInt8) (payload : List UInt8) :
    Follows (agentCalls s) (publishAgentRuntimePayload context world s payloadKind payload) := by
  refine Follows.bind (reserveAgentStreamSendWindow_agentCalls s _ _) fun reserved => ?_
  split
  · exact Follows.pure _
  · refine Follows.bind (publishTunnelTelemetryLog_agentCalls s _ _ _ _ _) fun _ => ?_
    refine Follows.bind (removeAgentStreamAndPublishSummary_agentCalls s _ _ _) fun _ => ?_
    exact sendOrThrow_agentCalls s _ _
  · refine Follows.bind (Follows.forEach fun _ _ =>
      publishTunnelTelemetryLog_agentCalls s _ _ _ _ _) fun _ => ?_
    split
    · exact Follows.throw _
    · exact sendOrThrow_agentCalls s _ _

/-- A message of the agent. -/
theorem handleAgentRuntimeMessage_agentCalls (message : WebsocketMessage) :
    Follows (agentCalls s) (handleAgentRuntimeMessage context world s message) := by
  have htask : ∀ command, Follows (agentCalls s) (emit (.task command) : Session Unit) :=
    fun _ => Follows.emit fun _ => agentCalls_of_eq s rfl
  cases message with
  | text payload => exact publishAgentRuntimePayload_agentCalls s context world _ _
  | binary payload => exact publishAgentRuntimePayload_agentCalls s context world _ _
  | ping payload =>
      refine Follows.read fun st => ?_
      split
      · exact Follows.pure _ st
      · split
        · exact htask _ st
        · exact Follows.throw _ st
  | pong payload => exact Follows.pure _
  | close =>
      refine Follows.bind (removeAgentStreamAndPublishSummary_agentCalls s _ _ _) fun _ => ?_
      exact sendOrThrow_agentCalls s _ _
  | frame => exact Follows.pure _

/-- A data frame of the gateway. -/
theorem forwardGatewayFrameToAgent_agentCalls {frame : StreamDataFrame}
    (h : frame.streamId = s) :
    Follows (agentCalls s) (forwardGatewayFrameToAgent context world frame) := by
  unfold forwardGatewayFrameToAgent
  rw [h]
  split
  · split
    · exact Follows.throw _
    · exact sendToAgent_agentCalls s world _ _
  split
  · exact sendToAgent_agentCalls s world _ _
  · refine Follows.bind (removeAgentStreamAndPublishSummary_agentCalls s _ _ _) fun removed => ?_
    have hreset : ∀ message, Follows (agentCalls s) (writeTunnelText message) :=
      fun _ => sendOrThrow_agentCalls s _ _
    split
    · exact Follows.bind (Follows.emit fun _ => agentCalls_of_eq s rfl) fun _ => hreset _
    · exact hreset _

end

/-- The send of an entry, where it was accepted. -/
def sendOf : Entry AgentStreamCall Bool → List OutstandingAgentSend
  | ⟨.send payloadBytes sentAtMs, [true]⟩ => [⟨payloadBytes, sentAtMs⟩]
  | _ => []

/-- The bytes that an entry restored, where it was accepted. -/
def restoreOf : Entry AgentStreamCall Bool → Nat
  | ⟨.restore bytes _, [true]⟩ => bytes
  | _ => 0

/-- The accepted sends of a trace, in order. -/
def sentAlong (trace : List (Entry AgentStreamCall Bool)) : List OutstandingAgentSend :=
  trace.flatMap sendOf

/-- The bytes that a trace restored. -/
def restoredAlong (trace : List (Entry AgentStreamCall Bool)) : Nat :=
  (trace.map restoreOf).sum

/-- The law of a stream over the calls of a trace: the queue of sends and the credit add up
    to the whole window, what is left in the queue is what the restored bytes leave of the
    sends when they are taken in order, and the loop of a grant ends. -/
structure KeepsAccount (openedAtMs : Nat) (trace : List (Entry AgentStreamCall Bool)) : Prop where
  balance : EveryState AgentStreamCall.Step (createAgentStream openedAtMs) trace fun agentStream =>
    agentStream.stats.outstandingBytes + agentStream.sendWindow.availableBytes
      = agentStreamWindowBytes
  ordered : ∀ before after agentStream, trace = before ++ after →
    Run AgentStreamCall.Step (createAgentStream openedAtMs) before agentStream →
    agentSendDebt.Settled (sentAlong before) (restoredAlong before)
      agentStream.stats.outstandingSends
  ends : EveryState AgentStreamCall.Step (createAgentStream openedAtMs) trace fun agentStream =>
    ∀ bytes restoredAtMs, agentStream.stats.RestoreEnds bytes restoredAtMs
      (agentStream.stats.recordCreditRestore bytes restoredAtMs)

/-- A grant of more than the maximum does not meet an empty window. -/
def RestoresWithin (agentStream : AgentStreamState) (call : AgentStreamCall) : Prop :=
  ∀ bytes restoredAtMs, call = .restore bytes restoredAtMs →
    agentStream.sendWindow.availableBytes = 0 → bytes ≤ maxStreamWindowBytes

@[simp] theorem sentAlong_nil : sentAlong [] = [] := rfl

@[simp] theorem restoredAlong_nil : restoredAlong [] = 0 := rfl

@[simp] theorem sentAlong_snoc (trace : List (Entry AgentStreamCall Bool))
    (entry : Entry AgentStreamCall Bool) :
    sentAlong (trace ++ [entry]) = sentAlong trace ++ sendOf entry := by
  simp [sentAlong]

@[simp] theorem restoredAlong_snoc (trace : List (Entry AgentStreamCall Bool))
    (entry : Entry AgentStreamCall Bool) :
    restoredAlong (trace ++ [entry]) = restoredAlong trace + restoreOf entry := by
  simp [restoredAlong]

@[simp] theorem createAgentStream_availableBytes (openedAtMs : Nat) :
    (createAgentStream openedAtMs).sendWindow.availableBytes = agentStreamWindowBytes := rfl

@[simp] theorem createAgentStream_outstandingSends (openedAtMs : Nat) :
    (createAgentStream openedAtMs).stats.outstandingSends = [] := rfl

namespace AgentStreamCall

theorem step_functional : Functional Step :=
  functional_of_step fun (agentStream : AgentStreamState) (call : AgentStreamCall) =>
    call.perform agentStream

variable {agentStream next : AgentStreamState} {answers : List Bool}

/-- A send is a call of the window and joins the queue, or is refused. -/
theorem Step.send_cases {payloadBytes sentAtMs : Nat}
    (h : Step agentStream (.send payloadBytes sentAtMs) answers next) :
    SendWindowCall.Step agentStream.sendWindow (.tryConsume payloadBytes) answers
        next.sendWindow ∧
      ((answers = [true] ∧ next.stats.outstandingSends
          = agentStream.stats.outstandingSends ++ [⟨payloadBytes, sentAtMs⟩]) ∨
        (answers = [false] ∧ next = agentStream)) := by
  unfold Step at h
  unfold SendWindowCall.Step SendWindowCall.perform
  rcases agentStream.sendWindow.tryConsume_cases payloadBytes with ⟨htry, _⟩ | ⟨htry, _⟩
  · simp only [perform, htry, Option.some.injEq, Prod.mk.injEq] at h ⊢
    rw [← h.1, ← h.2]
    exact ⟨⟨rfl, rfl⟩, .inl ⟨rfl, rfl⟩⟩
  · simp only [perform, htry, Option.some.injEq, Prod.mk.injEq] at h ⊢
    rw [← h.1, ← h.2]
    exact ⟨⟨rfl, rfl⟩, .inr ⟨rfl, rfl⟩⟩

/-- A grant is a call of the window and settles the queue, or is refused. -/
theorem Step.restore_cases {bytes restoredAtMs : Nat}
    (h : Step agentStream (.restore bytes restoredAtMs) answers next) :
    SendWindowCall.Step agentStream.sendWindow (.add bytes) answers next.sendWindow ∧
      ((answers = [true] ∧ next.stats.outstandingSends
          = agentSendDebt.settle bytes agentStream.stats.outstandingSends) ∨
        (answers = [false] ∧ next = agentStream)) := by
  unfold Step at h
  unfold SendWindowCall.Step SendWindowCall.perform
  rcases agentStream.sendWindow.add_cases bytes with ⟨hadd, _⟩ | ⟨error, hadd, _⟩
  · simp only [perform, hadd, Option.some.injEq, Prod.mk.injEq] at h ⊢
    rw [← h.1, ← h.2]
    refine ⟨⟨rfl, rfl⟩, .inl ⟨rfl, ?_⟩⟩
    exact agentStream.stats.recordCreditRestore_outstandingSends bytes restoredAtMs
  · simp only [perform, hadd, Option.some.injEq, Prod.mk.injEq] at h ⊢
    rw [← h.1, ← h.2]
    exact ⟨⟨rfl, rfl⟩, .inr ⟨rfl, rfl⟩⟩

/-- A message of the gateway leaves the account alone. -/
theorem Step.receive_cases {payloadBytes : Nat}
    (h : Step agentStream (.receive payloadBytes) answers next) :
    next.sendWindow = agentStream.sendWindow ∧
      next.stats.outstandingSends = agentStream.stats.outstandingSends := by
  injection h with h
  injection h with hnext
  rw [← hnext]
  exact ⟨rfl, rfl⟩

/-- From a credit within the maximum, a call leaves one within the maximum unless it grants
    more than that to an empty window. -/
theorem Step.within_iff {call : AgentStreamCall} (hwithin : agentStream.sendWindow.WithinMax)
    (h : Step agentStream call answers next) :
    next.sendWindow.WithinMax ↔ RestoresWithin agentStream call := by
  cases call with
  | send payloadBytes sentAtMs =>
      rw [add_le_max_iff hwithin h.send_cases.1]
      exact ⟨fun _ _ _ hcall => by injection hcall, fun _ _ hcall => by injection hcall⟩
  | restore bytes restoredAtMs =>
      rw [add_le_max_iff hwithin h.restore_cases.1]
      constructor
      · intro hgrants bytes' restoredAtMs' hcall hempty
        injection hcall with hbytes
        exact hgrants bytes' (by rw [hbytes]) hempty
      · intro hrestores bytes' hcall hempty
        injection hcall with hbytes
        exact hrestores bytes' restoredAtMs (by rw [hbytes]) hempty
  | receive payloadBytes =>
      rw [h.receive_cases.1]
      exact ⟨fun _ _ _ hcall => by injection hcall, fun _ => hwithin⟩

end AgentStreamCall

/-! ### The account over a run -/

/-- What the calls of a trace leave in the queue and in the window. -/
structure Accounted (trace : List (Entry AgentStreamCall Bool)) (agentStream : AgentStreamState) :
    Prop where
  balance : agentStream.stats.outstandingBytes + agentStream.sendWindow.availableBytes
    = agentStreamWindowBytes
  ordered : agentSendDebt.Settled (sentAlong trace) (restoredAlong trace)
    agentStream.stats.outstandingSends

theorem accounted_createAgentStream (openedAtMs : Nat) :
    Accounted [] (createAgentStream openedAtMs) := by
  constructor
  · rw [AgentStreamStats.outstandingBytes, createAgentStream_outstandingSends, Debt.owed_nil,
      Nat.zero_add, createAgentStream_availableBytes]
  · exact Debt.Settled.none agentSendDebt []

theorem Accounted.within {trace : List (Entry AgentStreamCall Bool)}
    {agentStream : AgentStreamState} (h : Accounted trace agentStream) :
    agentStream.sendWindow.WithinMax := by
  have hbalance := h.balance
  unfold StreamSendWindow.WithinMax maxStreamWindowBytes
  omega

/-- An entry that neither sends nor restores. -/
theorem Accounted.idle {trace : List (Entry AgentStreamCall Bool)}
    {agentStream next : AgentStreamState} {entry : Entry AgentStreamCall Bool}
    (h : Accounted trace agentStream) (hsend : sendOf entry = []) (hrestore : restoreOf entry = 0)
    (hwindow : next.sendWindow = agentStream.sendWindow)
    (hqueue : next.stats.outstandingSends = agentStream.stats.outstandingSends) :
    Accounted (trace ++ [entry]) next := by
  constructor
  · rw [AgentStreamStats.outstandingBytes, hqueue, hwindow]
    exact h.balance
  · rw [sentAlong_snoc, restoredAlong_snoc, hsend, hrestore, List.append_nil, hqueue]
    exact h.ordered

/-- A step keeps the account as long as the credit stays within the maximum. -/
theorem Accounted.step {trace : List (Entry AgentStreamCall Bool)}
    {agentStream next : AgentStreamState} {call : AgentStreamCall} {answers : List Bool}
    (h : Accounted trace agentStream) (hstep : call.Step agentStream answers next)
    (hwithin : next.sendWindow.WithinMax) : Accounted (trace ++ [⟨call, answers⟩]) next := by
  have hbefore := h.balance
  unfold AgentStreamStats.outstandingBytes at hbefore
  cases call with
  | send payloadBytes sentAtMs =>
      rcases hstep.send_cases with ⟨hwindow, ⟨hanswers, hqueue⟩ | ⟨hanswers, hnext⟩⟩
      · rw [hanswers] at hwindow ⊢
        have hcredit : next.sendWindow.availableBytes + payloadBytes
            = agentStream.sendWindow.availableBytes := hwindow.balance
        have hsent : agentSendDebt.owed [⟨payloadBytes, sentAtMs⟩] = payloadBytes := by
          rw [Debt.owed_cons, Debt.owed_nil, agentSendDebt_amount, Nat.add_zero]
        constructor
        · rw [AgentStreamStats.outstandingBytes, hqueue, Debt.owed_append, hsent]
          omega
        · rw [sentAlong_snoc, restoredAlong_snoc, hqueue]
          exact h.ordered.snoc ⟨payloadBytes, sentAtMs⟩
      · rw [hanswers, hnext]
        exact h.idle rfl rfl rfl rfl
  | restore bytes restoredAtMs =>
      rcases hstep.restore_cases with ⟨hwindow, ⟨hanswers, hqueue⟩ | ⟨hanswers, hnext⟩⟩
      · rw [hanswers] at hwindow ⊢
        have hcredit : next.sendWindow.availableBytes
            = agentStream.sendWindow.availableBytes + bytes := hwindow.balance
        -- What is granted is missing from the window, so it is in the queue.
        have hmissing : bytes ≤ agentSendDebt.owed agentStream.stats.outstandingSends := by
          unfold StreamSendWindow.WithinMax maxStreamWindowBytes at hwithin
          omega
        have hordered := h.ordered.settle hmissing
        constructor
        · have hsettled := hordered.balance
          have htaken := h.ordered.balance
          rw [AgentStreamStats.outstandingBytes, hqueue]
          omega
        · rw [sentAlong_snoc, restoredAlong_snoc, hqueue]
          exact (List.append_nil (sentAlong trace)).symm ▸ hordered
      · rw [hanswers, hnext]
        exact h.idle rfl rfl rfl rfl
  | receive payloadBytes =>
      rcases hstep.receive_cases with ⟨hwindow, hqueue⟩
      exact h.idle rfl rfl hwindow hqueue

/-- The account of a stream is kept over a run exactly when no grant of more than the maximum
    meets an empty window. -/
theorem keepsAccount_iff {openedAtMs : Nat} {agentStream : AgentStreamState}
    {trace : List (Entry AgentStreamCall Bool)}
    (run : Run AgentStreamCall.Step (createAgentStream openedAtMs) trace agentStream) :
    KeepsAccount openedAtMs trace ↔
      EveryStep AgentStreamCall.Step (createAgentStream openedAtMs) trace
        fun agentStream call _ => RestoresWithin agentStream call := by
  constructor
  · intro h before call answers after a htrace hrun
    have hcut : trace = before ++ ([⟨call, answers⟩] ++ after) := htrace
    have hbefore : a.sendWindow.WithinMax :=
      (Accounted.mk (h.balance before _ a hcut hrun) (h.ordered before _ a hcut hrun)).within
    rw [htrace] at run
    rcases run.step_at AgentStreamCall.step_functional hrun with ⟨b, hstep⟩
    rw [← List.append_assoc] at hcut
    have hafter : b.sendWindow.WithinMax :=
      (Accounted.mk (h.balance _ after b hcut (hrun.snoc hstep))
        (h.ordered _ after b hcut (hrun.snoc hstep))).within
    exact (hstep.within_iff hbefore).mp hafter
  · intro h
    have haccounted : ∀ before after a, trace = before ++ after →
        Run AgentStreamCall.Step (createAgentStream openedAtMs) before a → Accounted before a := by
      intro before after a htrace hrun
      rw [htrace] at h
      refine (hrun.restrict h.init).history (accounted_createAgentStream openedAtMs) ?_
      intro trace' a' call answers b _ ha hstep
      exact ha.step hstep.1 ((hstep.1.within_iff ha.within).mpr hstep.2)
    refine ⟨?_, ?_, ?_⟩
    · intro before after a htrace hrun
      exact (haccounted before after a htrace hrun).balance
    · intro before after a htrace hrun
      exact (haccounted before after a htrace hrun).ordered
    · intro _ _ a _ _ bytes restoredAtMs
      exact a.stats.creditRestore_ends restoredAtMs _ bytes rfl

/-- A stream that sends all of its window and is granted it back. -/
theorem keepsAccount_iff_sent_and_restored :
    ∃ trace agentStream, Run AgentStreamCall.Step (createAgentStream 0) trace agentStream ∧
      (KeepsAccount 0 trace ↔
        EveryStep AgentStreamCall.Step (createAgentStream 0) trace
          fun agentStream call _ => RestoresWithin agentStream call) := by
  have hexecutes : executesTo AgentStreamCall.perform (createAgentStream 0)
      [.send agentStreamWindowBytes 1, .restore agentStreamWindowBytes 2]
      (fun _ _ => true) = true := by
    decide +kernel
  rcases exists_run_of_executesTo hexecutes with ⟨trace, agentStream, run, _⟩
  exact ⟨trace, agentStream, run, keepsAccount_iff run⟩

/-- The whole window is sent, one byte more than it is granted, and one byte is sent: that
    byte is in the queue while the window is full. -/
theorem account_drifts :
    ∃ trace agentStream, Run AgentStreamCall.Step (createAgentStream 0) trace agentStream ∧
      trace.map Entry.input = [.send agentStreamWindowBytes 1,
        .restore (agentStreamWindowBytes + 1) 2, .send 1 3] ∧
      agentStream.stats.outstandingBytes ≠ agentStreamOutstandingBytes agentStream.sendWindow ∧
      ¬ KeepsAccount 0 trace := by
  have hexecutes : executesTo AgentStreamCall.perform (createAgentStream 0)
      [.send agentStreamWindowBytes 1, .restore (agentStreamWindowBytes + 1) 2, .send 1 3]
      (fun _ agentStream => agentStream.sendWindow.availableBytes = agentStreamWindowBytes ∧
        agentStream.stats.outstandingSends = [⟨1, 3⟩]) = true := by
    decide +kernel
  rcases exists_run_of_executesTo hexecutes with ⟨trace, agentStream, run, hinputs, hcheck⟩
  rcases of_decide_eq_true hcheck with ⟨hcredit, hqueue⟩
  have hone : agentStream.stats.outstandingBytes = 1 := by
    rw [AgentStreamStats.outstandingBytes, hqueue, Debt.owed_cons, Debt.owed_nil,
      agentSendDebt_amount]
  refine ⟨trace, agentStream, run, hinputs, ?_, ?_⟩
  · rw [hone, agentStreamOutstandingBytes, hcredit, Nat.sub_self]
    exact Nat.one_ne_zero
  · intro h
    have hbalance : agentStream.stats.outstandingBytes + agentStream.sendWindow.availableBytes
        = agentStreamWindowBytes :=
      h.balance trace [] agentStream (List.append_nil trace).symm run
    rw [hone, hcredit] at hbalance
    omega

end Mistle
