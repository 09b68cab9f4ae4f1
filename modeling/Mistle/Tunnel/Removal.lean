import Mistle.Tunnel.Connection

/-!
# Streams that Were Removed

Once no table holds a stream, its task is told to stop, but what the task
reported before is still queued. Most events look their stream up and are
dropped if it is gone. Two kinds are written out without that look: what a port
access task reports, but for its input window, and a close of the agent's socket
that arrives as a message.

So a stream that no table holds is spoken of only in reply to the gateway,
in exactly those runs in which no such event arrives late.

## Main definitions

* `Connection.Holds`: The session holds a stream in some table.
* `SpeaksOnlyInReply`: What a step may write about streams that are gone.
* `TunnelSessionEvent.unchecked`: Events that are written without a look.
* `LateReport`: Such an event about a stream that is gone.

## Theorems

* `handleTunnelSessionEvent_of_free`: What an event of a gone stream writes.
* `speaksOnlyInReply_of_not_late`, `not_late_of_speaksOnlyInReply`: One step.
* `no_frame_after_removal`: Every run.
* `late_tcp_data_is_written`: A run in which a removed stream speaks.
-/

namespace Mistle

open Handler

/-- The session holds the stream in some table. -/
def Connection.Holds (connection : Connection) (s : StreamId) : Prop :=
  ∃ st, connection = some st ∧ 0 < (st.entries s).count

/-- The stream whose task an input reports about. -/
def SessionInput.taskStream? : SessionInput → Option StreamId
  | .item _ (.event event) => event.taskStream?
  | _ => none

/-- A message of the gateway that names a stream. -/
def SessionInput.names (serde : SerdeJson) (input : SessionInput) (s : StreamId) : Prop :=
  match input with
  | .item _ (.event (.bootstrapMessage (.text payload))) => textNames serde payload s
  | .item _ (.event (.bootstrapMessage (.binary payload))) =>
    ∃ frame, decodeStreamDataFrame payload = .ok frame ∧ frame.streamId = s
  | _ => False

/-- A stream that no table holds: reports of its own task write nothing about
    it, and anything else that does is a reply to a message that names it. The
    streams of the telemetry relay and of the operation are in no table. -/
structure SpeaksOnlyInReply (serde : SerdeJson) (connection : Connection) (input : SessionInput)
    (out : List TunnelEffect) : Prop where
  ofTask : ∀ s, ¬ connection.Holds s → input.taskStream? = some s →
    ∀ o ∈ out, o.streamId? ≠ some s
  inReply : ∀ s, ¬ connection.Holds s → s ≠ sandboxTelemetryLogStreamId →
    s ≠ sandboxOperationStreamId → ∀ o ∈ out, o.streamId? = some s → input.names serde s

/-- Events of tasks that are written without a look at their stream. -/
def TunnelSessionEvent.unchecked : TunnelSessionEvent → Bool
  | agentMessage _ .close => true
  | portAccessTransport (.tcpInputWindow _ _) => false
  -- A frame for stream zero does not encode.
  | portAccessTransport (.tcpData streamId _) => streamId != 0
  | portAccessTransport _ => true
  | _ => false

/-- An event that is written although no table holds its stream. -/
def LateReport (connection : Connection) (input : SessionInput) : Prop :=
  ∃ st world event s, connection = some st ∧ input = .item world (.event event) ∧
    event.taskStream? = some s ∧ event.unchecked = true ∧ (st.entries s).count = 0 ∧
    st.tunnelWriter.send.isSome

/-! ### Events of a stream that is gone -/

/-- A stream that no table holds has no entries. -/
theorem entries_of_free {st : TunnelSessionMutableState} {s : StreamId}
    (h : (st.entries s).count = 0) :
    st.entries s = ⟨none, none, none, none, none, none, none, none⟩ := by
  have hnone : ∀ {α : Type} (o : Option α), o.isSome.toNat = 0 → o = none := by
    intro α o ho
    cases o with
    | none => rfl
    | some a =>
        rw [Option.isSome_some, Bool.toNat_true] at ho
        omega
  rcases hentries : st.entries s with ⟨a, b, c, d, e, f, g, i⟩
  rw [hentries] at h
  simp only [StreamEntries.count] at h
  rw [hnone a (by omega), hnone b (by omega), hnone c (by omega), hnone d (by omega),
    hnone e (by omega), hnone f (by omega), hnone g (by omega), hnone i (by omega)]

/-- Nothing, or one message about the stream if the writer takes it. -/
def WritesUnchecked (s : StreamId) (st : TunnelSessionMutableState) (unchecked : Bool)
    (out : List TunnelEffect) : Prop :=
  if unchecked = true ∧ st.tunnelWriter.send.isSome then
    ∃ message, out = [.write message] ∧ (TunnelEffect.write message).streamId? = some s
  else out = []

theorem WritesUnchecked.nothing {s : StreamId} {st : TunnelSessionMutableState} :
    WritesUnchecked s st false [] := by
  unfold WritesUnchecked
  rw [if_neg (fun h => Bool.false_ne_true h.1)]

theorem writeTunnelText_unchecked {s : StreamId} {message : OutboundMessage}
    (hid : message.streamId? = some s) (st : TunnelSessionMutableState) :
    WritesUnchecked s st true (writeTunnelText message st).emitted := by
  unfold WritesUnchecked
  cases hsend : st.tunnelWriter.send with
  | none =>
      rw [writeTunnelText_of_gone hsend, if_neg (fun h => Bool.false_ne_true h.2)]
  | some writer =>
      rw [writeTunnelText_of_send hsend, if_pos ⟨rfl, rfl⟩]
      exact ⟨_, rfl, hid⟩

/-- A call that succeeds silently and spares the writer. -/
def SparesWriter (x : Session Unit) : Prop :=
  ∀ st, Returns x st fun _ st' out => out = [] ∧ st'.tunnelWriter = st.tunnelWriter

theorem closeTcpDirection_sparesWriter (streamId : StreamId)
    (mark : PortAccessTcpStreamState → PortAccessTcpStreamState) :
    SparesWriter (closeTcpDirection streamId mark) := by
  intro st
  have hmark : SparesWriter (modify fun st => { st with
      portAccessTcpStreams := st.portAccessTcpStreams.modify streamId mark }) :=
    fun _ => Returns.modify ⟨rfl, rfl⟩
  refine (hmark st).bind fun _ st' out hst' => ?_
  rcases hst' with ⟨hout, hwriter⟩
  rw [hout]
  refine Returns.read ?_
  split
  · exact Returns.pure ⟨rfl, hwriter⟩
  split
  · exact Returns.modify ⟨rfl, hwriter⟩
  · exact Returns.pure ⟨rfl, hwriter⟩

/-- What a report changes before it is written is silent and spares the writer. -/
theorem applyPortAccessTransportEvent_sparesWriter (event : PortAccessTransportEvent) :
    SparesWriter (applyPortAccessTransportEvent event) := by
  intro st
  cases event with
  | tcpClose message =>
      show Returns (markPortAccessTcpDirectionClosed message.streamId message.direction) st _
      unfold markPortAccessTcpDirectionClosed
      split
      · exact closeTcpDirection_sparesWriter _ _ st
      · exact closeTcpDirection_sparesWriter _ _ st
      · exact Returns.pure ⟨rfl, rfl⟩
  | httpResponseStart message => exact Returns.pure ⟨rfl, rfl⟩
  | httpBodyChunk message => exact Returns.pure ⟨rfl, rfl⟩
  | httpBodyEnd message => exact Returns.modify ⟨rfl, rfl⟩
  | tcpConnected message => exact Returns.pure ⟨rfl, rfl⟩
  | tcpData streamId bytes => exact Returns.pure ⟨rfl, rfl⟩
  | tcpInputWindow streamId bytes => exact Returns.pure ⟨rfl, rfl⟩
  | tcpError message => exact Returns.modify ⟨rfl, rfl⟩
  | streamError message => exact ⟨_, _, _, rfl, rfl, rfl⟩

theorem handlePortAccessTransportEvent_of_free {event : PortAccessTransportEvent}
    {st : TunnelSessionMutableState} (hfree : (st.entries event.streamId).count = 0) :
    WritesUnchecked event.streamId st (TunnelSessionEvent.portAccessTransport event).unchecked
      (handlePortAccessTransportEvent event st).emitted := by
  rcases applyPortAccessTransportEvent_sparesWriter event st with
    ⟨_, st', out, happly, hout, hwriter⟩
  have htext : ∀ message : OutboundMessage, message.streamId? = some event.streamId →
      writePortAccessTransportEvent event = writeTunnelText message →
      WritesUnchecked event.streamId st true (handlePortAccessTransportEvent event st).emitted := by
    intro message hid hwrite
    have hwrites := writeTunnelText_unchecked hid st'
    unfold handlePortAccessTransportEvent
    rw [bind_ok happly, hwrite, hout, List.nil_append]
    unfold WritesUnchecked at hwrites ⊢
    rw [hwriter] at hwrites
    exact hwrites
  cases event with
  | httpResponseStart message => exact htext _ rfl rfl
  | httpBodyChunk message => exact htext _ rfl rfl
  | httpBodyEnd message => exact htext _ rfl rfl
  | tcpConnected message => exact htext _ rfl rfl
  | tcpClose message => exact htext _ rfl rfl
  | tcpError message => exact htext _ rfl rfl
  | streamError message => exact htext _ rfl rfl
  | tcpInputWindow streamId bytes =>
      -- The one report that looks its stream up.
      have hnone : st.portAccessTcpStreams[streamId]? = none :=
        congrArg StreamEntries.portAccessTcpStream (entries_of_free hfree)
      have hemitted : (handlePortAccessTransportEvent (.tcpInputWindow streamId bytes) st).emitted
          = [] := by
        unfold handlePortAccessTransportEvent writePortAccessTransportEvent
        rw [bind_ok (show applyPortAccessTransportEvent (.tcpInputWindow streamId bytes) st
          = ⟨.ok (), st, []⟩ from rfl)]
        simp only
        rw [bind_ok (get_apply st), hnone]
        rfl
      rw [hemitted]
      exact WritesUnchecked.nothing
  | tcpData streamId bytes =>
      have hunchecked : (TunnelSessionEvent.portAccessTransport
        (.tcpData streamId bytes)).unchecked = (streamId != 0) := rfl
      have hhandle : (handlePortAccessTransportEvent (.tcpData streamId bytes) st).emitted
          = (writePortAccessTransportEvent (.tcpData streamId bytes) st).emitted := by
        unfold handlePortAccessTransportEvent
        rw [bind_ok (show applyPortAccessTransportEvent (.tcpData streamId bytes) st
          = ⟨.ok (), st, []⟩ from rfl), List.nil_append]
      rw [hhandle, hunchecked]
      unfold writePortAccessTransportEvent
      simp only
      by_cases hzero : streamId = 0
      · rw [hzero]
        exact WritesUnchecked.nothing
      · rw [checkedFrame_of_ne_zero hzero, bne_iff_ne.mpr hzero]
        simp only
        unfold WritesUnchecked
        cases hsend : st.tunnelWriter.send with
        | none =>
            rw [writeTunnelBinary_of_gone hsend, if_neg (fun h => Bool.false_ne_true h.2)]
        | some writer =>
            rw [writeTunnelBinary_of_send hsend, if_pos ⟨rfl, rfl⟩]
            exact ⟨_, rfl, rfl⟩

section

variable (context : TunnelSessionLoopContext) (world : World)

/-- Removing an agent stream that is not there changes nothing. -/
theorem handleAgentRuntimeMessage_of_free {streamId : StreamId} {message : WebsocketMessage}
    {st : TunnelSessionMutableState} (hfree : (st.entries streamId).count = 0) :
    WritesUnchecked streamId st (TunnelSessionEvent.agentMessage streamId message).unchecked
      (handleAgentRuntimeMessage context world streamId message st).emitted := by
  have hnone : st.agentStreams[streamId]? = none :=
    congrArg StreamEntries.agentStream (entries_of_free hfree)
  have hpayload : ∀ payloadKind payload,
      (publishAgentRuntimePayload context world streamId payloadKind payload st).emitted = [] := by
    intro payloadKind payload
    have hreserve : reserveAgentStreamSendWindow streamId payload.length world.nowMs st
        = ⟨.ok none, st, []⟩ := by
      unfold reserveAgentStreamSendWindow
      rw [bind_ok (get_apply st), hnone]
      rfl
    unfold publishAgentRuntimePayload
    rw [bind_ok hreserve]
    rfl
  cases message with
  | text payload =>
      unfold handleAgentRuntimeMessage
      rw [hpayload]
      exact WritesUnchecked.nothing
  | binary payload =>
      unfold handleAgentRuntimeMessage
      rw [hpayload]
      exact WritesUnchecked.nothing
  | ping payload =>
      unfold handleAgentRuntimeMessage
      simp only
      rw [bind_ok (get_apply st), hnone]
      exact WritesUnchecked.nothing
  | pong payload => exact WritesUnchecked.nothing
  | close =>
      unfold handleAgentRuntimeMessage
      simp only
      rw [bind_ok (removeAgentStreamAndPublishSummary_of_none context world hnone _),
        List.nil_append]
      exact writeTunnelText_unchecked rfl st
  | frame => exact WritesUnchecked.nothing

/-- An event of a stream that no table holds writes nothing, unless it is one of
    those that are written without a look. -/
theorem handleTunnelSessionEvent_of_free {event : TunnelSessionEvent} {s : StreamId}
    {st : TunnelSessionMutableState} (htask : event.taskStream? = some s)
    (hfree : (st.entries s).count = 0) :
    WritesUnchecked s st event.unchecked
      (handleTunnelSessionEvent context world event st).emitted := by
  have hentries := entries_of_free hfree
  cases event with
  | bootstrapMessage message => cases htask
  | bootstrapClosed restart reason => cases htask
  | wake => cases htask
  | agentDialed streamId result =>
      cases htask
      have hnone : st.pendingAgentOpens[s]? = none :=
        congrArg StreamEntries.pendingAgentOpen hentries
      unfold handleTunnelSessionEvent handleAgentDialed
      simp only
      rw [continueWith_emitted, bind_ok (get_apply st), hnone]
      exact WritesUnchecked.nothing
  | agentMessage streamId message =>
      cases htask
      unfold handleTunnelSessionEvent
      simp only
      rw [continueWith_emitted]
      exact handleAgentRuntimeMessage_of_free context world hfree
  | agentWriteCompleted streamId bytes =>
      cases htask
      have hnone : st.agentStreams[s]? = none := congrArg StreamEntries.agentStream hentries
      unfold handleTunnelSessionEvent handleAgentWriteCompleted
      simp only
      rw [continueWith_emitted, bind_ok (get_apply st),
        Std.ExtTreeMap.contains_eq_isSome_getElem?, hnone]
      exact WritesUnchecked.nothing
  | portAccessTransport event =>
      cases htask
      unfold handleTunnelSessionEvent
      simp only
      rw [continueWith_emitted]
      exact handlePortAccessTransportEvent_of_free hfree
  | agentClosed streamId reason =>
      cases htask
      have hnone : st.agentStreams[s]? = none := congrArg StreamEntries.agentStream hentries
      unfold handleTunnelSessionEvent handleAgentClosed
      simp only
      rw [continueWith_emitted,
        bind_ok (removeAgentStreamAndPublishSummary_of_none context world hnone _)]
      exact WritesUnchecked.nothing
  | execCompleted streamId result =>
      cases htask
      have hnone : st.pendingExecOpens[s]? = none :=
        congrArg StreamEntries.pendingExecOpen hentries
      unfold handleTunnelSessionEvent handleExecCompleted
      simp only
      rw [continueWith_emitted, bind_ok (get_apply st), hnone]
      exact WritesUnchecked.nothing
  | fileSearch event =>
      cases htask
      have hnone : st.fileSearchStreams[event.streamId]? = none :=
        congrArg StreamEntries.fileSearchStream hentries
      unfold handleTunnelSessionEvent handleFileSearchWorkerEvent
      simp only
      rw [continueWith_emitted, bind_ok (get_apply st), hnone]
      exact WritesUnchecked.nothing

end

/-! ### Steps and runs -/

theorem not_holds_some {st : TunnelSessionMutableState} {s : StreamId} :
    ¬ Connection.Holds (some st) s ↔ (st.entries s).count = 0 := by
  unfold Connection.Holds
  simp only [Option.some.injEq, exists_eq_left', Nat.pos_iff_ne_zero, ne_eq, not_not]

section

variable (context : TunnelSessionLoopContext)

/-- What an item may touch while it serves no stream of its own: streams that a
    message names, that a table holds, or that are reserved. -/
theorem itemScope_streams (world : World) {item : SessionItem} {st : TunnelSessionMutableState}
    {s : StreamId} (hfree : (st.entries s).count = 0)
    (h : (itemScope context item st).streams s) :
    (SessionInput.item world item).taskStream? = some s ∨
      (item = .shutdownObserved ∧ s = sandboxTelemetryLogStreamId) ∨
      s = sandboxOperationStreamId ∨ (SessionInput.item world item).names context.serde s := by
  have hentries := entries_of_free hfree
  cases item with
  | event event =>
      cases event with
      | bootstrapMessage message =>
          cases message with
          | text payload =>
              rcases h with hnames | hoperation | hprocess
              · exact .inr (.inr (.inr hnames))
              · exact .inr (.inr (.inl hoperation))
              · rw [hentries] at hprocess
                exact absurd hprocess Bool.false_ne_true
          | binary payload =>
              rcases h with hnames | hprocess
              · exact .inr (.inr (.inr hnames))
              · rw [hentries] at hprocess
                exact absurd hprocess Bool.false_ne_true
          | ping payload => exact absurd h not_false
          | pong payload => exact absurd h not_false
          | close => exact absurd h not_false
          | frame => exact absurd h not_false
      | bootstrapClosed restart reason =>
          rcases h with hagent | htcp
          · rw [hentries] at hagent
            exact absurd hagent Bool.false_ne_true
          · rw [hentries] at htcp
            exact absurd htcp Bool.false_ne_true
      | wake =>
          have hprocess : (st.entries s).processStream.isSome := h
          rw [hentries] at hprocess
          exact absurd hprocess Bool.false_ne_true
      | agentDialed streamId result => exact .inl h
      | agentMessage streamId message => exact .inl h
      | agentWriteCompleted streamId bytes => exact .inl h
      | portAccessTransport event => exact .inl h
      | agentClosed streamId reason => exact .inl h
      | execCompleted streamId result => exact .inl h
      | fileSearch event => exact .inl h
  | request request =>
      cases request with
      | egressToken requestId actingUserId sender => exact .inr (.inr (.inl h))
      | operationRecord line => exact .inr (.inr (.inl h))
      | operationClose sender => exact .inr (.inr (.inl h))
      | shutdown => exact absurd h not_false
      | setAgentEndpoint url sender => exact absurd h not_false
      | setRuntimeEnvironment env sender => exact absurd h not_false
      | signing request sender => exact absurd h not_false
  | lifecycleLines lines => exact absurd h not_false
  | keepaliveState ttlMs active => exact absurd h not_false
  | runtimeReady ready => exact absurd h not_false
  | ptyReport requestId ptySessionId outcome => exact absurd h not_false
  | shutdownObserved =>
      rcases h with hexec | htelemetry
      · rw [hentries] at hexec
        exact absurd hexec Bool.false_ne_true
      · exact .inr (.inl ⟨rfl, htelemetry⟩)

/-- What a handler within a scope says about a stream is in scope, or a log line. -/
theorem Footprint.speaks_of {scope : Scope} {a b : TunnelSessionMutableState}
    {out : List TunnelEffect} (h : Footprint scope a out b) {s : StreamId}
    (hs : s ≠ sandboxTelemetryLogStreamId) {o : TunnelEffect} (ho : o ∈ out)
    (hid : o.streamId? = some s) : scope.streams s := by
  rcases h.speaks o ho with hbears | ⟨⟨line, hline⟩, _⟩
  · exact hbears s hid
  · rw [hline] at hid
    exact absurd (Option.some.inj hid).symm hs

/-- A step that takes no late report is silent about streams that are gone. -/
theorem speaksOnlyInReply_of_not_late {connection next : Connection} {input : SessionInput}
    {out : List TunnelEffect} (hstep : connectionStep context connection input = some (next, out))
    (hlate : ¬ LateReport connection input) :
    SpeaksOnlyInReply context.serde connection input out := by
  cases connection with
  | none =>
      rcases connectionStep_connect context hstep with ⟨writer, url, env, operation, hinput, _, hout⟩
      have hfootprint := continueWith_footprint
        (startSession_footprint operation (.fresh writer url env))
      rw [hinput, hout]
      constructor
      · exact fun s _ htask => absurd htask (by
          simp only [SessionInput.taskStream?, reduceCtorEq, not_false_eq_true])
      · intro s _ htelemetry hoperation o ho hid
        rcases hfootprint.speaks_of htelemetry ho hid with h | h
        · exact absurd h htelemetry
        · exact absurd h hoperation
  | some st =>
      rcases connectionStep_item context hstep with ⟨world, item, hinput, _, hout⟩
      rw [hinput] at hlate ⊢
      have hsilent : ∀ s, (st.entries s).count = 0 →
          (SessionInput.item world item).taskStream? = some s → out = [] := by
        intro s hfree htask
        cases item with
        | event event =>
            have hwrites := handleTunnelSessionEvent_of_free context world htask hfree
            unfold WritesUnchecked at hwrites
            rw [if_neg] at hwrites
            · rw [hout]
              exact hwrites
            · intro hunchecked
              exact hlate ⟨st, world, event, s, rfl, rfl, htask, hunchecked.1, hfree,
                hunchecked.2⟩
        | request request => cases htask
        | lifecycleLines lines => cases htask
        | keepaliveState ttlMs active => cases htask
        | runtimeReady ready => cases htask
        | ptyReport requestId ptySessionId outcome => cases htask
        | shutdownObserved => cases htask
      constructor
      · intro s hheld htask o ho
        rw [hsilent s (not_holds_some.mp hheld) htask] at ho
        exact absurd ho List.not_mem_nil
      · intro s hheld htelemetry hoperation o ho hid
        have hfree := not_holds_some.mp hheld
        have hscope : (itemScope context item st).streams s := by
          rw [hout] at ho
          exact (handleSessionItem_footprint context world item st).speaks_of htelemetry ho hid
        rcases itemScope_streams context world hfree hscope with
          htask | h | h | hnames
        · rw [hsilent s hfree htask] at ho
          exact absurd ho List.not_mem_nil
        · exact absurd h.2 htelemetry
        · exact absurd h hoperation
        · exact hnames

/-- A late report does speak about its stream. -/
theorem not_late_of_speaksOnlyInReply {connection next : Connection} {input : SessionInput}
    {out : List TunnelEffect} (hstep : connectionStep context connection input = some (next, out))
    (h : SpeaksOnlyInReply context.serde connection input out) :
    ¬ LateReport connection input := by
  rintro ⟨st, world, event, s, hconnection, hinput, htask, hunchecked, hfree, hsend⟩
  rw [hconnection, hinput] at hstep h
  have hout : out = (handleTunnelSessionEvent context world event st).emitted := by
    simp only [connectionStep, Option.some.injEq, Prod.mk.injEq] at hstep
    exact hstep.2.symm
  have hwrites := handleTunnelSessionEvent_of_free context world htask hfree
  unfold WritesUnchecked at hwrites
  rw [if_pos ⟨hunchecked, hsend⟩] at hwrites
  rcases hwrites with ⟨message, hmessage, hid⟩
  rw [hout] at h
  refine h.ofTask s (not_holds_some.mpr hfree) htask (.write message) ?_ hid
  rw [hmessage]
  exact List.mem_singleton.mpr rfl

end

/-- In every run, streams that no table holds are spoken of only in reply,
    exactly if no late report is taken. -/
theorem no_frame_after_removal (context : TunnelSessionLoopContext)
    (trace : List (Entry SessionInput TunnelEffect)) (connection : Connection)
    (run : ConnectionRun context trace connection) :
    ConnectionSteps context trace (SpeaksOnlyInReply context.serde) ↔
      ConnectionSteps context trace fun connection input _ => ¬ LateReport connection input :=
  run.everyStep_iff (connectionStep_functional context) fun _ _ _ _ hstep =>
    ⟨not_late_of_speaksOnlyInReply context hstep, speaksOnlyInReply_of_not_late context hstep⟩

/-- The texts of an open and a close of a TCP stream, with their trees. -/
def tcpStreamDocuments : List (String × Json String) :=
  [("\x7b\"type\":\"ports.tcp.open\",\"streamId\":7,\"target\":\x7b\"kind\":\"port\",\"port\":80\x7d,"
      ++ "\"upstreamProtocol\":\"http\"\x7d",
    .obj [("type", .str "ports.tcp.open"), ("streamId", .int 7),
      ("target", .obj [("kind", .str "port"), ("port", .int 80)]),
      ("upstreamProtocol", .str "http")]),
    ("\x7b\"type\":\"ports.stream.close\",\"streamId\":7\x7d",
    .obj [("type", .str "ports.stream.close"), ("streamId", .int 7)])]

/-- A text of the gateway, by its place among the documents. -/
def tcpStreamText (n : Nat) : SessionInput :=
  .item .idle (.event (.bootstrapMessage (.text (tcpStreamDocuments[n]?.map Prod.fst).get!)))

/-- Bytes that the task of stream 7 had read before it was told to stop. -/
def lateTcpData : SessionInput :=
  .item .idle (.event (.portAccessTransport (.tcpData 7 [104, 105])))

/-- The gateway opens stream 7 and closes it, and what its task had read before
    is written all the same. -/
theorem late_tcp_data_is_written :
    ∃ opened closed st st' next out,
      ConnectionRun (.ofDocuments tcpStreamDocuments) opened (some st) ∧
      Connection.Holds (some st) 7 ∧
      ConnectionRun (.ofDocuments tcpStreamDocuments) (opened ++ closed) (some st') ∧
      ¬ Connection.Holds (some st') 7 ∧
      connectionStep (.ofDocuments tcpStreamDocuments) (some st') lateTcpData
        = some (next, out) ∧
      ¬ SpeaksOnlyInReply (.ofDocuments tcpStreamDocuments) (some st') lateTcpData out := by
  rcases exists_connectionRun (.ofDocuments tcpStreamDocuments)
    [.connect .open none [] none, tcpStreamText 0]
    (fun _ st => decide (0 < (st.entries 7).count) &&
      executesTo (connectionStep (.ofDocuments tcpStreamDocuments)) (some st) [tcpStreamText 1]
        fun _ connection => connection.any fun (st' : TunnelSessionMutableState) =>
          decide ((st'.entries 7).count = 0) && st'.tunnelWriter.send.isSome)
    (by decide +kernel) with ⟨opened, st, run, _, hopened⟩
  rw [Bool.and_eq_true, decide_eq_true_eq] at hopened
  rcases exists_run_of_executesTo hopened.2 with ⟨closed, connection, rest, _, hclosed⟩
  cases connection with
  | none => exact absurd hclosed Bool.false_ne_true
  | some st' =>
      rw [Option.any_some, Bool.and_eq_true, decide_eq_true_eq] at hclosed
      refine ⟨opened, closed, st, st', _, _, run, ⟨st, rfl, hopened.1⟩, run.trans rest,
        not_holds_some.mpr hclosed.1, rfl, fun h => ?_⟩
      exact not_late_of_speaksOnlyInReply (.ofDocuments tcpStreamDocuments) rfl h
        ⟨st', .idle, _, 7, rfl, rfl, rfl, rfl, hclosed.1, hclosed.2⟩

/-- A report of a task that looks its stream up is dropped once the stream is
    gone. -/
theorem no_frame_after_removal_checked :
    ∃ trace st, ConnectionRun (.ofDocuments tcpStreamDocuments) trace (some st) ∧
      ¬ Connection.Holds (some st) 7 ∧
      ConnectionSteps (.ofDocuments tcpStreamDocuments) trace
        (SpeaksOnlyInReply (SerdeJson.ofDocuments tcpStreamDocuments)) := by
  rcases exists_connectionRun (.ofDocuments tcpStreamDocuments)
    [.connect .open none [] none, tcpStreamText 0, tcpStreamText 1,
      .item .idle (.event (.portAccessTransport (.tcpInputWindow 7 10)))]
    (fun _ st => (st.entries 7).count = 0) (by decide +kernel) with ⟨trace, st, run, hinputs, hfree⟩
  refine ⟨trace, st, run, not_holds_some.mpr (of_decide_eq_true hfree),
    (no_frame_after_removal _ trace _ run).mpr ?_⟩
  intro before i out after connection htrace _ hlate
  have hmem := mem_inputs htrace
  rw [hinputs] at hmem
  rcases hlate with ⟨_, world, event, s, _, hinput, htask, hunchecked, _⟩
  rw [hinput] at hmem
  simp only [List.mem_cons, List.not_mem_nil, or_false, reduceCtorEq, false_or] at hmem
  rcases hmem with h | h | h
  · cases h
    cases htask
  · cases h
    cases htask
  · cases h
    exact absurd hunchecked Bool.false_ne_true

end Mistle
