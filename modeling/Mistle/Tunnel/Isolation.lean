import Mistle.Tunnel.Serving

/-!
# Messages that Stay with Their Stream

A control message or a data frame of the gateway names one stream. Whatever the router
makes of it, the entries of all other streams stay as they are, and no frame is written
that bears another stream, but for log lines. The exception is a message that asks for a
snapshot of the processes: all process streams are sent it, each on its own credit.

The loop goes on after the message where its handler finds what it needs: room in the
window, a task that still listens, bytes that are a text, a file system that answers.

## Main definitions

* `TunnelSessionEvent.Names`: The stream that an event is about.
* `AsksForSnapshot`: The event has a snapshot sent to all process streams.
* `EventAdmissible`: The handler finds what it needs.
* `StaysWith`: Other streams are left alone, and nothing is said on them.

## Theorems

* `handleBootstrapText_of_stream`: A stream control message passes the other parsers.
* `handleTunnelSessionEvent_isolated`: What an event may touch.
* `handleTunnelSessionEvent_goes_on`: When the loop goes on.
* `stream_events_stay`: Both, in every state.
* `stream_events_stray`: A snapshot goes to another stream, and a session ends.
-/

namespace Mistle

open Handler

/-- The stream that a message of the gateway or an event of a task is about. -/
def TunnelSessionEvent.Names (serde : SerdeJson) (s : StreamId) : TunnelSessionEvent → Prop
  | .bootstrapMessage (.text payload) =>
    ∃ message, parseStreamControlMessage serde payload = .ok message ∧ message.streamId = s
  | .bootstrapMessage (.binary payload) =>
    ∃ frame, decodeStreamDataFrame payload = .ok frame ∧ frame.streamId = s
  | event => event.taskStream? = some s

section

variable (context : TunnelSessionLoopContext) (world : World)

/-- A process stream is opened, or the gateway asks on one for a new snapshot. -/
def AsksForSnapshot (st : TunnelSessionMutableState) : TunnelSessionEvent → Prop
  | .bootstrapMessage (.text payload) =>
    ∃ message, parseStreamControlMessage context.serde payload = .ok (.openProcesses message)
  | .bootstrapMessage (.binary payload) =>
    ∃ frame, decodeStreamDataFrame payload = .ok frame ∧
      st.processStreams.sendWindows.contains frame.streamId = true ∧
      frame.AsksForRefresh context.serde
  | _ => False

/-- What an event needs in order not to fail the session. -/
def EventAdmissible (st : TunnelSessionMutableState) : TunnelSessionEvent → Prop
  | .bootstrapMessage (.text payload) =>
    ∀ message, parseStreamControlMessage context.serde payload = .ok message →
      ControlAdmissible world st message
  | .bootstrapMessage (.binary payload) =>
    ∀ frame, decodeStreamDataFrame payload = .ok frame → FrameAdmissible world st frame
  | event => event.taskStream? ≠ some 0 ∧ TaskAdmissible world st event

/-- The streams that an event about `s` may touch. -/
def isolationScope (event : TunnelSessionEvent) (s : StreamId) (st : TunnelSessionMutableState) :
    Scope :=
  .ofStreams fun t => t = s ∨ AsksForSnapshot context st event ∧ (st.entries t).processStream.isSome

/-- Other streams keep their entries and no frame bears them, but for process streams when
    a snapshot is asked for. -/
structure StaysWith (event : TunnelSessionEvent) (s : StreamId) (st : TunnelSessionMutableState) :
    Prop where
  elsewhere : ∀ t, t ≠ s →
    ¬ (AsksForSnapshot context st event ∧ (st.entries t).processStream.isSome) →
    (handleTunnelSessionEvent context world event st).state.entries t = st.entries t
  speaks : ∀ o ∈ (handleTunnelSessionEvent context world event st).emitted,
    o.IsTelemetryLine ∨ ∀ t, o.streamId? = some t →
      t = s ∨ AsksForSnapshot context st event ∧ (st.entries t).processStream.isSome

/-! ### Texts -/

/-- A step that passes on the turn leaves it to the next. -/
theorem firstOf_passed {step : Session Bool} {rest : List (Session Bool)}
    {st : TunnelSessionMutableState} (h : step st = ⟨.ok false, st, []⟩) :
    firstOf (step :: rest) st = firstOf rest st := by
  rw [firstOf, bind_ok h, if_neg Bool.false_ne_true, List.nil_append]

/-- A text that is a stream control message has one of their types. -/
theorem streamMessageType {serde : SerdeJson} {payload : String} {message : StreamControlMessage}
    (h : parseStreamControlMessage serde payload = .ok message) :
    ∃ value messageType, serde.fromStr payload = .ok value ∧
      messageTypeOf value = some messageType ∧
      messageType ∈ ["stream.open", "stream.signal", "stream.close", "stream.window"] := by
  unfold parseStreamControlMessage at h
  cases hvalue : serde.fromStr payload with
  | error error => simp only [fromStr, hvalue, bind, Except.bind, reduceCtorEq] at h
  | ok value =>
      cases htype : messageTypeOf value with
      | none =>
          simp only [fromStr, hvalue, bind, Except.bind, requireMessageType, htype,
            reduceCtorEq] at h
      | some messageType =>
          simp only [fromStr, hvalue, bind, Except.bind, requireMessageType, htype] at h
          refine ⟨value, messageType, rfl, htype, ?_⟩
          split at h
          · exact .head _
          · exact .tail _ (.head _)
          · exact .tail _ (.tail _ (.head _))
          · exact .tail _ (.tail _ (.tail _ (.head _)))
          · simp only [reduceCtorEq] at h

/-- No other parser claims a stream control message. -/
theorem textHandlers_pass {payload : String} {message : StreamControlMessage}
    (h : parseStreamControlMessage context.serde payload = .ok message)
    (st : TunnelSessionMutableState) :
    firstOf (textHandlers context world payload) st
      = firstOf [handleStreamControlText context world payload] st := by
  rcases streamMessageType h with ⟨value, messageType, hvalue, htype, hmem⟩
  have htypes : messageType = "stream.open" ∨ messageType = "stream.signal" ∨
      messageType = "stream.close" ∨ messageType = "stream.window" := by
    simpa only [List.mem_cons, List.not_mem_nil, or_false] using hmem
  have htelemetry : handleTelemetryText context world payload st = ⟨.ok false, st, []⟩ := by
    have hpasses : st.telemetryRelay.handleControlMessage context.serde payload
        = (.ok none, st.telemetryRelay) := by
      unfold TelemetryRelay.handleControlMessage parseBootstrapTelemetryControlMessage
      simp only [fromStr, hvalue, bind, Except.bind, requireMessageType, htype]
      rcases htypes with rfl | rfl | rfl | rfl <;> rfl
    unfold handleTelemetryText
    rw [bind_ok (get_apply st), hpasses]
    rfl
  have hoffer : ∀ {α : Type} (parsed : Except TunnelProtocolError (Option α))
      (handle : α → Session Unit), parsed = .ok none →
      offerText context world parsed handle st = ⟨.ok false, st, []⟩ := by
    intro α parsed handle hparsed
    rw [hparsed]
    rfl
  have hoperation : handleOperationControlMessage context.serde payload st
      = ⟨.ok false, st, []⟩ := by
    have hforeign : messageType.startsWith "operation." = false := by
      have hall : ∀ t ∈ ["stream.open", "stream.signal", "stream.close", "stream.window"],
          t.startsWith "operation." = false := by decide +kernel
      exact hall messageType hmem
    have hpasses : handleOperationValue value = pure false := by
      unfold handleOperationValue
      rw [htype]
      rcases htypes with rfl | rfl | rfl | rfl <;> exact congrArg pure hforeign
    unfold handleOperationControlMessage
    rw [hvalue]
    exact congrFun hpasses st
  have hports : parsePortsControlMessage context.serde payload = .ok none := by
    unfold parsePortsControlMessage
    simp only [fromStr, hvalue, bind, Except.bind, htype]
    rcases htypes with rfl | rfl | rfl | rfl <;> rfl
  have htransport : parsePortsTransportMessage context.serde payload = .ok none := by
    unfold parsePortsTransportMessage
    simp only [fromStr, hvalue, bind, Except.bind, htype]
    rcases htypes with rfl | rfl | rfl | rfl <;> rfl
  have hsigning : parseSigningControlMessage context.serde payload = .ok none := by
    unfold parseSigningControlMessage
    simp only [fromStr, hvalue, bind, Except.bind, htype]
    rcases htypes with rfl | rfl | rfl | rfl <;> rfl
  have hegress : parseEgressTokenControlMessage context.serde payload = .ok none := by
    unfold parseEgressTokenControlMessage
    simp only [fromStr, hvalue, bind, Except.bind, htype]
    rcases htypes with rfl | rfl | rfl | rfl <;> rfl
  have hpty : parsePtySessionControlMessage context.serde payload = .ok none := by
    unfold parsePtySessionControlMessage
    simp only [fromStr, hvalue, bind, Except.bind, htype]
    rcases htypes with rfl | rfl | rfl | rfl <;> rfl
  unfold textHandlers
  rw [firstOf_passed htelemetry, firstOf_passed (hoffer _ _ hports),
    firstOf_passed (hoffer _ _ htransport), firstOf_passed (hoffer _ _ hsigning),
    firstOf_passed (hoffer _ _ hegress), firstOf_passed hoperation,
    firstOf_passed (hoffer _ _ hpty)]

/-- A stream control message passes the other parsers, and its handler is called. -/
theorem handleBootstrapText_of_stream {payload : String} {message : StreamControlMessage}
    (h : parseStreamControlMessage context.serde payload = .ok message)
    (st : TunnelSessionMutableState) :
    handleBootstrapText context world payload st
      = handleTunnelControlMessage context world message st := by
  have hlast : handleStreamControlText context world payload = do
      handleTunnelControlMessage context world message
      return true := by
    unfold handleStreamControlText
    rw [h]
  unfold handleBootstrapText
  rw [bind_apply, textHandlers_pass context world h, hlast]
  unfold firstOf
  rw [bind_apply, bind_apply]
  rcases handleTunnelControlMessage context world message st with ⟨result, st', out⟩
  cases result with
  | error error => rfl
  | ok => simp only [pure_apply, List.append_nil, if_true]

/-! ### Events -/

/-- What an event about a stream may touch. -/
theorem handleTunnelSessionEvent_isolated {event : TunnelSessionEvent} {s : StreamId}
    (hnames : event.Names context.serde s) (st : TunnelSessionMutableState) :
    FollowsFrom (footprint (isolationScope context event s st))
      (handleTunnelSessionEvent context world event) st := by
  -- An event of a task touches its stream and nothing else.
  have htask : (∀ t, (eventScope context.serde event st).streams t → t = s) →
      ¬ (eventScope context.serde event st).operation →
      ¬ (eventScope context.serde event st).telemetry →
      FollowsFrom (footprint (isolationScope context event s st))
        (handleTunnelSessionEvent context world event) st := fun hstreams hoperation htelemetry =>
    (handleTunnelSessionEvent_footprint context world event st).widen
      (fun t ht => .inl (hstreams t ht)) (fun h => absurd h hoperation)
      fun h => absurd h htelemetry
  cases event with
  | bootstrapMessage message =>
      cases message with
      | text payload =>
          rcases hnames with ⟨message, hmessage, hs⟩
          have hcontrol : FollowsFrom
              (footprint (isolationScope context (.bootstrapMessage (.text payload)) s st))
              (handleTunnelControlMessage context world message) st := by
            refine handleTunnelControlMessage_footprint context world (.inl hs) ?_
            intro m hm t ht
            rw [hm] at hmessage
            exact .inr ⟨⟨m, hmessage⟩, ht⟩
          refine continueWith_footprint ?_
          show Footprint _ _ _ _
          rw [handleBootstrapText_of_stream context world hmessage]
          exact hcontrol
      | binary payload =>
          rcases hnames with ⟨frame, hframe, hs⟩
          refine continueWith_footprint ?_
          unfold handleBootstrapBinary
          rw [hframe]
          exact handleTunnelBinaryFrame_footprint context world (.inl hs)
            fun hprocess hrefresh t ht => .inr ⟨⟨frame, hframe, hprocess, hrefresh⟩, ht⟩
      | ping payload => exact nomatch hnames
      | pong payload => exact nomatch hnames
      | close => exact nomatch hnames
      | frame => exact nomatch hnames
  | bootstrapClosed restart reason => exact nomatch hnames
  | wake => exact nomatch hnames
  | agentDialed streamId result =>
      exact htask (fun t ht => Option.some.inj (ht.symm.trans hnames)) id id
  | agentMessage streamId message =>
      exact htask (fun t ht => Option.some.inj (ht.symm.trans hnames)) id id
  | agentWriteCompleted streamId bytes =>
      exact htask (fun t ht => Option.some.inj (ht.symm.trans hnames)) id id
  | portAccessTransport event =>
      exact htask (fun t ht => Option.some.inj (ht.symm.trans hnames)) id id
  | agentClosed streamId reason =>
      exact htask (fun t ht => Option.some.inj (ht.symm.trans hnames)) id id
  | execCompleted streamId result =>
      exact htask (fun t ht => Option.some.inj (ht.symm.trans hnames)) id id
  | fileSearch event =>
      exact htask (fun t ht => Option.some.inj (ht.symm.trans hnames)) id id

/-- Where an event about a stream finds what it needs, the loop goes on. -/
theorem handleTunnelSessionEvent_goes_on {event : TunnelSessionEvent} {s : StreamId}
    {st : TunnelSessionMutableState} (hopen : st.tunnelWriter = .open)
    (hnames : event.Names context.serde s) (hadmissible : EventAdmissible context world st event) :
    Returns (handleTunnelSessionEvent context world event) st fun flow st' _ =>
      flow = .continue ∧ st'.tunnelWriter = .open := by
  have htask : event.taskStream? = some s → event.taskStream? ≠ some 0 →
      TaskAdmissible world st event →
      Returns (handleTunnelSessionEvent context world event) st fun flow st' _ =>
        flow = .continue ∧ st'.tunnelWriter = .open := fun hs hzero h =>
    handleTaskEvent_completes context world hopen hs (fun hs' => hzero (hs' ▸ hs)) h
  cases event with
  | bootstrapMessage message =>
      cases message with
      | text payload =>
          rcases hnames with ⟨message, hmessage, _⟩
          refine continueWith_completes ?_
          rcases handleTunnelControlMessage_completes context world hopen
            (hadmissible message hmessage) with ⟨_, st', out, houtcome, hst'⟩
          exact ⟨(), st', out, (handleBootstrapText_of_stream context world hmessage st).trans
            houtcome, hst'⟩
      | binary payload =>
          rcases hnames with ⟨frame, hframe, _⟩
          refine continueWith_completes ?_
          unfold handleBootstrapBinary
          rw [hframe]
          exact handleTunnelBinaryFrame_completes context world hopen (hadmissible frame hframe)
      | ping payload => exact nomatch hnames
      | pong payload => exact nomatch hnames
      | close => exact nomatch hnames
      | frame => exact nomatch hnames
  | bootstrapClosed restart reason => exact nomatch hnames
  | wake => exact nomatch hnames
  | agentDialed streamId result => exact htask hnames hadmissible.1 hadmissible.2
  | agentMessage streamId message => exact htask hnames hadmissible.1 hadmissible.2
  | agentWriteCompleted streamId bytes => exact htask hnames hadmissible.1 hadmissible.2
  | portAccessTransport event => exact htask hnames hadmissible.1 hadmissible.2
  | agentClosed streamId reason => exact htask hnames hadmissible.1 hadmissible.2
  | execCompleted streamId result => exact htask hnames hadmissible.1 hadmissible.2
  | fileSearch event => exact htask hnames hadmissible.1 hadmissible.2

end

/-- In every state, an event about a stream leaves all other streams alone, and where it
    finds what it needs the loop goes on. -/
theorem stream_events_stay (context : TunnelSessionLoopContext) (world : World)
    (st : TunnelSessionMutableState) (event : TunnelSessionEvent) (s : StreamId)
    (hopen : st.tunnelWriter = .open) (hnames : event.Names context.serde s) :
    StaysWith context world event s st ∧
      (EventAdmissible context world st event →
        (handleTunnelSessionEvent context world event st).result = .ok .continue) := by
  have hfootprint := handleTunnelSessionEvent_isolated context world hnames st
  refine ⟨⟨fun t hts hasks => hfootprint.elsewhere t fun ht => ht.elim hts hasks,
    fun o ho => ?_⟩, fun hadmissible => ?_⟩
  · rcases hfootprint.speaks o ho with hbears | ⟨hline, _⟩
    · exact .inr hbears
    · exact .inl hline
  · rcases handleTunnelSessionEvent_goes_on context world hopen hnames hadmissible with
      ⟨flow, st', out, houtcome, hflow, _⟩
    rw [houtcome, hflow]

/-- A process stream is opened, and the loop goes on. -/
theorem stream_events_stay_open :
    (handleTunnelSessionEvent (.ofDocuments [openProcessesDocument]) .idle
      (.bootstrapMessage (.text openProcessesDocument.1)) (.fresh .open none [])).result
        = .ok .continue := by
  have hnames : (TunnelSessionEvent.bootstrapMessage (.text openProcessesDocument.1)).Names
      (SerdeJson.ofDocuments [openProcessesDocument]) 7 := ⟨_, rfl, rfl⟩
  refine (stream_events_stay (.ofDocuments [openProcessesDocument]) .idle (.fresh .open none [])
    _ 7 rfl hnames).2 fun message hmessage => ?_
  have hopens : parseStreamControlMessage (SerdeJson.ofDocuments [openProcessesDocument])
      openProcessesDocument.1 = .ok (.openProcesses ⟨"stream.open", 7, ⟨"processes"⟩⟩) := rfl
  rw [← Except.ok.inj (hopens.symm.trans hmessage)]
  trivial

/-- Two process streams and an agent are opened. -/
def isolationDocuments : List (String × Json String) :=
  [openProcessesDocument,
    ("\x7b\"type\":\"stream.open\",\"streamId\":9,\"channel\":\x7b\"kind\":\"processes\"\x7d\x7d",
      .obj [("type", .str "stream.open"), ("streamId", .int 9),
        ("channel", .obj [("kind", .str "processes")])]),
    ("\x7b\"type\":\"stream.open\",\"streamId\":5,\"channel\":\x7b\"kind\":\"agent\"\x7d\x7d",
      .obj [("type", .str "stream.open"), ("streamId", .int 5),
        ("channel", .obj [("kind", .str "agent")])])]

/-- A text of the gateway, by its place among the documents. -/
def isolationText (n : Nat) : TunnelSessionEvent :=
  .bootstrapMessage (.text (isolationDocuments[n]?.map Prod.fst).get!)

/-- A text for the agent of stream 5. -/
def agentFrame : TunnelSessionEvent :=
  .bootstrapMessage (.binary [dataFrameKind, 0, 0, 0, 5, payloadKindWebsocketText, 97])

/-- Opening process stream 9 spends the credit of process stream 7, and a frame for an
    agent whose task is gone ends the session. -/
theorem stream_events_stray :
    (∃ trace st, ConnectionRun (.ofDocuments isolationDocuments) trace (some st) ∧
      st.tunnelWriter = .open ∧
      (isolationText 1).Names (SerdeJson.ofDocuments isolationDocuments) 9 ∧
      (handleTunnelSessionEvent (.ofDocuments isolationDocuments) .idle (isolationText 1)
        st).state.entries 7 ≠ st.entries 7) ∧
    ∃ trace st, ConnectionRun (.ofDocuments isolationDocuments) trace (some st) ∧
      st.tunnelWriter = .open ∧
      agentFrame.Names (SerdeJson.ofDocuments isolationDocuments) 5 ∧
      (handleTunnelSessionEvent (.ofDocuments isolationDocuments)
        { World.idle with agentListens := false } agentFrame st).result ≠ .ok .continue := by
  constructor
  · rcases exists_connectionRun (.ofDocuments isolationDocuments)
      [.connect .open none [] none, .item .idle (.event (isolationText 0))]
      (fun _ st => decide (st.tunnelWriter = .open) &&
        decide ((handleTunnelSessionEvent (.ofDocuments isolationDocuments) .idle
          (isolationText 1) st).state.entries 7 ≠ st.entries 7))
      (by decide +kernel) with ⟨trace, st, run, _, hchecked⟩
    rw [Bool.and_eq_true, decide_eq_true_eq, decide_eq_true_eq] at hchecked
    exact ⟨trace, st, run, hchecked.1, ⟨_, rfl, rfl⟩, hchecked.2⟩
  · rcases exists_connectionRun (.ofDocuments isolationDocuments)
      [.connect .open (some "ws://127.0.0.1:7000") [] none,
        .item .idle (.event (isolationText 2)), .item .idle (.event (.agentDialed 5 (.ok ())))]
      (fun _ st => decide (st.tunnelWriter = .open) &&
        (kept (handleTunnelSessionEvent (.ofDocuments isolationDocuments)
          { World.idle with agentListens := false } agentFrame st)).isNone)
      (by decide +kernel) with ⟨trace, st, run, _, hchecked⟩
    rw [Bool.and_eq_true, decide_eq_true_eq] at hchecked
    refine ⟨trace, st, run, hchecked.1, ⟨_, rfl, rfl⟩, fun hcontinue => ?_⟩
    unfold kept at hchecked
    rw [hcontinue] at hchecked
    exact absurd hchecked.2 Bool.false_ne_true

end Mistle
