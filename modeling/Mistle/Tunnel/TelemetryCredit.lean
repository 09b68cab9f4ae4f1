import Mistle.Gateway.TelemetrySession
import Mistle.Lib.CreditFlow

/-!
# Credit on the Telemetry Stream

The relay of `sandboxd` and the gateway's telemetry session joined by the two
directions of one tunnel connection, each a queue. A step enqueues a line,
delivers the head of a queue, settles an append at the gateway's sink, or ends
the connection; any order of steps is a run.

While the stream is open at both ends, the link is a `CreditFlow`: what the relay
may still send, what its data frames carry, what is granted on the way back and
what the gateway has consumed since its last grant. The initial window of
`telemetry.open.ok` is credit on its way back like any grant.

## Main definitions

* `TelemetryLink`: Both ends and what is between them.
* `TelemetryLink.step`: One step.
* `TelemetryLink.flow`: The credit view of a link with an open stream.
* `TelemetryLink.Accounted`: The invariant of a link.

## Theorems

* `accounted_step`: A step keeps the invariant.
* `telemetry_credit_conserved`: Credit is conserved in every run, the gateway
  never finds its window exhausted and the relay never refuses a grant.
-/

namespace Mistle

/-- Both ends of a telemetry stream and the queues between them.
    `pendingAppends` counts frames consumed but not yet settled at the sink. -/
structure TelemetryLink where
  relay : TelemetryRelay
  toGateway : List TelemetryRelayFrame
  toSandboxd : List BootstrapTelemetryControlMessage
  entry : IngressEntry
  pendingAppends : Nat

namespace TelemetryLink

inductive Input where
  | enqueue (line : List UInt8)
  | deliverToSandboxd
  | deliverToGateway (sinkFailure : Option SinkFailure)
  | settleAppend (failure : Option SinkFailure)
  | detach

/-- What an observer sees of a step. -/
inductive Event where
  | gatewaySent (message : BootstrapTelemetryControlMessage)
  | relayRefused (error : TelemetryRelayError)

/-- The signal a message names. -/
def signalNamed (name : String) : Option TelemetrySignal :=
  if name = "logs" then some .logs else if name = "traces" then some .traces else none

/-- What a frame of the relay is delivered as. -/
def deliveryOf : TelemetryRelayFrame → Option TelemetryDelivery
  | .text (.telemetryOpen streamId signal format) =>
    (signalNamed signal).map (.telemetryOpen streamId · format)
  | .text (.telemetryClose streamId) => some (.telemetryClose streamId)
  | .text _ => none
  | .binary frame => some (.telemetryData frame.streamId frame.payload)

/-- A connection that has just been attached. -/
def connect (relay : TelemetryRelay) : TelemetryLink :=
  { relay := relay.attachTunnelConnection.2
    toGateway := relay.attachTunnelConnection.1
    toSandboxd := []
    entry := none
    pendingAppends := 0 }

/-- Whether handling a delivery left an append to settle. -/
def consumed : TelemetryDelivery → List BootstrapTelemetryControlMessage → Nat
  | .telemetryData _ _, [] => 1
  | _, _ => 0

/-- One step; `none` if the input does not apply. After `detach` the session
    loop has returned, and its end takes no further input. -/
def step (link : TelemetryLink) : Input → Option (TelemetryLink × List Event)
  | .enqueue line =>
    if link.relay.state = .disconnected then none
    else match link.relay.enqueueLogLine line with
      | (.ok frames, relay) =>
        some ({ link with relay, toGateway := link.toGateway ++ frames }, [])
      | (.error error, relay) => some ({ link with relay }, [.relayRefused error])
  | .deliverToSandboxd =>
    if link.relay.state = .disconnected then none
    else match link.toSandboxd with
      | [] => none
      | message :: rest =>
        match link.relay.applyControl message with
        | (.ok frames, relay) =>
          some ({ link with
            relay
            toGateway := link.toGateway ++ frames.getD []
            toSandboxd := rest }, [])
        | (.error error, relay) =>
          some ({ link with relay, toSandboxd := rest }, [.relayRefused error])
  | .deliverToGateway sinkFailure =>
    match link.toGateway with
    | [] => none
    | frame :: rest =>
      match deliveryOf frame with
      | none => some ({ link with toGateway := rest }, [])
      | some delivery =>
        match handleDelivery link.entry sinkFailure delivery with
        | (responses, entry) =>
          some ({ link with
            toGateway := rest
            toSandboxd := link.toSandboxd ++ responses
            entry
            pendingAppends := link.pendingAppends + consumed delivery responses },
            responses.map .gatewaySent)
  | .settleAppend failure =>
    if link.pendingAppends = 0 then none
    else match Mistle.settleAppend link.entry sandboxTelemetryLogStreamId failure with
      | (responses, entry) =>
        some ({ link with
          toSandboxd := link.toSandboxd ++ responses
          entry
          pendingAppends := link.pendingAppends - 1 }, responses.map .gatewaySent)
  | .detach =>
    if link.relay.state = .disconnected then none
    else match link.relay.detachTunnelConnection with
      | (frames, relay) =>
        some ({ link with relay, toGateway := link.toGateway ++ frames }, [])

/-- The step as a relation. -/
def Steps (link : TelemetryLink) (input : Input) (events : List Event) (link' : TelemetryLink) :
    Prop :=
  link.step input = some (link', events)

/-! ### The credit view -/

/-- The gateway's record of the telemetry stream, while it is open there. -/
def stream? (link : TelemetryLink) : Option ActiveBootstrapTelemetryStream :=
  link.entry.bind fun session => session.streamsById[sandboxTelemetryLogStreamId]?

/-- Payload bytes of a data frame. -/
def payloadBytes : TelemetryRelayFrame → Option Nat
  | .binary frame => some frame.payload.length
  | .text _ => none

/-- Credit a message carries back to the relay. -/
def grantedBytes : BootstrapTelemetryControlMessage → Option Nat
  | .openOk message => some message.initialWindowBytes
  | .window message => some message.bytes
  | .openError _ => none
  | .reset _ => none

/-- The credit view of a link whose stream the gateway has consumed
    `unreturned` bytes of since its last grant. -/
def flow (link : TelemetryLink) (unreturned : Nat) : CreditFlow Nat :=
  { available := link.relay.sendWindow.availableBytes
    data := link.toGateway.filterMap payloadBytes
    grants := link.toSandboxd.filterMap grantedBytes
    unreturned }

/-! ### The invariant -/

/-- The frame that asks the gateway to open the stream. -/
def openFrame : TelemetryRelayFrame :=
  .text (.telemetryOpen sandboxTelemetryLogStreamId telemetryLogsSignal telemetryLogsFormat)

/-- The frame that tells the gateway the stream is over. -/
def closeFrame : TelemetryRelayFrame :=
  .text (.telemetryClose sandboxTelemetryLogStreamId)

/-- A frame the relay can have written. -/
def FromRelay (frame : TelemetryRelayFrame) : Prop :=
  frame = openFrame ∨ frame = closeFrame ∨ ∃ line, frame = .binary (telemetryFrame line)

/-- A message the gateway can have answered with: about this stream, opening it
    with the whole window, and never granting nothing. -/
def FromGateway : BootstrapTelemetryControlMessage → Prop
  | .openOk m =>
    m.streamId = sandboxTelemetryLogStreamId ∧ m.initialWindowBytes = defaultStreamWindowBytes
  | .window m => m.streamId = sandboxTelemetryLogStreamId ∧ 0 < m.bytes
  | .openError m => m.streamId = sandboxTelemetryLogStreamId
  | .reset m => m.streamId = sandboxTelemetryLogStreamId

/-- What holds of every reachable link. `opening` describes the link until the
    gateway has taken the opening frame, `live` the time the stream is open at
    the gateway; after that only `bound` still says something about credit. -/
structure Accounted (link : TelemetryLink) : Prop where
  frames : ∀ frame ∈ link.toGateway, FromRelay frame
  messages : ∀ message ∈ link.toSandboxd, FromGateway message
  session : ∀ session, link.entry = some session →
    session.initialWindowBytes = defaultStreamWindowBytes ∧
      session.windowGrantBatchBytes = telemetryWindowGrantBatchBytes
  once : openFrame ∉ link.toGateway.tail
  opening : openFrame ∈ link.toGateway →
    link.entry = none ∧ link.toSandboxd = [] ∧ link.pendingAppends = 0 ∧
      link.relay.state ≠ .open ∧ link.relay.sendWindow.availableBytes = 0 ∧
      link.toGateway.filterMap payloadBytes = []
  live : ∀ stream, link.stream? = some stream →
    stream.remainingWindowBytes + stream.consumedSinceLastWindowGrantBytes
        = defaultStreamWindowBytes ∧
      (link.toGateway.filterMap payloadBytes).sum + stream.consumedSinceLastWindowGrantBytes
        ≤ defaultStreamWindowBytes ∧
      (link.relay.state ≠ .disconnected →
        (link.flow stream.consumedSinceLastWindowGrantBytes).total = defaultStreamWindowBytes)
  bound : link.relay.state ≠ .disconnected →
    link.relay.sendWindow.availableBytes + (link.toSandboxd.filterMap grantedBytes).sum
      ≤ defaultStreamWindowBytes

theorem accounted_connect (relay : TelemetryRelay) : Accounted (connect relay) where
  frames := by
    intro frame hframe
    exact Or.inl (List.mem_singleton.mp hframe)
  messages := by
    intro message hmessage
    exact absurd hmessage List.not_mem_nil
  session := by
    intro session hsession
    exact absurd hsession (by simp only [connect, reduceCtorEq, not_false_eq_true])
  once := List.not_mem_nil
  opening := by
    intro _
    exact ⟨rfl, rfl, rfl, TelemetryRelayState.noConfusion, rfl, rfl⟩
  live := by
    intro stream hstream
    exact absurd hstream (by simp only [connect, stream?, Option.bind_none, reduceCtorEq,
      not_false_eq_true])
  bound := by
    intro _
    exact Nat.zero_le _

/-- The frames of flushed lines. -/
def lineFrames (sent : List (List UInt8)) : List TelemetryRelayFrame :=
  sent.map fun line => .binary (telemetryFrame line)

theorem payloads_lineFrames (sent : List (List UInt8)) :
    (lineFrames sent).filterMap payloadBytes = sent.map List.length := by
  induction sent with
  | nil => rfl
  | cons line rest ih =>
      rw [lineFrames, List.map_cons, List.filterMap_cons, List.map_cons]
      exact congrArg (line.length :: ·) ih

theorem openFrame_not_mem_lineFrames (sent : List (List UInt8)) :
    openFrame ∉ lineFrames sent := by
  intro hmem
  rcases List.mem_map.mp hmem with ⟨line, _, hline⟩
  exact absurd hline (by simp only [openFrame, reduceCtorEq, not_false_eq_true])

/-- Appending frames that do not open the stream appends them to the tail. -/
theorem openFrame_not_mem_tail {queue more : List TelemetryRelayFrame}
    (h : openFrame ∉ queue.tail) (hmore : openFrame ∉ more) : openFrame ∉ (queue ++ more).tail := by
  cases queue with
  | nil => exact fun hmem => hmore (List.mem_of_mem_tail hmem)
  | cons frame rest =>
      intro hmem
      rcases List.mem_append.mp hmem with hmem | hmem
      · exact h hmem
      · exact hmore hmem

/-- Flushing the relay moves credit from the window to the queue. -/
theorem accounted_flush {link : TelemetryLink} (h : Accounted link) :
    Accounted { link with
      relay := link.relay.flush.2
      toGateway := link.toGateway ++ link.relay.flush.1 } := by
  rcases link.relay.flush_split with ⟨sent, hframes, _, hcredit, hstate⟩
  have hsent : link.relay.flush.1 = lineFrames sent := hframes
  rw [hsent]
  constructor
  case frames =>
    intro frame hmem
    rcases List.mem_append.mp hmem with hmem | hmem
    · exact h.frames frame hmem
    · rcases List.mem_map.mp hmem with ⟨line, _, hline⟩
      exact Or.inr (Or.inr ⟨line, hline.symm⟩)
  case messages => exact h.messages
  case session => exact h.session
  case once => exact openFrame_not_mem_tail h.once (openFrame_not_mem_lineFrames sent)
  case opening =>
    intro hmem
    rcases List.mem_append.mp hmem with hmem | hmem
    · rcases h.opening hmem with ⟨hentry, hqueue, hpending, hclosed, havailable, hdata⟩
      -- A relay that is not open flushes nothing.
      have hflush := TelemetryRelay.flush_of_not_open hclosed
      have hnone : lineFrames sent = [] := by rw [← hsent, hflush]
      refine ⟨hentry, hqueue, hpending, ?_, ?_, ?_⟩
      · simpa only [hstate] using hclosed
      · simpa only [hflush] using havailable
      · simpa only [hnone, List.append_nil] using hdata
    · exact absurd hmem (openFrame_not_mem_lineFrames sent)
  case live =>
    intro stream hstream
    rcases h.live stream hstream with ⟨hwindow, hfits, htotal⟩
    by_cases hconnected : link.relay.state = .disconnected
    · have hclosed : link.relay.state ≠ .open := by rw [hconnected]; decide
      have hnone : lineFrames sent = [] := by
        rw [← hsent, TelemetryRelay.flush_of_not_open hclosed]
      refine ⟨hwindow, ?_, ?_⟩
      · simpa only [hnone, List.append_nil] using hfits
      · intro hne
        exact absurd (hstate.trans hconnected) hne
    · have hsum := htotal hconnected
      have hmove : CreditFlow.Reaches
          (link.flow stream.consumedSinceLastWindowGrantBytes)
          { link.flow stream.consumedSinceLastWindowGrantBytes with
            available := link.relay.flush.2.sendWindow.availableBytes
            data := link.toGateway.filterMap payloadBytes ++ sent.map List.length } := by
        have hsend := CreditFlow.Reaches.sendAll (sent.map List.length)
          link.relay.flush.2.sendWindow.availableBytes stream.consumedSinceLastWindowGrantBytes
          (link.toGateway.filterMap payloadBytes) (link.toSandboxd.filterMap grantedBytes)
        rw [hcredit] at hsend
        exact hsend
      have hafter := hmove.total_eq.trans hsum
      rw [← payloads_lineFrames, ← List.filterMap_append] at hafter
      refine ⟨hwindow, ?_, fun _ => hafter⟩
      simp only [CreditFlow.total, flow] at hafter
      simp only [] at hafter ⊢
      omega
  case bound =>
    intro hne
    have hbefore := h.bound (by simpa only [hstate] using hne)
    simp only [] at hbefore ⊢
    omega

/-! ### One step -/

/-- The invariant does not look at what the relay has buffered. -/
theorem accounted_buffer {link : TelemetryLink} (h : Accounted link) (lines : List (List UInt8))
    (bytes : Nat) :
    Accounted { link with
      relay := { link.relay with bufferedLines := lines, bufferedBytes := bytes } } :=
  ⟨h.frames, h.messages, h.session, h.once, h.opening, h.live, h.bound⟩

theorem accounted_enqueue {link link' : TelemetryLink} {line : List UInt8} {events : List Event}
    (h : Accounted link) (hstep : Steps link (.enqueue line) events link') : Accounted link' := by
  simp only [Steps, step, TelemetryRelay.enqueueLogLine] at hstep
  split at hstep
  · exact absurd hstep (by simp only [reduceCtorEq, not_false_eq_true])
  by_cases hfull : link.relay.bufferedBytes + line.length > maxStreamWindowBytes
  · simp only [if_pos hfull, Option.some.injEq, Prod.mk.injEq] at hstep
    rw [← hstep.1]
    exact h
  · simp only [if_neg hfull, Option.some.injEq, Prod.mk.injEq] at hstep
    rw [← hstep.1]
    exact accounted_flush (accounted_buffer h (link.relay.bufferedLines ++ [line])
      (link.relay.bufferedBytes + line.length))

/-- Taking a message that opens or credits the relay moves its credit from the
    queue to the window. -/
theorem accounted_credit {link : TelemetryLink} (h : Accounted link)
    {message : BootstrapTelemetryControlMessage} {rest : List BootstrapTelemetryControlMessage}
    (hqueue : link.toSandboxd = message :: rest) {bytes : Nat}
    (hbytes : grantedBytes message = some bytes) (hconnected : link.relay.state ≠ .disconnected)
    (relay : TelemetryRelay)
    (hwindow : relay.sendWindow.availableBytes = link.relay.sendWindow.availableBytes + bytes) :
    Accounted { link with relay, toSandboxd := rest } := by
  have hgrants : link.toSandboxd.filterMap grantedBytes = bytes :: rest.filterMap grantedBytes := by
    rw [hqueue, List.filterMap_cons, hbytes]
  have hopened : openFrame ∉ link.toGateway := by
    intro hmem
    rcases h.opening hmem with ⟨_, hempty, _⟩
    exact absurd (hqueue.symm.trans hempty) (List.cons_ne_nil _ _)
  constructor
  case frames => exact h.frames
  case messages =>
    intro m hm
    exact h.messages m (by rw [hqueue]; exact List.mem_cons_of_mem _ hm)
  case session => exact h.session
  case once => exact h.once
  case opening => exact fun hmem => absurd hmem hopened
  case live =>
    intro stream hstream
    rcases h.live stream hstream with ⟨hremaining, hfits, htotal⟩
    refine ⟨hremaining, hfits, fun _ => ?_⟩
    have hmove := CreditFlow.Step.credit bytes link.relay.sendWindow.availableBytes
      stream.consumedSinceLastWindowGrantBytes (link.toGateway.filterMap payloadBytes)
      (rest.filterMap grantedBytes)
    have hbefore := htotal hconnected
    rw [flow, hgrants] at hbefore
    have hsum := hmove.total_eq.trans hbefore
    rw [← hwindow] at hsum
    exact hsum
  case bound =>
    intro _
    have hbefore := h.bound hconnected
    rw [hgrants, List.sum_cons] at hbefore
    simp only [hwindow]
    omega

/-- Taking a message without credit only shortens the queue. -/
theorem accounted_drop {link : TelemetryLink} (h : Accounted link)
    {message : BootstrapTelemetryControlMessage} {rest : List BootstrapTelemetryControlMessage}
    (hqueue : link.toSandboxd = message :: rest) (hnone : grantedBytes message = none) :
    Accounted { link with toSandboxd := rest } := by
  have hgrants : link.toSandboxd.filterMap grantedBytes = rest.filterMap grantedBytes := by
    rw [hqueue, List.filterMap_cons, hnone]
  constructor
  case frames => exact h.frames
  case messages =>
    intro m hm
    exact h.messages m (by rw [hqueue]; exact List.mem_cons_of_mem _ hm)
  case session => exact h.session
  case once => exact h.once
  case opening =>
    intro hmem
    rcases h.opening hmem with ⟨_, hempty, _⟩
    exact absurd (hqueue.symm.trans hempty) (List.cons_ne_nil _ _)
  case live =>
    intro stream hstream
    have hbefore := h.live stream hstream
    simp only [flow, hgrants] at hbefore
    exact hbefore
  case bound =>
    intro hconnected
    have hbefore := h.bound hconnected
    rw [hgrants] at hbefore
    exact hbefore

/-- A grant on its way back always fits the relay's window. -/
theorem add_accepted {link : TelemetryLink} (h : Accounted link)
    {message : TelemetryWindow} {rest : List BootstrapTelemetryControlMessage}
    (hqueue : link.toSandboxd = .window message :: rest)
    (hconnected : link.relay.state ≠ .disconnected) :
    link.relay.sendWindow.add message.bytes
      = .ok ⟨link.relay.sendWindow.availableBytes + message.bytes⟩ := by
  have hfrom : FromGateway (.window message) :=
    h.messages _ (by rw [hqueue]; exact List.mem_cons_self ..)
  have hbound := h.bound hconnected
  rw [hqueue, List.filterMap_cons] at hbound
  simp only [grantedBytes, List.sum_cons] at hbound
  refine StreamSendWindow.add_of_le hfrom.2 ?_
  have hmax : maxStreamWindowBytes = defaultStreamWindowBytes := rfl
  omega

theorem accounted_deliverToSandboxd {link link' : TelemetryLink} {events : List Event}
    (h : Accounted link) (hstep : Steps link .deliverToSandboxd events link') :
    Accounted link' := by
  simp only [Steps, step] at hstep
  split at hstep
  · exact absurd hstep (by simp only [reduceCtorEq, not_false_eq_true])
  rename_i hconnected
  cases hqueue : link.toSandboxd with
  | nil =>
      rw [hqueue] at hstep
      exact absurd hstep (by simp only [reduceCtorEq, not_false_eq_true])
  | cons message rest =>
      have hfrom : FromGateway message :=
        h.messages _ (by rw [hqueue]; exact List.mem_cons_self ..)
      rw [hqueue] at hstep
      cases message with
      | openOk m =>
          simp only [TelemetryRelay.applyControl, hfrom.1, ne_eq, not_true_eq_false, if_false,
            Option.some.injEq, Prod.mk.injEq] at hstep
          have hbound := h.bound hconnected
          rw [hqueue, List.filterMap_cons] at hbound
          simp only [grantedBytes, List.sum_cons, hfrom.2] at hbound
          -- The whole window is on its way, so the relay holds no credit yet.
          have hempty : link.relay.sendWindow.availableBytes = 0 := by omega
          have hopen := accounted_credit h hqueue rfl hconnected
            { link.relay with sendWindow := ⟨m.initialWindowBytes⟩, state := .open }
            (by simp only [hempty, Nat.zero_add])
          rw [← hstep.1]
          exact accounted_flush hopen
      | window m =>
          have hadd := add_accepted h hqueue hconnected
          simp only [TelemetryRelay.applyControl, hfrom.1, ne_eq, not_true_eq_false, if_false, hadd,
            Option.some.injEq, Prod.mk.injEq] at hstep
          have hcredited := accounted_credit h hqueue rfl hconnected
            { link.relay with
              sendWindow := ⟨link.relay.sendWindow.availableBytes + m.bytes⟩ } rfl
          rw [← hstep.1]
          exact accounted_flush hcredited
      | openError m =>
          have hid : m.streamId = sandboxTelemetryLogStreamId := hfrom
          simp only [TelemetryRelay.applyControl, hid, ne_eq, not_true_eq_false, if_false,
            Option.some.injEq, Prod.mk.injEq] at hstep
          rw [← hstep.1]
          exact accounted_drop h hqueue rfl
      | reset m =>
          have hid : m.streamId = sandboxTelemetryLogStreamId := hfrom
          simp only [TelemetryRelay.applyControl, hid, ne_eq, not_true_eq_false, if_false,
            Option.some.injEq, Prod.mk.injEq] at hstep
          rw [← hstep.1]
          exact accounted_drop h hqueue rfl

/-! ### The gateway's side of a step -/

/-- The telemetry stream's record in an entry. -/
def entryStream (entry : IngressEntry) : Option ActiveBootstrapTelemetryStream :=
  entry.bind fun session => session.streamsById[sandboxTelemetryLogStreamId]?

theorem entryStream_deleteSessionIfEmpty (session : BootstrapTelemetrySession) :
    entryStream (deleteSessionIfEmpty session)
      = session.streamsById[sandboxTelemetryLogStreamId]? := by
  unfold deleteSessionIfEmpty BootstrapTelemetrySession.streamCount
  by_cases hempty : session.streamsById.size = 0
  · rw [if_pos hempty]
    have hnone : session.streamsById = ∅ := Std.ExtTreeMap.eq_empty_iff_size_eq_zero.mpr hempty
    rw [hnone, Std.ExtTreeMap.getElem?_empty]
    rfl
  · rw [if_neg hempty]
    rfl

theorem closeStream_getElem? (session : BootstrapTelemetrySession) :
    (session.closeStream sandboxTelemetryLogStreamId).streamsById[sandboxTelemetryLogStreamId]?
      = none := by
  unfold BootstrapTelemetrySession.closeStream
  cases hstream : session.streamsById[sandboxTelemetryLogStreamId]? with
  | none => exact hstream
  | some stream => exact Std.ExtTreeMap.getElem?_erase_self

/-- The gateway closes the stream: what it may still say carries no credit. -/
theorem accounted_close {link : TelemetryLink} (h : Accounted link)
    {queue : List TelemetryRelayFrame} {responses : List BootstrapTelemetryControlMessage}
    {entry : IngressEntry} (pendingAppends : Nat)
    (hqueue : ∀ frame ∈ queue, frame ∈ link.toGateway) (hopened : openFrame ∉ queue)
    (hfrom : ∀ message ∈ responses, FromGateway message)
    (hnone : responses.filterMap grantedBytes = []) (hclosed : entryStream entry = none)
    (hsession : ∀ session, entry = some session →
      session.initialWindowBytes = defaultStreamWindowBytes ∧
        session.windowGrantBatchBytes = telemetryWindowGrantBatchBytes) :
    Accounted { link with
      toGateway := queue
      toSandboxd := link.toSandboxd ++ responses
      entry
      pendingAppends } where
  frames := fun frame hmem => h.frames frame (hqueue frame hmem)
  messages := by
    intro message hmem
    rcases List.mem_append.mp hmem with hmem | hmem
    · exact h.messages message hmem
    · exact hfrom message hmem
  session := hsession
  once := fun hmem => hopened (List.mem_of_mem_tail hmem)
  opening := fun hmem => absurd hmem hopened
  live := by
    intro stream hstream
    have habsurd : entryStream entry = some stream := hstream
    exact absurd (hclosed.symm.trans habsurd) (by simp only [reduceCtorEq, not_false_eq_true])
  bound := by
    intro hconnected
    have hbefore := h.bound hconnected
    simp only [List.filterMap_append, hnone, List.append_nil]
    exact hbefore

theorem closeStream_session (session : BootstrapTelemetrySession) (streamId : StreamId) :
    (session.closeStream streamId).initialWindowBytes = session.initialWindowBytes ∧
      (session.closeStream streamId).windowGrantBatchBytes = session.windowGrantBatchBytes := by
  unfold BootstrapTelemetrySession.closeStream
  split
  · exact ⟨rfl, rfl⟩
  · exact ⟨rfl, rfl⟩

theorem deleteSessionIfEmpty_eq_some {session session' : BootstrapTelemetrySession}
    (h : deleteSessionIfEmpty session = some session') : session' = session := by
  unfold deleteSessionIfEmpty at h
  split at h
  · exact absurd h (by simp only [reduceCtorEq, not_false_eq_true])
  · exact (Option.some.inj h).symm

/-- Closing keeps the constants of a session. -/
theorem session_after_close {link : TelemetryLink} (h : Accounted link)
    {session : BootstrapTelemetrySession} (hentry : link.entry = some session) :
    ∀ session', deleteSessionIfEmpty (session.closeStream sandboxTelemetryLogStreamId)
        = some session' →
      session'.initialWindowBytes = defaultStreamWindowBytes ∧
        session'.windowGrantBatchBytes = telemetryWindowGrantBatchBytes := by
  intro session' hsome
  rw [deleteSessionIfEmpty_eq_some hsome, (closeStream_session session _).1,
    (closeStream_session session _).2]
  exact h.session session hentry

/-- The session of a connection whose telemetry stream has just been opened. -/
def openedSession : BootstrapTelemetrySession :=
  { BootstrapTelemetrySession.new with
    streamsById := (∅ : Std.ExtTreeMap StreamId ActiveBootstrapTelemetryStream).insert
      sandboxTelemetryLogStreamId
      { consumedSinceLastWindowGrantBytes := 0
        format := telemetryLogsFormat
        remainingWindowBytes := defaultStreamWindowBytes
        signal := .logs
        streamId := sandboxTelemetryLogStreamId }
    streamIdsBySignal := fun s => if s = .logs then some sandboxTelemetryLogStreamId else none }

theorem new_openStream :
    BootstrapTelemetrySession.new.openStream telemetryLogsFormat .logs sandboxTelemetryLogStreamId
      = .ok openedSession := by
  have hformat : isSupportedTelemetryStream telemetryLogsFormat .logs = true := by decide
  unfold BootstrapTelemetrySession.openStream
  rw [hformat]
  simp only [BootstrapTelemetrySession.new, Std.ExtTreeMap.getElem?_empty, Bool.not_true,
    Bool.false_eq_true, if_false, Option.isSome_none]
  rfl

/-- The opening frame arrives: the stream opens with the whole window, and the
    answer carries it as credit. -/
theorem accounted_open {link : TelemetryLink} (h : Accounted link)
    {rest : List TelemetryRelayFrame} (hqueue : link.toGateway = openFrame :: rest) :
    Accounted { link with
      toGateway := rest
      toSandboxd := link.toSandboxd ++
        [createTelemetryOpenOk defaultStreamWindowBytes sandboxTelemetryLogStreamId]
      entry := some openedSession
      pendingAppends := link.pendingAppends } := by
  have hnot : openFrame ∉ rest := by
    have honce := h.once
    rwa [hqueue] at honce
  rcases h.opening (by rw [hqueue]; exact List.mem_cons_self ..) with
    ⟨_, hsandboxd, _, _, havailable, hdata⟩
  have hempty : rest.filterMap payloadBytes = [] := by
    rw [hqueue, List.filterMap_cons] at hdata
    exact hdata
  constructor
  case frames =>
    intro frame hmem
    exact h.frames frame (by rw [hqueue]; exact List.mem_cons_of_mem _ hmem)
  case messages =>
    intro message hmem
    rw [hsandboxd, List.nil_append, List.mem_singleton] at hmem
    rw [hmem]
    exact ⟨rfl, rfl⟩
  case session =>
    intro session hsession
    rw [← Option.some.inj hsession]
    exact ⟨rfl, rfl⟩
  case once => exact fun hmem => hnot (List.mem_of_mem_tail hmem)
  case opening => exact fun hmem => absurd hmem hnot
  case live =>
    intro stream hstream
    simp only [stream?, Option.bind_some, openedSession, Std.ExtTreeMap.getElem?_insert_self,
      Option.some.injEq] at hstream
    rw [← hstream]
    refine ⟨rfl, ?_, fun _ => ?_⟩
    · simp only [hempty, List.sum_nil, Nat.zero_add, Nat.zero_le]
    · simp only [flow, CreditFlow.total, havailable, hempty, hsandboxd, createTelemetryOpenOk,
        grantedBytes, List.nil_append, List.filterMap_cons, List.filterMap_nil, List.sum_nil,
        List.sum_cons, Nat.zero_add, Nat.add_zero]
  case bound =>
    intro _
    simp only [havailable, hsandboxd, createTelemetryOpenOk, grantedBytes, List.nil_append,
      List.filterMap_cons, List.filterMap_nil, List.sum_nil, List.sum_cons, Nat.zero_add,
      Nat.add_zero, Nat.le_refl]

/-- A data frame arrives on the open stream: its bytes fit the window, and they
    move from the queue to what the gateway has yet to return. -/
theorem consumeWindow_accepted {link : TelemetryLink} (h : Accounted link)
    {line : List UInt8} {rest : List TelemetryRelayFrame}
    (hqueue : link.toGateway = .binary (telemetryFrame line) :: rest)
    {stream : ActiveBootstrapTelemetryStream} (hstream : link.stream? = some stream) :
    line.length ≤ stream.remainingWindowBytes := by
  rcases h.live stream hstream with ⟨hremaining, hfits, _⟩
  rw [hqueue, List.filterMap_cons] at hfits
  simp only [payloadBytes, telemetryFrame, List.sum_cons] at hfits
  omega

theorem accounted_consume {link : TelemetryLink} (h : Accounted link)
    {line : List UInt8} {rest : List TelemetryRelayFrame}
    (hqueue : link.toGateway = .binary (telemetryFrame line) :: rest)
    {session : BootstrapTelemetrySession} (hentry : link.entry = some session)
    {stream : ActiveBootstrapTelemetryStream}
    (hstream : session.streamsById[sandboxTelemetryLogStreamId]? = some stream)
    (pendingAppends : Nat) :
    Accounted { link with
      toGateway := rest
      toSandboxd := link.toSandboxd ++ []
      entry := some { session with
        streamsById := session.streamsById.insert sandboxTelemetryLogStreamId { stream with
          remainingWindowBytes := stream.remainingWindowBytes - line.length
          consumedSinceLastWindowGrantBytes :=
            stream.consumedSinceLastWindowGrantBytes + line.length } }
      pendingAppends } := by
  have hfound : link.stream? = some stream := by
    rw [stream?, hentry]
    exact hstream
  rcases h.live stream hfound with ⟨hremaining, hfits, htotal⟩
  have haccepted := consumeWindow_accepted h hqueue hfound
  have hnot : openFrame ∉ link.toGateway := by
    intro hmem
    rcases h.opening hmem with ⟨hnone, _⟩
    exact absurd (hentry.symm.trans hnone) (by simp only [reduceCtorEq, not_false_eq_true])
  have hdata : link.toGateway.filterMap payloadBytes
      = line.length :: rest.filterMap payloadBytes := by
    rw [hqueue, List.filterMap_cons]
    rfl
  rw [List.append_nil]
  constructor
  case frames =>
    intro frame hmem
    exact h.frames frame (by rw [hqueue]; exact List.mem_cons_of_mem _ hmem)
  case messages => exact h.messages
  case session =>
    intro session' hsession
    rw [← Option.some.inj hsession]
    exact h.session session hentry
  case once =>
    intro hmem
    exact hnot (by rw [hqueue]; exact List.mem_cons_of_mem _ (List.mem_of_mem_tail hmem))
  case opening =>
    intro hmem
    exact absurd (by rw [hqueue]; exact List.mem_cons_of_mem _ hmem) hnot
  case live =>
    intro stream' hstream'
    simp only [stream?, Option.bind_some, Std.ExtTreeMap.getElem?_insert_self,
      Option.some.injEq] at hstream'
    rw [← hstream']
    rw [hdata, List.sum_cons] at hfits
    refine ⟨by simp only []; omega, by simp only []; omega, fun hconnected => ?_⟩
    have hbefore := htotal hconnected
    rw [flow, hdata] at hbefore
    exact (CreditFlow.Step.receive line.length _ _ _ _).total_eq.trans hbefore
  case bound => exact h.bound

/-- An append settles and a batch is granted back: its bytes move from what the
    gateway has yet to return onto the queue. -/
theorem accounted_grant {link : TelemetryLink} (h : Accounted link)
    (hpending : link.pendingAppends ≠ 0) {session : BootstrapTelemetrySession}
    (hentry : link.entry = some session) {stream : ActiveBootstrapTelemetryStream}
    (hstream : session.streamsById[sandboxTelemetryLogStreamId]? = some stream)
    (hpositive : 0 < stream.consumedSinceLastWindowGrantBytes) :
    Accounted { link with
      toSandboxd := link.toSandboxd ++
        [createTelemetryWindow stream.consumedSinceLastWindowGrantBytes
          sandboxTelemetryLogStreamId]
      entry := some { session with
        streamsById := session.streamsById.insert sandboxTelemetryLogStreamId { stream with
          consumedSinceLastWindowGrantBytes := 0
          remainingWindowBytes :=
            stream.remainingWindowBytes + stream.consumedSinceLastWindowGrantBytes } }
      pendingAppends := link.pendingAppends - 1 } := by
  have hfound : link.stream? = some stream := by
    rw [stream?, hentry]
    exact hstream
  rcases h.live stream hfound with ⟨hremaining, hfits, htotal⟩
  have hnot : openFrame ∉ link.toGateway := by
    intro hmem
    rcases h.opening hmem with ⟨_, _, hzero, _⟩
    exact hpending hzero
  have hgrants : (link.toSandboxd ++ [createTelemetryWindow
      stream.consumedSinceLastWindowGrantBytes sandboxTelemetryLogStreamId]).filterMap grantedBytes
      = link.toSandboxd.filterMap grantedBytes ++ [stream.consumedSinceLastWindowGrantBytes] := by
    rw [List.filterMap_append]
    rfl
  have hmove (hconnected : link.relay.state ≠ .disconnected) :
      (CreditFlow.mk link.relay.sendWindow.availableBytes (link.toGateway.filterMap payloadBytes)
        (link.toSandboxd.filterMap grantedBytes ++ [stream.consumedSinceLastWindowGrantBytes])
        0).total = defaultStreamWindowBytes := by
    have hbefore := htotal hconnected
    rw [flow, ← Nat.zero_add stream.consumedSinceLastWindowGrantBytes] at hbefore
    exact (CreditFlow.Step.grant stream.consumedSinceLastWindowGrantBytes _ 0 _ _).total_eq.trans
      hbefore
  constructor
  case frames => exact h.frames
  case messages =>
    intro message hmem
    rcases List.mem_append.mp hmem with hmem | hmem
    · exact h.messages message hmem
    · rw [List.mem_singleton.mp hmem]
      exact ⟨rfl, hpositive⟩
  case session =>
    intro session' hsession
    rw [← Option.some.inj hsession]
    exact h.session session hentry
  case once => exact fun hmem => hnot (List.mem_of_mem_tail hmem)
  case opening => exact fun hmem => absurd hmem hnot
  case live =>
    intro stream' hstream'
    simp only [stream?, Option.bind_some, Std.ExtTreeMap.getElem?_insert_self,
      Option.some.injEq] at hstream'
    rw [← hstream']
    refine ⟨by simp only []; omega, by simp only []; omega, fun hconnected => ?_⟩
    rw [flow, hgrants]
    exact hmove hconnected
  case bound =>
    intro hconnected
    have hsum := hmove hconnected
    simp only [CreditFlow.total] at hsum
    simp only [hgrants]
    omega

theorem accounted_deliverToGateway {link link' : TelemetryLink}
    {sinkFailure : Option SinkFailure} {events : List Event} (h : Accounted link)
    (hstep : Steps link (.deliverToGateway sinkFailure) events link') : Accounted link' := by
  simp only [Steps, step] at hstep
  cases hqueue : link.toGateway with
  | nil =>
      rw [hqueue] at hstep
      exact absurd hstep (by simp only [reduceCtorEq, not_false_eq_true])
  | cons frame rest =>
      have htail : ∀ f ∈ rest, f ∈ link.toGateway := by
        intro f hf
        rw [hqueue]
        exact List.mem_cons_of_mem _ hf
      have hrest : openFrame ∉ rest := by
        have honce := h.once
        rwa [hqueue] at honce
      rw [hqueue] at hstep
      rcases h.frames frame (by rw [hqueue]; exact List.mem_cons_self ..) with
        hframe | hframe | ⟨line, hframe⟩
      · -- The opening frame: nothing has happened at the gateway yet.
        rcases h.opening (by rw [hqueue, hframe]; exact List.mem_cons_self ..) with
          ⟨hentry, _⟩
        rw [hframe] at hstep hqueue
        simp only [openFrame, deliveryOf, signalNamed, telemetryLogsSignal, if_true,
          Option.map_some, handleDelivery, hentry, Option.getD_none, new_openStream,
          Option.isSome_none, Bool.false_eq_true, if_false] at hstep
        cases sinkFailure with
        | none =>
            simp only [Option.some.injEq, Prod.mk.injEq] at hstep
            rw [← hstep.1]
            exact accounted_open h hqueue
        | some failure =>
            simp only [Option.some.injEq, Prod.mk.injEq] at hstep
            rw [← hstep.1]
            refine accounted_close h _ htail hrest ?_ rfl rfl ?_
            · intro message hmem
              rw [List.mem_singleton.mp hmem]
              rfl
            · intro session hsession
              exact absurd hsession (by simp only [reduceCtorEq, not_false_eq_true])
      · -- The closing frame.
        rw [hframe] at hstep
        simp only [closeFrame, deliveryOf, handleDelivery] at hstep
        cases hentry : link.entry with
        | none =>
            rw [hentry] at hstep
            simp only [Option.some.injEq, Prod.mk.injEq] at hstep
            rw [← hstep.1]
            refine accounted_close h _ htail hrest (fun _ hmem => absurd hmem List.not_mem_nil)
              rfl rfl ?_
            intro session hsession
            exact absurd hsession (by simp only [reduceCtorEq, not_false_eq_true])
        | some session =>
            have hclosed : entryStream (deleteSessionIfEmpty
                (session.closeStream sandboxTelemetryLogStreamId)) = none := by
              rw [entryStream_deleteSessionIfEmpty, closeStream_getElem?]
            rw [hentry] at hstep
            rcases hfound : session.streamsById[sandboxTelemetryLogStreamId]? with _ | stream
            · simp only [hfound, Option.some.injEq, Prod.mk.injEq] at hstep
              rw [← hstep.1]
              exact accounted_close h _ htail hrest
                (fun _ hmem => absurd hmem List.not_mem_nil) rfl hclosed
                (session_after_close h hentry)
            · rcases sinkFailure with _ | ⟨code, message⟩
              · simp only [hfound, Option.some.injEq, Prod.mk.injEq] at hstep
                rw [← hstep.1]
                exact accounted_close h _ htail hrest
                  (fun _ hmem => absurd hmem List.not_mem_nil) rfl hclosed
                  (session_after_close h hentry)
              · simp only [hfound, Option.some.injEq, Prod.mk.injEq] at hstep
                rw [← hstep.1]
                refine accounted_close h _ htail hrest ?_ rfl hclosed
                  (session_after_close h hentry)
                intro message hmem
                rw [List.mem_singleton.mp hmem]
                rfl
      · -- A data frame.
        rw [hframe] at hstep hqueue
        simp only [telemetryFrame, deliveryOf, handleDelivery] at hstep
        cases hentry : link.entry with
        | none =>
            rw [hentry] at hstep
            simp only [Option.some.injEq, Prod.mk.injEq] at hstep
            rw [← hstep.1]
            refine accounted_close h _ htail hrest ?_ rfl rfl ?_
            · intro message hmem
              rw [List.mem_singleton.mp hmem]
              rfl
            · intro session hsession
              exact absurd hsession (by simp only [reduceCtorEq, not_false_eq_true])
        | some session =>
            rw [hentry] at hstep
            simp only [BootstrapTelemetrySession.consumeWindow] at hstep
            rcases hfound : session.streamsById[sandboxTelemetryLogStreamId]? with _ | stream
            · simp only [hfound, Option.some.injEq, Prod.mk.injEq] at hstep
              rw [← hstep.1]
              refine accounted_close h _ htail hrest ?_ rfl ?_ ?_
              · intro message hmem
                rw [List.mem_singleton.mp hmem]
                rfl
              · rw [entryStream_deleteSessionIfEmpty, hfound]
              · intro session' hsession'
                rw [deleteSessionIfEmpty_eq_some hsession']
                exact h.session session hentry
            · have haccepted := consumeWindow_accepted h hqueue
                (by rw [stream?, hentry]; exact hfound)
              simp only [hfound, if_neg (Nat.not_lt.mpr haccepted), Option.some.injEq,
                Prod.mk.injEq] at hstep
              rw [← hstep.1]
              exact accounted_consume h hqueue hentry hfound _

theorem accounted_settleAppend {link link' : TelemetryLink} {failure : Option SinkFailure}
    {events : List Event} (h : Accounted link)
    (hstep : Steps link (.settleAppend failure) events link') : Accounted link' := by
  simp only [Steps, step] at hstep
  split at hstep
  · exact absurd hstep (by simp only [reduceCtorEq, not_false_eq_true])
  rename_i hpending
  have hnot : openFrame ∉ link.toGateway := by
    intro hmem
    rcases h.opening hmem with ⟨_, _, hzero, _⟩
    exact hpending hzero
  cases failure with
  | some failure =>
      simp only [Mistle.settleAppend, Option.some.injEq, Prod.mk.injEq] at hstep
      rw [← hstep.1]
      have hreset : ∀ message ∈ [createTelemetryReset failure.1 failure.2
          sandboxTelemetryLogStreamId], FromGateway message := by
        intro message hmem
        rw [List.mem_singleton.mp hmem]
        rfl
      cases hentry : link.entry with
      | none =>
          refine accounted_close h _ (fun _ hmem => hmem) hnot hreset rfl rfl ?_
          intro session hsession
          exact absurd hsession (by simp only [Option.bind_none, reduceCtorEq, not_false_eq_true])
      | some session =>
          refine accounted_close h _ (fun _ hmem => hmem) hnot hreset rfl ?_
            (session_after_close h hentry)
          rw [Option.bind_some, entryStream_deleteSessionIfEmpty, closeStream_getElem?]
  | none =>
      cases hentry : link.entry with
      | none =>
          simp only [Mistle.settleAppend, hentry, Option.some.injEq, Prod.mk.injEq] at hstep
          rw [← hstep.1]
          refine accounted_close h _ (fun _ hmem => hmem) hnot
            (fun _ hmem => absurd hmem List.not_mem_nil) rfl rfl ?_
          intro session hsession
          exact absurd hsession (by simp only [reduceCtorEq, not_false_eq_true])
      | some session =>
          simp only [Mistle.settleAppend, hentry,
            BootstrapTelemetrySession.grantWindowIfNeeded] at hstep
          rcases hfound : session.streamsById[sandboxTelemetryLogStreamId]? with _ | stream
          · simp only [hfound, Option.toList_none, Option.some.injEq, Prod.mk.injEq] at hstep
            rw [← hstep.1]
            refine accounted_close h _ (fun _ hmem => hmem) hnot
              (fun _ hmem => absurd hmem List.not_mem_nil) rfl hfound ?_
            intro session' hsession'
            rw [← Option.some.inj hsession']
            exact h.session session hentry
          · by_cases hbatch :
              stream.consumedSinceLastWindowGrantBytes < session.windowGrantBatchBytes
            · simp only [hfound, if_pos hbatch, Option.toList_none, List.append_nil,
                Option.some.injEq, Prod.mk.injEq] at hstep
              rw [← hstep.1]
              refine ⟨h.frames, h.messages, ?_, h.once, fun hmem => absurd hmem hnot, ?_, h.bound⟩
              · intro session' hsession'
                exact h.session session' (hentry.trans hsession')
              · intro stream' hstream'
                refine h.live stream' ?_
                rw [stream?, hentry]
                exact hstream'
            · have hpositive : 0 < stream.consumedSinceLastWindowGrantBytes := by
                have hsize := (h.session session hentry).2
                rw [telemetryWindowGrantBatchBytes] at hsize
                omega
              simp only [hfound, if_neg hbatch, Option.toList_some, Option.some.injEq,
                Prod.mk.injEq] at hstep
              rw [← hstep.1]
              exact accounted_grant h hpending hentry hfound hpositive

theorem accounted_detach {link link' : TelemetryLink} {events : List Event}
    (h : Accounted link) (hstep : Steps link .detach events link') : Accounted link' := by
  simp only [Steps, step] at hstep
  split at hstep
  · exact absurd hstep (by simp only [reduceCtorEq, not_false_eq_true])
  rename_i hconnected
  simp only [TelemetryRelay.detachTunnelConnection, if_neg hconnected, Option.some.injEq,
    Prod.mk.injEq] at hstep
  rw [← hstep.1]
  have hclose : openFrame ∉ [closeFrame] := by
    rw [List.mem_singleton]
    exact (by decide)
  constructor
  case frames =>
    intro frame hmem
    rcases List.mem_append.mp hmem with hmem | hmem
    · exact h.frames frame hmem
    · exact Or.inr (Or.inl (List.mem_singleton.mp hmem))
  case messages => exact h.messages
  case session => exact h.session
  case once => exact openFrame_not_mem_tail h.once hclose
  case opening =>
    intro hmem
    rcases List.mem_append.mp hmem with hmem | hmem
    · rcases h.opening hmem with ⟨hentry, hsandboxd, hpending, _, _, hdata⟩
      refine ⟨hentry, hsandboxd, hpending, TelemetryRelayState.noConfusion, rfl, ?_⟩
      simp only [List.filterMap_append, hdata, payloadBytes, List.filterMap_cons,
        List.filterMap_nil, List.append_nil]
    · exact absurd hmem hclose
  case live =>
    intro stream hstream
    rcases h.live stream hstream with ⟨hremaining, hfits, _⟩
    refine ⟨hremaining, ?_, fun hne => absurd rfl hne⟩
    simp only [List.filterMap_append, payloadBytes, List.filterMap_cons, List.filterMap_nil,
      List.append_nil]
    exact hfits
  case bound => exact fun hne => absurd rfl hne

theorem accounted_step {link link' : TelemetryLink} {input : Input} {events : List Event}
    (h : Accounted link) (hstep : Steps link input events link') : Accounted link' := by
  cases input with
  | enqueue line => exact accounted_enqueue h hstep
  | deliverToSandboxd => exact accounted_deliverToSandboxd h hstep
  | deliverToGateway sinkFailure => exact accounted_deliverToGateway h hstep
  | settleAppend failure => exact accounted_settleAppend h hstep
  | detach => exact accounted_detach h hstep

theorem accounted_run {relay : TelemetryRelay} {trace : List (Entry Input Event)}
    {link : TelemetryLink} (run : Run Steps (connect relay) trace link) : Accounted link :=
  run.invariant (accounted_connect relay) fun _ _ _ _ h hstep => accounted_step h hstep

/-- In every run, while the stream is open at both ends, the relay's credit, the
    payload bytes and grants in flight and what the gateway has consumed since
    its last grant add up to the initial window. So a frame that arrives never
    finds the window exhausted, and a grant that arrives is never refused. -/
theorem telemetry_credit_conserved (relay : TelemetryRelay) (trace : List (Entry Input Event))
    (link : TelemetryLink) (run : Run Steps (connect relay) trace link) :
    (∀ stream, link.relay.state = .open → link.stream? = some stream →
      link.relay.sendWindow.availableBytes + (link.toGateway.filterMap payloadBytes).sum +
        (link.toSandboxd.filterMap grantedBytes).sum +
        stream.consumedSinceLastWindowGrantBytes = defaultStreamWindowBytes) ∧
    (∀ frame rest session, link.toGateway = .binary frame :: rest → link.entry = some session →
      ∀ message, (session.consumeWindow frame.payload.length frame.streamId).1 ≠
        .error (createTelemetryReset "telemetry_window_exhausted" message frame.streamId)) ∧
    (∀ message rest, link.toSandboxd = .window message :: rest →
      link.relay.state ≠ .disconnected →
      ∃ window, link.relay.sendWindow.add message.bytes = .ok window) := by
  have h := accounted_run run
  refine ⟨?_, ?_, ?_⟩
  · intro stream hopen hstream
    rcases h.live stream hstream with ⟨_, _, htotal⟩
    exact htotal (by rw [hopen]; exact TelemetryRelayState.noConfusion)
  · intro frame rest session hqueue hentry message
    rcases h.frames (.binary frame) (by rw [hqueue]; exact List.mem_cons_self ..) with
      hframe | hframe | ⟨line, hframe⟩
    · exact absurd hframe (by simp only [openFrame, reduceCtorEq, not_false_eq_true])
    · exact absurd hframe (by simp only [closeFrame, reduceCtorEq, not_false_eq_true])
    · rw [TelemetryRelayFrame.binary.injEq] at hframe
      rw [hframe] at hqueue ⊢
      unfold BootstrapTelemetrySession.consumeWindow
      rcases hfound : session.streamsById[(telemetryFrame line).streamId]? with _ | stream
      · simp only [createTelemetryReset, ne_eq, Except.error.injEq,
          BootstrapTelemetryControlMessage.reset.injEq, TelemetryReset.mk.injEq,
          String.reduceEq, false_and, and_false, not_false_eq_true]
      · have haccepted := consumeWindow_accepted h hqueue
          (by rw [stream?, hentry]; exact hfound)
        have hfits : ¬ (telemetryFrame line).payload.length > stream.remainingWindowBytes :=
          Nat.not_lt.mpr haccepted
        simp only [if_neg hfits, ne_eq, reduceCtorEq, not_false_eq_true]
  · intro message rest hqueue hconnected
    exact ⟨_, add_accepted h hqueue hconnected⟩

/-- The stream opens, a line of three bytes is sent and arrives. -/
theorem telemetry_credit_conserved_one_line :
    ∃ trace link stream, Run Steps (connect .default) trace link ∧ link.relay.state = .open ∧
      link.stream? = some stream ∧ stream.consumedSinceLastWindowGrantBytes = 3 ∧
      link.relay.sendWindow.availableBytes + (link.toGateway.filterMap payloadBytes).sum +
        (link.toSandboxd.filterMap grantedBytes).sum +
        stream.consumedSinceLastWindowGrantBytes = defaultStreamWindowBytes := by
  have run : Run Steps _ _ _ := execute_run [.deliverToGateway none, .deliverToSandboxd,
    .enqueue [104, 105, 10], .deliverToGateway none]
    (show execute step (connect .default) _ = some (_, _) from rfl)
  exact ⟨_, _, _, run, rfl, rfl, rfl, (telemetry_credit_conserved _ _ _ run).1 _ rfl rfl⟩

end TelemetryLink

end Mistle
