import Mistle.Protocol.Frame
import Mistle.Protocol.Parse
import Mistle.Protocol.Serialize

/-!
# The Telemetry Relay

The supervisor's log lines reach the gateway on a stream of their own. The relay
buffers lines until the stream is open and has credit, then sends each line as
one data frame. `attach` starts the negotiation of a connection and drops what
was buffered before; only `telemetry.open.ok` opens the relay; `flush` sends
while the next line fits the window.

A rejected or reset stream is reported to the caller as an error and changes
nothing in the relay: in particular an open relay stays open.

## Main definitions

* `TelemetryRelay`: The relay's state.
* `attachTunnelConnection`, `detachTunnelConnection`: The ends of a connection.
* `flush`: Sending what the window admits.
* `applyControl`, `handleControlMessage`: A message of the gateway.
* `enqueueLogLine`, `enqueueLogRecord`: New lines.
* `encodeSandboxTelemetryLogLine`: The text of a record.

## Theorems

* `encode_telemetryFrame`: A line always encodes as a frame.
* `flush_split`: What `flush` sends is a prefix of the buffer, paid from the window.
* `flush_of_not_open`, `mem_flush`: A relay that is not open sends nothing.
-/

namespace Mistle

def telemetryLogsSignal := "logs"
def telemetryLogsFormat := "mistle.sandbox-runtime.log.v1"
def reservedLogFields : List String := ["timestamp", "level", "event"]

inductive SandboxTelemetryLogLevel where
  | info
  | warn
  | error
  deriving DecidableEq

def SandboxTelemetryLogLevel.asStr : SandboxTelemetryLogLevel → String
  | .info => "info"
  | .warn => "warn"
  | .error => "error"

/-- Why a step of the relay failed. -/
structure TelemetryRelayError where
  message : String
  deriving DecidableEq

/-- One frame the relay wants written. -/
inductive TelemetryRelayFrame where
  | text (message : OutboundMessage)
  | binary (frame : StreamDataFrame)
  deriving DecidableEq

inductive TelemetryRelayState where
  | disconnected
  | opening
  | open
  deriving DecidableEq

structure TelemetryRelay where
  state : TelemetryRelayState
  sendWindow : StreamSendWindow
  bufferedLines : List (List UInt8)
  bufferedBytes : Nat
  deriving DecidableEq

/-- The frame of one line. -/
def telemetryFrame (line : List UInt8) : StreamDataFrame :=
  { streamId := sandboxTelemetryLogStreamId, payloadKind := payloadKindRawBytes, payload := line }

/-- The relay's encoding step cannot fail: both fields it checks are constants. -/
theorem encode_telemetryFrame (line : List UInt8) :
    checkedFrame sandboxTelemetryLogStreamId payloadKindRawBytes line
      = .ok (telemetryFrame line) := rfl

namespace TelemetryRelay

/-- A relay before any connection. -/
def default : TelemetryRelay :=
  { state := .disconnected, sendWindow := ⟨0⟩, bufferedLines := [], bufferedBytes := 0 }

def attachTunnelConnection (_ : TelemetryRelay) : List TelemetryRelayFrame × TelemetryRelay :=
  ([.text (.telemetryOpen sandboxTelemetryLogStreamId telemetryLogsSignal telemetryLogsFormat)],
    { state := .opening, sendWindow := ⟨0⟩, bufferedLines := [], bufferedBytes := 0 })

def detachTunnelConnection (relay : TelemetryRelay) :
    List TelemetryRelayFrame × TelemetryRelay :=
  (if relay.state = .disconnected then []
    else [.text (.telemetryClose sandboxTelemetryLogStreamId)], default)

/-- Send lines off the front of the buffer while the next one fits the window. -/
def flushLines (relay : TelemetryRelay) : List (List UInt8) → List StreamDataFrame × TelemetryRelay
  | [] => ([], { relay with bufferedLines := [] })
  | line :: rest =>
    match relay.sendWindow.tryConsume line.length with
    | none => ([], { relay with bufferedLines := line :: rest })
    | some window =>
      let (frames, relay') := flushLines { relay with
        sendWindow := window
        bufferedBytes := relay.bufferedBytes - line.length } rest
      (telemetryFrame line :: frames, relay')

def flush (relay : TelemetryRelay) : List TelemetryRelayFrame × TelemetryRelay :=
  if relay.state = .open then
    let (frames, relay') := relay.flushLines relay.bufferedLines
    (frames.map .binary, relay')
  else ([], relay)

/-- A parsed message of the gateway. A message for another stream is not the
    relay's; a rejection or a reset is an error and leaves the relay as it is. -/
def applyControl (relay : TelemetryRelay) (message : BootstrapTelemetryControlMessage) :
    Except TelemetryRelayError (Option (List TelemetryRelayFrame)) × TelemetryRelay :=
  match message with
  | .openOk message =>
    if message.streamId ≠ sandboxTelemetryLogStreamId then (.ok none, relay)
    else
      let (frames, relay') := flush { relay with
        sendWindow := ⟨message.initialWindowBytes⟩
        state := .open }
      (.ok (some frames), relay')
  | .window message =>
    if message.streamId ≠ sandboxTelemetryLogStreamId then (.ok none, relay)
    else match relay.sendWindow.add message.bytes with
      | .error error => (.error ⟨error.message⟩, relay)
      | .ok window =>
        let (frames, relay') := flush { relay with sendWindow := window }
        (.ok (some frames), relay')
  | .openError message =>
    if message.streamId ≠ sandboxTelemetryLogStreamId then (.ok none, relay)
    else (.error ⟨s!"gateway rejected telemetry stream: {message.message} ({message.code})"⟩, relay)
  | .reset message =>
    if message.streamId ≠ sandboxTelemetryLogStreamId then (.ok none, relay)
    else (.error ⟨s!"gateway reset telemetry stream: {message.message} ({message.code})"⟩, relay)

/-- A text of the gateway; `none` if it is no telemetry message. -/
def handleControlMessage (serde : SerdeJson) (relay : TelemetryRelay) (payload : String) :
    Except TelemetryRelayError (Option (List TelemetryRelayFrame)) × TelemetryRelay :=
  match parseBootstrapTelemetryControlMessage serde payload with
  | .error error => (.error ⟨error.message⟩, relay)
  | .ok none => (.ok none, relay)
  | .ok (some message) => relay.applyControl message

/-- Queue one line, unless the buffer is full, and send what the window admits. -/
def enqueueLogLine (relay : TelemetryRelay) (line : List UInt8) :
    Except TelemetryRelayError (List TelemetryRelayFrame) × TelemetryRelay :=
  if relay.bufferedBytes + line.length > maxStreamWindowBytes then
    (.error ⟨"telemetry buffer exceeded the configured capacity"⟩, relay)
  else
    let (frames, relay') := flush { relay with
      bufferedBytes := relay.bufferedBytes + line.length
      bufferedLines := relay.bufferedLines ++ [line] }
    (.ok frames, relay')

end TelemetryRelay

/-! ### Records -/

/-- A log field must hold a scalar. -/
def isScalar : Json String → Bool
  | .arr _ | .obj _ => false
  | _ => true

/-- Check one extra field of a record and add it. -/
def addLogField (payload : Fields) (extra : String × Json String) :
    Except TelemetryRelayError Fields :=
  let (fieldName, fieldValue) := extra
  if isBlank fieldName then
    .error ⟨"sandbox telemetry log field name must not be empty"⟩
  else if fieldName ∈ reservedLogFields then
    .error ⟨s!"sandbox telemetry log field '{fieldName}' is reserved"⟩
  else if !isScalar fieldValue then
    .error ⟨s!"sandbox telemetry log field '{fieldName}' must be scalar"⟩
  else
    .ok (Json.setField fieldName fieldValue payload)

/-- The text of a record: one JSON object and a newline. -/
def encodeSandboxTelemetryLogLine (serde : SerdeJson) (timestamp : Except String String)
    (level : SandboxTelemetryLogLevel) (event : String) (extraFields : Fields) :
    Except TelemetryRelayError String := do
  if isBlank event then
    .error ⟨"sandbox telemetry log event must not be empty"⟩
  else
    let timestamp ← timestamp.mapError fun error => (⟨error⟩ : TelemetryRelayError)
    let payload ← extraFields.foldlM addLogField
      [("timestamp", .str timestamp), ("level", .str level.asStr), ("event", .str event)]
    return serde.toText (.obj payload) ++ "\n"

namespace TelemetryRelay

def enqueueLogRecord (serde : SerdeJson) (timestamp : Except String String)
    (relay : TelemetryRelay) (level : SandboxTelemetryLogLevel) (event : String)
    (extraFields : Fields) :
    Except TelemetryRelayError (List TelemetryRelayFrame) × TelemetryRelay :=
  match encodeSandboxTelemetryLogLine serde timestamp level event extraFields with
  | .error error => (.error error, relay)
  | .ok line => relay.enqueueLogLine (utf8 line)

/-! ### What flushing does -/

/-- Flushing sends a prefix of the buffer, pays for it from the window, and
    touches nothing else. -/
theorem flushLines_split (lines : List (List UInt8)) : ∀ relay : TelemetryRelay,
    ∃ sent, (relay.flushLines lines).1 = sent.map telemetryFrame ∧
      lines = sent ++ (relay.flushLines lines).2.bufferedLines ∧
      (sent.map List.length).sum + (relay.flushLines lines).2.sendWindow.availableBytes
        = relay.sendWindow.availableBytes ∧
      (relay.flushLines lines).2.state = relay.state := by
  induction lines with
  | nil =>
      intro relay
      exact ⟨[], rfl, rfl, by simp only [flushLines, List.map_nil, List.sum_nil, Nat.zero_add],
        rfl⟩
  | cons line rest ih =>
      intro relay
      rw [flushLines]
      cases hconsume : relay.sendWindow.tryConsume line.length with
      | none =>
          refine ⟨[], rfl, rfl, ?_, rfl⟩
          simp only [List.map_nil, List.sum_nil, Nat.zero_add]
      | some window =>
          have hpaid := StreamSendWindow.tryConsume_some hconsume
          rcases ih { relay with
            sendWindow := window
            bufferedBytes := relay.bufferedBytes - line.length } with
            ⟨sent, hframes, hlines, hcredit, hstate⟩
          refine ⟨line :: sent, ?_, ?_, ?_, hstate⟩
          · simp only [hframes, List.map_cons]
          · rw [List.cons_append]
            exact congrArg (line :: ·) hlines
          · simp only [List.map_cons, List.sum_cons] at hcredit ⊢
            omega

theorem flush_split (relay : TelemetryRelay) :
    ∃ sent : List (List UInt8), relay.flush.1 = sent.map (fun line => .binary (telemetryFrame line)) ∧
      relay.bufferedLines = sent ++ relay.flush.2.bufferedLines ∧
      (sent.map List.length).sum + relay.flush.2.sendWindow.availableBytes
        = relay.sendWindow.availableBytes ∧
      relay.flush.2.state = relay.state := by
  unfold flush
  by_cases hopen : relay.state = .open
  · rcases flushLines_split relay.bufferedLines relay with ⟨sent, hframes, hlines, hcredit, hstate⟩
    rw [if_pos hopen]
    refine ⟨sent, ?_, hlines, hcredit, hstate⟩
    simp only [hframes, List.map_map]
    rfl
  · rw [if_neg hopen]
    exact ⟨[], rfl, rfl, by simp only [List.map_nil, List.sum_nil, Nat.zero_add], rfl⟩

theorem flush_of_not_open {relay : TelemetryRelay} (h : relay.state ≠ .open) :
    relay.flush = ([], relay) := by
  rw [flush, if_neg h]

/-- Flushing sends lines, and only from an open relay. -/
theorem mem_flush {relay : TelemetryRelay} {frame : TelemetryRelayFrame}
    (h : frame ∈ relay.flush.1) :
    (∃ line, frame = .binary (telemetryFrame line)) ∧ relay.state = .open := by
  by_cases hopen : relay.state = .open
  · rcases relay.flush_split with ⟨sent, hsent, _⟩
    rw [hsent] at h
    rcases List.mem_map.mp h with ⟨line, _, hline⟩
    exact ⟨⟨line, hline.symm⟩, hopen⟩
  · rw [flush_of_not_open hopen] at h
    exact absurd h List.not_mem_nil

@[simp] theorem flush_state (relay : TelemetryRelay) : relay.flush.2.state = relay.state := by
  rcases flush_split relay with ⟨_, _, _, _, hstate⟩
  exact hstate

end TelemetryRelay

end Mistle
