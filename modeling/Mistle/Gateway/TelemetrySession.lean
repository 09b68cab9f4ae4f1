import Std.Data.ExtTreeMap
import Mistle.Tunnel.Telemetry

/-!
# The Gateway's Telemetry Session

The receiving end of the telemetry stream. A `BootstrapTelemetrySession` tracks
the streams of one bootstrap connection: how much each may still receive and how
much it has consumed since its last window grant. Grants are batched, and a
stream that receives more than its window is closed.

The ingress service around it turns deliveries into calls on the session and
answers with control messages. The sink that takes the bytes is asynchronous and
may fail, so consuming a frame and settling its append are separate events.

## Main definitions

* `BootstrapTelemetrySession`: The streams of one connection.
* `openStream`, `closeStream`, `consumeWindow`, `grantWindowIfNeeded`: Its methods.
* `TelemetryDelivery`: What the gateway delivers from the tunnel.
* `handleDelivery`, `settleAppend`: The ingress service.
-/

namespace Mistle

inductive TelemetrySignal where
  | logs
  | traces
  deriving DecidableEq

def TelemetrySignal.name : TelemetrySignal → String
  | .logs => "logs"
  | .traces => "traces"

structure ActiveBootstrapTelemetryStream where
  consumedSinceLastWindowGrantBytes : Nat
  format : String
  remainingWindowBytes : Nat
  signal : TelemetrySignal
  streamId : StreamId
  deriving DecidableEq

def sandboxTelemetryLogFormat := "mistle.sandbox-runtime.log.v1"
def sandboxTelemetryTraceJsonFormat := "otlp.http.traces.v1+json"
def telemetryWindowGrantBatchBytes : Nat := 16 * 1024
def telemetrySinkFailureMessage := "Gateway failed to ingest telemetry bytes."

/-- Telemetry formats the gateway takes for a signal. -/
def supportedFormatsBySignal : TelemetrySignal → List String
  | .logs => [sandboxTelemetryLogFormat]
  | .traces => [sandboxTelemetryTraceJsonFormat]

def isSupportedTelemetryStream (format : String) (signal : TelemetrySignal) : Bool :=
  (supportedFormatsBySignal signal).contains format

def createTelemetryOpenOk (initialWindowBytes : Nat) (streamId : StreamId) :
    BootstrapTelemetryControlMessage :=
  .openOk { messageType := "telemetry.open.ok", streamId, initialWindowBytes }

def createTelemetryOpenError (code message : String) (streamId : StreamId) :
    BootstrapTelemetryControlMessage :=
  .openError { messageType := "telemetry.open.error", streamId, code, message }

def createTelemetryReset (code message : String) (streamId : StreamId) :
    BootstrapTelemetryControlMessage :=
  .reset { messageType := "telemetry.reset", streamId, code, message }

def createTelemetryWindow (bytes : Nat) (streamId : StreamId) : BootstrapTelemetryControlMessage :=
  .window { messageType := "telemetry.window", streamId, bytes }

/-- The streams of one bootstrap connection, by id, and the id open per signal. -/
structure BootstrapTelemetrySession where
  streamsById : Std.ExtTreeMap StreamId ActiveBootstrapTelemetryStream
  streamIdsBySignal : TelemetrySignal → Option StreamId
  initialWindowBytes : Nat
  windowGrantBatchBytes : Nat

namespace BootstrapTelemetrySession

/-- A session with no stream, with the constructor's defaults. -/
def new : BootstrapTelemetrySession :=
  { streamsById := ∅
    streamIdsBySignal := fun _ => none
    initialWindowBytes := defaultStreamWindowBytes
    windowGrantBatchBytes := telemetryWindowGrantBatchBytes }

/-- Open a stream, or answer why not. -/
def openStream (session : BootstrapTelemetrySession) (format : String) (signal : TelemetrySignal)
    (streamId : StreamId) :
    Except BootstrapTelemetryControlMessage BootstrapTelemetrySession :=
  if !isSupportedTelemetryStream format signal then
    .error (createTelemetryOpenError "unsupported_telemetry_stream"
      s!"Telemetry format '{format}' is not supported for signal '{signal.name}'." streamId)
  else if (session.streamsById[streamId]?).isSome then
    .error (createTelemetryOpenError "telemetry_stream_already_open"
      s!"Telemetry stream {streamId} is already open." streamId)
  else if (session.streamIdsBySignal signal).isSome then
    .error (createTelemetryOpenError "telemetry_stream_already_open"
      ("A " ++ signal.name ++
        " telemetry stream is already active for this bootstrap session.") streamId)
  else
    .ok { session with
      streamsById := session.streamsById.insert streamId
        { consumedSinceLastWindowGrantBytes := 0
          format
          remainingWindowBytes := session.initialWindowBytes
          signal
          streamId }
      streamIdsBySignal := fun s =>
        if s = signal then some streamId else session.streamIdsBySignal s }

def closeStream (session : BootstrapTelemetrySession) (streamId : StreamId) :
    BootstrapTelemetrySession :=
  match session.streamsById[streamId]? with
  | none => session
  | some stream => { session with
      streamsById := session.streamsById.erase streamId
      streamIdsBySignal := fun s =>
        if s = stream.signal then none else session.streamIdsBySignal s }

/-- Take a payload off the stream's window, or close the stream. -/
def consumeWindow (session : BootstrapTelemetrySession) (payloadByteLength : Nat)
    (streamId : StreamId) :
    Except BootstrapTelemetryControlMessage Unit × BootstrapTelemetrySession :=
  match session.streamsById[streamId]? with
  | none =>
    (.error (createTelemetryReset "telemetry_stream_not_found"
      s!"Telemetry stream {streamId} is not open on this bootstrap session." streamId), session)
  | some stream =>
    if payloadByteLength > stream.remainingWindowBytes then
      (.error (createTelemetryReset "telemetry_window_exhausted"
        s!"Telemetry stream {streamId} exhausted its receive window." streamId),
        session.closeStream streamId)
    else
      (.ok (), { session with
        streamsById := session.streamsById.insert streamId { stream with
          remainingWindowBytes := stream.remainingWindowBytes - payloadByteLength
          consumedSinceLastWindowGrantBytes :=
            stream.consumedSinceLastWindowGrantBytes + payloadByteLength } })

/-- Grant back everything consumed since the last grant, once it is a batch. -/
def grantWindowIfNeeded (session : BootstrapTelemetrySession) (streamId : StreamId) :
    Option BootstrapTelemetryControlMessage × BootstrapTelemetrySession :=
  match session.streamsById[streamId]? with
  | none => (none, session)
  | some stream =>
    if stream.consumedSinceLastWindowGrantBytes < session.windowGrantBatchBytes then
      (none, session)
    else
      (some (createTelemetryWindow stream.consumedSinceLastWindowGrantBytes streamId), { session with
        streamsById := session.streamsById.insert streamId { stream with
          consumedSinceLastWindowGrantBytes := 0
          remainingWindowBytes :=
            stream.remainingWindowBytes + stream.consumedSinceLastWindowGrantBytes } })

def streamCount (session : BootstrapTelemetrySession) : Nat :=
  session.streamsById.size

end BootstrapTelemetrySession

/-! ### The ingress service -/

/-- What the gateway delivers to telemetry ingress from the tunnel. -/
inductive TelemetryDelivery where
  | telemetryOpen (streamId : StreamId) (signal : TelemetrySignal) (format : String)
  | telemetryData (streamId : StreamId) (payload : List UInt8)
  | telemetryClose (streamId : StreamId)
  deriving DecidableEq

/-- The service's entry for one connection: its session while it has a stream. -/
abbrev IngressEntry := Option BootstrapTelemetrySession

/-- Keep an entry only while its session has a stream. -/
def deleteSessionIfEmpty (session : BootstrapTelemetrySession) : IngressEntry :=
  if session.streamCount = 0 then none else some session

/-- The code and message a failed sink call is reported with. -/
abbrev SinkFailure := String × String

/-- Handle one delivery. `sinkFailure` is how the sink's opening or closing of
    the stream failed, if it did. A data frame that is consumed is appended
    later. -/
def handleDelivery (entry : IngressEntry) (sinkFailure : Option SinkFailure) :
    TelemetryDelivery → List BootstrapTelemetryControlMessage × IngressEntry
  | .telemetryOpen streamId signal format =>
    let session := entry.getD .new
    match session.openStream format signal streamId with
    | .error response => ([response], if entry.isSome then deleteSessionIfEmpty session else none)
    | .ok opened =>
      match sinkFailure with
      | none => ([createTelemetryOpenOk session.initialWindowBytes streamId], some opened)
      | some _ =>
        ([createTelemetryOpenError "telemetry_sink_failed" telemetrySinkFailureMessage streamId],
          if entry.isSome then deleteSessionIfEmpty (opened.closeStream streamId) else none)
  | .telemetryData streamId payload =>
    match entry with
    | none =>
      ([createTelemetryReset "telemetry_stream_not_found"
        s!"Telemetry stream {streamId} is not open on this bootstrap session." streamId], none)
    | some session =>
      match session.consumeWindow payload.length streamId with
      | (.error response, session') => ([response], deleteSessionIfEmpty session')
      | (.ok (), session') => ([], some session')
  | .telemetryClose streamId =>
    match entry with
    | none => ([], none)
    | some session =>
      match session.streamsById[streamId]?, sinkFailure with
      | some _, some (code, message) =>
        ([createTelemetryReset code message streamId],
          deleteSessionIfEmpty (session.closeStream streamId))
      | _, _ => ([], deleteSessionIfEmpty (session.closeStream streamId))

/-- The sink settles the append of a consumed frame: it failed and the stream is
    reset, or it succeeded and the window may be granted back. -/
def settleAppend (entry : IngressEntry) (streamId : StreamId) (failure : Option SinkFailure) :
    List BootstrapTelemetryControlMessage × IngressEntry :=
  match failure with
  | some (code, message) =>
    ([createTelemetryReset code message streamId],
      entry.bind fun session => deleteSessionIfEmpty (session.closeStream streamId))
  | none =>
    match entry with
    | none => ([], none)
    | some session =>
      match session.grantWindowIfNeeded streamId with
      | (response, session') => (response.toList, some session')

end Mistle
