import Mistle.Tunnel.State

/-!
# Writing to the Tunnel

Every frame goes through the writer channel. Sending fails only when the
receiver is gone; log records are published on the telemetry stream, and there a
failed send is printed and forgotten.

## Main definitions

* `writeTunnelText`, `writeTunnelBinary`, `writeTunnelPong`, `writeTunnelFlush`:
  One message to the writer.
* `sendTelemetryFrames`: The frames of the telemetry relay.
* `publishTunnelTelemetryLog`: A log record.
* `reportDroppedBootstrapTextMessage`, `reportDroppedBootstrapBinaryFrame`: The
  record of a message that was dropped.

## Theorems

* `sendToWriter_of_send`, `sendToWriter_of_gone`: The outcome of one send.
* `writeTunnelText_of_send`, `writeTunnelText_of_gone`: The outcome of one text.
* `writeTunnelBinary_of_send`, `writeTunnelBinary_of_gone`: The same for a frame.
-/

namespace Mistle

open Handler

/-- Hand one message to the writer; `false` if its receiver is gone. -/
def sendToWriter (message : TunnelWriterMessage) : Session Bool := do
  let st ← get
  match st.tunnelWriter.send with
  | none => return false
  | some writer =>
    modify fun st => { st with tunnelWriter := writer }
    emit (.write message)
    return true

def writerClosed := "bootstrap tunnel writer is closed"

def writeTunnelText (message : OutboundMessage) : Session Unit := do
  if ← sendToWriter (.text message) then return ()
  else throw (.writeTunnelText writerClosed)

def writeTunnelBinary (frame : StreamDataFrame) : Session Unit := do
  if ← sendToWriter (.binary frame) then return ()
  else throw (.writeTunnelBinary writerClosed)

def writeTunnelPong (payload : List UInt8) : Session Unit := do
  if ← sendToWriter (.pong payload) then return ()
  else throw (.writeTunnelText writerClosed)

/-- Ask the writer to answer once everything before is written. If it is gone,
    the caller is told at once. -/
def writeTunnelFlush (responseSender : ResponseSender) : Session Unit := do
  if ← sendToWriter (.flush responseSender) then return ()
  else
    emit (.answerClose responseSender (.error writerClosed))
    throw (.writeTunnelText writerClosed)

/-! ### Outcomes -/

section

variable {st : TunnelSessionMutableState} {writer : TunnelWriter}

theorem sendToWriter_of_send (h : st.tunnelWriter.send = some writer)
    (message : TunnelWriterMessage) :
    sendToWriter message st = ⟨.ok true, { st with tunnelWriter := writer }, [.write message]⟩ := by
  unfold sendToWriter
  rw [bind_ok (get_apply st), h]
  rfl

theorem sendToWriter_of_gone (h : st.tunnelWriter.send = none) (message : TunnelWriterMessage) :
    sendToWriter message st = ⟨.ok false, st, []⟩ := by
  unfold sendToWriter
  rw [bind_ok (get_apply st), h]
  rfl

theorem writeTunnelText_of_send (h : st.tunnelWriter.send = some writer)
    (message : OutboundMessage) :
    writeTunnelText message st
      = ⟨.ok (), { st with tunnelWriter := writer }, [.write (.text message)]⟩ := by
  unfold writeTunnelText
  rw [bind_ok (sendToWriter_of_send h _)]
  rfl

theorem writeTunnelText_of_gone (h : st.tunnelWriter.send = none) (message : OutboundMessage) :
    writeTunnelText message st = ⟨.error (.writeTunnelText writerClosed), st, []⟩ := by
  unfold writeTunnelText
  rw [bind_ok (sendToWriter_of_gone h _)]
  rfl

theorem writeTunnelBinary_of_send (h : st.tunnelWriter.send = some writer)
    (frame : StreamDataFrame) :
    writeTunnelBinary frame st
      = ⟨.ok (), { st with tunnelWriter := writer }, [.write (.binary frame)]⟩ := by
  unfold writeTunnelBinary
  rw [bind_ok (sendToWriter_of_send h _)]
  rfl

theorem writeTunnelBinary_of_gone (h : st.tunnelWriter.send = none) (frame : StreamDataFrame) :
    writeTunnelBinary frame st = ⟨.error (.writeTunnelBinary writerClosed), st, []⟩ := by
  unfold writeTunnelBinary
  rw [bind_ok (sendToWriter_of_gone h _)]
  rfl

end

/-! ### Log lines -/

def sendTelemetryFrame : TelemetryRelayFrame → Session Unit
  | .text message => writeTunnelText message
  | .binary frame => writeTunnelBinary frame

def sendTelemetryFrames (frames : List TelemetryRelayFrame) : Session Unit :=
  each sendTelemetryFrame frames

/-- Send what the relay admitted; errors are only printed. -/
def publishFrames (result : Except TelemetryRelayError (List TelemetryRelayFrame) × TelemetryRelay) :
    Session Unit := do
  modify fun st => { st with telemetryRelay := result.2 }
  match result.1 with
  | .ok frames =>
    let _ ← attempt (sendTelemetryFrames frames)
    return ()
  | .error _ => return ()

section

variable (context : TunnelSessionLoopContext) (world : World)

def publishTunnelTelemetryLog (level : SandboxTelemetryLogLevel) (event : String)
    (extraFields : Fields) : Session Unit := do
  let st ← get
  publishFrames (st.telemetryRelay.enqueueLogRecord context.serde world.systemTime level event
    extraFields)

/-- Lines of the supervisor, already encoded. -/
def forwardSupervisorLifecycleEvents (lines : List String) : Session Unit :=
  each (fun line => do
    let st ← get
    publishFrames (st.telemetryRelay.enqueueLogLine (utf8 line))) lines

def reportDroppedBootstrapMessage (event message reason : String) : Session Unit :=
  publishTunnelTelemetryLog context world .warn event
    [("message", .str message), ("reason", .str reason)]

def reportDroppedBootstrapTextMessage (reason : String) : Session Unit :=
  reportDroppedBootstrapMessage context world "bootstrap_control_message_dropped"
    ("sandboxd dropped bootstrap control message: " ++ reason) reason

def reportDroppedBootstrapBinaryFrame (reason : String) : Session Unit :=
  reportDroppedBootstrapMessage context world "bootstrap_data_frame_dropped"
    ("sandboxd dropped bootstrap data frame: " ++ reason) reason

end

end Mistle
