import Mistle.Lib.Handler
import Mistle.Lib.InsertionMap
import Mistle.Lib.Run
import Mistle.SessionProtocol.DataFrame

/-!
# The Transport of a Sandbox Session

A client of a sandbox session holds one websocket, over which it opens streams. It waits for
the answer to each open, keeps a window of bytes it may still send on each stream, grants
back what it receives, and tells the holders of its streams what became of them.

A call runs until it is done or waits for a promise, and what waits goes on in a later step:
a stream whose open was answered is marked open, or given up, only when its `openStream` goes
on, and in between other messages may have come. The sockets, the timers and the sends that
can fail are the surroundings: their events are the inputs of a step, in any order that they
allow.

## Main definitions

* `StreamControlMessage`, `Inbound`: What goes over a socket.
* `ClientSocket`, `TransportStream`, `Transport`: The parties.
* `TransportOutput`: What a call does outside the transport.
* `connect`, `disconnect`, `openStream`, `sendControlForStream`, `sendDataFrameForStream`: The
  calls of the holders.
* `handleSocketMessage`, `handleSocketClose`, `handleSocketError`: The events of a socket.
* `TransportInput`, `step`: One step.
-/

namespace Mistle

namespace SessionClient

open Handler SessionProtocol

/-! ### Messages -/

def defaultStreamWindowBytes : Nat := 16 * 1024 * 1024
def maxStreamWindowBytes : Nat := 16 * 1024 * 1024
def protocolViolationCloseCode : Nat := 4008
def gatewayServiceRestartCloseCode : Nat := 4001
def gatewayServiceRestartCloseReason : String := "service_restart"
def gatewayServiceRestartReconnectMessage : String := "Gateway service is restarting."

inductive StreamChannel where
  | agent
  | processes
  | fileUpload (threadId mimeType originalFilename : String) (sizeBytes : Nat)
  | exec (command : String) (args : Option (List String)) (cwd stdin : Option String)
      (timeoutMs maxOutputBytes : Option Nat)
  | fileSearch (cwd : String)
  deriving DecidableEq

/-- The one signal there is, `pty.resize`. -/
structure StreamSignal where
  cols : Nat
  rows : Nat
  deriving DecidableEq

inductive StreamEvent where
  | ptyExit (exitCode : Int)
  | fileUploadCompleted (kind attachmentId threadId originalFilename mimeType : String)
      (sizeBytes : Nat) (path : String)
  | execResult (exitCode : Int) (stdout stderr : String) (truncated : Bool)
  deriving DecidableEq

inductive StreamControlMessage where
  | streamOpen (streamId : Nat) (channel : StreamChannel)
  | streamOpenOk (streamId : Nat)
  | streamOpenError (streamId : Nat) (code message : String)
  | streamSignal (streamId : Nat) (signal : StreamSignal)
  | streamEvent (streamId : Nat) (event : StreamEvent)
  | streamClose (streamId : Nat)
  | streamComplete (streamId : Nat)
  | streamReset (streamId : Nat) (code message : String)
  | streamWindow (streamId bytes : Nat)
  deriving DecidableEq

def StreamControlMessage.streamId : StreamControlMessage → Nat
  | .streamOpen streamId _ => streamId
  | .streamOpenOk streamId => streamId
  | .streamOpenError streamId _ _ => streamId
  | .streamSignal streamId _ => streamId
  | .streamEvent streamId _ => streamId
  | .streamClose streamId => streamId
  | .streamComplete streamId => streamId
  | .streamReset streamId _ _ => streamId
  | .streamWindow streamId _ => streamId

/-- The payload of a message event, as far as the parsers tell payloads apart. A control
    message of the ports or of the bootstrap is passed on as it is, so its text stands for it. -/
inductive Inbound where
  | control (message : StreamControlMessage)
  | otherControl (text : String)
  | invalidText
  | binary (encoded : List UInt8)
  | unsupported
  deriving DecidableEq

/-- What a stream's holder asks to have sent. -/
inductive OutboundControl where
  | close
  | signal (signal : StreamSignal)
  | window (bytes : Nat)
  deriving DecidableEq

def withStreamId (message : OutboundControl) (streamId : Nat) : StreamControlMessage :=
  match message with
  | .close => .streamClose streamId
  | .signal signal => .streamSignal streamId signal
  | .window bytes => .streamWindow streamId bytes

/-- A close event of a socket, normalized. -/
structure CloseEvent where
  code : Nat
  reason : String
  wasClean : Bool
  deriving DecidableEq

structure GatewayServiceRestartCloseInfo where
  code : Nat
  reason : String
  deriving DecidableEq

def resolveGatewayServiceRestartCloseInfo (code : Nat) (reason : String) :
    Option GatewayServiceRestartCloseInfo :=
  if code ≠ gatewayServiceRestartCloseCode ∨ reason ≠ gatewayServiceRestartCloseReason then none
  else some { code := gatewayServiceRestartCloseCode, reason := gatewayServiceRestartCloseReason }

/-! ### The parties -/

inductive SocketReadyState where
  | connecting
  | opened
  | closing
  | closed
  deriving DecidableEq

/-- A websocket that the runtime made. -/
structure ClientSocket where
  readyState : SocketReadyState
  /-- The transport listens to its messages, its errors and its close. -/
  attached : Bool
  /-- `connect` still waits for it, with its own listeners and its timer. -/
  awaited : Bool
  /-- Its close event has been fired. -/
  ended : Bool
  deriving DecidableEq

inductive StreamState where
  | opening
  | opened
  | closed
  | reset
  | transportClosed
  deriving DecidableEq

/-- What a stream tells its listeners. -/
inductive SessionStreamEvent where
  | stateChanged (state : StreamState) (errorMessage : Option String)
      (gatewayServiceRestart : Option GatewayServiceRestartCloseInfo)
  | control (message : StreamControlMessage)
  | data (frame : SessionProtocol.StreamDataFrame)
  deriving DecidableEq

/-- A stream that `openStream` made. -/
structure TransportStream where
  state : StreamState
  isDisposed : Bool
  listeners : List Nat
  queuedEvents : List SessionStreamEvent
  deriving DecidableEq

def TransportStream.new : TransportStream where
  state := .opening
  isDisposed := false
  listeners := []
  queuedEvents := []

/-- Why an `openStream` fails. -/
inductive OpenFailure where
  | message (text : String)
  | openError (code text : String)
  deriving DecidableEq

structure Transport where
  errorMessage : Option String
  socket : Option Nat
  /-- The streams whose open has not been answered; the timer of each is armed. -/
  pendingOpensByStreamId : InsertionMap Nat Unit
  /-- The send window of each active stream. -/
  activeStreamsByStreamId : InsertionMap Nat Nat
  /-- The sockets that were made, under their numbers, the next of which is `nextSocket`. -/
  sockets : Nat → ClientSocket
  /-- The streams that were made, under their ids, the next of which is `nextStreamId`. -/
  streams : Nat → TransportStream
  /-- The opens whose promise is settled and whose `openStream` is still to go on. -/
  settledOpens : InsertionMap Nat (Except OpenFailure Unit)
  /-- The sends of a `stream.window` that have not succeeded or failed yet. -/
  grantsInFlight : Nat
  nextSocket : Nat
  nextStreamId : Nat

def Transport.new : Transport where
  errorMessage := none
  socket := none
  pendingOpensByStreamId := .empty
  activeStreamsByStreamId := .empty
  sockets _ := { readyState := .closed, attached := false, awaited := false, ended := true }
  streams _ := .new
  settledOpens := .empty
  grantsInFlight := 0
  nextSocket := 0
  nextStreamId := 1

/-- What the transport tells its own listeners. -/
inductive TransportEvent where
  | close (event : CloseEvent) (gatewayServiceRestart : Option GatewayServiceRestartCloseInfo)
  | error (message : String)
  | unhandledControl (message : StreamControlMessage)
  | unhandledOtherControl (text : String)
  | unhandledData (frame : SessionProtocol.StreamDataFrame)
  deriving DecidableEq

/-- What a call does outside the transport. -/
inductive TransportOutput where
  | creates (socket : Nat)
  | closes (socket : Nat) (code : Option Nat) (reason : Option String)
  | sendsControl (socket : Nat) (message : StreamControlMessage)
  | sendsBinary (socket : Nat) (encoded : List UInt8)
  | sendsText (socket : Nat) (payload : String)
  | emits (event : TransportEvent)
  | delivers (streamId listener : Nat) (event : SessionStreamEvent)
  /-- The promise of a `connect` is settled. -/
  | connects (socket : Nat) (result : Except String Unit)
  /-- The promise of an `openStream` that made a stream is settled. -/
  | opens (streamId : Nat) (result : Except OpenFailure Unit)
  /-- The call itself fails. -/
  | fails (error : String)
  deriving DecidableEq

/-- A call of the transport. -/
abbrev Call := Handler String Transport TransportOutput

/-- The socket held, if it is open. -/
def Transport.openSocket? (t : Transport) : Option Nat :=
  t.socket.filter fun n => (t.sockets n).readyState = .opened

def modifySocket (n : Nat) (f : ClientSocket → ClientSocket) : Call Unit :=
  modify fun t => { t with sockets := Function.update t.sockets n (f (t.sockets n)) }

def modifyStream (streamId : Nat) (f : TransportStream → TransportStream) : Call Unit :=
  modify fun t => { t with streams := Function.update t.streams streamId (f (t.streams streamId)) }

/-! ### Streams -/

def emitEvent (streamId : Nat) (event : SessionStreamEvent) : Call Unit := do
  let stream := (← get).streams streamId
  if stream.isDisposed then return
  if stream.listeners = [] then
    modifyStream streamId fun s => { s with queuedEvents := s.queuedEvents ++ [event] }
  else each (fun listener => emit (.delivers streamId listener event)) stream.listeners

def setState (streamId : Nat) (state : StreamState) (errorMessage : Option String)
    (gatewayServiceRestart : Option GatewayServiceRestartCloseInfo) : Call Unit := do
  modifyStream streamId fun s => { s with state }
  emitEvent streamId (.stateChanged state errorMessage gatewayServiceRestart)

def markOpen (streamId : Nat) : Call Unit := setState streamId .opened none none

def markClosed (streamId : Nat) (errorMessage : String) : Call Unit :=
  setState streamId .closed (some errorMessage) none

def markReset (streamId : Nat) (code message : String) : Call Unit :=
  setState streamId .reset (some s!"Sandbox session stream reset ({code}): {message}") none

def markTransportClosed (errorMessage : String)
    (gatewayServiceRestart : Option GatewayServiceRestartCloseInfo) (streamId : Nat) : Call Unit :=
  setState streamId .transportClosed (some errorMessage) gatewayServiceRestart

def emitControl (streamId : Nat) (message : StreamControlMessage) : Call Unit :=
  emitEvent streamId (.control message)

def emitData (streamId : Nat) (frame : SessionProtocol.StreamDataFrame) : Call Unit :=
  emitEvent streamId (.data frame)

/-- `onEvent` of a stream. -/
def listen (streamId listener : Nat) : Call Unit := do
  let stream := (← get).streams streamId
  if stream.isDisposed then throw s!"Sandbox session stream {streamId} has been disposed."
  modifyStream streamId fun s =>
    { s with
      listeners := if listener ∈ s.listeners then s.listeners else s.listeners ++ [listener]
      queuedEvents := [] }
  each (fun event => emit (.delivers streamId listener event)) stream.queuedEvents

/-- What `onEvent` of a stream returned. -/
def unlisten (streamId listener : Nat) : Call Unit :=
  modifyStream streamId fun s => { s with listeners := s.listeners.filter (· ≠ listener) }

def dispose (streamId : Nat) : Call Unit :=
  modifyStream streamId fun s => { s with isDisposed := true, listeners := [], queuedEvents := [] }

/-! ### Opens and streams as a whole -/

/-- Settle the promise that an `openStream` waits for, and cancel its timer. -/
def settleOpen (result : Except OpenFailure Unit) (streamId : Nat) : Call Unit :=
  modify fun t => { t with settledOpens := t.settledOpens.set streamId result }

def deletePendingOpen (streamId : Nat) : Call Unit :=
  modify fun t => { t with pendingOpensByStreamId := t.pendingOpensByStreamId.delete streamId }

def deleteActiveStream (streamId : Nat) : Call Unit :=
  modify fun t => { t with activeStreamsByStreamId := t.activeStreamsByStreamId.delete streamId }

def rejectPendingOpens (error : OpenFailure) : Call Unit := do
  each (settleOpen (.error error)) (← get).pendingOpensByStreamId.keys
  modify fun t => { t with pendingOpensByStreamId := .empty }

def markAllStreamsTransportClosed (message : String)
    (gatewayServiceRestart : Option GatewayServiceRestartCloseInfo) : Call Unit := do
  each (markTransportClosed message gatewayServiceRestart) (← get).activeStreamsByStreamId.keys
  modify fun t => { t with activeStreamsByStreamId := .empty }

/-! ### Sockets -/

def attachSocketListeners (n : Nat) : Call Unit := modifySocket n ({ · with attached := true })

def detachSocketListeners (n : Nat) : Call Unit := modifySocket n ({ · with attached := false })

/-- `close` of a socket. -/
def closeSocket (n : Nat) (code : Option Nat) (reason : Option String) : Call Unit := do
  modifySocket n fun s =>
    { s with readyState := if s.readyState = .closed then .closed else .closing }
  emit (.closes n code reason)

def closeTransportWithError (message : String) : Call Unit := do
  let socket := (← get).socket
  modify fun t => { t with socket := none, errorMessage := some message }
  rejectPendingOpens (.message message)
  markAllStreamsTransportClosed message none
  match socket with
  | none => pure ()
  | some n =>
    detachSocketListeners n
    closeSocket n (some protocolViolationCloseCode) (some message)
  emit (.emits (.error message))

/-- The promise of a `connect` fails, unless it is settled. -/
def finishWithFailure (n : Nat) (error : String) : Call Unit := do
  if !((← get).sockets n).awaited then return
  modifySocket n ({ · with awaited := false })
  detachSocketListeners n
  modify fun t => { t with socket := none, errorMessage := some error }
  closeSocket n none none
  emit (.connects n (.error error))

/-- `createSocket` of the runtime, where it does not throw. -/
def createSocket : Call Nat := do
  let n := (← get).nextSocket
  modify fun t => { t with
    nextSocket := n + 1
    sockets := Function.update t.sockets n
      { readyState := .connecting, attached := false, awaited := false, ended := false } }
  emit (.creates n)
  return n

def requireNoActiveSocket : Call Unit := do
  let t ← get
  match t.socket with
  | none => pure ()
  | some n =>
    if (t.sockets n).readyState ≠ .closed then
      throw "Sandbox session transport already has an active websocket."

/-- `connect`, up to its waiting for the socket; whether `createSocket` throws is given. -/
def connect (created : Except String Unit) : Call Unit := do
  requireNoActiveSocket
  modify fun t => { t with errorMessage := none }
  ofExcept created
  let n ← createSocket
  modify fun t => { t with socket := some n }
  attachSocketListeners n
  modifySocket n ({ · with awaited := true })

def disconnect (closeCode : Option Nat) (reason : Option String) : Call Unit := do
  let socket := (← get).socket
  modify fun t => { t with socket := none }
  rejectPendingOpens (.message "Sandbox websocket connection closed.")
  markAllStreamsTransportClosed "Sandbox websocket connection closed." none
  match socket with
  | none => pure ()
  | some n =>
    detachSocketListeners n
    closeSocket n closeCode reason

/-- The open event of a socket, which only `connect` listens to. -/
def handleOpen (n : Nat) : Call Unit := do
  if !((← get).sockets n).awaited then return
  modifySocket n ({ · with awaited := false })
  emit (.connects n (.ok ()))

def handleSocketClose (event : CloseEvent) : Call Unit := do
  modify fun t => { t with socket := none }
  let gatewayServiceRestart := resolveGatewayServiceRestartCloseInfo event.code event.reason
  let message :=
    if gatewayServiceRestart ≠ none then gatewayServiceRestartReconnectMessage
    else if event.reason.length > 0 then event.reason
    else "Sandbox websocket connection closed."
  modify fun t => { t with errorMessage := some message }
  rejectPendingOpens (.message message)
  markAllStreamsTransportClosed message gatewayServiceRestart
  emit (.emits (.close event gatewayServiceRestart))

def handleSocketError : Call Unit := do
  modify fun t => { t with errorMessage := some "Sandbox websocket connection failed." }
  rejectPendingOpens (.message "Sandbox websocket connection failed.")
  markAllStreamsTransportClosed "Sandbox websocket connection failed." none
  emit (.emits (.error "Sandbox websocket connection failed."))

/-! ### Opening a stream -/

def getInitialSendWindowBytes : StreamChannel → Nat
  | .agent => maxStreamWindowBytes
  | _ => defaultStreamWindowBytes

/-- `openStream`, up to its waiting for an answer. -/
def openStream (channel : StreamChannel) : Call Unit := do
  let t ← get
  match t.openSocket? with
  | none => throw "Sandbox session transport is not connected."
  | some n =>
    let streamId := t.nextStreamId
    modify fun t => { t with nextStreamId := streamId + 1 }
    modifyStream streamId fun _ => .new
    modify fun t => { t with
      activeStreamsByStreamId :=
        t.activeStreamsByStreamId.set streamId (getInitialSendWindowBytes channel) }
    modify fun t => { t with pendingOpensByStreamId := t.pendingOpensByStreamId.set streamId () }
    emit (.sendsControl n (.streamOpen streamId channel))

/-- The timer of an open. -/
def handleOpenTimeout (streamId : Nat) : Call Unit := do
  deletePendingOpen streamId
  settleOpen (.error (.message
    s!"Timed out waiting for stream.open acknowledgement for stream {streamId}.")) streamId

/-- The send of a `stream.open` fails, with the text of the error where it is one. -/
def handleOpenSendFailure (streamId : Nat) (error : Option String) : Call Unit := do
  match (← get).pendingOpensByStreamId.get? streamId with
  | none => pure ()
  | some _ =>
    deletePendingOpen streamId
    settleOpen (.error (.message (error.getD "Failed to send stream.open request."))) streamId

/-- `openStream`, when its promise is settled. -/
def continueOpenStream (streamId : Nat) (result : Except OpenFailure Unit) : Call Unit := do
  modify fun t => { t with settledOpens := t.settledOpens.delete streamId }
  match result with
  | .ok () => markOpen streamId
  | .error _ =>
    deleteActiveStream streamId
    dispose streamId
  emit (.opens streamId result)

/-! ### Sending -/

def sendTextMessage (payload : String) : Call Unit := do
  match (← get).openSocket? with
  | none => throw "Sandbox session transport is not connected."
  | some n => emit (.sendsText n payload)

/-- The socket that is open and the send window of a stream that is. -/
def requireOpenStream (streamId : Nat) : Call (Nat × Nat) := do
  let t ← get
  match t.openSocket? with
  | none => throw "Sandbox session transport is not connected."
  | some n =>
    match t.activeStreamsByStreamId.get? streamId with
    | none => throw s!"Sandbox session stream {streamId} is not open."
    | some sendWindowBytes =>
      if (t.streams streamId).state ≠ .opened then
        throw s!"Sandbox session stream {streamId} is not open."
      return (n, sendWindowBytes)

def sendControlForStream (streamId : Nat) (message : OutboundControl) : Call Unit := do
  let (n, _) ← requireOpenStream streamId
  emit (.sendsControl n (withStreamId message streamId))

def sendDataFrameForStream (streamId : Nat) (payload : List UInt8) (payloadKind : JsNumber) :
    Call Unit := do
  let (n, sendWindowBytes) ← requireOpenStream streamId
  if payloadKind ≠ .int SessionProtocol.payloadKindRawBytes ∧
      payloadKind ≠ .int SessionProtocol.payloadKindWebSocketText ∧
      payloadKind ≠ .int SessionProtocol.payloadKindWebSocketBinary then
    throw s!"Sandbox session payload kind '{payloadKind}' is not supported."
  if payload.length > sendWindowBytes then
    throw "Sandbox session stream send window is exhausted."
  modify fun t => { t with
    activeStreamsByStreamId :=
      t.activeStreamsByStreamId.set streamId (sendWindowBytes - payload.length) }
  let encoded ← ofExcept (encodeDataFrame (.int streamId) payloadKind payload)
  emit (.sendsBinary n encoded)

/-! ### Messages of a socket -/

def handleOpenResult (streamId : Nat) (controlMessage : StreamControlMessage)
    (openError : Option (String × String)) : Call Unit := do
  match (← get).pendingOpensByStreamId.get? streamId with
  | none => emit (.emits (.unhandledControl controlMessage))
  | some _ =>
    deletePendingOpen streamId
    match openError with
    | none => settleOpen (.ok ()) streamId
    | some (code, message) =>
      match (← get).activeStreamsByStreamId.get? streamId with
      | none => pure ()
      | some _ =>
        deleteActiveStream streamId
        markClosed streamId message
      settleOpen (.error (.openError code message)) streamId

/-- A control message for a stream that is active, with the stream's send window. -/
def handleStreamControl (controlMessage : StreamControlMessage) (streamId sendWindowBytes : Nat) :
    Call Unit :=
  match controlMessage with
  | .streamWindow _ bytes => do
    if sendWindowBytes + bytes > maxStreamWindowBytes then
      closeTransportWithError ("Sandbox session stream send window exceeds the configured " ++
        s!"maximum of {maxStreamWindowBytes} bytes.")
    else
      modify fun t => { t with
        activeStreamsByStreamId :=
          t.activeStreamsByStreamId.set streamId (sendWindowBytes + bytes) }
      emitControl streamId controlMessage
  | .streamReset _ code message => do
    deleteActiveStream streamId
    emitControl streamId controlMessage
    markReset streamId code message
  | .streamComplete _ => do
    deleteActiveStream streamId
    emitControl streamId controlMessage
    markClosed streamId s!"Sandbox session stream {streamId} completed."
  | _ => emitControl streamId controlMessage

def handleControlMessage (controlMessage : StreamControlMessage) : Call Unit :=
  match controlMessage with
  | .streamOpenOk streamId => handleOpenResult streamId controlMessage none
  | .streamOpenError streamId code message =>
    handleOpenResult streamId controlMessage (some (code, message))
  | controlMessage => do
    match (← get).activeStreamsByStreamId.get? controlMessage.streamId with
    | none => emit (.emits (.unhandledControl controlMessage))
    | some sendWindowBytes =>
      handleStreamControl controlMessage controlMessage.streamId sendWindowBytes

def sendReceiveWindowUpdate (streamId bytes : Nat) : Call Unit := do
  match (← get).openSocket? with
  | none => pure ()
  | some n =>
    if bytes = 0 then return
    modify fun t => { t with grantsInFlight := t.grantsInFlight + 1 }
    emit (.sendsControl n (.streamWindow streamId bytes))

def handleSocketMessage (inbound : Inbound) : Call Unit :=
  match inbound with
  | .control message => handleControlMessage message
  | .otherControl text => emit (.emits (.unhandledOtherControl text))
  | .invalidText =>
    closeTransportWithError "Sandbox websocket text payload was not a valid control message."
  | .unsupported =>
    closeTransportWithError "Sandbox websocket message payload type is not supported."
  | .binary encoded =>
    match decodeDataFrame encoded with
    | .error error => closeTransportWithError error
    | .ok dataFrame => do
      match (← get).activeStreamsByStreamId.get? dataFrame.streamId with
      | none => emit (.emits (.unhandledData dataFrame))
      | some _ =>
        sendReceiveWindowUpdate dataFrame.streamId dataFrame.payload.length
        emitData dataFrame.streamId dataFrame

/-! ### Steps -/

/-- What a step is about: a call of a holder, an event of a socket, a timer, the end of a send, or
    an `openStream` that goes on. -/
inductive TransportInput where
  | connect (created : Except String Unit)
  | disconnect (closeCode : Option Nat) (reason : Option String)
  | openStream (channel : StreamChannel)
  | sendTextMessage (payload : String)
  | sendControl (streamId : Nat) (message : OutboundControl)
  | sendDataFrame (streamId : Nat) (payload : List UInt8) (payloadKind : JsNumber)
  | listens (streamId listener : Nat)
  | unlistens (streamId listener : Nat)
  | disposes (streamId : Nat)
  | socketOpens (n : Nat)
  /-- The other end begins to close. -/
  | socketCloseBegins (n : Nat)
  /-- The error event; the socket is closing by then, or closed. -/
  | socketErrors (n : Nat) (isClosed : Bool)
  | socketCloses (n : Nat) (event : CloseEvent)
  | receives (n : Nat) (inbound : Inbound)
  | connectTimesOut (n : Nat)
  | openTimesOut (streamId : Nat)
  | openSendFails (streamId : Nat) (error : Option String)
  | grantSent
  | grantSendFails
  | openStreamGoesOn (streamId : Nat)

/-- An event of a socket that the transport and `connect` both listen to, the transport first. -/
def handleSocketEvent (n : Nat) (handler : Call Unit) (error : String) : Call Unit := do
  if ((← get).sockets n).attached then handler
  finishWithFailure n error

/-- Whether the surroundings allow an input. -/
def Transport.allows (t : Transport) : TransportInput → Bool
  | .listens streamId _ | .unlistens streamId _ | .disposes streamId
  | .sendControl streamId _ | .sendDataFrame streamId _ _ =>
    0 < streamId ∧ streamId < t.nextStreamId
  | .socketOpens n => (t.sockets n).readyState = .connecting
  | .socketCloseBegins n => (t.sockets n).readyState = .opened
  | .socketErrors n _ | .socketCloses n _ => !(t.sockets n).ended
  | .receives n _ => (t.sockets n).attached && !(t.sockets n).ended &&
      (t.sockets n).readyState ≠ .connecting
  | .connectTimesOut n => (t.sockets n).awaited
  | .openTimesOut streamId => t.pendingOpensByStreamId.has streamId
  | .grantSent | .grantSendFails => 0 < t.grantsInFlight
  | .openStreamGoesOn streamId => t.settledOpens.has streamId
  | _ => true

def react : TransportInput → Call Unit
  | .connect created => connect created
  | .disconnect closeCode reason => disconnect closeCode reason
  | .openStream channel => openStream channel
  | .sendTextMessage payload => sendTextMessage payload
  | .sendControl streamId message => sendControlForStream streamId message
  | .sendDataFrame streamId payload payloadKind =>
    sendDataFrameForStream streamId payload payloadKind
  | .listens streamId listener => listen streamId listener
  | .unlistens streamId listener => unlisten streamId listener
  | .disposes streamId => dispose streamId
  | .socketOpens n => do
    modifySocket n ({ · with readyState := .opened })
    handleOpen n
  | .socketCloseBegins n => modifySocket n ({ · with readyState := .closing })
  | .socketErrors n isClosed => do
    modifySocket n ({ · with readyState := if isClosed then .closed else .closing })
    handleSocketEvent n handleSocketError "Sandbox websocket connection failed."
  | .socketCloses n event => do
    modifySocket n ({ · with readyState := .closed, ended := true })
    handleSocketEvent n (handleSocketClose event)
      "Sandbox websocket connection closed before it opened."
  | .receives _ inbound => handleSocketMessage inbound
  | .connectTimesOut n => finishWithFailure n "Sandbox websocket connection timed out."
  | .openTimesOut streamId => handleOpenTimeout streamId
  | .openSendFails streamId error => handleOpenSendFailure streamId error
  | .grantSent => modify fun t => { t with grantsInFlight := t.grantsInFlight - 1 }
  | .grantSendFails => do
    modify fun t => { t with grantsInFlight := t.grantsInFlight - 1 }
    closeTransportWithError "Failed to send sandbox session stream.window acknowledgement."
  | .openStreamGoesOn streamId => do
    match (← get).settledOpens.get? streamId with
    | none => pure ()
    | some result => continueOpenStream streamId result

/-- One step: the input is allowed, and the call runs. -/
def step (t : Transport) (input : TransportInput) : Option (Transport × List TransportOutput) :=
  if t.allows input then
    let outcome := react input t
    match outcome.result with
    | .ok () => some (outcome.state, outcome.emitted)
    | .error error => some (outcome.state, outcome.emitted ++ [.fails error])
  else none

/-- A step of the transport, as a relation. -/
def Steps (t : Transport) (input : TransportInput) (out : List TransportOutput) (t' : Transport) :
    Prop :=
  step t input = some (t', out)

end SessionClient

end Mistle
