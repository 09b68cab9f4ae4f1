import Mistle.Tunnel.Agent

/-!
# Port Access Streams

Port access relays HTTP requests and TCP connections from the gateway to ports
inside the sandbox. Each stream is a task of its own; the loop holds the task's
command channel, hands the gateway's messages to it and writes what it reports.

The loop drops a stream when the gateway closes it or when its task reports an
end. A task may have reports under way then, and all of them but
`tcpInputWindow` are written without asking whether the stream is still there.

## Main definitions

* `portAccessStreamIsActive`: Whether a stream is in any table.
* `handlePortsControlMessage`: The check of a target port.
* `handlePortsTransportMessage`: A message of the gateway.
* `handlePortAccessTransportEvent`: A report of a task.
* `handlePortAccessTcpDataFrame`: A data frame of the gateway.

## Theorems

* `count_eq_zero_of_not_active`: A stream that is not active is in no table.
* `handlePortsTransportMessage_footprint`, `handlePortAccessTransportEvent_footprint`,
  `handlePortAccessTcpDataFrame_footprint`: Each serves its stream only.
-/

namespace Mistle

open Handler

inductive PortAccessTransportEvent where
  | httpResponseStart (message : PortsHttpResponseStart)
  | httpBodyChunk (message : PortsHttpBodyChunk)
  | httpBodyEnd (message : PortsHttpBodyEnd)
  | tcpConnected (message : PortsTcpConnected)
  | tcpData (streamId : StreamId) (bytes : List UInt8)
  | tcpInputWindow (streamId : StreamId) (bytes : Nat)
  | tcpClose (message : PortsTcpClose)
  | tcpError (message : PortsTcpError)
  | streamError (message : PortsStreamError)
  deriving DecidableEq

def PortAccessTransportEvent.streamId : PortAccessTransportEvent → StreamId
  | httpResponseStart message => message.streamId
  | httpBodyChunk message => message.streamId
  | httpBodyEnd message => message.streamId
  | tcpConnected message => message.streamId
  | tcpData streamId _ => streamId
  | tcpInputWindow streamId _ => streamId
  | tcpClose message => message.streamId
  | tcpError message => message.streamId
  | streamError message => message.streamId

def PortAccessTcpStreamState.new : PortAccessTcpStreamState where
  requestWindow := default
  requestClosed := false
  responseClosed := false

def tunnelStreamIsActive (st : TunnelSessionMutableState) (streamId : StreamId) : Bool :=
  st.agentStreams.contains streamId || st.pendingAgentOpens.contains streamId
    || st.pendingExecOpens.contains streamId || st.processStreams.sendWindows.contains streamId
    || st.fileSearchStreams.contains streamId || st.fileUploads.contains streamId

def portAccessStreamIsActive (st : TunnelSessionMutableState) (streamId : StreamId) : Bool :=
  st.portAccessHttpStreams.contains streamId || st.portAccessTcpStreams.contains streamId
    || tunnelStreamIsActive st streamId

theorem count_eq_zero_of_not_active {st : TunnelSessionMutableState} {streamId : StreamId}
    (h : portAccessStreamIsActive st streamId = false) : (st.entries streamId).count = 0 := by
  simp only [portAccessStreamIsActive, tunnelStreamIsActive, Bool.or_eq_false_iff,
    Std.ExtTreeMap.contains_eq_isSome_getElem?] at h
  simp only [StreamEntries.count, TunnelSessionMutableState.entries, h, Bool.toNat_false]

/-! ### Closing -/

/-- Change the TCP stream's flag and drop the stream once both are set. -/
def closeTcpDirection (streamId : StreamId)
    (mark : PortAccessTcpStreamState → PortAccessTcpStreamState) : Session Unit := do
  modify fun st => { st with
    portAccessTcpStreams := st.portAccessTcpStreams.modify streamId mark }
  let st ← get
  match st.portAccessTcpStreams[streamId]? with
  | none => return ()
  | some state =>
    if state.requestClosed && state.responseClosed then
      modify fun st => { st with
        portAccessTcpStreams := st.portAccessTcpStreams.erase streamId }
    else return ()

def markPortAccessTcpDirectionClosed (streamId : StreamId) (direction : String) :
    Session Unit :=
  match direction with
  | "request" => closeTcpDirection streamId fun state => { state with requestClosed := true }
  | "response" => closeTcpDirection streamId fun state => { state with responseClosed := true }
  | _ => return ()

def closePortAccessTcpStreams : Session Unit := do
  let st ← get
  modify fun st => { st with portAccessTcpStreams := ∅ }
  each (fun streamId => emit (.task (.tcp streamId .terminate))) st.portAccessTcpStreams.keys

def terminatePortAccessTcpStream (streamId : StreamId) : Session Unit := do
  let st ← get
  match st.portAccessTcpStreams[streamId]? with
  | none => return ()
  | some _ =>
    modify fun st => { st with portAccessTcpStreams := st.portAccessTcpStreams.erase streamId }
    emit (.task (.tcp streamId .terminate))

section

variable (context : TunnelSessionLoopContext) (world : World)

/-! ### Handlers -/

def handlePortsControlMessage (message : PortsTargetAuthorize) : Session Unit := do
  match world.authorizeTargetPort with
  | .error error => throw (.portAccess error)
  | .ok (.authorized upstreamProtocol websocketCapable) =>
      writeTunnelText (.portsTargetAuthorizeSuccessResult message.requestId upstreamProtocol
        websocketCapable)
  | .ok (.rejected reason) =>
    if reason = portAccessAuthorizeReasonPortUnreachable
        ∨ reason = portAccessAuthorizeReasonUnsupportedProtocol then
      writeTunnelText (.portsTargetAuthorizeFailureResult message.requestId reason)
    else throw (.portAccess s!"unknown port access authorize rejection reason: {reason}")

/-- What a report changes before it is written. -/
def applyPortAccessTransportEvent : PortAccessTransportEvent → Session Unit
  | .httpBodyEnd message =>
    modify fun st => { st with
      portAccessHttpStreams := st.portAccessHttpStreams.erase message.streamId }
  | .tcpClose message => markPortAccessTcpDirectionClosed message.streamId message.direction
  | .tcpError message =>
    modify fun st => { st with
      portAccessTcpStreams := st.portAccessTcpStreams.erase message.streamId }
  | .streamError message => do
    modify fun st => { st with
      portAccessHttpStreams := st.portAccessHttpStreams.erase message.streamId }
    modify fun st => { st with
      portAccessTcpStreams := st.portAccessTcpStreams.erase message.streamId }
  | _ => return ()

/-- What a report writes. -/
def writePortAccessTransportEvent : PortAccessTransportEvent → Session Unit
  | .httpResponseStart message => writeTunnelText (.portsHttpResponseStart message)
  | .httpBodyChunk message => writeTunnelText (.portsHttpBodyChunk message)
  | .httpBodyEnd message => writeTunnelText (.portsHttpBodyEnd message)
  | .tcpConnected message => writeTunnelText (.portsTcpConnected message)
  | .tcpData streamId bytes =>
    match checkedFrame streamId payloadKindRawBytes bytes with
    | .error error => throw (.portAccess error.message)
    | .ok frame => writeTunnelBinary frame
  | .tcpInputWindow streamId bytes => do
    let st ← get
    match st.portAccessTcpStreams[streamId]? with
    | none => return ()
    | some state =>
      match state.requestWindow.add bytes with
      | .error error => throw (.portAccess error.message)
      | .ok window =>
        modify fun st => { st with
          portAccessTcpStreams := st.portAccessTcpStreams.modify streamId fun state =>
            { state with requestWindow := window } }
        writeTunnelText (.streamWindow streamId bytes)
  | .tcpClose message => writeTunnelText (.portsTcpClose message)
  | .tcpError message => writeTunnelText (.portsTcpError message)
  | .streamError message => writeTunnelText (.portsStreamError message)

def handlePortAccessTransportEvent (event : PortAccessTransportEvent) : Session Unit := do
  applyPortAccessTransportEvent event
  writePortAccessTransportEvent event

/-- Send a command to the task of a TCP stream, if it still listens. -/
def sendTcpCommand (streamId : StreamId) (command : PortAccessTcpCommand) : Session Unit := do
  if world.tcpListens then emit (.task (.tcp streamId command))
  else throw (.portAccess channelClosed)

/-- Send a command to the task of an HTTP stream, if it still listens. -/
def sendHttpCommand (streamId : StreamId) (command : PortAccessHttpCommand) : Session Unit := do
  if world.httpListens then emit (.task (.http streamId command))
  else throw (.portAccess channelClosed)

/-- A message that only `sandboxd` sends. -/
def mustNotBeSent (messageType : String) (streamId : StreamId) : Session Unit :=
  throw (.portAccess
    s!"{messageType} streamId {streamId} must not be sent from the gateway to sandboxd")

def mustUseRequestDirection (messageType : String) (streamId : StreamId) : Session Unit :=
  throw (.portAccess
    s!"{messageType} streamId {streamId} must use request direction when sent to sandboxd")

def notBound (messageType : String) (streamId : StreamId) (stream : String) : Session Unit :=
  throw (.portAccess
    s!"{messageType} streamId {streamId} is not bound to an active port access {stream} stream")

def alreadyExists (messageType : String) (streamId : StreamId) : Session Unit :=
  throw (.portAccess s!"{messageType} streamId {streamId} already exists")

def handlePortsTransportMessage (message : PortsTransportMessage) : Session Unit := do
  let st ← get
  match message with
  | .tcpOpen message =>
    if portAccessStreamIsActive st message.streamId then
      alreadyExists "ports.tcp.open" message.streamId
    else
      emit (.task (.spawnTcp message))
      modify fun st => { st with
        portAccessTcpStreams := st.portAccessTcpStreams.insert message.streamId .new }
  | .tcpConnected message => mustNotBeSent "ports.tcp.connected" message.streamId
  | .tcpClose message =>
    if message.direction ≠ "request" then
      mustUseRequestDirection "ports.tcp.close" message.streamId
    else match st.portAccessTcpStreams[message.streamId]? with
      | none => notBound "ports.tcp.close" message.streamId "tcp"
      | some _ => sendTcpCommand world message.streamId (.close message.direction)
  | .tcpError message => mustNotBeSent "ports.tcp.error" message.streamId
  | .httpOpen message =>
    if portAccessStreamIsActive st message.streamId then
      alreadyExists "ports.http.open" message.streamId
    else
      emit (.task (.spawnHttp message))
      modify fun st => { st with
        portAccessHttpStreams := st.portAccessHttpStreams.insert message.streamId () }
  | .httpBodyChunk message =>
    if message.direction ≠ "request" then
      mustUseRequestDirection "ports.http.body.chunk" message.streamId
    else match st.portAccessHttpStreams[message.streamId]? with
      | none => notBound "ports.http.body.chunk" message.streamId "http"
      | some _ =>
        match context.decodeBase64 message.bytes with
        | .error error => throw (.portAccess error)
        | .ok bytes => sendHttpCommand world message.streamId (.requestBodyChunk bytes)
  | .httpBodyEnd message =>
    if message.direction ≠ "request" then
      mustUseRequestDirection "ports.http.body.end" message.streamId
    else match st.portAccessHttpStreams[message.streamId]? with
      | none => notBound "ports.http.body.end" message.streamId "http"
      | some _ => sendHttpCommand world message.streamId .requestBodyEnd
  | .streamClose message =>
    match st.portAccessHttpStreams[message.streamId]? with
    | some _ =>
      modify fun st => { st with
        portAccessHttpStreams := st.portAccessHttpStreams.erase message.streamId }
      sendHttpCommand world message.streamId .close
    | none =>
      match st.portAccessTcpStreams[message.streamId]? with
      | some _ =>
        modify fun st => { st with
          portAccessTcpStreams := st.portAccessTcpStreams.erase message.streamId }
        sendTcpCommand world message.streamId .terminate
      | none => notBound "ports.stream.close" message.streamId "transport"
  | .httpResponseStart message => mustNotBeSent "ports.http.response.start" message.streamId
  | .streamError message => mustNotBeSent "ports.stream.error" message.streamId

/-- Reset a TCP stream over a frame it does not take. -/
def rejectPortAccessTcpFrame (streamId : StreamId) (code reason : String) : Session Unit := do
  writeTunnelText (.streamReset streamId code reason)
  terminatePortAccessTcpStream streamId

def handlePortAccessTcpDataFrame (frame : StreamDataFrame) : Session Unit := do
  if frame.payloadKind ≠ payloadKindRawBytes then
    rejectPortAccessTcpFrame frame.streamId streamResetCodeInvalidStreamData
      "port access tcp stream only accepts raw byte data frames"
  else
    let st ← get
    match st.portAccessTcpStreams[frame.streamId]? with
    | none => return ()
    | some state =>
      match state.requestWindow.tryConsume frame.payload.length with
      | none =>
          rejectPortAccessTcpFrame frame.streamId streamResetCodeStreamWindowExhausted
            "port access tcp request stream window is exhausted"
      | some window =>
        modify fun st => { st with
          portAccessTcpStreams := st.portAccessTcpStreams.modify frame.streamId fun state =>
            { state with requestWindow := window } }
        sendTcpCommand world frame.streamId (.data frame.payload)

end

/-! ### Footprints -/

section

variable {scope : Scope}
variable (context : TunnelSessionLoopContext) (world : World)

theorem closeTcpDirection_footprint {streamId : StreamId} (h : scope.streams streamId)
    (mark : PortAccessTcpStreamState → PortAccessTcpStreamState) :
    Follows (footprint scope) (closeTcpDirection streamId mark) := by
  refine Follows.bind (StreamTable.portAccessTcpStreams.modify_footprint h mark) fun _ => ?_
  refine Follows.read fun st => ?_
  split
  · exact Follows.pure _ st
  · split
    · exact StreamTable.portAccessTcpStreams.erase_footprint h st
    · exact Follows.pure _ st

theorem markPortAccessTcpDirectionClosed_footprint {streamId : StreamId}
    (h : scope.streams streamId) (direction : String) :
    Follows (footprint scope) (markPortAccessTcpDirectionClosed streamId direction) := by
  unfold markPortAccessTcpDirectionClosed
  split
  · exact closeTcpDirection_footprint h _
  · exact closeTcpDirection_footprint h _
  · exact Follows.pure _

theorem terminatePortAccessTcpStream_footprint {streamId : StreamId}
    (h : scope.streams streamId) :
    Follows (footprint scope) (terminatePortAccessTcpStream streamId) := by
  refine Follows.read fun st => ?_
  split
  · exact Follows.pure _ st
  · exact Follows.bind (StreamTable.portAccessTcpStreams.erase_footprint h)
      (fun _ => task_footprint _) st

theorem closePortAccessTcpStreams_footprint {st : TunnelSessionMutableState}
    (h : ∀ t, (st.entries t).portAccessTcpStream.isSome → scope.streams t) :
    FollowsFrom (footprint scope) closePortAccessTcpStreams st := by
  refine FollowsFrom.read ?_
  refine FollowsFrom.bind
    (StreamTable.portAccessTcpStreams.shrink_from (fun _ => ∅) (fun t ht => ?_) fun t ht => ?_)
    fun _ _ => Follows.forEach (fun _ _ => task_footprint _) _
  · have hnone : (st.entries t).portAccessTcpStream = none :=
      Option.not_isSome_iff_eq_none.mp fun hsome => ht (h t hsome)
    rw [Std.ExtTreeMap.getElem?_empty]
    exact hnone.symm
  · rw [Std.ExtTreeMap.getElem?_empty] at ht
    exact absurd ht (by simp only [Option.isSome_none, Bool.false_eq_true, not_false_eq_true])

theorem handlePortsControlMessage_footprint (message : PortsTargetAuthorize) :
    Follows (footprint scope) (handlePortsControlMessage world message) := by
  have hwrite : ∀ {text : OutboundMessage}, text.streamId? = none →
      Follows (footprint scope) (writeTunnelText text) := fun hid =>
    writeTunnelText_footprint fun t ht => by
      rw [hid] at ht
      exact absurd ht (by simp only [reduceCtorEq, not_false_eq_true])
  unfold handlePortsControlMessage
  split
  · exact Follows.throw _
  · exact hwrite rfl
  · split
    · exact hwrite rfl
    · exact Follows.throw _

theorem applyPortAccessTransportEvent_footprint {event : PortAccessTransportEvent}
    (h : scope.streams event.streamId) :
    Follows (footprint scope) (applyPortAccessTransportEvent event) := by
  cases event with
  | httpBodyEnd message => exact StreamTable.portAccessHttpStreams.erase_footprint h
  | tcpClose message => exact markPortAccessTcpDirectionClosed_footprint h _
  | tcpError message => exact StreamTable.portAccessTcpStreams.erase_footprint h
  | streamError message =>
      exact Follows.bind (StreamTable.portAccessHttpStreams.erase_footprint h)
        fun _ => StreamTable.portAccessTcpStreams.erase_footprint h
  | _ => exact Follows.pure _

theorem writePortAccessTransportEvent_footprint {event : PortAccessTransportEvent}
    (h : scope.streams event.streamId) :
    Follows (footprint scope) (writePortAccessTransportEvent event) := by
  cases event with
  | tcpData streamId bytes =>
      dsimp only [writePortAccessTransportEvent]
      cases hframe : checkedFrame streamId payloadKindRawBytes bytes with
      | error error => exact Follows.throw _
      | ok frame =>
          refine writeTunnelBinary_footprint ?_
          rw [(checkedFrame_ok hframe).2]
          exact h
  | tcpInputWindow streamId bytes =>
      refine Follows.read fun st => ?_
      split
      · exact Follows.pure _ st
      · split
        · exact Follows.throw _ st
        · exact Follows.bind (StreamTable.portAccessTcpStreams.modify_footprint h _)
            (fun _ => writeTunnelText_on rfl h) st
  | _ => exact writeTunnelText_on rfl h

theorem handlePortAccessTransportEvent_footprint {event : PortAccessTransportEvent}
    (h : scope.streams event.streamId) :
    Follows (footprint scope) (handlePortAccessTransportEvent event) :=
  Follows.bind (applyPortAccessTransportEvent_footprint h)
    fun _ => writePortAccessTransportEvent_footprint h

theorem sendTcpCommand_footprint (streamId : StreamId) (command : PortAccessTcpCommand) :
    Follows (footprint scope) (sendTcpCommand world streamId command) := by
  unfold sendTcpCommand
  split
  · exact task_footprint _
  · exact Follows.throw _

theorem sendHttpCommand_footprint (streamId : StreamId) (command : PortAccessHttpCommand) :
    Follows (footprint scope) (sendHttpCommand world streamId command) := by
  unfold sendHttpCommand
  split
  · exact task_footprint _
  · exact Follows.throw _

theorem handlePortsTransportMessage_footprint {message : PortsTransportMessage}
    (h : scope.streams message.streamId) :
    Follows (footprint scope) (handlePortsTransportMessage context world message) := by
  refine Follows.read fun st => ?_
  cases message with
  | tcpOpen message =>
      dsimp only
      split
      · exact Follows.throw _ st
      · rename_i hfree
        refine FollowsFrom.bind (task_footprint _ st) fun _ _ => ?_
        exact StreamTable.portAccessTcpStreams.insert_from h
          (count_eq_zero_of_not_active (Bool.eq_false_iff.mpr hfree)) _
  | tcpConnected message => exact Follows.throw _ st
  | tcpClose message =>
      dsimp only
      split
      · exact Follows.throw _ st
      split
      · exact Follows.throw _ st
      · exact sendTcpCommand_footprint _ _ _ st
  | tcpError message => exact Follows.throw _ st
  | httpOpen message =>
      dsimp only
      split
      · exact Follows.throw _ st
      · rename_i hfree
        refine FollowsFrom.bind (task_footprint _ st) fun _ _ => ?_
        exact StreamTable.portAccessHttpStreams.insert_from h
          (count_eq_zero_of_not_active (Bool.eq_false_iff.mpr hfree)) _
  | httpBodyChunk message =>
      dsimp only
      split
      · exact Follows.throw _ st
      split
      · exact Follows.throw _ st
      split
      · exact Follows.throw _ st
      · exact sendHttpCommand_footprint _ _ _ st
  | httpBodyEnd message =>
      dsimp only
      split
      · exact Follows.throw _ st
      split
      · exact Follows.throw _ st
      · exact sendHttpCommand_footprint _ _ _ st
  | streamClose message =>
      dsimp only
      split
      · exact Follows.bind (StreamTable.portAccessHttpStreams.erase_footprint h)
          (fun _ => sendHttpCommand_footprint _ _ _) st
      split
      · exact Follows.bind (StreamTable.portAccessTcpStreams.erase_footprint h)
          (fun _ => sendTcpCommand_footprint _ _ _) st
      · exact Follows.throw _ st
  | httpResponseStart message => exact Follows.throw _ st
  | streamError message => exact Follows.throw _ st

theorem rejectPortAccessTcpFrame_footprint {streamId : StreamId} (h : scope.streams streamId)
    (code reason : String) :
    Follows (footprint scope) (rejectPortAccessTcpFrame streamId code reason) :=
  Follows.bind (writeTunnelText_on rfl h)
    fun _ => terminatePortAccessTcpStream_footprint h

theorem handlePortAccessTcpDataFrame_footprint {frame : StreamDataFrame}
    (h : scope.streams frame.streamId) :
    Follows (footprint scope) (handlePortAccessTcpDataFrame world frame) := by
  unfold handlePortAccessTcpDataFrame
  split
  · exact rejectPortAccessTcpFrame_footprint h _ _
  · refine Follows.read fun st => ?_
    split
    · exact Follows.pure _ st
    · split
      · exact rejectPortAccessTcpFrame_footprint h _ _ st
      · exact Follows.bind (StreamTable.portAccessTcpStreams.modify_footprint h _)
          (fun _ => sendTcpCommand_footprint _ _ _) st

end

end Mistle
