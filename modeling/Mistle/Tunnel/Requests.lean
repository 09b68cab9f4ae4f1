import Mistle.Tunnel.Operation

/-!
# Signing Requests, Egress Tokens and PTY Sessions

A signing request or a request for an egress token goes out under an id of its
own and waits in a table for the gateway's answer. A PTY session runs in a
thread of its own, which writes on the tunnel by itself and not through the loop.

## Main definitions

* `handleSigningSessionRequest`, `handleSigningControlMessage`: Signing.
* `handleEgressTokenSessionRequest`, `handleEgressTokenControlMessage`: Tokens.
* `handlePtySessionControlMessage`, `PtyTransportOutcome.message`: PTY sessions.

## Theorems

* `handleSigningSessionRequest_footprint`, `handleEgressTokenControlMessage_footprint`
  and their like: Requests touch no stream but the operation stream.
-/

namespace Mistle

open Handler

structure TunnelSigningRequest where
  requestId : String
  organizationId : String
  sandboxInstanceId : String
  actingUserId : String
  providerFamily : String
  integrationConnectionId : Option String
  format : String
  keyRef : String
  grant : String
  payloadBase64 : String
  deriving DecidableEq

/-- The message of a signing request. -/
def TunnelSigningRequest.message (request : TunnelSigningRequest) : SigningRequest where
  messageType := "signing.request"
  requestId := request.requestId
  organizationId := request.organizationId
  sandboxInstanceId := request.sandboxInstanceId
  actingUserId := request.actingUserId
  providerFamily := request.providerFamily
  integrationConnectionId := request.integrationConnectionId
  format := request.format
  keyRef := request.keyRef
  grant := request.grant
  payload := request.payloadBase64
  encoding := "base64"

/-- Answer a signing request that is still waiting. -/
def answerPendingSigning (requestId : String)
    (result : Except TunnelSessionError TunnelSigningResponse) : Session Unit := do
  let st ← get
  match st.pendingSigningRequests[requestId]? with
  | none => return ()
  | some sender =>
    modify fun st => { st with
      pendingSigningRequests := st.pendingSigningRequests.erase requestId }
    emit (.answerSigning sender result)

def handleSigningSessionRequest (request : TunnelSigningRequest) (sender : ResponseSender) :
    Session Unit := do
  let st ← get
  if isBlank request.requestId then
    emit (.answerSigning sender (.error (.signing "signing request id is required")))
  else if st.pendingSigningRequests.contains request.requestId then
    emit (.answerSigning sender (.error (.signing "duplicate signing request id")))
  else
    modify fun st => { st with
      pendingSigningRequests := st.pendingSigningRequests.insert request.requestId sender }
    match ← attempt (writeTunnelText (.signingRequest request.message)) with
    | .ok () => return ()
    | .error error =>
      answerPendingSigning request.requestId (.error (.signing error.display))
      throw error

def handleSigningControlMessage (message : SigningControlMessage) : Session Unit :=
  match message with
  | .request _ => return ()
  | .resultSuccess result =>
      answerPendingSigning result.requestId (.ok (.success result.requestId result.signature))
  | .resultFailure result =>
      answerPendingSigning result.requestId
        (.ok (.failure result.requestId result.code result.message))

/-! ### Egress tokens -/

/-- Answer a token request that is still waiting; `false` if none is. -/
def answerPendingEgressToken (requestId : String)
    (result : Except TunnelSessionError TunnelEgressToken) : Session Bool := do
  let st ← get
  match st.pendingEgressTokenRequests[requestId]? with
  | none => return false
  | some sender =>
    modify fun st => { st with
      pendingEgressTokenRequests := st.pendingEgressTokenRequests.erase requestId }
    emit (.answerEgressToken sender result)
    return true

section

variable (context : TunnelSessionLoopContext) (world : World)

def handleEgressTokenSessionRequest (requestId : String) (actingUserId : Option String)
    (sender : ResponseSender) : Session Unit := do
  let st ← get
  if isBlank requestId then
    emit (.answerEgressToken sender (.error (.egressToken "egress token request id is required")))
  else if st.pendingEgressTokenRequests.contains requestId then
    emit (.answerEgressToken sender (.error (.egressToken "duplicate egress token request id")))
  else
    recordEgressTokenEvent context world "egress_token_request_started" requestId []
    modify fun st => { st with
      pendingEgressTokenRequests := st.pendingEgressTokenRequests.insert requestId sender }
    match ← attempt (writeTunnelText (.egressTokenRequest
        { messageType := "egress.token.request", requestId, actingUserId })) with
    | .ok () => return ()
    | .error error =>
      let _ ← answerPendingEgressToken requestId (.error (.egressToken error.display))
      recordEgressTokenEvent context world "egress_token_request_failed" requestId
        [("error", .str error.display)]
      throw error

def handleEgressTokenControlMessage (message : EgressTokenControlMessage) : Session Unit := do
  match message with
  | .request _ => return ()
  | .response response =>
    if ← answerPendingEgressToken response.requestId (.ok
        { token := response.token, expiresAt := response.expiresAt, ttlMs := response.ttlMs }) then
      recordEgressTokenEvent context world "egress_token_request_completed" response.requestId
        [("expiresAt", .str response.expiresAt), ("ttlMs", .int response.ttlMs)]
    else return ()
  | .error error =>
    if ← answerPendingEgressToken error.requestId
        (.error (.egressToken (error.code ++ ": " ++ error.message))) then
      recordEgressTokenEvent context world "egress_token_request_failed" error.requestId
        [("code", .str error.code), ("error", .str error.message)]
    else return ()

end

/-! ### PTY sessions -/

def handlePtySessionControlMessage (message : PtySessionControlMessage) : Session Unit := do
  match message with
  | .open message =>
    let st ← get
    emit (.task (.spawnPty message st.runtimeEnv))
  | .opened _ | .error _ => return ()

/-- How the start of a direct PTY transport ended. -/
inductive PtyTransportOutcome where
  | attachUnsupported
  | createFailed (error : String)
  | attachFailed (error : String)
  | opened
  deriving DecidableEq

/-- What the thread of a PTY session writes. -/
def PtyTransportOutcome.message (requestId ptySessionId : String) :
    PtyTransportOutcome → OutboundMessage
  | attachUnsupported => .ptySessionError requestId ptySessionId "pty_attach_failed"
    "direct PTY transport does not support attaching to an existing PTY session"
  | createFailed error => .ptySessionError requestId ptySessionId "pty_create_failed" error
  | attachFailed error => .ptySessionError requestId ptySessionId "pty_attach_failed" error
  | opened => .ptySessionOpened requestId ptySessionId

/-! ### Footprints -/

section

variable {scope : Scope}
variable (context : TunnelSessionLoopContext) (world : World)

theorem answerSigning_footprint (sender : ResponseSender)
    (result : Except TunnelSessionError TunnelSigningResponse) :
    Follows (footprint scope) (emit (.answerSigning sender result) : Session Unit) :=
  emit_footprint fun t h => absurd h (by simp only [TunnelEffect.streamId?, reduceCtorEq,
    not_false_eq_true])

theorem answerEgressToken_footprint (sender : ResponseSender)
    (result : Except TunnelSessionError TunnelEgressToken) :
    Follows (footprint scope) (emit (.answerEgressToken sender result) : Session Unit) :=
  emit_footprint fun t h => absurd h (by simp only [TunnelEffect.streamId?, reduceCtorEq,
    not_false_eq_true])

/-- A text that names no stream. -/
theorem writeTunnelText_off {message : OutboundMessage} (hid : message.streamId? = none) :
    Follows (footprint scope) (writeTunnelText message) :=
  writeTunnelText_footprint fun t h => absurd (hid.symm.trans h) (by
    simp only [reduceCtorEq, not_false_eq_true])

theorem answerPendingSigning_footprint (requestId : String)
    (result : Except TunnelSessionError TunnelSigningResponse) :
    Follows (footprint scope) (answerPendingSigning requestId result) := by
  refine Follows.read fun st => ?_
  split
  · exact Follows.pure _ st
  · exact Follows.bind modify_footprint (fun _ => answerSigning_footprint _ _) st

theorem handleSigningSessionRequest_footprint (request : TunnelSigningRequest)
    (sender : ResponseSender) :
    Follows (footprint scope) (handleSigningSessionRequest request sender) := by
  refine Follows.read fun st => ?_
  split
  · exact answerSigning_footprint _ _ st
  split
  · exact answerSigning_footprint _ _ st
  · refine Follows.bind modify_footprint (fun _ => ?_) st
    refine Follows.bind (Follows.attempt (writeTunnelText_off rfl)) fun result => ?_
    cases result with
    | ok => exact Follows.pure _
    | error error =>
        exact Follows.bind (answerPendingSigning_footprint _ _) fun _ => Follows.throw _

theorem handleSigningControlMessage_footprint (message : SigningControlMessage) :
    Follows (footprint scope) (handleSigningControlMessage message) := by
  cases message with
  | request message => exact Follows.pure _
  | resultSuccess message => exact answerPendingSigning_footprint _ _
  | resultFailure message => exact answerPendingSigning_footprint _ _

theorem answerPendingEgressToken_footprint (requestId : String)
    (result : Except TunnelSessionError TunnelEgressToken) :
    Follows (footprint scope) (answerPendingEgressToken requestId result) := by
  refine Follows.read fun st => ?_
  split
  · exact Follows.pure _ st
  · exact Follows.bind modify_footprint (fun _ => Follows.bind (answerEgressToken_footprint _ _)
      fun _ => Follows.pure _) st

theorem handlePtySessionControlMessage_footprint (message : PtySessionControlMessage) :
    Follows (footprint scope) (handlePtySessionControlMessage message) := by
  cases message with
  | «open» message => exact Follows.read fun st => task_footprint _ st
  | opened message => exact Follows.pure _
  | error message => exact Follows.pure _

variable (hstream : scope.streams sandboxOperationStreamId) (hoperation : scope.operation)

include hstream hoperation

theorem handleEgressTokenSessionRequest_footprint (requestId : String)
    (actingUserId : Option String) (sender : ResponseSender) :
    Follows (footprint scope)
      (handleEgressTokenSessionRequest context world requestId actingUserId sender) := by
  refine Follows.read fun st => ?_
  split
  · exact answerEgressToken_footprint _ _ st
  split
  · exact answerEgressToken_footprint _ _ st
  · refine Follows.bind (recordEgressTokenEvent_footprint hstream hoperation _ _ _ _ _)
      (fun _ => ?_) st
    refine Follows.bind modify_footprint fun _ => ?_
    refine Follows.bind (Follows.attempt (writeTunnelText_off rfl)) fun result => ?_
    cases result with
    | ok => exact Follows.pure _
    | error error =>
        exact Follows.bind (answerPendingEgressToken_footprint _ _) fun _ =>
          Follows.bind (recordEgressTokenEvent_footprint hstream hoperation _ _ _ _ _)
            fun _ => Follows.throw _

theorem handleEgressTokenControlMessage_footprint (message : EgressTokenControlMessage) :
    Follows (footprint scope) (handleEgressTokenControlMessage context world message) := by
  have hanswer : ∀ (requestId event : String) result fields, Follows (footprint scope) (do
      if ← answerPendingEgressToken requestId result then
        recordEgressTokenEvent context world event requestId fields
      else return () : Session Unit) := by
    intro requestId event result fields
    refine Follows.bind (answerPendingEgressToken_footprint _ _) fun answered => ?_
    cases answered with
    | true => exact recordEgressTokenEvent_footprint hstream hoperation _ _ _ _ _
    | false => exact Follows.pure _
  cases message with
  | request message => exact Follows.pure _
  | response message => exact hanswer _ _ _ _
  | error message => exact hanswer _ _ _ _

end

end Mistle
