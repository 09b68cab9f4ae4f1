import Mistle.Tunnel.Connection

/-!
# The Egress Token Provider

One provider hands out the tokens that the egress proxy shows to the gateway. It
keeps the last token, and asks the tunnel session that is attached for a new one.
A call of `token` takes the lock twice, once to look and once to store, and waits for
the session in between; what the lock guards may change meanwhile, and a counter of
generations tells.

## Main definitions

* `GatewayEgressTokenProviderState`: What the lock guards.
* `setActingUserId`, `attach`, `detach`, `providerSnapshot`, `storeToken`: Its
  operations.
* `TokenCall`, `TokenSession`, `TokenState`: The callers and the sessions beside it.
* `tokenStep`: A step of any of them.

## Theorems

* `recordEgressTokenEvent_table`, `handleEgressTokenSessionRequest_table`,
  `handleEgressTokenControlMessage_table`: Who waits, and who is given a token.
-/

namespace Mistle

open Handler

/-- A tunnel session, as the provider knows it. -/
abbrev SessionId := Nat

structure CachedEgressToken where
  token : TunnelEgressToken
  storedAt : Nat
  cacheTtlMs : Nat
  sourceRequestId : String
  deriving DecidableEq

/-- What the provider's lock guards. The generation is a `u64`. -/
structure GatewayEgressTokenProviderState where
  generation : Nat
  requestSender : Option SessionId
  actingUserId : Option String
  cachedToken : Option CachedEgressToken
  deriving DecidableEq

/-- What a call of `token` takes with it when it has to ask. -/
structure TokenSnapshot where
  generation : Nat
  requestSender : SessionId
  actingUserId : Option String
  deriving DecidableEq

inductive GatewayEgressTokenProviderSnapshot where
  | cached (token : TunnelEgressToken)
  | request (snapshot : TokenSnapshot)

def egressTokenRefreshSkewMs : Nat := 30000

/-- The greatest `u64`, where adding stops. -/
def lastGeneration : Nat := UInt64.size - 1

namespace GatewayEgressTokenProviderState

def new (actingUserId : Option String) : GatewayEgressTokenProviderState where
  generation := 0
  requestSender := none
  actingUserId := actingUserId
  cachedToken := none

/-- `generation.saturating_add(1)`. -/
def nextGeneration (state : GatewayEgressTokenProviderState) : Nat :=
  min (state.generation + 1) lastGeneration

def setActingUserId (actingUserId : Option String) (state : GatewayEgressTokenProviderState) :
    GatewayEgressTokenProviderState :=
  if state.actingUserId = actingUserId then state
  else { state with generation := state.nextGeneration, actingUserId, cachedToken := none }

def attach (requestSender : SessionId) (state : GatewayEgressTokenProviderState) :
    GatewayEgressTokenProviderState :=
  { state with
    generation := state.nextGeneration, requestSender := some requestSender, cachedToken := none }

def detach (state : GatewayEgressTokenProviderState) : GatewayEgressTokenProviderState :=
  { state with generation := state.nextGeneration, requestSender := none, cachedToken := none }

def cachedTokenFromState (now : Nat) (state : GatewayEgressTokenProviderState) :
    Option TunnelEgressToken :=
  match state.cachedToken with
  | none => none
  | some cached =>
    let elapsedMs := min (now - cached.storedAt) lastGeneration
    if elapsedMs ≥ cached.cacheTtlMs then none else some cached.token

def providerSnapshot (now : Nat) (state : GatewayEgressTokenProviderState) :
    Except TunnelSessionError GatewayEgressTokenProviderSnapshot :=
  match state.cachedTokenFromState now with
  | some token => .ok (.cached token)
  | none =>
    match state.requestSender with
    | none => .error (.egressToken
        "gateway egress token provider is not attached to the bootstrap session")
    | some requestSender => .ok (.request {
        generation := state.generation, requestSender, actingUserId := state.actingUserId })

/-- Keep a token, unless the generation is no longer the one it was asked for in. -/
def storeToken (token : TunnelEgressToken) (requestId : String) (requestGeneration now : Nat)
    (state : GatewayEgressTokenProviderState) :
    Except TunnelSessionError Unit × GatewayEgressTokenProviderState :=
  if state.generation ≠ requestGeneration then
    (.error (.egressToken
      s!"egress token request {requestId} completed after provider generation changed"), state)
  else (.ok (), { state with cachedToken := some {
    cacheTtlMs := token.ttlMs - egressTokenRefreshSkewMs
    token
    storedAt := now
    sourceRequestId := requestId } })

end GatewayEgressTokenProviderState

/-! ### Callers and sessions -/

/-- The request of a call. -/
structure TokenRequest extends TokenSnapshot where
  requestId : String
  deriving DecidableEq

/-- How far a call of `token` is. A call that waits has the answers that were sent to
    it and not yet received. -/
inductive TokenCall where
  | idle
  | snapshotted (snapshot : TokenSnapshot)
  | numbered (request : TokenRequest)
  | waiting (request : TokenRequest) (answers : List (Except TunnelSessionError TunnelEgressToken))
  | answered (request : TokenRequest) (token : TunnelEgressToken)
  | returned

/-- A token request in the channel of a session. -/
structure QueuedTokenRequest where
  requestId : String
  actingUserId : Option String
  responseSender : ResponseSender

/-- A session: its channel, and the state its handlers work on. -/
structure TokenSession where
  queue : List QueuedTokenRequest
  accepts : Bool
  state : TunnelSessionMutableState

/-- The provider, its callers and the sessions. Callers are numbered like the senders
    that answer them. -/
structure TokenState where
  provider : GatewayEgressTokenProviderState
  nextRequestId : UInt64
  calls : ResponseSender → TokenCall
  sessions : SessionId → TokenSession

def TokenState.initial (actingUserId : Option String) : TokenState where
  provider := .new actingUserId
  nextRequestId := 1
  calls _ := .idle
  sessions _ := { queue := [], accepts := true, state := .fresh .open none [] }

inductive TokenInput where
  | setActingUserId (actingUserId : Option String)
  | attach (session : SessionId)
  | detach
  /-- A call of `token` looks at the provider. -/
  | look (call : ResponseSender) (now : Nat)
  /-- It takes a number, sends its request, and receives an answer or gives up. -/
  | number (call : ResponseSender)
  | send (call : ResponseSender)
  | receive (call : ResponseSender)
  | timeOut (call : ResponseSender)
  /-- It takes the lock again and stores its token. -/
  | store (call : ResponseSender) (now : Nat)
  /-- A session handles a request, a message of the gateway, or anything else. -/
  | request (session : SessionId) (world : World)
  | message (session : SessionId) (world : World) (message : EgressTokenControlMessage)
  | other (session : SessionId) (state : TunnelSessionMutableState)
  /-- A connection of a session ends and another one starts. -/
  | failPending (session : SessionId) (ending : String)
  | connect (session : SessionId) (state : TunnelSessionMutableState)
  /-- A session is gone, and its channel with it. -/
  | close (session : SessionId)

/-- What a call of `token` returns. -/
structure TokenOutput where
  call : ResponseSender
  result : Except TunnelSessionError TunnelEgressToken

def requestIdText (number : UInt64) : String := s!"egress_token_req_{number}"

namespace TokenState

def setCall (st : TokenState) (call : ResponseSender) (next : TokenCall) : TokenState :=
  { st with calls := Function.update st.calls call next }

/-- Pass on what the handlers of a session answered; a call that no longer waits has
    dropped its receiver. -/
def deliver (st : TokenState) : List TunnelEffect → TokenState
  | [] => st
  | .answerEgressToken sender result :: effects =>
    match st.calls sender with
    | .waiting request answers =>
      deliver (st.setCall sender (.waiting request (answers ++ [result]))) effects
    | _ => deliver st effects
  | _ :: effects => deliver st effects

def setSession (st : TokenState) (session : SessionId) (next : TokenSession) : TokenState :=
  { st with sessions := Function.update st.sessions session next }

/-- A handler of a session runs. If it fails, its connection does not go on, which is
    a step of its own. -/
def handle {α : Type} (st : TokenState) (session : SessionId) (queue : List QueuedTokenRequest)
    (handler : Session α) : TokenState :=
  let outcome := handler (st.sessions session).state
  (st.setSession session { st.sessions session with queue, state := outcome.state }).deliver
    outcome.emitted

def look (st : TokenState) (call : ResponseSender) (now : Nat) :
    TokenState × List TokenOutput :=
  match st.provider.providerSnapshot now with
  | .error error => (st.setCall call .returned, [⟨call, .error error⟩])
  | .ok (.cached token) => (st.setCall call .returned, [⟨call, .ok token⟩])
  | .ok (.request snapshot) => (st.setCall call (.snapshotted snapshot), [])

def send (st : TokenState) (call : ResponseSender) (request : TokenRequest) :
    TokenState × List TokenOutput :=
  let session := st.sessions request.requestSender
  if session.accepts then
    let queued := ⟨request.requestId, request.actingUserId, call⟩
    ((st.setSession request.requestSender { session with queue := session.queue ++ [queued] }).setCall
      call (.waiting request []), [])
  else (st.setCall call .returned, [⟨call, .error (.egressToken "channel closed")⟩])

def timedOut (requestId : String) : TunnelSessionError :=
  .egressToken s!"egress token request {requestId} timed out or disconnected: timed out"

def store (st : TokenState) (call : ResponseSender) (request : TokenRequest)
    (token : TunnelEgressToken) (now : Nat) : TokenState × List TokenOutput :=
  let (result, provider) :=
    st.provider.storeToken token request.requestId request.generation now
  ({ st with provider }.setCall call .returned, [⟨call, result.map fun _ => token⟩])

end TokenState

section

variable (context : TunnelSessionLoopContext)

/-- A step, if its input fits the state. Every other handler of a session leaves the
    table of waiting token requests alone. -/
def tokenStep (st : TokenState) : TokenInput → Option (TokenState × List TokenOutput)
  | .setActingUserId actingUserId =>
    some ({ st with provider := st.provider.setActingUserId actingUserId }, [])
  | .attach session => some ({ st with provider := st.provider.attach session }, [])
  | .detach => some ({ st with provider := st.provider.detach }, [])
  | .look call now =>
    match st.calls call with
    | .idle => some (st.look call now)
    | _ => none
  | .number call =>
    match st.calls call with
    | .snapshotted snapshot =>
      some ({ st with nextRequestId := st.nextRequestId + 1 }.setCall call
        (.numbered { snapshot with requestId := requestIdText st.nextRequestId }), [])
    | _ => none
  | .send call =>
    match st.calls call with
    | .numbered request => some (st.send call request)
    | _ => none
  | .receive call =>
    match st.calls call with
    | .waiting request (.ok token :: _) => some (st.setCall call (.answered request token), [])
    | .waiting _ (.error error :: _) => some (st.setCall call .returned, [⟨call, .error error⟩])
    | _ => none
  | .timeOut call =>
    match st.calls call with
    | .waiting request [] =>
      some (st.setCall call .returned, [⟨call, .error (TokenState.timedOut request.requestId)⟩])
    | _ => none
  | .store call now =>
    match st.calls call with
    | .answered request token => some (st.store call request token now)
    | _ => none
  | .request session world =>
    match (st.sessions session).queue with
    | [] => none
    | queued :: queue =>
      some (st.handle session queue (handleEgressTokenSessionRequest context world queued.requestId
        queued.actingUserId queued.responseSender), [])
  | .message session world message =>
    some (st.handle session (st.sessions session).queue
      (handleEgressTokenControlMessage context world message), [])
  | .other session state =>
    let pendingEgressTokenRequests := (st.sessions session).state.pendingEgressTokenRequests
    some (st.setSession session { st.sessions session with
      state := { state with pendingEgressTokenRequests } }, [])
  | .failPending session ending =>
    some (st.handle session (st.sessions session).queue (failPendingRequests ending), [])
  | .connect session state =>
    some (st.setSession session { st.sessions session with
      state := { state with pendingEgressTokenRequests := ∅ } }, [])
  | .close session =>
    some (st.setSession session { st.sessions session with queue := [], accepts := false }, [])

theorem TokenState.setCall_self (st : TokenState) (call : ResponseSender) (next : TokenCall) :
    (st.setCall call next).calls call = next := Function.update_self _ _ _

theorem TokenState.setCall_ne (st : TokenState) {call other : ResponseSender} (h : other ≠ call)
    (next : TokenCall) : (st.setCall call next).calls other = st.calls other :=
  Function.update_of_ne h _ _

theorem TokenState.setSession_self (st : TokenState) (session : SessionId) (next : TokenSession) :
    (st.setSession session next).sessions session = next := Function.update_self _ _ _

theorem TokenState.setSession_ne (st : TokenState) {session other : SessionId}
    (h : other ≠ session) (next : TokenSession) :
    (st.setSession session next).sessions other = st.sessions other :=
  Function.update_of_ne h _ _

/-- The steps of the provider with its callers and sessions. -/
abbrev TokenSteps (st : TokenState) (input : TokenInput) (out : List TokenOutput)
    (st' : TokenState) : Prop := tokenStep context st input = some (st', out)

end

/-! ### Who waits and who is given a token -/

/-- The table of waiting requests gains only what is `added`, and a token goes only to a
    request that waits or is added, and only one that is `granted` to its id. -/
def tokenTable (added : String → ResponseSender → Prop)
    (granted : String → TunnelEgressToken → Prop) :
    Trail TunnelSessionMutableState TunnelEffect where
  rel s out t :=
    (∀ id sender, t.pendingEgressTokenRequests[id]? = some sender →
      s.pendingEgressTokenRequests[id]? = some sender ∨ added id sender) ∧
    ∀ sender token, .answerEgressToken sender (.ok token) ∈ out → ∃ id, granted id token ∧
      (s.pendingEgressTokenRequests[id]? = some sender ∨ added id sender)
  refl s := ⟨fun _ _ h => .inl h, fun _ _ h => absurd h List.not_mem_nil⟩
  comp := by
    rintro a b c u v ⟨htable, hanswers⟩ ⟨htable', hanswers'⟩
    have hwaits : ∀ id sender, (b.pendingEgressTokenRequests[id]? = some sender ∨ added id sender) →
        (a.pendingEgressTokenRequests[id]? = some sender ∨ added id sender) := by
      rintro id sender (h | h)
      · exact htable id sender h
      · exact .inr h
    refine ⟨fun id sender h => hwaits id sender (htable' id sender h), fun sender token h => ?_⟩
    rcases List.mem_append.mp h with h | h
    · exact hanswers sender token h
    · rcases hanswers' sender token h with ⟨id, hgranted, hid⟩
      exact ⟨id, hgranted, hwaits id sender hid⟩

section

variable {added : String → ResponseSender → Prop} {granted : String → TunnelEgressToken → Prop}

theorem modify_table {f : TunnelSessionMutableState → TunnelSessionMutableState}
    (h : ∀ st, (f st).pendingEgressTokenRequests = st.pendingEgressTokenRequests) :
    Follows (tokenTable added granted) (modify f : Session Unit) :=
  Follows.modify fun st => ⟨fun id sender hid => .inl (by rwa [h st] at hid),
    fun _ _ h => absurd h List.not_mem_nil⟩

theorem emit_table {effect : TunnelEffect}
    (h : ∀ sender token, effect ≠ .answerEgressToken sender (.ok token)) :
    Follows (tokenTable added granted) (emit effect : Session Unit) :=
  Follows.emit fun _ => ⟨fun _ _ h => .inl h, fun sender token hmem =>
    absurd (List.mem_singleton.mp hmem).symm (h sender token)⟩

theorem sendToWriter_table (message : TunnelWriterMessage) :
    Follows (tokenTable added granted) (sendToWriter message) := by
  refine Follows.read fun st => ?_
  split
  · exact Follows.pure _ st
  · refine Follows.bind (modify_table (by intro; rfl)) (fun _ => ?_) st
    refine Follows.bind (emit_table fun _ _ => ?_) fun _ => Follows.pure _
    simp only [ne_eq, reduceCtorEq, not_false_eq_true]

theorem writeTunnelText_table (message : OutboundMessage) :
    Follows (tokenTable added granted) (writeTunnelText message) := by
  refine Follows.bind (sendToWriter_table _) fun sent => ?_
  cases sent with
  | true => exact Follows.pure _
  | false => exact Follows.throw _

theorem writeTunnelBinary_table (frame : StreamDataFrame) :
    Follows (tokenTable added granted) (writeTunnelBinary frame) := by
  refine Follows.bind (sendToWriter_table _) fun sent => ?_
  cases sent with
  | true => exact Follows.pure _
  | false => exact Follows.throw _

theorem answerClose_table (sender : Option ResponseSender) (result : Except String Unit) :
    Follows (tokenTable added granted) (answerClose sender result) := by
  cases sender with
  | none => exact Follows.pure _
  | some sender =>
      refine emit_table fun _ _ => ?_
      simp only [ne_eq, reduceCtorEq, not_false_eq_true]

theorem flushForClose_table (sender : Option ResponseSender) :
    Follows (tokenTable added granted) (flushForClose sender) := by
  cases sender with
  | none => exact Follows.pure _
  | some sender =>
      refine Follows.bind (Follows.attempt (Follows.bind (sendToWriter_table _) fun sent => ?_))
        fun _ => Follows.pure _
      cases sent with
      | true => exact Follows.pure _
      | false => exact Follows.bind (answerClose_table (some sender) _) fun _ => Follows.throw _

theorem closeOperationStreamIfDrained_table :
    Follows (tokenTable added granted) closeOperationStreamIfDrained := by
  refine Follows.read fun st => ?_
  split
  · exact Follows.pure _ st
  · refine Follows.bind (modify_table (by intro; rfl)) (fun _ => ?_) st
    split
    · refine Follows.bind (Follows.attempt (writeTunnelText_table _)) fun result => ?_
      cases result with
      | error error =>
          exact Follows.bind (answerClose_table _ _) fun _ => modify_table (by intro; rfl)
      | ok => exact Follows.bind (flushForClose_table _) fun _ => modify_table (by intro; rfl)
    · exact Follows.bind (answerClose_table _ _) fun _ => modify_table (by intro; rfl)

theorem flushRecords_table (lines : List String) :
    Follows (tokenTable added granted) (flushRecords lines) := by
  induction lines with
  | nil => exact Follows.pure _
  | cons line rest ih =>
      refine Follows.read fun st => ?_
      split
      · exact Follows.pure _ st
      split
      · exact Follows.pure _ st
      · refine Follows.bind (modify_table (by intro; rfl)) (fun _ => ?_) st
        refine Follows.bind (Follows.attempt (writeTunnelBinary_table _)) fun result => ?_
        cases result with
        | ok => exact ih
        | error error => exact Follows.bind (modify_table (by intro; rfl)) fun _ => Follows.pure _

theorem recordEgressTokenEvent_table (context : TunnelSessionLoopContext) (world : World)
    (event requestId : String) (extraFields : Fields) :
    Follows (tokenTable added granted)
      (recordEgressTokenEvent context world event requestId extraFields) := by
  have hrecord : ∀ line, Follows (tokenTable added granted) (recordOperation line) := by
    intro line
    refine Follows.bind (Follows.read fun st => ?_) fun _ => Follows.read fun st => ?_
    · split
      · exact Follows.pure _ st
      · exact modify_table (by intro; rfl) st
    · split
      · exact Follows.pure _ st
      · refine Follows.bind (flushRecords_table _) (fun dry => ?_) st
        cases dry with
        | true => exact closeOperationStreamIfDrained_table
        | false => exact Follows.pure _
  refine Follows.read fun st => ?_
  split
  · exact Follows.pure _ st
  split
  · exact Follows.pure _ st
  split
  · exact Follows.pure _ st
  · exact hrecord _ st

/-- An answer that is no token, or one that is granted. -/
theorem answerPendingEgressToken_table (requestId : String)
    (result : Except TunnelSessionError TunnelEgressToken)
    (h : ∀ token, result = .ok token → granted requestId token) :
    Follows (tokenTable added granted) (answerPendingEgressToken requestId result) := by
  intro st
  unfold FollowsFrom answerPendingEgressToken
  rw [bind_ok (get_apply st)]
  cases hsender : st.pendingEgressTokenRequests[requestId]? with
  | none => exact (tokenTable added granted).refl st
  | some sender =>
      refine ⟨fun id other hid => .inl ?_, fun other token hmem => ?_⟩
      · have herased : (st.pendingEgressTokenRequests.erase requestId)[id]? = some other := hid
        rw [Std.ExtTreeMap.getElem?_erase] at herased
        by_cases hsame : compare requestId id = .eq
        · rw [if_pos hsame] at herased
          exact absurd herased (by simp only [reduceCtorEq, not_false_eq_true])
        · rwa [if_neg hsame] at herased
      · have heffect : TunnelEffect.answerEgressToken other (.ok token)
            ∈ [TunnelEffect.answerEgressToken sender result] := hmem
        rw [List.mem_singleton, TunnelEffect.answerEgressToken.injEq] at heffect
        exact ⟨requestId, h token heffect.2.symm, .inl (heffect.1 ▸ hsender)⟩

/-- A request may come to wait, and is given no token. -/
theorem handleEgressTokenSessionRequest_table (context : TunnelSessionLoopContext) (world : World)
    (requestId : String) (actingUserId : Option String) (sender : ResponseSender)
    (h : added requestId sender) :
    Follows (tokenTable added granted)
      (handleEgressTokenSessionRequest context world requestId actingUserId sender) := by
  have hrefuse : ∀ error, Follows (tokenTable added granted)
      (emit (.answerEgressToken sender (.error error)) : Session Unit) := by
    intro error
    refine emit_table fun _ _ => ?_
    simp only [ne_eq, TunnelEffect.answerEgressToken.injEq, reduceCtorEq, and_false,
      not_false_eq_true]
  have hinsert : Follows (tokenTable added granted) (modify fun st => { st with
      pendingEgressTokenRequests := st.pendingEgressTokenRequests.insert requestId sender } :
        Session Unit) := by
    refine Follows.modify fun st => ⟨fun id other hid => ?_,
      fun _ _ h => absurd h List.not_mem_nil⟩
    have hinserted : (st.pendingEgressTokenRequests.insert requestId sender)[id]? = some other := hid
    rw [Std.ExtTreeMap.getElem?_insert] at hinserted
    by_cases hsame : compare requestId id = .eq
    · rw [if_pos hsame, Option.some.injEq] at hinserted
      rw [← hinserted, ← Std.LawfulEqCmp.eq_of_compare hsame]
      exact .inr h
    · rw [if_neg hsame] at hinserted
      exact .inl hinserted
  refine Follows.read fun st => ?_
  split
  · exact hrefuse _ st
  split
  · exact hrefuse _ st
  · refine Follows.bind (recordEgressTokenEvent_table _ _ _ _ _) (fun _ => ?_) st
    refine Follows.bind hinsert fun _ => ?_
    refine Follows.bind (Follows.attempt (writeTunnelText_table _)) fun result => ?_
    cases result with
    | ok => exact Follows.pure _
    | error error =>
        refine Follows.bind (answerPendingEgressToken_table _ _ fun token htoken => ?_) fun _ =>
          Follows.bind (recordEgressTokenEvent_table _ _ _ _ _) fun _ => Follows.throw _
        exact absurd htoken (by simp only [reduceCtorEq, not_false_eq_true])

/-- A message of the gateway gives its token to the request it names. -/
theorem handleEgressTokenControlMessage_table (context : TunnelSessionLoopContext) (world : World)
    (message : EgressTokenControlMessage)
    (h : ∀ response, message = .response response →
      granted response.requestId ⟨response.token, response.expiresAt, response.ttlMs⟩) :
    Follows (tokenTable added granted)
      (handleEgressTokenControlMessage context world message) := by
  cases message with
  | request _ => exact Follows.pure _
  | response response =>
      refine Follows.bind (answerPendingEgressToken_table _ _ fun token htoken => ?_)
        fun answered => ?_
      · rw [← Except.ok.inj htoken]
        exact h response rfl
      · split
        · exact recordEgressTokenEvent_table _ _ _ _ _
        · exact Follows.pure _
  | error error =>
      refine Follows.bind (answerPendingEgressToken_table _ _ fun token htoken => ?_)
        fun answered => ?_
      · exact absurd htoken (by simp only [reduceCtorEq, not_false_eq_true])
      · split
        · exact recordEgressTokenEvent_table _ _ _ _ _
        · exact Follows.pure _

/-- The end of a connection gives nobody a token. -/
theorem failPendingRequests_table (ending : String) :
    Follows (tokenTable added granted) (failPendingRequests ending) := by
  refine Follows.read fun st => ?_
  refine Follows.bind (modify_table (by intro; rfl)) (fun _ => ?_) st
  refine Follows.bind (Follows.forEach fun sender _ => emit_table fun _ _ => ?_) fun _ => ?_
  · simp only [ne_eq, reduceCtorEq, not_false_eq_true]
  refine Follows.bind (Follows.modify fun st => ⟨fun id sender hid => ?_,
    fun _ _ h => absurd h List.not_mem_nil⟩) fun _ => Follows.forEach fun sender _ =>
      emit_table fun _ _ => ?_
  · have hempty : (∅ : Std.ExtTreeMap String ResponseSender)[id]? = some sender := hid
    rw [Std.ExtTreeMap.getElem?_empty] at hempty
    exact absurd hempty (by simp only [reduceCtorEq, not_false_eq_true])
  · simp only [ne_eq, TunnelEffect.answerEgressToken.injEq, reduceCtorEq, and_false,
      not_false_eq_true]

end

end Mistle
