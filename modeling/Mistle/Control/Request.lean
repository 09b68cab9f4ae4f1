import Mathlib.Tactic.Common
import Mistle.Lib.Handler

/-!
# Requests of the Control Socket

The daemon holds at most one sandbox state, and the control socket is what makes it
take one up or put it down. A request is served to its end before the next is read:
an activation starts a worker and waits for it, so between two requests no worker is
under way, and what a request does is one call over the state it finds.

What the steps behind a request come to is given with the request: whether the
sandbox could be initialised, refreshed or closed, and how many of the Git settings
were written before one failed. A Git identity is five settings of one file, and each
is written or taken out by a command of its own.

## Main definitions

* `ControlServerState`: What the server holds.
* `GitConfig`, `applyGitIdentity`: The Git settings and how an identity becomes them.
* `Outcomes`: What the steps behind a request come to.
* `beginShutdown`, `beginActivate`, `beginRefreshEgressRoutes`, `beginSign`: The requests.
* `serve`: One request and its response.
-/

namespace Mistle

namespace Control

inductive ActivationOperationKind where
  | start
  | resume
  | setupCheck
  | snapshot
  deriving DecidableEq

structure GitSigningConfig where
  format : String
  program : String
  keyRef : String
  organizationId : String
  providerFamily : String
  integrationConnectionId : Option String
  actingUserId : String
  grant : String
  deriving DecidableEq

structure GitIdentity where
  name : String
  email : String
  signing : Option GitSigningConfig
  deriving DecidableEq

inductive TransparentProxyExclusionKind where
  | cidr
  | host
  deriving DecidableEq

structure TransparentProxyExclusion where
  kind : TransparentProxyExclusionKind
  value : String
  reason : String
  deriving DecidableEq

/-- The one kind of bypass is by socket mark. -/
structure TransparentProxyConfiguration where
  passthroughBypassMark : UInt32
  exclusions : List TransparentProxyExclusion
  deriving DecidableEq

/-- An activation input. Runtime plans are only compared. -/
structure ActivationInput (Plan : Type) where
  operationKind : ActivationOperationKind
  bootstrapToken : String
  tunnelExchangeToken : String
  tunnelGatewayWsUrl : String
  runtimePlan : Plan
  actingUserId : Option String
  gitIdentity : Option GitIdentity
  transparentProxy : Option TransparentProxyConfiguration
  deriving DecidableEq

/-! ### Git settings -/

/-- The settings of the global Git configuration that an identity is written to. -/
structure GitConfig where
  userName : Option String
  userEmail : Option String
  gpgFormat : Option String
  gpgSshProgram : Option String
  userSigningkey : Option String
  deriving DecidableEq

/-- The settings an identity stands for. -/
def GitConfig.ofIdentity (identity : Option GitIdentity) : GitConfig :=
  let signing := identity.bind GitIdentity.signing
  { userName := identity.map GitIdentity.name
    userEmail := identity.map GitIdentity.email
    gpgFormat := signing.map GitSigningConfig.format
    gpgSshProgram := signing.map GitSigningConfig.program
    userSigningkey := signing.map GitSigningConfig.keyRef }

/-- The commands that write an identity, in order. A setting the identity does not have is
    taken out. -/
def gitIdentityCommands (identity : Option GitIdentity) : List (GitConfig → GitConfig) :=
  let written := GitConfig.ofIdentity identity
  [fun config => { config with userName := written.userName },
    fun config => { config with userEmail := written.userEmail },
    fun config => { config with gpgFormat := written.gpgFormat },
    fun config => { config with gpgSshProgram := written.gpgSshProgram },
    fun config => { config with userSigningkey := written.userSigningkey }]

/-- Run the commands up to the one that fails, if one does. -/
def applyGitIdentity (failure : Option (Fin 5 × String)) (identity : Option GitIdentity)
    (config : GitConfig) : GitConfig × Except String Unit :=
  match failure with
  | none => ((gitIdentityCommands identity).foldl (fun config command => command config) config,
      .ok ())
  | some (command, error) =>
    (((gitIdentityCommands identity).take command).foldl (fun config command => command config)
      config, .error error)

theorem applyGitIdentity_none (identity : Option GitIdentity) (config : GitConfig) :
    applyGitIdentity none identity config = (GitConfig.ofIdentity identity, .ok ()) :=
  rfl

/-- Settings that an identity stands for are not changed by writing it again, however far
    that gets. -/
theorem applyGitIdentity_again (failure : Option (Fin 5 × String)) (identity : Option GitIdentity) :
    (applyGitIdentity failure identity (GitConfig.ofIdentity identity)).1 =
      GitConfig.ofIdentity identity := by
  have hcommand : ∀ command ∈ gitIdentityCommands identity,
      command (GitConfig.ofIdentity identity) = GitConfig.ofIdentity identity := by
    intro command hmem
    simp only [gitIdentityCommands, List.mem_cons, List.not_mem_nil, or_false] at hmem
    rcases hmem with rfl | rfl | rfl | rfl | rfl <;> rfl
  have hfold : ∀ commands : List (GitConfig → GitConfig),
      (∀ command ∈ commands, command ∈ gitIdentityCommands identity) →
      commands.foldl (fun config command => command config) (GitConfig.ofIdentity identity) =
        GitConfig.ofIdentity identity := by
    intro commands
    induction commands with
    | nil => exact fun _ => rfl
    | cons command rest ih =>
      intro hmem
      rw [List.foldl_cons, hcommand command (hmem command List.mem_cons_self)]
      exact ih fun other hother => hmem other (List.mem_cons_of_mem _ hother)
  cases failure with
  | none => rfl
  | some failure => exact hfold _ fun _ hmem => List.mem_of_mem_take hmem

/-! ### The state -/

inductive ActivationPhase where
  | unactivated
  | activating
  | activated
  | failed (error : String)
  deriving DecidableEq

inductive SandboxdExecutionMode where
  | session
  | snapshot
  deriving DecidableEq

/-- A sandbox state that is held. Of what it consists of, a request only reads how it was
    started. -/
structure SandboxdState where
  executionMode : SandboxdExecutionMode
  deriving DecidableEq

/-- What the server holds, with the worker to be waited for and the Git settings. -/
structure ControlServerState (Plan : Type) where
  activationPhase : ActivationPhase
  activationInput : Option (ActivationInput Plan)
  sandboxdState : Option SandboxdState
  shutdownAfterActivation : Bool
  activationThread : Option (ActivationInput Plan)
  gitConfig : GitConfig
  deriving DecidableEq

def ControlServerState.initial (Plan : Type) (gitConfig : GitConfig) : ControlServerState Plan where
  activationPhase := .unactivated
  activationInput := none
  sandboxdState := none
  shutdownAfterActivation := false
  activationThread := none
  gitConfig := gitConfig

inductive ControlError where
  | readRequest (error : String)
  | invalidRequest (error : String)
  | verifyPeer (error : String)
  | startupRequestRejected (error : String)
  | initializeSandboxdState (error : String)
  | resumeSandboxdState (error : String)
  | closeSandboxdState (error : String)
  | responseError (error : String)
  | configureConnection (error : String)
  | serializeResponse (error : String)
  | writeResponse (error : String)
  | acceptConnection (error : String)
  | readHealthRequest (error : String)
  | writeHealthResponse (error : String)
  | acceptHealthConnection (error : String)
  | shutdownSend
  | controlStateLockPoisoned
  | initThreadLockPoisoned
  | serverThreadMissing
  | healthServerThreadMissing
  | serverPanicked
  | healthServerPanicked
  | initPanicked
  deriving DecidableEq

def ControlError.toString : ControlError → String
  | .readRequest error => s!"failed to read control socket request: {error}"
  | .invalidRequest error => s!"control socket request must be valid json: {error}"
  | .verifyPeer error => s!"control socket peer verification failed: {error}"
  | .startupRequestRejected error => s!"sandbox startup request was rejected: {error}"
  | .initializeSandboxdState error => s!"failed to initialize sandboxd state: {error}"
  | .resumeSandboxdState error => s!"failed to resume sandboxd state: {error}"
  | .closeSandboxdState error => s!"failed to close sandboxd state: {error}"
  | .responseError error => s!"control socket returned an error: {error}"
  | .configureConnection error => s!"failed to configure control socket connection: {error}"
  | .serializeResponse error => s!"failed to serialize control socket response: {error}"
  | .writeResponse error => s!"failed to write control socket response: {error}"
  | .acceptConnection error => s!"failed to accept control socket connection: {error}"
  | .readHealthRequest error => s!"failed to read health endpoint request: {error}"
  | .writeHealthResponse error => s!"failed to write health endpoint response: {error}"
  | .acceptHealthConnection error => s!"failed to accept health endpoint connection: {error}"
  | .shutdownSend => "failed to signal control socket shutdown"
  | .controlStateLockPoisoned => "control server state lock was poisoned"
  | .initThreadLockPoisoned => "control init thread lock was poisoned"
  | .serverThreadMissing => "control socket server thread was missing"
  | .healthServerThreadMissing => "health endpoint server thread was missing"
  | .serverPanicked => "control socket server panicked"
  | .healthServerPanicked => "health endpoint server panicked"
  | .initPanicked => "sandbox init worker panicked"

/-- What a request does to the sandbox. -/
inductive SandboxEffect where
  | activateNew
  | refresh
  | close
  | refreshEgressRoutes
  | requestSigning
  deriving DecidableEq

/-! ### Outcomes -/

inductive InitFailure where
  | error (text : String)
  | panicked (payload : String)
  deriving DecidableEq

/-- How far an initialisation gets: to the Git identity, through it, and to its end. -/
structure ActivateNewOutcome where
  beforeGit : Option InitFailure := none
  git : Option (Fin 5 × String) := none
  afterGit : Option InitFailure := none
  deriving DecidableEq

/-- How a refresh ends. One that fails late writes the accepted Git identity again, which
    may fail on its part. -/
inductive ActivateInitializedOutcome where
  | ok
  | failed (error : String)
  | failedAndRestored (error : String) (git : Option (Fin 5 × String))
  deriving DecidableEq

inductive TunnelSigningResponse where
  | success (requestId signatureBase64 : String)
  | failure (requestId code message : String)
  deriving DecidableEq

/-- What the steps behind a request come to. A request takes at most one of each. -/
structure Outcomes where
  activateNew : ActivateNewOutcome := {}
  activateInitialized : ActivateInitializedOutcome := .ok
  close : Except String Unit := .ok ()
  refreshEgressRoutes : Except String Unit := .ok ()
  sandboxInstanceId : Except String String := .ok ""
  requestId : String := "sign_req_0"
  requestSigning : Except String TunnelSigningResponse := .ok (.success "sign_req_0" "")

structure ControlSignRequest where
  keyRef : String
  payloadBase64 : String
  deriving DecidableEq

inductive ControlRequest (Plan : Type) where
  | ready
  | shutdown
  | activate (activationInput : ActivationInput Plan)
  | refreshEgressRoutes
  | sign (signRequest : ControlSignRequest)
  deriving DecidableEq

structure ControlResponse where
  ok : Bool
  error : Option String
  signatureBase64 : Option String
  deriving DecidableEq

/-! ### Initialising and refreshing -/

/-- `SandboxdState::activate_new`: a snapshot does not write the Git identity. -/
def activateNew {Plan : Type} (outcome : ActivateNewOutcome) (input : ActivationInput Plan)
    (config : GitConfig) : GitConfig × Except InitFailure SandboxdState :=
  match outcome.beforeGit with
  | some failure => (config, .error failure)
  | none =>
    let (config', git) :=
      if input.operationKind = .snapshot then (config, .ok ())
      else applyGitIdentity outcome.git input.gitIdentity config
    match git with
    | .error error =>
      (config', .error (.error s!"failed to apply git identity from session input: {error}"))
    | .ok () =>
      match outcome.afterGit with
      | some failure => (config', .error failure)
      | none => (config', .ok
          { executionMode := if input.operationKind = .snapshot then .snapshot else .session })

/-- `SandboxdState::activate_initialized`, which keeps the Git identity as it is. -/
def activateInitialized {Plan : Type} (outcome : ActivateInitializedOutcome)
    (sandboxdState : SandboxdState) (input accepted : ActivationInput Plan) (config : GitConfig) :
    GitConfig × Except String Unit :=
  if input.operationKind = .snapshot then
    (config, .error ("failed to start bootstrap tunnel session: snapshot materialization " ++
      "activation is only supported before sandboxd is initialized"))
  else if sandboxdState.executionMode = .snapshot then
    (config, .error ("failed to start bootstrap tunnel session: snapshot materialization " ++
      "sandboxes do not support activation"))
  else
    match outcome with
    | .ok => (config, .ok ())
    | .failed error => (config, .error error)
    | .failedAndRestored error git => ((applyGitIdentity git accepted.gitIdentity config).1,
        .error error)

section Requests

variable {Plan : Type}

abbrev Serving (Plan α : Type) := Handler ControlError (ControlServerState Plan) SandboxEffect α

/-! ### The worker -/

/-- What the worker does until it ends. -/
def runInitWorker (outcomes : Outcomes) (input : ActivationInput Plan) : Serving Plan Unit := do
  Handler.emit .activateNew
  let state ← Handler.get
  let (config, result) := activateNew outcomes.activateNew input state.gitConfig
  Handler.modify fun state => { state with gitConfig := config }
  match result with
  | .ok sandboxdState =>
    Handler.modify fun state =>
      { state with
        shutdownAfterActivation := decide (input.operationKind = .snapshot)
        sandboxdState := some sandboxdState
        activationPhase := .activated }
  | .error (.error text) => do
    Handler.modify fun state => { state with activationPhase := .failed text }
    Handler.throw (.initializeSandboxdState text)
  | .error (.panicked payload) => do
    Handler.modify fun state =>
      { state with activationPhase := .failed s!"sandbox activation worker panicked: {payload}" }
    Handler.throw .initPanicked

/-- A worker is started unless one is under way. -/
def startActivationInitWorker (input : ActivationInput Plan) : Serving Plan Unit :=
  Handler.modify fun state =>
    if state.activationThread.isSome then state
    else { state with activationThread := some input }

def joinActivationThread (outcomes : Outcomes) : Serving Plan Unit := do
  let state ← Handler.get
  match state.activationThread with
  | none => pure ()
  | some input => do
    Handler.modify fun state => { state with activationThread := none }
    runInitWorker outcomes input

/-- The phase once no activation is under way, which is so behind the worker. -/
def waitForActivationCompletion : Serving Plan ActivationPhase := do
  let state ← Handler.get
  return state.activationPhase

/-! ### Shutdown -/

def beginShutdown (outcomes : Outcomes) : Nat → Serving Plan Unit
  | 0 => pure ()
  | rounds + 1 => do
    let state ← Handler.get
    match state.activationPhase with
    | .unactivated => Handler.modify fun state => { state with activationInput := none }
    | .activating => do
      joinActivationThread outcomes
      let _ ← waitForActivationCompletion
      beginShutdown outcomes rounds
    | .activated | .failed _ => do
      Handler.modify fun state =>
        { state with activationInput := none, activationPhase := .unactivated, sandboxdState := none }
      match state.sandboxdState with
      | none => pure ()
      | some _ => do
        Handler.emit .close
        match outcomes.close with
        | .ok () => pure ()
        | .error error => do
          Handler.modify fun state =>
            { state with activationPhase := .failed s!"sandboxd shutdown failed: {error}" }
          Handler.throw (.closeSandboxdState error)

/-! ### Activation -/

def gitSigningDurableFieldsMatch (accepted candidate : GitSigningConfig) : Bool :=
  accepted.format = candidate.format && accepted.program = candidate.program &&
    accepted.keyRef = candidate.keyRef && accepted.organizationId = candidate.organizationId &&
    accepted.providerFamily = candidate.providerFamily &&
    accepted.integrationConnectionId = candidate.integrationConnectionId &&
    accepted.actingUserId = candidate.actingUserId

def resumeGitIdentityAfterRefresh :
    Option GitIdentity → Option GitIdentity → Except ControlError (Option GitIdentity)
  | none, none => .ok none
  | none, some _ => .error (.resumeSandboxdState "initialized resume cannot add Git identity")
  | some accepted, none => .ok (some accepted)
  | some accepted, some candidate =>
    if accepted.name ≠ candidate.name ∨ accepted.email ≠ candidate.email then
      .error (.resumeSandboxdState "initialized resume cannot change Git identity")
    else
      match accepted.signing, candidate.signing with
      | none, none => .ok (some accepted)
      | none, some _ =>
        .error (.resumeSandboxdState "initialized resume cannot add Git signing identity")
      | some _, none => .ok (some accepted)
      | some acceptedSigning, some candidateSigning =>
        if gitSigningDurableFieldsMatch acceptedSigning candidateSigning = false then
          .error (.resumeSandboxdState "initialized resume cannot change Git signing identity")
        else .ok (some
          { accepted with signing := some { acceptedSigning with grant := candidateSigning.grant } })

/-- The input that is recorded once a refresh succeeded. A resume keeps the accepted Git
    identity and takes over the grant; that it can was checked before. -/
def activationInputAfterRefresh (accepted input : ActivationInput Plan) : ActivationInput Plan :=
  if input.operationKind ≠ .resume then input
  else
    match resumeGitIdentityAfterRefresh accepted.gitIdentity input.gitIdentity with
    | .ok gitIdentity => { input with gitIdentity }
    | .error _ => input

variable [DecidableEq Plan]

def rejectUnsupportedActivatedActivationInput (accepted candidate : ActivationInput Plan) :
    Except ControlError Unit :=
  if accepted.runtimePlan ≠ candidate.runtimePlan then
    .error (.resumeSandboxdState "initialized activation cannot change runtime plan")
  else if candidate.operationKind = .resume then
    (resumeGitIdentityAfterRefresh accepted.gitIdentity candidate.gitIdentity).map fun _ => ()
  else .ok ()

/-- The sandbox state is taken out while it is refreshed, and put back. -/
def refreshActivatedActivation (outcomes : Outcomes) (input : ActivationInput Plan)
    (sandboxdState : SandboxdState) (accepted : ActivationInput Plan) : Serving Plan Unit := do
  Handler.emit .refresh
  let state ← Handler.get
  let (config, result) :=
    activateInitialized outcomes.activateInitialized sandboxdState input accepted state.gitConfig
  Handler.modify fun state => { state with gitConfig := config }
  match result with
  | .ok () =>
    Handler.modify fun state =>
      { state with
        activationInput := some (activationInputAfterRefresh accepted input)
        sandboxdState := some sandboxdState }
  | .error error => do
    Handler.modify fun state => { state with sandboxdState := some sandboxdState }
    Handler.throw (.resumeSandboxdState error)

def beginActivate (outcomes : Outcomes) (input : ActivationInput Plan) : Nat → Serving Plan Unit
  | 0 => pure ()
  | rounds + 1 => do
    let state ← Handler.get
    match state.activationPhase with
    | .unactivated => do
      Handler.modify fun state =>
        { state with activationPhase := .activating, activationInput := some input }
      startActivationInitWorker input
      joinActivationThread outcomes
      let phase ← waitForActivationCompletion
      match phase with
      | .activated => pure ()
      | .unactivated => beginActivate outcomes input rounds
      | .failed error =>
        Handler.throw (.startupRequestRejected s!"sandboxd activation failed: {error}")
      | .activating => Handler.throw (.startupRequestRejected
          "sandboxd is still initializing after activation wait")
    | .activating => do
      joinActivationThread outcomes
      let phase ← waitForActivationCompletion
      match phase with
      | .activated | .unactivated => beginActivate outcomes input rounds
      | .failed error =>
        Handler.throw (.startupRequestRejected s!"sandboxd activation already failed: {error}")
      | .activating => Handler.throw (.startupRequestRejected
          "sandboxd is still initializing after activation wait")
    | .activated =>
      if state.activationInput = some input then pure ()
      else
        match state.activationInput with
        | none => Handler.throw (.startupRequestRejected
            "sandboxd is activated without accepted session input")
        | some accepted => do
          Handler.ofExcept (rejectUnsupportedActivatedActivationInput accepted input)
          match state.sandboxdState with
          | none => Handler.throw (.resumeSandboxdState
              "sandboxd state is missing for an activated daemon")
          | some sandboxdState => do
            Handler.modify fun state => { state with sandboxdState := none }
            refreshActivatedActivation outcomes input sandboxdState accepted
    | .failed error =>
      Handler.throw (.startupRequestRejected s!"sandboxd activation already failed: {error}")

/-! ### Egress routes and signing -/

def beginRefreshEgressRoutes (outcomes : Outcomes) : Serving Plan Unit := do
  let state ← Handler.get
  match state.sandboxdState with
  | none => Handler.throw (.startupRequestRejected "sandboxd is not activated")
  | some _ => do
    Handler.emit .refreshEgressRoutes
    Handler.ofExcept (outcomes.refreshEgressRoutes.mapError .startupRequestRejected)

def signingResult (requestId : String) : TunnelSigningResponse → Except ControlError String
  | .success responseRequestId signatureBase64 =>
    if responseRequestId ≠ requestId then
      .error (.responseError (s!"signing response request id '{responseRequestId}' did not match " ++
        s!"'{requestId}'"))
    else .ok signatureBase64
  | .failure responseRequestId code message =>
    .error (.responseError (if responseRequestId = requestId then s!"{code}: {message}"
      else s!"signing response request id '{responseRequestId}' did not match '{requestId}': " ++
        s!"{code}: {message}"))

def beginSign (outcomes : Outcomes) (signRequest : ControlSignRequest) : Serving Plan String := do
  let state ← Handler.get
  match state.activationInput with
  | none => Handler.throw (.startupRequestRejected "sandboxd is not activated")
  | some activationInput =>
    match activationInput.gitIdentity.bind GitIdentity.signing with
    | none => Handler.throw (.startupRequestRejected
        "sandbox does not have a configured Git signing identity")
    | some gitSigningConfig =>
      match state.sandboxdState with
      | none => Handler.throw (.startupRequestRejected
          "sandboxd state is missing for an activated daemon")
      | some _ =>
        if gitSigningConfig.keyRef ≠ signRequest.keyRef then
          Handler.throw (.startupRequestRejected ("requested Git signing key does not match the " ++
            "configured Git signing identity"))
        else do
          let _ ← Handler.ofExcept (outcomes.sandboxInstanceId.mapError .initializeSandboxdState)
          Handler.emit .requestSigning
          let response ← Handler.ofExcept (outcomes.requestSigning.mapError .responseError)
          Handler.ofExcept (signingResult outcomes.requestId response)

/-! ### Serving -/

/-- One request to its end. Both loops take at most one more round than there are
    activations under way, so two rounds are enough. -/
def handleRequest (outcomes : Outcomes) : ControlRequest Plan → Serving Plan ControlResponse
  | .ready => return ⟨true, none, none⟩
  | .shutdown => do
    beginShutdown outcomes 2
    return ⟨true, none, none⟩
  | .activate activationInput => do
    beginActivate outcomes activationInput 2
    return ⟨true, none, none⟩
  | .refreshEgressRoutes => do
    beginRefreshEgressRoutes outcomes
    return ⟨true, none, none⟩
  | .sign signRequest => do
    let signature ← beginSign outcomes signRequest
    return ⟨true, none, some signature⟩

end Requests

end Control

end Mistle
