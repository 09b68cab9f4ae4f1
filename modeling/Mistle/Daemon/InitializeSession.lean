import Mistle.Lib.Handler

/-!
# Initializing and Closing a Session

When a session is initialized the daemon starts what the session needs, one resource after
another: the tunnel session, the egress proxy, the processes of the runtime clients and the
adapters of the agent runtimes. Each step may fail, and each failing step names what is to
be closed before the error is returned. Nothing closes itself: what is dropped without being
closed runs on.

A session that is closed stops what it holds in turn. Some of these steps may fail, and
then the rest is not reached.

## Main definitions

* `Resource`: What runs until it is closed.
* `StartupWorld`: What the steps of the initialization meet.
* `initializeSession`: The initialization, step by step.
* `SandboxdState`, `SandboxdState.close`: What is held of a session, and closing it.
-/

namespace Mistle

namespace Daemon

/-! ### Resources -/

inductive Resource where
  | tunnelSession
  | egressProxy
  | runtimeProcess (index : Nat)
  | runtimeAdapter (index : Nat)
  | runtimeAgentProbe
  | runtimeReadinessThread
  | runtimeCoordinationThread
  | daemonLivenessMonitor
  deriving DecidableEq

inductive SandboxdStateError where
  | applyRuntimePlan (error : String)
  | applyGitIdentity (error : String)
  | prepareDeviceLinks (error : String)
  | startEgressProxy (error : String)
  | runSetupScript (error : String)
  | startRuntimeProcesses (error : String)
  | startRuntimeAdapters (error : String)
  | startTunnelSession (error : String)
  | stopEgressProxy (error : String)
  | stopRuntimeProcesses (error : String)
  | stopRuntimeAdapters (error : String)
  deriving DecidableEq

inductive ResourceEffect where
  | started (resource : Resource)
  | closed (resource : Resource)
  deriving DecidableEq

/-- A step of the daemon. The state is what runs. -/
abbrev Running (α : Type) := Handler SandboxdStateError (List Resource) ResourceEffect α

def start (resource : Resource) : Running Unit := do
  Handler.emit (.started resource)
  Handler.modify fun running => resource :: running

/-- A resource is closed, whether or not that goes well. -/
def close (resource : Resource) : Running Unit := do
  Handler.emit (.closed resource)
  Handler.modify fun running => running.filter fun other => decide (other ≠ resource)

/-- The error of a step, as the daemon returns it. -/
def orError {α : Type} (error : String → SandboxdStateError) (result : Except String α) :
    Running α :=
  match result with
  | .ok a => pure a
  | .error text => Handler.throw (error text)

/-! ### What a session is initialized with -/

structure InitializeSessionInput where
  isSnapshot : Bool
  shouldApplyRuntimePlan : Bool
  shouldRunSetupScript : Bool
  deriving DecidableEq

/-- A process of a runtime client, and whether it is started in its scope. -/
structure ProcessWorld where
  processKey : String
  start : Except String Unit
  deriving DecidableEq

/-- An agent runtime of the plan, and whether its adapter is started. -/
structure AgentRuntimeWorld where
  runtimeId : String
  start : Except String Unit
  deriving DecidableEq

/-- What the steps meet. The proxy is only started where the plan has egress routes. -/
structure StartupWorld where
  prepareStandardDevLinks : Except String Unit
  runtimePlan : Except String Unit
  deriveSandboxInstanceId : Except String Unit
  collectMistleContext : Except String Unit
  startTunnelSession : Except String Unit
  applyGitIdentity : Except String Unit
  startEgressProxy : Except String Bool
  collectRuntimeEnvironment : Except String Unit
  mergeManagedRuntimeEnvironment : Except String Unit
  setRuntimeEnvironment : Except String Unit
  applyCompiledRuntimePlan : Except String Unit
  applyRuntimeClientSetupFiles : Except String Unit
  runSetupScript : Except String Unit
  closeEgressProxy : Except String Unit
  processes : List ProcessWorld
  processReadiness : Except (Nat × String) Unit
  agentRuntimes : List AgentRuntimeWorld
  setAgentEndpointUrl : Except String Unit
  openCodeProbe : Except String Unit
  hasProcessControl : Bool
  deriving DecidableEq

/-! ### Processes -/

/-- The processes before the one with an index are closed, the last one first. -/
def closeProcesses : Nat → Running Unit
  | 0 => pure ()
  | index + 1 => do
    close (.runtimeProcess index)
    closeProcesses index

def startProcesses (index : Nat) : List ProcessWorld → Running Unit
  | [] => pure ()
  | process :: processes =>
    match process.start with
    | .error error => do
      closeProcesses index
      Handler.throw (.startRuntimeProcesses (s!"runtime client process[{index}] failed to start " ++
        s!"(processKey={process.processKey}): {error}"))
    | .ok () => do
      start (.runtimeProcess index)
      startProcesses (index + 1) processes

/-- Every process is started, and then all are waited for. -/
def startRuntimeClientProcessManager (world : StartupWorld) : Running Unit := do
  startProcesses 0 world.processes
  match world.processReadiness with
  | .error (index, error) => do
    let processKey := (world.processes[index]?.map ProcessWorld.processKey).getD ""
    closeProcesses world.processes.length
    Handler.throw (.startRuntimeProcesses (s!"runtime client process[{index}] readiness check " ++
      s!"failed (processKey={processKey}): {error}"))
  | .ok () => pure ()

/-! ### Adapters -/

structure RuntimeAdapter where
  index : Nat
  runtimeId : String
  deriving DecidableEq

/-- The adapter of Claude Code only knows an address. The others run a proxy. -/
def RuntimeAdapter.resources (adapter : RuntimeAdapter) : List Resource :=
  if adapter.runtimeId = "claude-code" then [] else [.runtimeAdapter adapter.index]

/-- Whether there is an adapter for a runtime that was not seen before, and it starts. -/
def AgentRuntimeWorld.startAdapter (runtime : AgentRuntimeWorld) (seen : List String) :
    Except String Unit :=
  if runtime.runtimeId ∈ seen then
    .error s!"runtime plan declared duplicate agent runtime id '{runtime.runtimeId}'"
  else if runtime.runtimeId ∈ ["codex", "claude-code", "opencode", "pi"] then runtime.start
  else .error ("sandboxd has no platform-activity adapter for runtime " ++
    s!"'{runtime.runtimeId}'")

def startAdapters (seen : List String) (index : Nat) :
    List AgentRuntimeWorld → Running (List RuntimeAdapter)
  | [] => pure []
  | runtime :: runtimes => do
    orError .startRuntimeAdapters (runtime.startAdapter seen)
    let adapter : RuntimeAdapter := ⟨index, runtime.runtimeId⟩
    Handler.each start adapter.resources
    let adapters ← startAdapters (runtime.runtimeId :: seen) (index + 1) runtimes
    return adapter :: adapters

/-! ### The initialization -/

/-- What the daemon holds of a session. -/
structure SandboxdState where
  isSnapshot : Bool
  tunnelSession : Bool
  egressProxy : Bool
  processes : Nat
  runtimeAdapters : List RuntimeAdapter
  runtimeAgentProbe : Bool
  runtimeReadinessThread : Bool
  runtimeCoordinationThread : Bool
  daemonLivenessMonitor : Bool
  deriving DecidableEq

def stepIf (condition : Bool) (step : Running Unit) : Running Unit :=
  if condition then step else pure ()

/-- A step after whose failure the tunnel session is closed and the egress proxy, where
    there is one. -/
def orClose {α : Type} (egressProxy : Bool) (step : Running α) : Running α := do
  match ← Handler.attempt step with
  | .ok a => pure a
  | .error error => do
    close .tunnelSession
    stepIf egressProxy (close .egressProxy)
    Handler.throw error

/-- What is checked before anything is started, and then the tunnel session. -/
def prepareSession (world : StartupWorld) : Running Unit := do
  orError .prepareDeviceLinks world.prepareStandardDevLinks
  orError .applyRuntimePlan world.runtimePlan
  orError .startTunnelSession world.deriveSandboxInstanceId
  orError .startRuntimeProcesses world.collectMistleContext
  orError .startTunnelSession world.startTunnelSession
  start .tunnelSession

/-- The environment and the files of the workspace, once the egress proxy is there. -/
def configureWorkspace (world : StartupWorld) (input : InitializeSessionInput)
    (egressProxy : Bool) : Running Bool := do
  orClose egressProxy (orError .startRuntimeProcesses world.collectRuntimeEnvironment)
  orClose egressProxy (orError .startRuntimeProcesses world.mergeManagedRuntimeEnvironment)
  orClose egressProxy (orError .startTunnelSession world.setRuntimeEnvironment)
  orClose egressProxy (orError .applyRuntimePlan
    (if input.shouldApplyRuntimePlan then world.applyCompiledRuntimePlan
    else world.applyRuntimeClientSetupFiles))
  stepIf input.shouldRunSetupScript
    (orClose egressProxy (orError .runSetupScript world.runSetupScript))
  return egressProxy

/-- What sessions and snapshots have in common. Returns whether there is an egress proxy. -/
def prepareWorkspace (world : StartupWorld) (input : InitializeSessionInput) : Running Bool := do
  stepIf (!input.isSnapshot) (orClose false (orError .applyGitIdentity world.applyGitIdentity))
  let egressProxy ← orClose false (orError .startEgressProxy world.startEgressProxy)
  stepIf egressProxy (start .egressProxy)
  configureWorkspace world input egressProxy

/-- A snapshot stops here, before anything of the session is started. -/
def finishSnapshot (world : StartupWorld) (egressProxy : Bool) : Running SandboxdState := do
  stepIf egressProxy do
    close .egressProxy
    orError .stopEgressProxy world.closeEgressProxy
  close .tunnelSession
  return ⟨true, false, false, 0, [], false, false, false, false⟩

/-- Whether the runtime behind an adapter is probed, which needs its plan in one case. -/
def buildRuntimeAgentProbePlan (world : StartupWorld) : List RuntimeAdapter → Running Bool
  | [adapter] =>
    if adapter.runtimeId = "opencode" then do
      orError .startRuntimeAdapters world.openCodeProbe
      return true
    else pure true
  | _ => pure false

/-- The threads beside a runtime that is up. -/
def superviseRuntime (world : StartupWorld) (egressProxy : Bool) (adapters : List RuntimeAdapter) :
    Running SandboxdState := do
  let runtimeAgentProbe ← buildRuntimeAgentProbePlan world adapters
  stepIf runtimeAgentProbe (start .runtimeAgentProbe)
  start .runtimeReadinessThread
  stepIf world.hasProcessControl (start .runtimeCoordinationThread)
  start .daemonLivenessMonitor
  return ⟨false, true, egressProxy, world.processes.length, adapters, runtimeAgentProbe, true,
    world.hasProcessControl, true⟩

def startRuntime (world : StartupWorld) (egressProxy : Bool) : Running SandboxdState := do
  stepIf (!world.processes.isEmpty)
    (orClose egressProxy (startRuntimeClientProcessManager world))
  let adapters ← orClose egressProxy (startAdapters [] 0 world.agentRuntimes)
  stepIf (decide (1 < adapters.length)) (orClose egressProxy (Handler.throw
    (.startTunnelSession "sandboxd currently supports exactly one runtime adapter endpoint")))
  orClose egressProxy (orError .startTunnelSession world.setAgentEndpointUrl)
  superviseRuntime world egressProxy adapters

def initializeSession (world : StartupWorld) (input : InitializeSessionInput) :
    Running SandboxdState := do
  prepareSession world
  let egressProxy ← prepareWorkspace world input
  if input.isSnapshot then finishSnapshot world egressProxy
  else startRuntime world egressProxy

/-! ### Closing -/

/-- What the steps of closing meet. -/
structure CloseWorld where
  closeDaemonLivenessMonitor : Except String Unit
  closeAdapter : Nat → Except String Unit
  stopProcess : Nat → Except String Unit
  killProcessScope : Nat → Except String Unit
  closeEgressProxy : Except String Unit
  killSandboxUserScopes : Except String Unit
  killSandboxPlatformScopes : Except String Unit
  scrubSnapshotRuntimeArtifacts : Except String Unit

/-- A resource that is held or not. -/
def heldIf (holds : Bool) (resource : Resource) : List Resource :=
  if holds then [resource] else []

/-- The processes before an index, the last one first. -/
def processResources : Nat → List Resource
  | 0 => []
  | index + 1 => .runtimeProcess index :: processResources index

/-- What a state holds, in the order in which it is closed. -/
def SandboxdState.resources (state : SandboxdState) : List Resource :=
  heldIf state.tunnelSession .tunnelSession ++
    (heldIf state.daemonLivenessMonitor .daemonLivenessMonitor ++
    (heldIf state.runtimeCoordinationThread .runtimeCoordinationThread ++
    (heldIf state.runtimeReadinessThread .runtimeReadinessThread ++
    (heldIf state.runtimeAgentProbe .runtimeAgentProbe ++
    (state.runtimeAdapters.flatMap RuntimeAdapter.resources ++
    (processResources state.processes ++ heldIf state.egressProxy .egressProxy))))))

/-- The adapters are closed one after another, up to one that fails. -/
def closeAdapters (world : CloseWorld) : List RuntimeAdapter → Running Unit
  | [] => pure ()
  | adapter :: adapters => do
    Handler.each close adapter.resources
    stepIf (decide (adapter.runtimeId ≠ "claude-code"))
      (orError .stopRuntimeAdapters (world.closeAdapter adapter.index))
    closeAdapters world adapters

/-- The errors of stopping the processes before the one with an index. -/
def stopErrors (stop : Nat → Except String Unit) : Nat → List String
  | 0 => []
  | index + 1 =>
    match stop index with
    | .ok () => stopErrors stop index
    | .error error => error :: stopErrors stop index

/-- Every process and every scope is stopped, and the errors are put together. -/
def stopProcesses (world : CloseWorld) (processes : Nat) : Running Unit := do
  closeProcesses processes
  let errors := stopErrors world.stopProcess processes ++
    (stopErrors world.killProcessScope processes).reverse
  if errors.isEmpty then pure ()
  else Handler.throw (.stopRuntimeProcesses ("; ".intercalate errors))

def SandboxdState.close (state : SandboxdState) (world : CloseWorld) : Running Unit := do
  stepIf state.tunnelSession (Daemon.close .tunnelSession)
  -- An error of the monitor is only written out.
  stepIf state.daemonLivenessMonitor (Daemon.close .daemonLivenessMonitor)
  stepIf state.runtimeCoordinationThread (Daemon.close .runtimeCoordinationThread)
  stepIf state.runtimeReadinessThread (Daemon.close .runtimeReadinessThread)
  stepIf state.runtimeAgentProbe (Daemon.close .runtimeAgentProbe)
  closeAdapters world state.runtimeAdapters
  stopProcesses world state.processes
  stepIf state.egressProxy do
    Daemon.close .egressProxy
    orError .stopEgressProxy world.closeEgressProxy
  orError .stopRuntimeProcesses world.killSandboxUserScopes
  orError .stopRuntimeProcesses world.killSandboxPlatformScopes
  stepIf state.isSnapshot (orError .stopEgressProxy world.scrubSnapshotRuntimeArtifacts)

end Daemon

end Mistle
