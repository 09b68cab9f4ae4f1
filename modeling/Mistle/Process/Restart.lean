import Mathlib.Logic.Function.Basic
import Mistle.Lib.Handler

/-!
# Restarting Runtime Client Processes

Three runtime clients of a sandbox run as server processes of their own. Each has a
control handle that restarts it: the process it holds is stopped, another is spawned,
attached to the component's cgroup, written to the registry of supervised processes and
waited for, and then held in place of the old one. Where a step after the spawn fails
the new process is stopped, and whether that stop works is not looked at.

The three restarts differ in the first step. The one of Claude Code gives up
where the process it holds does not stop. The other two go on.

What a step meets is part of the model: which signals are delivered, what polling a
child says, and whether a process that was not seen to exit runs on.

## Main definitions

* `stopRuntimeClientProcess`: The stop policy of a process.
* `ProcessState`: The children of each component, the handle that holds one and the registry.
* `CodexAppServer.restart`, `OpenCodeServer.restart`, `ClaudeCodeServer.restart`: The restarts.
-/

namespace Mistle

namespace ProcessManager

/-! ### Stopping a process -/

inductive RuntimeClientProcessStopSignal where
  | sigterm
  | sigkill
  deriving DecidableEq

/-- How a process is stopped. How long is waited for it is in how often it is polled. -/
structure RuntimeClientProcessStop where
  signal : RuntimeClientProcessStopSignal
  gracePeriodMs : Option Nat
  deriving DecidableEq

/-- What polling a child says. -/
inductive Poll where
  | running
  | exited
  | failed (error : String)
  deriving DecidableEq

/-- What stopping a process meets: the first poll, the signals, the polls of the grace
    period and those of the rest of the time, and whether a process that was not seen to
    exit runs on. -/
structure StopWorld where
  poll : Poll
  signal : Except String Unit
  gracePolls : List Poll
  kill : Except String Unit
  polls : List Poll
  runsOn : Bool
  deriving DecidableEq

def processHasExited : Poll → Except String Bool
  | .running => .ok false
  | .exited => .ok true
  | .failed error => .error s!"failed to poll process exit: {error}"

/-- A process is polled until it exits, a poll fails or the time is over. -/
def waitForRuntimeClientProcessExit : List Poll → Except String Unit
  | [] => .error "process did not exit before stop timeout"
  | poll :: polls => do
    if ← processHasExited poll then
      return ()
    waitForRuntimeClientProcessExit polls

def stopRuntimeClientProcess (stop : RuntimeClientProcessStop) (world : StopWorld) :
    Except String Unit := do
  if ← processHasExited world.poll then
    return ()
  world.signal
  if stop.signal = .sigterm ∧ 0 < stop.gracePeriodMs.getD 0 then
    match waitForRuntimeClientProcessExit world.gracePolls with
    | .ok () => return ()
    | .error _ => world.kill
  waitForRuntimeClientProcessExit world.polls

/-- The process runs on after it was to be stopped. One that was seen to exit does not. -/
def StopWorld.leavesRunning (world : StopWorld) (stop : RuntimeClientProcessStop) : Bool :=
  match stopRuntimeClientProcess stop world with
  | .ok () => false
  | .error _ => world.runsOn

/-! ### Components -/

inductive SupervisedComponent where
  | codexAppServer
  | openCodeServer
  | claudeCodeServer
  deriving DecidableEq

/-- A child process. A pid may be given out again once its process is gone, so a child is
    also told by when it was spawned. -/
structure Child where
  spawned : Nat
  pid : Nat
  deriving DecidableEq

/-- A component with the child its handle holds. `platformScope` is the key of its cgroup
    in the registry. -/
structure ManagedProcess where
  stop : RuntimeClientProcessStop
  platformScope : Option String
  child : Child
  restartInProgress : Bool
  deriving DecidableEq

/-- The managed components, the supervised root pid of each cgroup, and the children of
    each component that are alive. -/
structure ProcessState where
  managed : SupervisedComponent → ManagedProcess
  registry : String → Option Nat
  alive : SupervisedComponent → List Child
  spawned : Nat

/-- What a restart says of a component. -/
inductive SupervisionEffect where
  | markComponentStarting (component : SupervisedComponent)
  | markComponentRestarting (component : SupervisedComponent) (error : String)
  | emitComponentHealthcheckFailed (component : SupervisedComponent) (reason error check : String)
  | markComponentHealthy (component : SupervisedComponent)
  deriving DecidableEq

namespace ProcessState

variable (s : ProcessState) (component : SupervisedComponent)

def setRestartInProgress (inProgress : Bool) : ProcessState :=
  { s with
    managed := Function.update s.managed component
      { s.managed component with restartInProgress := inProgress } }

def setChild (child : Child) : ProcessState :=
  { s with
    managed := Function.update s.managed component { s.managed component with child := child } }

/-- The child that the next spawn gives. -/
def nextChild (pid : Nat) : Child := ⟨s.spawned, pid⟩

def spawn (pid : Nat) : ProcessState :=
  { s with
    alive := Function.update s.alive component (s.nextChild pid :: s.alive component)
    spawned := s.spawned + 1 }

/-- A child that exited is gone. -/
def exits (child : Child) : ProcessState :=
  { s with alive := Function.update s.alive component ((s.alive component).erase child) }

/-- Only a cgroup that is in the registry is written to. -/
def updateSupervisedRootPid (registryKey : String) (pid : Nat) : ProcessState :=
  { s with
    registry := Function.update s.registry registryKey
      ((s.registry registryKey).map fun _ => pid) }

end ProcessState

/-! ### Restarting -/

/-- What a restart meets. -/
structure RestartWorld where
  stop : StopWorld
  spawn : Except String Nat
  attach : Except String Unit
  update : Except String Unit
  readiness : Except String Unit
  stopReplacement : StopWorld
  deriving DecidableEq

abbrev Restarting (α : Type) := Handler String ProcessState SupervisionEffect α

/-- A child is stopped. -/
def stopChild (component : SupervisedComponent) (child : Child) (world : StopWorld) :
    Restarting Unit := do
  let state ← Handler.get
  let stop := (state.managed component).stop
  Handler.modify fun state =>
    if world.leavesRunning stop then state else state.exits component child
  Handler.ofExcept (stopRuntimeClientProcess stop world)

/-- A restart ends with an error. -/
def failRestart (component : SupervisedComponent) (error : String)
    (healthcheck : Option (String × String)) : Restarting Unit := do
  Handler.emit (.markComponentRestarting component error)
  match healthcheck with
  | none => pure ()
  | some (reason, check) =>
    Handler.emit (.emitComponentHealthcheckFailed component reason error check)
  Handler.modify fun state => state.setRestartInProgress component false
  Handler.throw error

/-- The same where the process that was to replace the old one is there already. -/
def failReplacement (component : SupervisedComponent) (replacement : Child) (world : RestartWorld)
    (error : String) (healthcheck : Option (String × String)) : Restarting Unit := do
  let _ ← Handler.attempt (stopChild component replacement world.stopReplacement)
  failRestart component error healthcheck

/-- The cgroup, where there is one, takes the process. -/
def attachPidToScope (platformScope : Option String) (world : RestartWorld) : Except String Unit :=
  if platformScope.isSome then world.attach else .ok ()

/-- The registry, where there is a cgroup, takes the pid. -/
def updateRegistry (platformScope : Option String) (pid : Nat) (world : RestartWorld) :
    Restarting (Except String Unit) :=
  match platformScope, world.update with
  | none, _ => pure (.ok ())
  | some _, .error error => pure (.error error)
  | some registryKey, .ok () => do
    Handler.modify fun state => state.updateSupervisedRootPid registryKey pid
    pure (.ok ())

/-- What follows once the old process was to be stopped. -/
def replaceChild (component : SupervisedComponent) (readinessCheck : String)
    (world : RestartWorld) : Restarting Unit := do
  match world.spawn with
  | .error error => failRestart component error (some ("restart_spawn_failed", "process_liveness"))
  | .ok pid => do
    let state ← Handler.get
    let platformScope := (state.managed component).platformScope
    let replacement := state.nextChild pid
    Handler.modify fun state => state.spawn component pid
    match attachPidToScope platformScope world with
    | .error error => failReplacement component replacement world error none
    | .ok () => do
      match ← updateRegistry platformScope pid world with
      | .error error => failReplacement component replacement world error none
      | .ok () => do
        match world.readiness with
        | .error error =>
          failReplacement component replacement world error
            (some ("restart_readiness_failed", readinessCheck))
        | .ok () => do
          Handler.modify fun state => state.setChild component replacement
          Handler.emit (.markComponentHealthy component)
          Handler.modify fun state => state.setRestartInProgress component false

def beginRestart (component : SupervisedComponent) : Restarting Unit := do
  Handler.modify fun state => state.setRestartInProgress component true
  Handler.emit (.markComponentStarting component)

/-- The old process is to be stopped, and whether it did is not looked at. -/
def restartIgnoringStop (component : SupervisedComponent) (readinessCheck : String)
    (world : RestartWorld) : Restarting Unit := do
  beginRestart component
  let state ← Handler.get
  let _ ← Handler.attempt (stopChild component (state.managed component).child world.stop)
  replaceChild component readinessCheck world

def CodexAppServer.restart (world : RestartWorld) : Restarting Unit :=
  restartIgnoringStop .codexAppServer "readiness_ws" world

def OpenCodeServer.restart (world : RestartWorld) : Restarting Unit :=
  restartIgnoringStop .openCodeServer "readiness_http" world

def ClaudeCodeServer.restart (world : RestartWorld) : Restarting Unit := do
  beginRestart .claudeCodeServer
  let state ← Handler.get
  match ← Handler.attempt (stopChild .claudeCodeServer
      (state.managed .claudeCodeServer).child world.stop) with
  | .error error =>
    failRestart .claudeCodeServer error (some ("restart_stop_failed", "process_liveness"))
  | .ok () => replaceChild .claudeCodeServer "readiness_http" world

/-- The restart of a component, through its control handle. -/
def restart : SupervisedComponent → RestartWorld → Restarting Unit
  | .codexAppServer => CodexAppServer.restart
  | .openCodeServer => OpenCodeServer.restart
  | .claudeCodeServer => ClaudeCodeServer.restart

end ProcessManager

end Mistle
