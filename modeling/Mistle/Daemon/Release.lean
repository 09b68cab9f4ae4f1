import Mistle.Daemon.InitializeSession

/-!
# What a Failed Initialization Leaves Running

Every failing step of the initialization closes the tunnel session and the egress proxy, and
starting the processes closes those it had started. So up to the processes nothing is left
running. The steps after them close no more than the tunnel session and the egress proxy:
the processes and the adapters run on where an adapter does not start, where there are
two of them, or where the tunnel session does not take the endpoint. A probe that cannot be
planned closes nothing at all, and neither does a snapshot whose egress proxy does not stop.

`initializeSession_releases_iff` says that these are all. The proof goes through the steps in
order. What runs after each is written as a list, the newest first, and a step that fails
takes its own part off that list.

## Main definitions

* `WorkspaceReady`, `StartupWorld.ProcessesRun`, `AdaptersStart`: That the steps go well.
* `startedAdapters`, `StartupWorld.startedRuntime`: What is started of the runtime.
* `Settles`: A step that goes well exactly under a condition.
* `Leaks`: The failures after which something runs on.
* `Releases`: Nothing runs on after an error.

## Theorems

* `prepareWorkspace_cases`: What is left of preparing the workspace.
* `startProcesses_ok`, `startProcesses_error`: What is left of starting the processes.
* `startAdapters_cases`: What is left of starting the adapters.
* `startRuntime_cases`, `finishSnapshot_cases`: What is left of the two ends.
* `initializeSession_releases_iff`: Exactly when nothing runs on.
* `mem_resources_iff`: What runs of a session that is up is what its state holds.
-/

namespace Mistle

namespace Daemon

open Handler

/-! ### What the steps do to what runs -/

@[simp] theorem exec_start (resource : Resource) (running : List Resource) :
    exec (start resource) running = (.ok (), resource :: running) := rfl

@[simp] theorem exec_close (resource : Resource) (running : List Resource) :
    exec (close resource) running =
      (.ok (), running.filter fun other => decide (other ≠ resource)) := rfl

@[simp] theorem exec_orError_ok {α : Type} (error : String → SandboxdStateError) (a : α)
    (running : List Resource) : exec (orError error (.ok a)) running = (.ok a, running) := rfl

@[simp] theorem exec_orError_error {α : Type} (error : String → SandboxdStateError)
    (text : String) (running : List Resource) :
    exec (orError error (.error text : Except String α)) running =
      (.error (error text), running) := rfl

@[simp] theorem stepIf_true (step : Running Unit) : stepIf true step = step := rfl

@[simp] theorem stepIf_false (step : Running Unit) : stepIf false step = pure () := rfl

theorem filter_ne_self {resource : Resource} {running : List Resource}
    (h : resource ∉ running) :
    running.filter (fun other => decide (other ≠ resource)) = running := by
  rw [List.filter_eq_self]
  intro other hother
  have hne : other ≠ resource := fun heq => h (heq ▸ hother)
  exact decide_eq_true hne

/-- What runs of the workspace. -/
def workspace (egressProxy : Bool) : List Resource :=
  if egressProxy then [.egressProxy, .tunnelSession] else [.tunnelSession]

/-- What is closed after a failing step, over the runtime that was started. -/
theorem exec_orClose_error {α : Type} {egressProxy : Bool} {step : Running α}
    {running runtime : List Resource} {error : SandboxdStateError}
    (hstep : exec step running = (.error error, runtime ++ workspace egressProxy))
    (hruntime : ∀ other ∈ runtime, other ≠ .tunnelSession ∧ other ≠ .egressProxy) :
    exec (orClose egressProxy step) running = (.error error, runtime) := by
  have hclosed : exec (close .tunnelSession >>= fun _ =>
      stepIf egressProxy (close .egressProxy) >>= fun _ => (Handler.throw error : Running α))
      (runtime ++ workspace egressProxy) = (.error error, runtime) := by
    have htunnel : ∀ other ∈ runtime, ¬other = .tunnelSession :=
      fun other hother => (hruntime other hother).1
    cases egressProxy with
    | false => simpa [exec_bind, workspace, stepIf, List.filter_append] using htunnel
    | true =>
        have hboth : ∀ other ∈ runtime, ¬other = .egressProxy ∧ ¬other = .tunnelSession :=
          fun other hother => (hruntime other hother).symm
        simpa [exec_bind, workspace, stepIf, List.filter_append] using hboth
  unfold orClose
  rw [exec_bind, exec_attempt, hstep]
  exact hclosed

theorem exec_orClose_ok {α : Type} {egressProxy : Bool} {step : Running α}
    {running running' : List Resource} {a : α} (hstep : exec step running = (.ok a, running')) :
    exec (orClose egressProxy step) running = (.ok a, running') := by
  unfold orClose
  rw [exec_bind, exec_attempt, hstep]
  rfl

/-! ### Preparing the workspace -/

/-- What is checked before anything is started goes well. -/
structure Prepared (world : StartupWorld) : Prop where
  prepareStandardDevLinks : world.prepareStandardDevLinks = .ok ()
  runtimePlan : world.runtimePlan = .ok ()
  deriveSandboxInstanceId : world.deriveSandboxInstanceId = .ok ()
  collectMistleContext : world.collectMistleContext = .ok ()
  startTunnelSession : world.startTunnelSession = .ok ()

/-- The workspace is prepared, with an egress proxy or without. -/
structure WorkspaceReady (world : StartupWorld) (input : InitializeSessionInput)
    (egressProxy : Bool) : Prop where
  applyGitIdentity : input.isSnapshot = false → world.applyGitIdentity = .ok ()
  startEgressProxy : world.startEgressProxy = .ok egressProxy
  collectRuntimeEnvironment : world.collectRuntimeEnvironment = .ok ()
  mergeManagedRuntimeEnvironment : world.mergeManagedRuntimeEnvironment = .ok ()
  setRuntimeEnvironment : world.setRuntimeEnvironment = .ok ()
  applyRuntimePlan : (if input.shouldApplyRuntimePlan then world.applyCompiledRuntimePlan
    else world.applyRuntimeClientSetupFiles) = .ok ()
  runSetupScript : input.shouldRunSetupScript = true → world.runSetupScript = .ok ()

/-- A failing step of the workspace leaves nothing. -/
theorem exec_orClose_orError {α : Type} (egressProxy : Bool) (error : String → SandboxdStateError)
    (text : String) :
    exec (orClose egressProxy (orError error (.error text : Except String α)))
      (workspace egressProxy) = (.error (error text), []) :=
  exec_orClose_error rfl fun _ hother => absurd hother List.not_mem_nil

/-- A step that goes well exactly under a condition, with a value and leaving `after`, and that
    leaves `left` otherwise. -/
def Settles {α : Type} (running after left : List Resource) (step : Running α) (a : α)
    (P : Prop) : Prop :=
  P ∧ exec step running = (.ok a, after) ∨ ¬P ∧ ∃ error, exec step running = (.error error, left)

section Settles

variable {α β : Type} {running middle after left : List Resource} {P Q : Prop}

theorem Settles.pure (a : α) : Settles running running left (pure a) a True :=
  .inl ⟨trivial, rfl⟩

theorem Settles.start (resource : Resource) :
    Settles running (resource :: running) left (start resource) () True :=
  .inl ⟨trivial, rfl⟩

theorem Settles.orError (error : String → SandboxdStateError) (result : Except String Unit) :
    Settles running running running (orError error result) () (result = .ok ()) := by
  cases result with
  | ok a => exact .inl ⟨rfl, rfl⟩
  | error text => exact .inr ⟨fun h => (nomatch h), error text, rfl⟩

theorem Settles.orClose (egressProxy : Bool) (error : String → SandboxdStateError)
    (result : Except String Unit) :
    Settles (workspace egressProxy) (workspace egressProxy) []
      (orClose egressProxy (Daemon.orError error result)) () (result = .ok ()) := by
  cases result with
  | ok a => exact .inl ⟨rfl, exec_orClose_ok rfl⟩
  | error text =>
      exact .inr ⟨fun h => (nomatch h), error text, exec_orClose_orError _ _ _⟩

theorem Settles.bind {x : Running α} {f : α → Running β} {a : α} {b : β}
    (hx : Settles running middle left x a P) (hf : Settles middle after left (f a) b Q) :
    Settles running after left (x >>= f) b (P ∧ Q) := by
  rcases hx with ⟨hp, hx⟩ | ⟨hp, error, hx⟩
  · rcases hf with ⟨hq, hf⟩ | ⟨hq, error, hf⟩
    · exact .inl ⟨⟨hp, hq⟩, (exec_bind_ok hx).trans hf⟩
    · exact .inr ⟨fun h => hq h.2, error, (exec_bind_ok hx).trans hf⟩
  · exact .inr ⟨fun h => hp h.1, error, exec_bind_error hx⟩

theorem Settles.stepIf {x : Running Unit} (condition : Bool)
    (hx : Settles running running left x () P) :
    Settles running running left (stepIf condition x) () (condition = true → P) := by
  cases condition with
  | false => exact .inl ⟨fun h => (nomatch h), rfl⟩
  | true => simpa [Settles, Daemon.stepIf] using hx

end Settles

theorem configureWorkspace_settles (world : StartupWorld) (input : InitializeSessionInput)
    (egressProxy : Bool) :
    Settles (workspace egressProxy) (workspace egressProxy) []
      (configureWorkspace world input egressProxy) egressProxy
      (world.collectRuntimeEnvironment = .ok () ∧ world.mergeManagedRuntimeEnvironment = .ok () ∧
        world.setRuntimeEnvironment = .ok () ∧
        (if input.shouldApplyRuntimePlan then world.applyCompiledRuntimePlan
          else world.applyRuntimeClientSetupFiles) = .ok () ∧
        (input.shouldRunSetupScript = true → world.runSetupScript = .ok ()) ∧ True) := by
  unfold configureWorkspace
  refine Settles.bind (Settles.orClose _ _ _) ?_
  refine Settles.bind (Settles.orClose _ _ _) ?_
  refine Settles.bind (Settles.orClose _ _ _) ?_
  refine Settles.bind (Settles.orClose _ _ _) ?_
  refine Settles.bind (Settles.stepIf _ (Settles.orClose _ _ _)) ?_
  exact Settles.pure egressProxy

/-- The workspace is prepared and runs, or nothing runs. -/
theorem prepareWorkspace_cases (world : StartupWorld) (input : InitializeSessionInput) :
    (∃ egressProxy, WorkspaceReady world input egressProxy ∧
      exec (prepareWorkspace world input) (workspace false) =
        (.ok egressProxy, workspace egressProxy)) ∨
    ((∀ egressProxy, ¬WorkspaceReady world input egressProxy) ∧
      ∃ error, exec (prepareWorkspace world input) (workspace false) = (.error error, [])) := by
  have hgit := Settles.stepIf (!input.isSnapshot)
    (Settles.orClose false .applyGitIdentity world.applyGitIdentity)
  unfold prepareWorkspace
  rcases hgit with ⟨hgit, hexec⟩ | ⟨hgit, error, hexec⟩
  · rw [exec_bind_ok hexec]
    cases hproxy : world.startEgressProxy with
    | error text =>
        refine .inr ⟨fun egressProxy hready => ?_, .startEgressProxy text,
          exec_bind_error (exec_orClose_orError _ _ _)⟩
        have hstarted := hready.startEgressProxy
        rw [hproxy] at hstarted
        cases hstarted
    | ok egressProxy =>
        have hstarted : exec (stepIf egressProxy (start .egressProxy)) (workspace false) =
            (.ok (), workspace egressProxy) := by
          cases egressProxy <;> rfl
        rw [exec_bind_ok (exec_orClose_ok (exec_orError_ok _ _ _)), exec_bind_ok hstarted]
        rcases configureWorkspace_settles world input egressProxy with
          ⟨⟨hcollect, hmerge, hset, hplan, hscript, -⟩, hexec⟩ | ⟨hfails, error, hexec⟩
        · exact .inl ⟨egressProxy, ⟨fun h => hgit (by rw [h]; rfl), hproxy, hcollect, hmerge, hset,
            hplan, hscript⟩, hexec⟩
        · refine .inr ⟨fun other hready => hfails ?_, error, hexec⟩
          exact ⟨hready.collectRuntimeEnvironment, hready.mergeManagedRuntimeEnvironment,
            hready.setRuntimeEnvironment, hready.applyRuntimePlan, hready.runSetupScript, trivial⟩
  · exact .inr ⟨fun _ hready => hgit fun h => hready.applyGitIdentity (by simpa using h), error,
      exec_bind_error hexec⟩

/-! ### Starting the processes -/

theorem mem_processResources {resource : Resource} {n : Nat} :
    resource ∈ processResources n ↔ ∃ index < n, resource = .runtimeProcess index := by
  induction n with
  | zero => simp [processResources]
  | succ n ih =>
      rw [processResources, List.mem_cons, ih]
      constructor
      · rintro (rfl | ⟨index, hlt, rfl⟩)
        · exact ⟨n, Nat.lt_succ_self n, rfl⟩
        · exact ⟨index, Nat.lt_succ_of_lt hlt, rfl⟩
      · rintro ⟨index, hlt, rfl⟩
        rcases Nat.lt_succ_iff_lt_or_eq.mp hlt with hlt | rfl
        · exact .inr ⟨index, hlt, rfl⟩
        · exact .inl rfl

/-- Closing the processes takes them off what runs, where nothing else is one of them. -/
theorem exec_closeProcesses {running : List Resource}
    (hrunning : ∀ index, .runtimeProcess index ∉ running) (n : Nat) :
    exec (closeProcesses n) (processResources n ++ running) = (.ok (), running) := by
  induction n with
  | zero => rfl
  | succ n ih =>
      have hnot : .runtimeProcess n ∉ processResources n ++ running := by
        intro hmem
        rcases List.mem_append.mp hmem with hmem | hmem
        · rcases mem_processResources.mp hmem with ⟨index, hlt, heq⟩
          have hindex : n = index := Resource.runtimeProcess.inj heq
          omega
        · exact hrunning n hmem
      have hclosed : exec (close (.runtimeProcess n)) (processResources (n + 1) ++ running) =
          (.ok (), processResources n ++ running) := by
        rw [exec_close, processResources, List.cons_append, List.filter_cons_of_neg (by simp),
          filter_ne_self hnot]
      unfold closeProcesses
      rw [exec_bind_ok hclosed, ih]

theorem startProcesses_ok {processes : List ProcessWorld} {running : List Resource} (index : Nat)
    (hstart : ∀ process ∈ processes, process.start = .ok ()) :
    exec (startProcesses index processes) (processResources index ++ running) =
      (.ok (), processResources (index + processes.length) ++ running) := by
  induction processes generalizing index with
  | nil => rfl
  | cons process processes ih =>
      have hprocess : process.start = .ok () := hstart process (List.mem_cons_self ..)
      have hrest := ih (index + 1) fun other hother =>
        hstart other (List.mem_cons_of_mem _ hother)
      unfold startProcesses
      rw [hprocess]
      have hlength : index + 1 + processes.length = index + (process :: processes).length := by
        rw [List.length_cons]
        omega
      rw [hlength] at hrest
      exact hrest

/-- A process that does not start takes those before it along. -/
theorem startProcesses_error {processes : List ProcessWorld} {running : List Resource}
    (index : Nat) (hrunning : ∀ index, .runtimeProcess index ∉ running)
    (hstart : ¬∀ process ∈ processes, process.start = .ok ()) :
    ∃ error, exec (startProcesses index processes) (processResources index ++ running) =
      (.error error, running) := by
  induction processes generalizing index with
  | nil => exact absurd (fun _ hprocess => absurd hprocess List.not_mem_nil) hstart
  | cons process processes ih =>
      unfold startProcesses
      cases hprocess : process.start with
      | error text => exact ⟨_, exec_bind_ok (exec_closeProcesses hrunning index)⟩
      | ok u =>
          have hrest : ¬∀ other ∈ processes, other.start = .ok () := by
            intro hall
            refine hstart fun other hother => ?_
            rcases List.mem_cons.mp hother with rfl | hother
            · exact hprocess
            · exact hall other hother
          exact ih (index + 1) hrest

/-- The processes start, and those that are waited for get ready. -/
def StartupWorld.ProcessesRun (world : StartupWorld) : Prop :=
  (∀ process ∈ world.processes, process.start = .ok ()) ∧
    (world.processes ≠ [] → world.processReadiness = .ok ())

/-- The manager fails with nothing started, or leaves every process running. -/
theorem startRuntimeClientProcessManager_cases (world : StartupWorld) {running : List Resource}
    (hrunning : ∀ index, .runtimeProcess index ∉ running) :
    (((∀ process ∈ world.processes, process.start = .ok ()) ∧ world.processReadiness = .ok ()) ∧
      exec (startRuntimeClientProcessManager world) running =
        (.ok (), processResources world.processes.length ++ running)) ∨
    (¬((∀ process ∈ world.processes, process.start = .ok ()) ∧ world.processReadiness = .ok ()) ∧
      ∃ error, exec (startRuntimeClientProcessManager world) running = (.error error, running)) := by
  unfold startRuntimeClientProcessManager
  by_cases hstart : ∀ process ∈ world.processes, process.start = .ok ()
  · have hstarted : exec (startProcesses 0 world.processes) running =
        (.ok (), processResources (0 + world.processes.length) ++ running) :=
      startProcesses_ok 0 hstart
    rw [Nat.zero_add] at hstarted
    rw [exec_bind_ok hstarted]
    cases hready : world.processReadiness with
    | ok u => exact .inl ⟨⟨hstart, rfl⟩, rfl⟩
    | error failed =>
        have hclosed := exec_closeProcesses hrunning world.processes.length
        exact .inr ⟨fun h => (nomatch h.2), _, exec_bind_ok hclosed⟩
  · rcases startProcesses_error 0 hrunning hstart with ⟨error, herror⟩
    exact .inr ⟨fun h => hstart h.1, error, exec_bind_error herror⟩

/-- The processes run over the workspace, or nothing runs. -/
theorem startProcessManager_cases (world : StartupWorld) (egressProxy : Bool) :
    (world.ProcessesRun ∧
      exec (stepIf (!world.processes.isEmpty)
        (orClose egressProxy (startRuntimeClientProcessManager world))) (workspace egressProxy) =
        (.ok (), processResources world.processes.length ++ workspace egressProxy)) ∨
    (¬world.ProcessesRun ∧ ∃ error,
      exec (stepIf (!world.processes.isEmpty)
        (orClose egressProxy (startRuntimeClientProcessManager world))) (workspace egressProxy) =
        (.error error, [])) := by
  have hworkspace : ∀ index, .runtimeProcess index ∉ workspace egressProxy := by
    intro index
    cases egressProxy <;> simp [workspace]
  by_cases hempty : world.processes = []
  · have hrun : world.ProcessesRun := by
      refine ⟨fun process hprocess => ?_, fun hne => absurd hempty hne⟩
      rw [hempty] at hprocess
      exact absurd hprocess List.not_mem_nil
    refine .inl ⟨hrun, ?_⟩
    rw [hempty]
    rfl
  · have hstep : (!world.processes.isEmpty) = true := by simpa using hempty
    rw [hstep]
    rcases startRuntimeClientProcessManager_cases world hworkspace with
      ⟨hrun, hexec⟩ | ⟨hrun, error, hexec⟩
    · exact .inl ⟨⟨hrun.1, fun _ => hrun.2⟩, exec_orClose_ok hexec⟩
    · refine .inr ⟨fun h => hrun ⟨h.1, h.2 hempty⟩, error, ?_⟩
      rw [← List.nil_append (workspace egressProxy)] at hexec
      exact exec_orClose_error hexec fun _ hother => absurd hother List.not_mem_nil

/-! ### Starting the adapters -/

/-- Every adapter starts. -/
def AdaptersStart (seen : List String) : List AgentRuntimeWorld → Prop
  | [] => True
  | runtime :: runtimes =>
      runtime.startAdapter seen = .ok () ∧ AdaptersStart (runtime.runtimeId :: seen) runtimes

/-- The adapters up to the first that does not start. -/
def startedAdapters (seen : List String) (index : Nat) :
    List AgentRuntimeWorld → List RuntimeAdapter
  | [] => []
  | runtime :: runtimes =>
    match runtime.startAdapter seen with
    | .error _ => []
    | .ok () => ⟨index, runtime.runtimeId⟩ ::
        startedAdapters (runtime.runtimeId :: seen) (index + 1) runtimes

theorem exec_each_start (resources running : List Resource) :
    exec (Handler.each start resources) running = (.ok (), resources.reverse ++ running) := by
  induction resources generalizing running with
  | nil => rfl
  | cons resource resources ih =>
      rw [List.reverse_cons, List.append_assoc]
      exact ih (resource :: running)

theorem startAdapters_cases (runtimes : List AgentRuntimeWorld) :
    ∀ (seen : List String) (index : Nat) (running : List Resource),
      (AdaptersStart seen runtimes ∧ exec (startAdapters seen index runtimes) running =
        (.ok (startedAdapters seen index runtimes),
          ((startedAdapters seen index runtimes).flatMap RuntimeAdapter.resources).reverse ++
            running)) ∨
      (¬AdaptersStart seen runtimes ∧ ∃ error, exec (startAdapters seen index runtimes) running =
        (.error error,
          ((startedAdapters seen index runtimes).flatMap RuntimeAdapter.resources).reverse ++
            running)) := by
  induction runtimes with
  | nil => exact fun seen index running => .inl ⟨trivial, rfl⟩
  | cons runtime runtimes ih =>
      intro seen index running
      unfold startAdapters startedAdapters AdaptersStart
      cases hstart : runtime.startAdapter seen with
      | error text => exact .inr ⟨fun h => (nomatch h.1), _, rfl⟩
      | ok u =>
          have hstarted : exec (Handler.each start (RuntimeAdapter.resources
              ⟨index, runtime.runtimeId⟩)) running =
              (.ok (), (RuntimeAdapter.resources ⟨index, runtime.runtimeId⟩).reverse ++ running) :=
            exec_each_start _ running
          simp only [exec_bind_ok (exec_orError_ok _ _ _), exec_bind_ok hstarted,
            List.flatMap_cons, List.reverse_append, List.append_assoc, true_and]
          rcases ih (runtime.runtimeId :: seen) (index + 1)
              ((RuntimeAdapter.resources ⟨index, runtime.runtimeId⟩).reverse ++ running) with
            ⟨hall, hexec⟩ | ⟨hall, error, hexec⟩
          · exact .inl ⟨hall, exec_bind_ok hexec⟩
          · exact .inr ⟨hall, error, exec_bind_error hexec⟩

/-! ### What is left after an error -/

/-- Nothing runs on after an error. -/
def Releases {α : Type} (outcome : Except SandboxdStateError α × List Resource) : Prop :=
  ∀ error, outcome.1 = .error error → outcome.2 = []

theorem releases_ok {α : Type} (a : α) (running : List Resource) :
    Releases ((.ok a, running) : Except SandboxdStateError α × List Resource) :=
  fun _ h => nomatch h

theorem releases_error {α : Type} {error : SandboxdStateError} {running : List Resource} :
    Releases ((.error error, running) : Except SandboxdStateError α × List Resource) ↔
      running = [] :=
  ⟨fun h => h error rfl, fun h _ _ => h⟩

/-- What is started of the runtime: the adapters, over the processes. -/
def StartupWorld.startedRuntime (world : StartupWorld) : List Resource :=
  ((startedAdapters [] 0 world.agentRuntimes).flatMap RuntimeAdapter.resources).reverse ++
    processResources world.processes.length

/-- The adapters do not come up as the one endpoint of the tunnel session. -/
def StartupWorld.EndpointFails (world : StartupWorld) : Prop :=
  ¬AdaptersStart [] world.agentRuntimes ∨ 1 < (startedAdapters [] 0 world.agentRuntimes).length ∨
    world.setAgentEndpointUrl ≠ .ok ()

/-- The probe of the one adapter cannot be planned. -/
def StartupWorld.ProbeFails (world : StartupWorld) : Prop :=
  ¬world.EndpointFails ∧
    (startedAdapters [] 0 world.agentRuntimes).map RuntimeAdapter.runtimeId = ["opencode"] ∧
    world.openCodeProbe ≠ .ok ()

/-- The failures after which something runs on: a snapshot whose egress proxy does not stop,
    a runtime without its endpoint, and a probe that cannot be planned. -/
def Leaks (world : StartupWorld) (input : InitializeSessionInput) : Prop :=
  Prepared world ∧ ∃ egressProxy, WorkspaceReady world input egressProxy ∧
    (input.isSnapshot = true ∧ egressProxy = true ∧ world.closeEgressProxy ≠ .ok () ∨
      input.isSnapshot = false ∧ world.ProcessesRun ∧
        (world.EndpointFails ∧ world.startedRuntime ≠ [] ∨ world.ProbeFails))

/-- A snapshot ends with nothing running, or with the tunnel session where its egress proxy does
    not stop. -/
theorem finishSnapshot_cases (world : StartupWorld) (egressProxy : Bool) :
    (¬(egressProxy = true ∧ world.closeEgressProxy ≠ .ok ()) ∧
      exec (finishSnapshot world egressProxy) (workspace egressProxy) =
        (.ok ⟨true, false, false, 0, [], false, false, false, false⟩, [])) ∨
    ((egressProxy = true ∧ world.closeEgressProxy ≠ .ok ()) ∧ ∃ error,
      exec (finishSnapshot world egressProxy) (workspace egressProxy) =
        (.error error, [.tunnelSession])) := by
  cases egressProxy with
  | false => exact .inl ⟨fun h => (nomatch h.1), rfl⟩
  | true =>
      unfold finishSnapshot
      cases hclose : world.closeEgressProxy with
      | ok u => exact .inl ⟨fun h => h.2 rfl, rfl⟩
      | error text => exact .inr ⟨⟨rfl, fun h => nomatch h⟩, _, rfl⟩

theorem finishSnapshot_releases_iff (world : StartupWorld) (egressProxy : Bool) :
    Releases (exec (finishSnapshot world egressProxy) (workspace egressProxy)) ↔
      ¬(egressProxy = true ∧ world.closeEgressProxy ≠ .ok ()) := by
  rcases finishSnapshot_cases world egressProxy with ⟨hcloses, hexec⟩ | ⟨hfails, error, hexec⟩
  · rw [hexec]
    exact ⟨fun _ => hcloses, fun _ => releases_ok _ _⟩
  · rw [hexec, releases_error]
    exact ⟨fun h => absurd h (List.cons_ne_nil _ _), fun h => absurd hfails h⟩

theorem mem_adapterResources {adapters : List RuntimeAdapter} {resource : Resource}
    (h : resource ∈ adapters.flatMap RuntimeAdapter.resources) :
    ∃ index, resource = .runtimeAdapter index := by
  rcases List.mem_flatMap.mp h with ⟨adapter, -, hadapter⟩
  unfold RuntimeAdapter.resources at hadapter
  split at hadapter
  · exact absurd hadapter List.not_mem_nil
  · exact ⟨adapter.index, List.mem_singleton.mp hadapter⟩

/-- Nothing of the runtime is part of the workspace. -/
theorem ne_workspace_of_mem_startedRuntime {world : StartupWorld} {resource : Resource}
    (h : resource ∈ world.startedRuntime) :
    resource ≠ .tunnelSession ∧ resource ≠ .egressProxy := by
  rcases List.mem_append.mp h with h | h
  · rcases mem_adapterResources (List.mem_reverse.mp h) with ⟨index, rfl⟩
    exact ⟨fun h => (nomatch h), fun h => (nomatch h)⟩
  · rcases mem_processResources.mp h with ⟨index, -, rfl⟩
    exact ⟨fun h => (nomatch h), fun h => (nomatch h)⟩

/-- A step over the runtime that fails leaves the runtime. -/
theorem exec_orClose_runtime {α : Type} {world : StartupWorld} {egressProxy : Bool}
    {step : Running α} {running : List Resource} {error : SandboxdStateError}
    (hstep : exec step running =
      (.error error, world.startedRuntime ++ workspace egressProxy)) :
    exec (orClose egressProxy step) running = (.error error, world.startedRuntime) :=
  exec_orClose_error hstep fun _ => ne_workspace_of_mem_startedRuntime

/-- With its probe planned, nothing of the supervision fails. -/
theorem superviseRuntime_ok {world : StartupWorld} {adapters : List RuntimeAdapter}
    {running : List Resource} {probe : Bool} (egressProxy : Bool)
    (hprobe : exec (buildRuntimeAgentProbePlan world adapters) running = (.ok probe, running)) :
    exec (superviseRuntime world egressProxy adapters) running =
      (.ok ⟨false, true, egressProxy, world.processes.length, adapters, probe, true,
        world.hasProcessControl, true⟩,
        .daemonLivenessMonitor :: (heldIf world.hasProcessControl .runtimeCoordinationThread ++
          .runtimeReadinessThread :: (heldIf probe .runtimeAgentProbe ++ running))) := by
  unfold superviseRuntime
  rw [exec_bind_ok hprobe]
  cases probe <;> cases world.hasProcessControl <;> rfl

/-- The probe is planned without an error, except for one adapter whose plan is missing. -/
theorem buildRuntimeAgentProbePlan_cases (world : StartupWorld) (adapters : List RuntimeAdapter)
    (running : List Resource) :
    (adapters.map RuntimeAdapter.runtimeId = ["opencode"] ∧ world.openCodeProbe ≠ .ok () ∧
      ∃ error, exec (buildRuntimeAgentProbePlan world adapters) running =
        (.error error, running)) ∨
    (¬(adapters.map RuntimeAdapter.runtimeId = ["opencode"] ∧ world.openCodeProbe ≠ .ok ()) ∧
      exec (buildRuntimeAgentProbePlan world adapters) running =
        (.ok (decide (adapters.length = 1)), running)) := by
  match adapters with
  | [] => exact .inr ⟨fun h => (nomatch h.1), rfl⟩
  | [adapter] =>
      rw [buildRuntimeAgentProbePlan]
      by_cases hopencode : adapter.runtimeId = "opencode"
      · rw [if_pos hopencode]
        cases hprobe : world.openCodeProbe with
        | ok u => exact .inr ⟨fun h => h.2 rfl, rfl⟩
        | error text =>
            refine .inl ⟨?_, fun h => (nomatch h), _, rfl⟩
            rw [List.map_cons, hopencode, List.map_nil]
      · rw [if_neg hopencode]
        refine .inr ⟨fun h => hopencode ?_, rfl⟩
        exact List.head_eq_of_cons_eq h.1
  | _ :: _ :: _ =>
      refine .inr ⟨fun h => ?_, by simp [buildRuntimeAgentProbePlan]⟩
      have hlength := congrArg List.length h.1
      simp at hlength

/-- The state of a session whose runtime is up. -/
def StartupWorld.runtimeState (world : StartupWorld) (egressProxy : Bool) : SandboxdState where
  isSnapshot := false
  tunnelSession := true
  egressProxy := egressProxy
  processes := world.processes.length
  runtimeAdapters := startedAdapters [] 0 world.agentRuntimes
  runtimeAgentProbe := decide ((startedAdapters [] 0 world.agentRuntimes).length = 1)
  runtimeReadinessThread := true
  runtimeCoordinationThread := world.hasProcessControl
  daemonLivenessMonitor := true

/-- What the runtime leaves: nothing, itself, itself with the workspace, or its state. -/
theorem startRuntime_cases (world : StartupWorld) (egressProxy : Bool) :
    (¬world.ProcessesRun ∧ ∃ error,
      exec (startRuntime world egressProxy) (workspace egressProxy) = (.error error, [])) ∨
    (world.ProcessesRun ∧ world.EndpointFails ∧ ∃ error,
      exec (startRuntime world egressProxy) (workspace egressProxy) =
        (.error error, world.startedRuntime)) ∨
    (world.ProcessesRun ∧ world.ProbeFails ∧ ∃ error,
      exec (startRuntime world egressProxy) (workspace egressProxy) =
        (.error error, world.startedRuntime ++ workspace egressProxy)) ∨
    (¬world.EndpointFails ∧ ¬world.ProbeFails ∧
      exec (startRuntime world egressProxy) (workspace egressProxy) =
        (.ok (world.runtimeState egressProxy),
          .daemonLivenessMonitor :: (heldIf world.hasProcessControl .runtimeCoordinationThread ++
            .runtimeReadinessThread :: (heldIf (world.runtimeState egressProxy).runtimeAgentProbe
              .runtimeAgentProbe ++ (world.startedRuntime ++ workspace egressProxy))))) := by
  unfold startRuntime
  rcases startProcessManager_cases world egressProxy with ⟨hrun, hexec⟩ | ⟨hrun, error, hexec⟩
  swap
  · exact .inl ⟨hrun, error, exec_bind_error hexec⟩
  refine .inr ?_
  rw [exec_bind_ok hexec]
  rcases startAdapters_cases world.agentRuntimes [] 0
      (processResources world.processes.length ++ workspace egressProxy) with
    ⟨hall, hexec⟩ | ⟨hall, error, hexec⟩
  all_goals rw [← List.append_assoc, ← StartupWorld.startedRuntime] at hexec
  swap
  · exact .inl ⟨hrun, .inl hall, error, exec_bind_error (exec_orClose_runtime hexec)⟩
  rw [exec_bind_ok (exec_orClose_ok hexec)]
  by_cases htwo : 1 < (startedAdapters [] 0 world.agentRuntimes).length
  · have hthrow := exec_orClose_runtime (exec_throw (α := Unit) (.startTunnelSession
      "sandboxd currently supports exactly one runtime adapter endpoint")
      (world.startedRuntime ++ workspace egressProxy))
    rw [decide_eq_true htwo, stepIf_true]
    exact .inl ⟨hrun, .inr (.inl htwo), _, exec_bind_error hthrow⟩
  rw [decide_eq_false htwo, stepIf_false, exec_bind_ok (exec_pure _ _)]
  cases hendpoint : world.setAgentEndpointUrl with
  | error text =>
      have hne : world.setAgentEndpointUrl ≠ .ok () := by
        rw [hendpoint]
        exact fun h => nomatch h
      exact .inl ⟨hrun, .inr (.inr hne), _,
        exec_bind_error (exec_orClose_runtime (exec_orError_error _ _ _))⟩
  | ok u =>
      have hattached : ¬world.EndpointFails := by
        rintro (hfails | hfails | hfails)
        · exact hfails hall
        · exact htwo hfails
        · exact hfails hendpoint
      rw [exec_bind_ok (exec_orClose_ok (exec_orError_ok _ _ _))]
      rcases buildRuntimeAgentProbePlan_cases world (startedAdapters [] 0 world.agentRuntimes)
          (world.startedRuntime ++ workspace egressProxy) with
        ⟨hopencode, hprobe, error, hplan⟩ | ⟨hplanned, hplan⟩
      · refine .inr (.inl ⟨hrun, ⟨hattached, hopencode, hprobe⟩, error, ?_⟩)
        exact exec_bind_error hplan
      · exact .inr (.inr ⟨hattached, fun h => hplanned h.2, superviseRuntime_ok egressProxy hplan⟩)

theorem startRuntime_releases_iff (world : StartupWorld) (egressProxy : Bool) :
    Releases (exec (startRuntime world egressProxy) (workspace egressProxy)) ↔
      ¬(world.ProcessesRun ∧
        (world.EndpointFails ∧ world.startedRuntime ≠ [] ∨ world.ProbeFails)) := by
  rcases startRuntime_cases world egressProxy with ⟨hrun, error, hexec⟩ |
    ⟨hrun, hfails, error, hexec⟩ | ⟨hrun, hprobe, error, hexec⟩ | ⟨hattached, hplanned, hexec⟩
  · rw [hexec, releases_error]
    exact ⟨fun _ h => hrun h.1, fun _ => rfl⟩
  · rw [hexec, releases_error]
    constructor
    · rintro hnil ⟨-, ⟨-, hheld⟩ | hprobe⟩
      · exact hheld hnil
      · exact hprobe.1 hfails
    · intro h
      by_contra hheld
      exact h ⟨hrun, .inl ⟨hfails, hheld⟩⟩
  · -- Nothing is closed here, so at least the tunnel session is left.
    rw [hexec, releases_error]
    constructor
    · intro hnil
      have hworkspace : workspace egressProxy = [] := (List.append_eq_nil_iff.mp hnil).2
      cases egressProxy <;> exact absurd hworkspace (List.cons_ne_nil _ _)
    · exact fun h => absurd ⟨hrun, .inr hprobe⟩ h
  · rw [hexec]
    refine ⟨fun _ h => ?_, fun _ => releases_ok _ _⟩
    rcases h.2 with hfails | hprobe
    · exact hattached hfails.1
    · exact hplanned hprobe

/-- What is checked before the tunnel session leaves nothing. -/
theorem prepareSession_settles (world : StartupWorld) :
    Settles [] (workspace false) [] (prepareSession world) ()
      (world.prepareStandardDevLinks = .ok () ∧ world.runtimePlan = .ok () ∧
        world.deriveSandboxInstanceId = .ok () ∧ world.collectMistleContext = .ok () ∧
        world.startTunnelSession = .ok () ∧ True) := by
  unfold prepareSession
  refine Settles.bind (Settles.orError _ _) ?_
  refine Settles.bind (Settles.orError _ _) ?_
  refine Settles.bind (Settles.orError _ _) ?_
  refine Settles.bind (Settles.orError _ _) ?_
  exact Settles.bind (Settles.orError _ _) (Settles.start _)

/-- Nothing runs on after a failed initialization, but for the failures that leak. -/
theorem initializeSession_releases_iff (world : StartupWorld) (input : InitializeSessionInput) :
    Releases (exec (initializeSession world input) []) ↔ ¬Leaks world input := by
  unfold initializeSession
  rcases prepareSession_settles world with
    ⟨⟨hlinks, hplan, hid, hcontext, htunnel, -⟩, hexec⟩ | ⟨hfails, error, hexec⟩
  · rw [exec_bind_ok hexec]
    have hprepared : Prepared world := ⟨hlinks, hplan, hid, hcontext, htunnel⟩
    rcases prepareWorkspace_cases world input with
      ⟨egressProxy, hready, hexec⟩ | ⟨hready, error, hexec⟩
    · rw [exec_bind_ok hexec]
      have hegress : ∀ other, WorkspaceReady world input other → other = egressProxy := by
        intro other hother
        have heq : (Except.ok other : Except String Bool) = .ok egressProxy :=
          hother.startEgressProxy.symm.trans hready.startEgressProxy
        exact Except.ok.inj heq
      cases hsnapshot : input.isSnapshot with
      | true =>
          rw [if_pos rfl, finishSnapshot_releases_iff]
          refine not_congr ⟨fun h => ⟨hprepared, egressProxy, hready, .inl ⟨hsnapshot, h⟩⟩, ?_⟩
          rintro ⟨-, other, hother, ⟨-, h⟩ | ⟨hsession, -⟩⟩
          · rwa [hegress other hother] at h
          · exact absurd (hsnapshot.symm.trans hsession) (by decide)
      | false =>
          rw [if_neg (by decide), startRuntime_releases_iff]
          refine not_congr ⟨fun h => ⟨hprepared, egressProxy, hready, .inr ⟨hsnapshot, h⟩⟩, ?_⟩
          rintro ⟨-, other, hother, ⟨hsession, -⟩ | ⟨-, h⟩⟩
          · exact absurd (hsnapshot.symm.trans hsession) (by decide)
          · exact h
    · rw [exec_bind_error hexec, releases_error]
      exact ⟨fun _ h => hready _ h.2.choose_spec.1, fun _ => rfl⟩
  · rw [exec_bind_error hexec, releases_error]
    refine ⟨fun _ h => hfails ?_, fun _ => rfl⟩
    exact ⟨h.1.1, h.1.2, h.1.3, h.1.4, h.1.5, trivial⟩

/-! ### What is held of a session that is up -/

theorem mem_workspace {egressProxy : Bool} {resource : Resource} :
    resource ∈ workspace egressProxy ↔
      resource = .tunnelSession ∨ egressProxy = true ∧ resource = .egressProxy := by
  cases egressProxy <;> simp [workspace, or_comm]

theorem mem_heldIf {holds : Bool} {resource other : Resource} :
    other ∈ heldIf holds resource ↔ holds = true ∧ other = resource := by
  cases holds <;> simp [heldIf]

theorem mem_runtimeState_resources_iff (world : StartupWorld) (egressProxy : Bool)
    (resource : Resource) :
    resource ∈ .daemonLivenessMonitor ::
        (heldIf world.hasProcessControl .runtimeCoordinationThread ++
          .runtimeReadinessThread :: (heldIf (world.runtimeState egressProxy).runtimeAgentProbe
            .runtimeAgentProbe ++ (world.startedRuntime ++ workspace egressProxy))) ↔
      resource ∈ (world.runtimeState egressProxy).resources := by
  simp only [SandboxdState.resources, List.mem_cons, List.mem_append, mem_heldIf, mem_workspace,
    StartupWorld.startedRuntime, StartupWorld.runtimeState, List.mem_reverse, true_and]
  tauto

/-- What runs of a session that is up is what its state holds. -/
theorem mem_resources_iff {world : StartupWorld} {input : InitializeSessionInput}
    {state : SandboxdState} {running : List Resource}
    (h : exec (initializeSession world input) [] = (.ok state, running)) (resource : Resource) :
    resource ∈ running ↔ resource ∈ state.resources := by
  unfold initializeSession at h
  rcases prepareSession_settles world with ⟨-, hexec⟩ | ⟨-, error, hexec⟩
  swap
  · rw [exec_bind_error hexec] at h
    cases h
  rw [exec_bind_ok hexec] at h
  rcases prepareWorkspace_cases world input with ⟨egressProxy, -, hexec⟩ | ⟨-, error, hexec⟩
  swap
  · rw [exec_bind_error hexec] at h
    cases h
  rw [exec_bind_ok hexec] at h
  cases hsnapshot : input.isSnapshot with
  | true =>
      rw [hsnapshot, if_pos rfl] at h
      rcases finishSnapshot_cases world egressProxy with ⟨-, hexec⟩ | ⟨-, error, hexec⟩
      · rw [hexec] at h
        cases h
        exact Iff.rfl
      · rw [hexec] at h
        cases h
  | false =>
      rw [hsnapshot, if_neg (by decide)] at h
      rcases startRuntime_cases world egressProxy with ⟨-, error, hexec⟩ |
        ⟨-, -, error, hexec⟩ | ⟨-, -, error, hexec⟩ | ⟨-, -, hexec⟩
      · rw [hexec] at h
        cases h
      · rw [hexec] at h
        cases h
      · rw [hexec] at h
        cases h
      · rw [hexec] at h
        cases h
        exact mem_runtimeState_resources_iff world egressProxy resource

end Daemon

end Mistle
