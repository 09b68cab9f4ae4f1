import Mistle.Daemon.Release

/-!
# What Closing a Session Reaches

A session is closed in a fixed order: the tunnel session, the threads, the adapters, the
processes and the egress proxy. The processes are all stopped, whatever becomes of each, and
their errors are put together at the end. The adapters are not: the first that does not
close ends the whole of it. So does an error of the processes, and then the egress proxy is
left.

`close_reaches_iff` says exactly when all is reached. Whether a step goes well does not
depend on what runs, so each step has one list of what it closes.

## Main definitions

* `Emits`, `Closes`, `Stops`: What a step closes, and whether it goes well.
* `SandboxdState.Skips`: The errors after which something is not reached.

## Theorems

* `closeAdapters_cases`: All adapters are closed, or those up to one that fails.
* `stopProcesses_cases`: All processes are stopped, with an error or without.
* `close_cases`: What is closed of a session.
* `close_reaches_iff`: Exactly when everything held is closed.
* `released_iff`: When a failed initialization and a close leave nothing.
-/

namespace Mistle

namespace Daemon

open Handler

/-! ### What a step closes -/

/-- A step closes these, in this order, whatever runs. -/
def Emits (x : Running Unit) (resources : List Resource) : Prop :=
  ∀ running, (x running).emitted = resources.map .closed

/-- A step that closes these and goes well. -/
def Closes (x : Running Unit) (resources : List Resource) : Prop :=
  Emits x resources ∧ ∀ running, (x running).result = .ok ()

/-- A step that closes these and fails. -/
def Stops (x : Running Unit) (resources : List Resource) : Prop :=
  Emits x resources ∧ ∀ running, ∃ error, (x running).result = .error error

section Steps

variable {x : Running Unit} {f : Unit → Running Unit} {first rest : List Resource}

/-- What follows a step that goes well runs in the state the step left. -/
theorem Closes.bind_eq (hx : Closes x first) (running : List Resource) :
    ∃ running', (x >>= f) running = ⟨(f () running').result, (f () running').state,
      first.map .closed ++ (f () running').emitted⟩ := by
  rcases hr : x running with ⟨r, running', out⟩
  have hok : r = .ok () := by simpa only [hr] using hx.2 running
  have hout : out = first.map .closed := by simpa only [hr] using hx.1 running
  rw [hok, hout] at hr
  exact ⟨running', bind_ok hr⟩

theorem Closes.emits_bind (hx : Closes x first) (hf : Emits (f ()) rest) :
    Emits (x >>= f) (first ++ rest) := by
  intro running
  rcases hx.bind_eq (f := f) running with ⟨running', heq⟩
  rw [heq, hf running', List.map_append]

theorem Closes.bind (hx : Closes x first) (hf : Closes (f ()) rest) :
    Closes (x >>= f) (first ++ rest) := by
  refine ⟨hx.emits_bind hf.1, fun running => ?_⟩
  rcases hx.bind_eq (f := f) running with ⟨running', heq⟩
  rw [heq]
  exact hf.2 running'

theorem Closes.stops_bind (hx : Closes x first) (hf : Stops (f ()) rest) :
    Stops (x >>= f) (first ++ rest) := by
  refine ⟨hx.emits_bind hf.1, fun running => ?_⟩
  rcases hx.bind_eq (f := f) running with ⟨running', heq⟩
  rw [heq]
  exact hf.2 running'

/-- What comes after a failing step does not run. -/
theorem Stops.bind (hx : Stops x first) : Stops (x >>= f) first := by
  refine ⟨fun running => ?_, fun running => ?_⟩
  all_goals
    rcases hr : x running with ⟨r, running', out⟩
    rcases hx.2 running with ⟨error, herror⟩
    have hr' : r = .error error := by simpa only [hr] using herror
    rw [hr'] at hr
    rw [bind_error hr]
  · simpa only [hr] using hx.1 running
  · exact ⟨error, rfl⟩

/-- Steps that close nothing add nothing, whether they are reached or not. -/
theorem Emits.bind_nil (hx : Emits x first) (hf : Emits (f ()) []) : Emits (x >>= f) first := by
  intro running
  rcases hr : x running with ⟨r, running', out⟩
  have hout : out = first.map .closed := by simpa only [hr] using hx running
  cases r with
  | error error => rw [bind_error hr, hout]
  | ok u => rw [bind_ok hr, hf running', hout, List.map_nil, List.append_nil]

theorem closes_pure : Closes (pure ()) [] := ⟨fun _ => rfl, fun _ => rfl⟩

theorem closes_close (resource : Resource) : Closes (close resource) [resource] :=
  ⟨fun _ => rfl, fun _ => rfl⟩

theorem closes_stepIf_close (holds : Bool) (resource : Resource) :
    Closes (stepIf holds (close resource)) (heldIf holds resource) := by
  cases holds with
  | false => exact closes_pure
  | true => exact closes_close resource

theorem emits_orError (error : String → SandboxdStateError) (result : Except String Unit) :
    Emits (orError error result) [] := by
  cases result <;> exact fun _ => rfl

theorem closes_orError {error : String → SandboxdStateError} {result : Except String Unit}
    (h : result = .ok ()) : Closes (orError error result) [] := by
  rw [h]
  exact closes_pure

theorem stops_orError {error : String → SandboxdStateError} {result : Except String Unit}
    (h : result ≠ .ok ()) : Stops (orError error result) [] := by
  cases result with
  | ok u => exact absurd rfl h
  | error text => exact ⟨fun _ => rfl, fun _ => ⟨error text, rfl⟩⟩

end Steps

theorem closes_each (resources : List Resource) :
    Closes (Handler.each close resources) resources := by
  induction resources with
  | nil => exact closes_pure
  | cons resource resources ih => exact (closes_close resource).bind ih

theorem closes_closeProcesses (n : Nat) : Closes (closeProcesses n) (processResources n) := by
  induction n with
  | zero => exact closes_pure
  | succ n ih => exact (closes_close (.runtimeProcess n)).bind ih

/-! ### The adapters and the processes -/

/-- The proxy of an adapter does not stop. -/
def RuntimeAdapter.FailsToClose (world : CloseWorld) (adapter : RuntimeAdapter) : Prop :=
  adapter.runtimeId ≠ "claude-code" ∧ world.closeAdapter adapter.index ≠ .ok ()

theorem closes_adapter {world : CloseWorld} {adapter : RuntimeAdapter}
    (h : ¬adapter.FailsToClose world) :
    Closes (stepIf (decide (adapter.runtimeId ≠ "claude-code"))
      (orError .stopRuntimeAdapters (world.closeAdapter adapter.index))) [] := by
  by_cases hclaude : adapter.runtimeId = "claude-code"
  · rw [decide_eq_false (not_not_intro hclaude)]
    exact closes_pure
  · have hok : world.closeAdapter adapter.index = .ok () := by
      by_contra hne
      exact h ⟨hclaude, hne⟩
    rw [decide_eq_true hclaude, stepIf_true]
    exact closes_orError hok

theorem stops_adapter {world : CloseWorld} {adapter : RuntimeAdapter}
    (h : adapter.FailsToClose world) :
    Stops (stepIf (decide (adapter.runtimeId ≠ "claude-code"))
      (orError .stopRuntimeAdapters (world.closeAdapter adapter.index))) [] := by
  rw [decide_eq_true h.1, stepIf_true]
  exact stops_orError h.2

/-- All adapters are closed, or those up to the first that fails. -/
theorem closeAdapters_cases (world : CloseWorld) (adapters : List RuntimeAdapter) :
    ((∀ adapter ∈ adapters, ¬adapter.FailsToClose world) ∧
      Closes (closeAdapters world adapters) (adapters.flatMap RuntimeAdapter.resources)) ∨
    ∃ before adapter after, adapters = before ++ adapter :: after ∧
      (∀ other ∈ before, ¬other.FailsToClose world) ∧ adapter.FailsToClose world ∧
      Stops (closeAdapters world adapters)
        ((before ++ [adapter]).flatMap RuntimeAdapter.resources) := by
  induction adapters with
  | nil => exact .inl ⟨fun _ h => absurd h List.not_mem_nil, closes_pure⟩
  | cons adapter adapters ih =>
      unfold closeAdapters
      have hproxy := closes_each adapter.resources
      by_cases hfails : adapter.FailsToClose world
      · refine .inr ⟨[], adapter, adapters, rfl, fun _ h => absurd h List.not_mem_nil, hfails, ?_⟩
        exact hproxy.stops_bind (stops_adapter hfails).bind
      · rcases ih with ⟨hall, hcloses⟩ | ⟨before, other, after, rfl, hbefore, hother, hstops⟩
        · refine .inl ⟨List.forall_mem_cons.mpr ⟨hfails, hall⟩, ?_⟩
          exact hproxy.bind ((closes_adapter hfails).bind hcloses)
        · refine .inr ⟨adapter :: before, other, after, rfl,
            List.forall_mem_cons.mpr ⟨hfails, hbefore⟩, hother, ?_⟩
          exact hproxy.stops_bind ((closes_adapter hfails).stops_bind hstops)

/-- A process does not stop, or its scope does not. -/
def CloseWorld.ProcessFails (world : CloseWorld) (processes : Nat) : Prop :=
  ∃ index < processes, world.stopProcess index ≠ .ok () ∨ world.killProcessScope index ≠ .ok ()

theorem stopErrors_eq_nil_iff {stop : Nat → Except String Unit} {n : Nat} :
    stopErrors stop n = [] ↔ ∀ index < n, stop index = .ok () := by
  induction n with
  | zero => simp [stopErrors]
  | succ n ih =>
      unfold stopErrors
      rw [Nat.forall_lt_succ_right, ← ih]
      cases stop n with
      | ok u => simp
      | error error => simp

/-- All processes are stopped, and then the errors are returned. -/
theorem stopProcesses_cases (world : CloseWorld) (processes : Nat) :
    (¬world.ProcessFails processes ∧
      Closes (stopProcesses world processes) (processResources processes)) ∨
    (world.ProcessFails processes ∧
      Stops (stopProcesses world processes) (processResources processes)) := by
  have hempty : (stopErrors world.stopProcess processes ++
      (stopErrors world.killProcessScope processes).reverse).isEmpty = true ↔
      ¬world.ProcessFails processes := by
    rw [List.isEmpty_iff, List.append_eq_nil_iff, List.reverse_eq_nil_iff, stopErrors_eq_nil_iff,
      stopErrors_eq_nil_iff]
    constructor
    · rintro ⟨hstop, hkill⟩ ⟨index, hlt, hfails | hfails⟩
      · exact hfails (hstop index hlt)
      · exact hfails (hkill index hlt)
    · intro h
      refine ⟨fun index hlt => ?_, fun index hlt => ?_⟩
      · by_contra hfails
        exact h ⟨index, hlt, .inl hfails⟩
      · by_contra hfails
        exact h ⟨index, hlt, .inr hfails⟩
  have hclosed := closes_closeProcesses processes
  rw [← List.append_nil (processResources processes)]
  unfold stopProcesses
  by_cases hfails : world.ProcessFails processes
  · refine .inr ⟨hfails, hclosed.stops_bind ?_⟩
    rw [if_neg fun h => hempty.mp h hfails]
    exact ⟨fun _ => rfl, fun _ => ⟨_, rfl⟩⟩
  · refine .inl ⟨hfails, hclosed.bind ?_⟩
    rw [if_pos (hempty.mpr hfails)]
    exact closes_pure

/-! ### Closing a session -/

/-- The tunnel session and the threads, which are always closed, before the rest. -/
def SandboxdState.closedBefore (state : SandboxdState) (rest : List Resource) : List Resource :=
  heldIf state.tunnelSession .tunnelSession ++
    (heldIf state.daemonLivenessMonitor .daemonLivenessMonitor ++
    (heldIf state.runtimeCoordinationThread .runtimeCoordinationThread ++
    (heldIf state.runtimeReadinessThread .runtimeReadinessThread ++
    (heldIf state.runtimeAgentProbe .runtimeAgentProbe ++ rest))))

/-- What is closed after the threads. -/
def SandboxdState.closeRest (state : SandboxdState) (world : CloseWorld) : Running Unit := do
  closeAdapters world state.runtimeAdapters
  stopProcesses world state.processes
  stepIf state.egressProxy do
    Daemon.close .egressProxy
    orError .stopEgressProxy world.closeEgressProxy
  orError .stopRuntimeProcesses world.killSandboxUserScopes
  orError .stopRuntimeProcesses world.killSandboxPlatformScopes
  stepIf state.isSnapshot (orError .stopEgressProxy world.scrubSnapshotRuntimeArtifacts)

theorem close_emits {state : SandboxdState} {world : CloseWorld} {rest : List Resource}
    (h : Emits (state.closeRest world) rest) :
    Emits (state.close world) (state.closedBefore rest) := by
  have hif := closes_stepIf_close
  exact (hif _ _).emits_bind ((hif _ _).emits_bind ((hif _ _).emits_bind ((hif _ _).emits_bind
    ((hif _ _).emits_bind h))))

/-- The egress proxy is closed, and nothing after it closes anything of the session. -/
theorem emits_egressProxy (state : SandboxdState) (world : CloseWorld) :
    Emits (do
      stepIf state.egressProxy do
        Daemon.close .egressProxy
        orError .stopEgressProxy world.closeEgressProxy
      orError .stopRuntimeProcesses world.killSandboxUserScopes
      orError .stopRuntimeProcesses world.killSandboxPlatformScopes
      stepIf state.isSnapshot (orError .stopEgressProxy world.scrubSnapshotRuntimeArtifacts))
      (heldIf state.egressProxy .egressProxy) := by
  have hscrub : Emits (stepIf state.isSnapshot
      (orError .stopEgressProxy world.scrubSnapshotRuntimeArtifacts)) [] := by
    cases state.isSnapshot with
    | false => exact closes_pure.1
    | true => exact emits_orError _ _
  have hegress : Emits (stepIf state.egressProxy do
      Daemon.close .egressProxy
      orError .stopEgressProxy world.closeEgressProxy) (heldIf state.egressProxy .egressProxy) := by
    cases state.egressProxy with
    | false => exact closes_pure.1
    | true => exact (closes_close _).1.bind_nil (emits_orError _ _)
  exact hegress.bind_nil ((emits_orError _ _).bind_nil ((emits_orError _ _).bind_nil hscrub))

/-- What is closed of a session: the adapters up to one that fails, or the processes as well,
    or everything. -/
theorem close_cases (state : SandboxdState) (world : CloseWorld) :
    (∃ before adapter after, state.runtimeAdapters = before ++ adapter :: after ∧
      (∀ other ∈ before, ¬other.FailsToClose world) ∧ adapter.FailsToClose world ∧
      Emits (state.close world)
        (state.closedBefore ((before ++ [adapter]).flatMap RuntimeAdapter.resources))) ∨
    ((∀ adapter ∈ state.runtimeAdapters, ¬adapter.FailsToClose world) ∧
      world.ProcessFails state.processes ∧
      Emits (state.close world) (state.closedBefore
        (state.runtimeAdapters.flatMap RuntimeAdapter.resources ++
          processResources state.processes))) ∨
    ((∀ adapter ∈ state.runtimeAdapters, ¬adapter.FailsToClose world) ∧
      ¬world.ProcessFails state.processes ∧ Emits (state.close world) state.resources) := by
  rcases closeAdapters_cases world state.runtimeAdapters with
    ⟨hall, hadapters⟩ | ⟨before, adapter, after, heq, hbefore, hfails, hadapters⟩
  · rcases stopProcesses_cases world state.processes with ⟨hok, hprocesses⟩ | ⟨hfails, hprocesses⟩
    · refine .inr (.inr ⟨hall, hok, close_emits ?_⟩)
      exact hadapters.emits_bind (hprocesses.emits_bind (emits_egressProxy state world))
    · refine .inr (.inl ⟨hall, hfails, close_emits ?_⟩)
      exact hadapters.emits_bind hprocesses.bind.1
  · exact .inl ⟨before, adapter, after, heq, hbefore, hfails, close_emits hadapters.bind.1⟩

/-- An error of an adapter or of the processes comes before something else that is held. -/
def SandboxdState.Skips (state : SandboxdState) (world : CloseWorld) : Prop :=
  (∃ before adapter after, state.runtimeAdapters = before ++ adapter :: after ∧
    adapter.FailsToClose world ∧ ∃ resource ∈ after.flatMap RuntimeAdapter.resources ++
      (processResources state.processes ++ heldIf state.egressProxy .egressProxy),
      resource ∉ (before ++ [adapter]).flatMap RuntimeAdapter.resources) ∨
  (world.ProcessFails state.processes ∧ state.egressProxy = true)

/-- What is held besides the tunnel session and the threads. -/
def SandboxdState.runtime (state : SandboxdState) : List Resource :=
  state.runtimeAdapters.flatMap RuntimeAdapter.resources ++
    (processResources state.processes ++ heldIf state.egressProxy .egressProxy)

theorem mem_map_closed {resource : Resource} {resources : List Resource} :
    ResourceEffect.closed resource ∈ resources.map .closed ↔ resource ∈ resources := by
  simp only [List.mem_map, ResourceEffect.closed.injEq, exists_eq_right]

theorem mem_runtime {state : SandboxdState} {resource : Resource} (h : resource ∈ state.runtime) :
    (∃ index, resource = .runtimeAdapter index) ∨ (∃ index, resource = .runtimeProcess index) ∨
      resource = .egressProxy := by
  rcases List.mem_append.mp h with h | h
  · exact .inl (mem_adapterResources h)
  · rcases List.mem_append.mp h with h | h
    · rcases mem_processResources.mp h with ⟨index, -, rfl⟩
      exact .inr (.inl ⟨index, rfl⟩)
    · exact .inr (.inr (mem_heldIf.mp h).2)

/-- The threads do not count where it is asked what of the runtime is closed. -/
theorem closedBefore_reaches_iff (state : SandboxdState) (rest : List Resource) :
    (∀ resource ∈ state.resources, resource ∈ state.closedBefore rest) ↔
      ∀ resource ∈ state.runtime, resource ∈ rest := by
  have hmem : ∀ resource more, resource ∈ state.closedBefore more ↔
      resource ∈ state.closedBefore [] ∨ resource ∈ more := by
    intro resource more
    simp only [SandboxdState.closedBefore, List.mem_append, List.append_nil, or_assoc]
  have hresources : state.resources = state.closedBefore state.runtime := rfl
  rw [hresources]
  constructor
  · intro h resource hruntime
    rcases (hmem resource rest).mp (h resource ((hmem _ _).mpr (.inr hruntime))) with hbefore | hrest
    · simp only [SandboxdState.closedBefore, List.mem_append, mem_heldIf, List.append_nil]
        at hbefore
      rcases mem_runtime hruntime with ⟨index, rfl⟩ | ⟨index, rfl⟩ | rfl <;> simp at hbefore
    · exact hrest
  · intro h resource hresource
    rcases (hmem resource state.runtime).mp hresource with hbefore | hruntime
    · exact (hmem resource rest).mpr (.inl hbefore)
    · exact (hmem resource rest).mpr (.inr (h resource hruntime))

/-- The adapters up to the first that fails are among those up to any that fails. -/
theorem mem_up_to_failing {world : CloseWorld} {before before' after after' : List RuntimeAdapter}
    {adapter adapter' other : RuntimeAdapter}
    (heq : before ++ adapter :: after = before' ++ adapter' :: after')
    (hbefore : ∀ other ∈ before, ¬other.FailsToClose world) (hfails : adapter'.FailsToClose world)
    (h : other ∈ before ++ [adapter]) : other ∈ before' ++ [adapter'] := by
  rcases List.append_eq_append_iff.mp heq with ⟨middle, hbefore', hrest⟩ | ⟨middle, hbefore', hrest⟩
  · cases middle with
    | nil =>
        rw [List.append_nil] at hbefore'
        rw [hbefore', (List.cons.inj hrest).1.symm]
        exact h
    | cons first middle =>
        rw [hbefore', (List.cons.inj hrest).1.symm]
        refine List.mem_append_left _ ?_
        rcases List.mem_append.mp h with h | h
        · exact List.mem_append_left _ h
        · exact List.mem_append_right _ (List.mem_cons.mpr (.inl (List.mem_singleton.mp h)))
  · cases middle with
    | nil =>
        rw [List.append_nil] at hbefore'
        rw [← hbefore', (List.cons.inj hrest).1]
        exact h
    | cons first middle =>
        have hmem : adapter' ∈ before := by
          rw [hbefore', (List.cons.inj hrest).1]
          exact List.mem_append_right _ (List.mem_cons_self ..)
        exact absurd hfails (hbefore adapter' hmem)

/-- Everything that is held is closed, unless an error skips some of it. -/
theorem close_reaches_iff (state : SandboxdState) (world : CloseWorld) (running : List Resource) :
    (∀ resource ∈ state.resources, .closed resource ∈ (state.close world running).emitted) ↔
      ¬state.Skips world := by
  have hegress : ∀ adapters : List RuntimeAdapter,
      .egressProxy ∉ adapters.flatMap RuntimeAdapter.resources := by
    intro adapters hmem
    rcases mem_adapterResources hmem with ⟨index, h⟩
    cases h
  have hheld : state.egressProxy = true → .egressProxy ∈ state.runtime := fun h =>
    List.mem_append_right _ (List.mem_append_right _ (mem_heldIf.mpr ⟨h, rfl⟩))
  rcases close_cases state world with ⟨before, adapter, after, heq, hbefore, hfails, hemits⟩ |
    ⟨hall, hfails, hemits⟩ | ⟨hall, hok, hemits⟩
  all_goals
    rw [hemits running]
    simp only [mem_map_closed]
  · rw [closedBefore_reaches_iff]
    constructor
    · rintro h (⟨before', adapter', after', heq', hfails', resource, hrest, hnot⟩ | ⟨-, hproxy⟩)
      · have hruntime : resource ∈ state.runtime := by
          unfold SandboxdState.runtime
          rw [heq', List.flatMap_append, List.flatMap_cons]
          rcases List.mem_append.mp hrest with hrest | hrest
          · exact List.mem_append_left _ (List.mem_append_right _ (List.mem_append_right _ hrest))
          · exact List.mem_append_right _ hrest
        rcases List.mem_flatMap.mp (h resource hruntime) with ⟨other, hother, hresource⟩
        have hup := mem_up_to_failing (heq.symm.trans heq') hbefore hfails' hother
        exact hnot (List.mem_flatMap.mpr ⟨other, hup, hresource⟩)
      · exact hegress _ (h _ (hheld hproxy))
    · intro h resource hruntime
      by_contra hnot
      refine h (.inl ⟨before, adapter, after, heq, hfails, resource, ?_, hnot⟩)
      unfold SandboxdState.runtime at hruntime
      rw [heq, List.append_cons, List.flatMap_append, List.append_assoc] at hruntime
      exact (List.mem_append.mp hruntime).resolve_left hnot
  · rw [closedBefore_reaches_iff]
    constructor
    · rintro h (⟨before, adapter, after, heq, hadapter, -⟩ | ⟨-, hproxy⟩)
      · refine hall adapter ?_ hadapter
        rw [heq]
        exact List.mem_append_right _ (List.mem_cons_self ..)
      · rcases List.mem_append.mp (h _ (hheld hproxy)) with hmem | hmem
        · exact hegress _ hmem
        · rcases mem_processResources.mp hmem with ⟨index, -, h⟩
          cases h
    · intro h resource hruntime
      unfold SandboxdState.runtime at hruntime
      rw [← List.append_assoc] at hruntime
      rcases List.mem_append.mp hruntime with hmem | hmem
      · exact hmem
      · exact absurd (.inr ⟨hfails, (mem_heldIf.mp hmem).1⟩) h
  · refine ⟨fun _ => ?_, fun _ resource h => h⟩
    rintro (⟨before, adapter, after, heq, hadapter, -⟩ | ⟨hfails, -⟩)
    · refine hall adapter ?_ hadapter
      rw [heq]
      exact List.mem_append_right _ (List.mem_cons_self ..)
    · exact hok hfails

/-! ### Nothing leaks -/

/-- A plan of one process and one adapter, where every step goes well. -/
def codexWorld : StartupWorld where
  prepareStandardDevLinks := .ok ()
  runtimePlan := .ok ()
  deriveSandboxInstanceId := .ok ()
  collectMistleContext := .ok ()
  startTunnelSession := .ok ()
  applyGitIdentity := .ok ()
  startEgressProxy := .ok true
  collectRuntimeEnvironment := .ok ()
  mergeManagedRuntimeEnvironment := .ok ()
  setRuntimeEnvironment := .ok ()
  applyCompiledRuntimePlan := .ok ()
  applyRuntimeClientSetupFiles := .ok ()
  runSetupScript := .ok ()
  closeEgressProxy := .ok ()
  processes := [⟨"codex-app-server", .ok ()⟩]
  processReadiness := .ok ()
  agentRuntimes := [⟨"codex", .ok ()⟩]
  setAgentEndpointUrl := .ok ()
  openCodeProbe := .ok ()
  hasProcessControl := true

/-- The adapter's proxy thread has panicked, and all else goes well. -/
def adapterPanicked : CloseWorld where
  closeDaemonLivenessMonitor := .ok ()
  closeAdapter _ := .error "Codex proxy runtime thread panicked"
  stopProcess _ := .ok ()
  killProcessScope _ := .ok ()
  closeEgressProxy := .ok ()
  killSandboxUserScopes := .ok ()
  killSandboxPlatformScopes := .ok ()
  scrubSnapshotRuntimeArtifacts := .ok ()

end Daemon

end Mistle
