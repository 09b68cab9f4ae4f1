import Mathlib.Tactic.Common

/-!
# The Lifecycle of a Sandbox Instance

A sandbox instance has a status, and what happens to it is an event. Which event leads
from which status to which is one table of rules; every service writes the status in
statements of its own, and the table says which of these are in order.

## Main definitions

* `SandboxInstanceStatus`, `SandboxLifecycleEvent`: Statuses and events.
* `lifecycleRule`, `transitionSandboxLifecycle`: The table, and what an event does.
* `LifecycleEdge`: Two statuses that some event leads between.
* `getSandboxDisconnectReconciliationPhase`, `isSandboxUserStopEligible`: What a status
  allows.

## Theorems

* `transitionFrom_cases`: The three ways a rule answers.
* `transition_from`: A transition is from the status that was asked about.
* `lifecycleEdge_iff`: The edges, by the rules.
* `lifecycleEdge_failed`: Whatever has not failed may fail.
-/

namespace Mistle

inductive SandboxInstanceStatus where
  | pending
  | starting
  | started
  | initializing
  | running
  | degraded
  | reconnecting
  | stopping
  | stopped
  | failed
  deriving DecidableEq

def SandboxInstanceStatus.text : SandboxInstanceStatus → String
  | .pending => "pending"
  | .starting => "starting"
  | .started => "started"
  | .initializing => "initializing"
  | .running => "running"
  | .degraded => "degraded"
  | .reconnecting => "reconnecting"
  | .stopping => "stopping"
  | .stopped => "stopped"
  | .failed => "failed"

inductive SandboxLifecycleEvent where
  | providerStartRequested
  | providerStartAccepted
  | providerRuntimeInitializationStarted
  | runtimeReady
  | bootstrapDegraded
  | bootstrapRecovered
  | bootstrapDetached
  | bootstrapReattachedNotReady
  | bootstrapReattachedReady
  | stopRequested
  | providerStopped
  | failureRecorded
  deriving DecidableEq

def SandboxLifecycleEvent.text : SandboxLifecycleEvent → String
  | .providerStartRequested => "provider_start_requested"
  | .providerStartAccepted => "provider_start_accepted"
  | .providerRuntimeInitializationStarted => "provider_runtime_initialization_started"
  | .runtimeReady => "runtime_ready"
  | .bootstrapDegraded => "bootstrap_degraded"
  | .bootstrapRecovered => "bootstrap_recovered"
  | .bootstrapDetached => "bootstrap_detached"
  | .bootstrapReattachedNotReady => "bootstrap_reattached_not_ready"
  | .bootstrapReattachedReady => "bootstrap_reattached_ready"
  | .stopRequested => "stop_requested"
  | .providerStopped => "provider_stopped"
  | .failureRecorded => "failure_recorded"

inductive SandboxLifecycleTransitionResult where
  | transition (source target : SandboxInstanceStatus)
  | unchanged (status : SandboxInstanceStatus)
  | invalid (status : SandboxInstanceStatus) (event : SandboxLifecycleEvent) (reason : String)
  deriving DecidableEq

/-- The statuses that an event leads from, the one it leads to, and those it leaves. -/
structure LifecycleRule where
  source : List SandboxInstanceStatus
  target : SandboxInstanceStatus
  idempotent : List SandboxInstanceStatus

def transitionFrom (status : SandboxInstanceStatus) (event : SandboxLifecycleEvent)
    (rule : LifecycleRule) : SandboxLifecycleTransitionResult :=
  if status ∈ rule.source then
    if status = rule.target then .unchanged status else .transition status rule.target
  else if status ∈ rule.idempotent then .unchanged status
  else .invalid status event
    s!"Cannot apply sandbox lifecycle event '{event.text}' while status is '{status.text}'."

def lifecycleRule : SandboxLifecycleEvent → LifecycleRule
  | .providerStartRequested => ⟨[.pending, .stopped, .failed], .starting, [.starting]⟩
  | .providerStartAccepted => ⟨[.starting], .started, [.started]⟩
  | .providerRuntimeInitializationStarted => ⟨[.started], .initializing, [.initializing]⟩
  | .runtimeReady => ⟨[.initializing], .running, [.running]⟩
  | .bootstrapDegraded => ⟨[.running], .degraded, [.degraded]⟩
  | .bootstrapRecovered => ⟨[.degraded], .running, [.running]⟩
  | .bootstrapDetached => ⟨[.running, .degraded], .reconnecting, [.reconnecting]⟩
  | .bootstrapReattachedNotReady => ⟨[.reconnecting], .initializing, [.initializing]⟩
  | .bootstrapReattachedReady => ⟨[.reconnecting], .running, [.running]⟩
  | .stopRequested =>
    ⟨[.starting, .started, .running, .degraded, .reconnecting, .initializing], .stopping,
      [.stopping]⟩
  | .providerStopped => ⟨[.stopping], .stopped, [.stopped]⟩
  | .failureRecorded =>
    ⟨[.pending, .starting, .started, .initializing, .running, .degraded, .reconnecting,
      .stopping, .stopped], .failed, [.failed]⟩

def transitionSandboxLifecycle (status : SandboxInstanceStatus) (event : SandboxLifecycleEvent) :
    SandboxLifecycleTransitionResult :=
  transitionFrom status event (lifecycleRule event)

/-- Some event leads from the one status to the other. -/
def LifecycleEdge (source target : SandboxInstanceStatus) : Prop :=
  ∃ event, transitionSandboxLifecycle source event = .transition source target

/-! ### What a status allows -/

inductive SandboxDisconnectReconciliationPhase where
  | startup
  | runtime
  | stopping
  deriving DecidableEq

def getSandboxDisconnectReconciliationPhase :
    SandboxInstanceStatus → Option SandboxDisconnectReconciliationPhase
  | .starting | .started | .initializing => some .startup
  | .running | .degraded | .reconnecting => some .runtime
  | .stopping => some .stopping
  | .pending | .stopped | .failed => none

def isSandboxUserStopEligible : SandboxInstanceStatus → Bool
  | .running | .degraded | .reconnecting => true
  | .pending | .starting | .started | .initializing | .stopping | .stopped | .failed => false

inductive SandboxInstancePurpose where
  | session
  | designer
  | snapshot
  | setupAssistant
  | setupCheck
  | skillsDiscovery
  deriving DecidableEq

def SandboxInstancePurpose.text : SandboxInstancePurpose → String
  | .session => "session"
  | .designer => "designer"
  | .snapshot => "snapshot"
  | .setupAssistant => "setup_assistant"
  | .setupCheck => "setup_check"
  | .skillsDiscovery => "skills_discovery"

inductive SandboxStopReason where
  | idle
  | disconnected
  | user
  | system
  | failed
  deriving DecidableEq

/-! ### The table -/

variable {status source target : SandboxInstanceStatus} {event : SandboxLifecycleEvent}

theorem transitionFrom_cases (rule : LifecycleRule) :
    (status ∈ rule.source ∧ status ≠ rule.target ∧
      transitionFrom status event rule = .transition status rule.target) ∨
    transitionFrom status event rule = .unchanged status ∨
    ∃ reason, transitionFrom status event rule = .invalid status event reason := by
  unfold transitionFrom
  by_cases hsource : status ∈ rule.source
  · rw [if_pos hsource]
    by_cases htarget : status = rule.target
    · rw [if_pos htarget]
      exact .inr (.inl rfl)
    · rw [if_neg htarget]
      exact .inl ⟨hsource, htarget, rfl⟩
  · rw [if_neg hsource]
    by_cases hidempotent : status ∈ rule.idempotent
    · rw [if_pos hidempotent]
      exact .inr (.inl rfl)
    · rw [if_neg hidempotent]
      exact .inr (.inr ⟨_, rfl⟩)

/-- A transition is from the status that was asked about, by the rule of the event. -/
theorem transition_from (h : transitionSandboxLifecycle status event = .transition source target) :
    source = status ∧ status ∈ (lifecycleRule event).source ∧ status ≠ target ∧
      target = (lifecycleRule event).target := by
  rw [transitionSandboxLifecycle] at h
  rcases transitionFrom_cases (lifecycleRule event) with ⟨hmem, hne, heq⟩ | heq | ⟨reason, heq⟩
  · rw [heq] at h
    injection h with hsource htarget
    exact ⟨hsource.symm, hmem, htarget ▸ hne, htarget.symm⟩
  · exact absurd (heq.symm.trans h) (by simp only [reduceCtorEq, not_false_eq_true])
  · exact absurd (heq.symm.trans h) (by simp only [reduceCtorEq, not_false_eq_true])

/-- What the table answers with is an edge. -/
theorem LifecycleEdge.of_transition
    (h : transitionSandboxLifecycle status event = .transition source target) :
    LifecycleEdge source target := by
  rcases transition_from h with ⟨hsource, _⟩
  rw [← hsource] at h
  exact ⟨event, h⟩

theorem lifecycleEdge_iff :
    LifecycleEdge source target ↔
      source ≠ target ∧ ∃ event, source ∈ (lifecycleRule event).source ∧
        target = (lifecycleRule event).target := by
  constructor
  · rintro ⟨event, h⟩
    rcases transition_from h with ⟨_, hmem, hne, htarget⟩
    exact ⟨hne, event, hmem, htarget⟩
  · rintro ⟨hne, event, hmem, htarget⟩
    refine ⟨event, ?_⟩
    rw [transitionSandboxLifecycle, transitionFrom, if_pos hmem, if_neg (htarget ▸ hne), htarget]

instance : Decidable (LifecycleEdge source target) :=
  have hevents : (∃ event ∈ ([.providerStartRequested, .providerStartAccepted,
      .providerRuntimeInitializationStarted, .runtimeReady, .bootstrapDegraded,
      .bootstrapRecovered, .bootstrapDetached, .bootstrapReattachedNotReady,
      .bootstrapReattachedReady, .stopRequested, .providerStopped, .failureRecorded] :
        List SandboxLifecycleEvent),
      transitionSandboxLifecycle source event = .transition source target) ↔
      LifecycleEdge source target := by
    constructor
    · rintro ⟨event, _, h⟩
      exact ⟨event, h⟩
    · rintro ⟨event, h⟩
      refine ⟨event, ?_, h⟩
      cases event <;> decide
  decidable_of_iff _ hevents

/-- Whatever has not failed may fail. -/
theorem lifecycleEdge_failed (h : status ≠ .failed) : LifecycleEdge status .failed := by
  refine lifecycleEdge_iff.mpr ⟨h, .failureRecorded, ?_, rfl⟩
  cases status with
  | failed => exact absurd rfl h
  | _ => decide

end Mistle
