import Mathlib.Data.List.Basic
import Mistle.Lib.Run
import Mistle.Process.Restart

/-!
# One Process for Each Component

Whenever no restart is under way, at most one child of a component should be alive: the one
its handle holds, and the registry should name its pid.

A restart keeps this where every process that it was to stop is gone. Where one runs on it
depends on what the restart goes on to do. A replacement that failed is not held by anyone, so
it must be gone. The process that was held may run on as long as it stays held and
registered: that is so where nothing was spawned, or where the replacement was not written
to the registry. The restart of Claude Code does not get that far, for it gives
up first.

## Main definitions

* `Single`: What should hold of a component whenever it is not restarted.
* `RestartWorld.fate`: How far the replacement gets.
* `Harmless`: What a restart may meet.
* `processStep`: A restart, or the exit of a child.

## Theorems

* `restart_state`: The state a restart leaves behind.
* `single_afterReplace_iff`, `single_restart_iff`: When a restart keeps a single process.
* `single_iff_harmless`: It holds all along a run exactly where each restart is harmless.
-/

namespace Mistle

namespace ProcessManager

open Handler

/-! ### What a restart leaves behind -/

/-- How far the process that is to replace the old one gets. -/
inductive Fate where
  | notSpawned
  | notRegistered (pid : Nat)
  | notReady (pid : Nat)
  | ready (pid : Nat)
  deriving DecidableEq

def RestartWorld.fate (world : RestartWorld) (platformScope : Option String) : Fate :=
  match world.spawn with
  | .error _ => .notSpawned
  | .ok pid =>
    match attachPidToScope platformScope world with
    | .error _ => .notRegistered pid
    | .ok () =>
      match platformScope, world.update with
      | some _, .error _ => .notRegistered pid
      | _, _ =>
        match world.readiness with
        | .error _ => .notReady pid
        | .ok () => .ready pid

namespace ProcessState

/-- The registry after the pid was written to it. -/
def register (s : ProcessState) (platformScope : Option String) (pid : Nat) : ProcessState :=
  match platformScope with
  | none => s
  | some registryKey => s.updateSupervisedRootPid registryKey pid

/-- A child after it was to be stopped. -/
def afterStop (s : ProcessState) (component : SupervisedComponent) (child : Child)
    (world : StopWorld) : ProcessState :=
  if world.leavesRunning (s.managed component).stop then s else s.exits component child

def afterReplace (s : ProcessState) (component : SupervisedComponent) (world : RestartWorld) :
    ProcessState :=
  let platformScope := (s.managed component).platformScope
  match world.fate platformScope with
  | .notSpawned => s.setRestartInProgress component false
  | .notRegistered pid =>
    ((s.spawn component pid).afterStop component (s.nextChild pid)
      world.stopReplacement).setRestartInProgress component false
  | .notReady pid =>
    (((s.spawn component pid).register platformScope pid).afterStop component (s.nextChild pid)
      world.stopReplacement).setRestartInProgress component false
  | .ready pid =>
    (((s.spawn component pid).register platformScope pid).setChild component
      (s.nextChild pid)).setRestartInProgress component false

end ProcessState

variable {s t : ProcessState} {component : SupervisedComponent}

theorem stopChild_apply (component : SupervisedComponent) (child : Child) (world : StopWorld)
    (s : ProcessState) :
    (stopChild component child world s).result =
        stopRuntimeClientProcess (s.managed component).stop world ∧
      (stopChild component child world s).state = s.afterStop component child world := by
  simp only [stopChild, bind_apply, get_apply, modify_apply]
  cases stopRuntimeClientProcess (s.managed component).stop world with
  | error _ => exact ⟨rfl, rfl⟩
  | ok _ => exact ⟨rfl, rfl⟩

theorem failRestart_state (component : SupervisedComponent) (error : String)
    (healthcheck : Option (String × String)) (s : ProcessState) :
    (failRestart component error healthcheck s).state =
      s.setRestartInProgress component false := by
  cases healthcheck with
  | none => rfl
  | some _ => rfl

theorem failReplacement_state (component : SupervisedComponent) (replacement : Child)
    (world : RestartWorld) (error : String) (healthcheck : Option (String × String))
    (s : ProcessState) :
    (failReplacement component replacement world error healthcheck s).state =
      (s.afterStop component replacement world.stopReplacement).setRestartInProgress
        component false := by
  have hstop := stopChild_apply component replacement world.stopReplacement s
  rw [failReplacement]
  simp only [bind_apply, attempt_apply]
  rw [failRestart_state, hstop.2]

theorem replaceChild_state (component : SupervisedComponent) (readinessCheck : String)
    (world : RestartWorld) (s : ProcessState) :
    (replaceChild component readinessCheck world s).state = s.afterReplace component world := by
  rw [replaceChild, ProcessState.afterReplace, RestartWorld.fate]
  cases world.spawn with
  | error error => exact failRestart_state component error _ s
  | ok pid =>
    simp only [bind_apply, get_apply, modify_apply]
    cases attachPidToScope (s.managed component).platformScope world with
    | error error => exact failReplacement_state component _ world error none _
    | ok _ =>
      cases hscope : (s.managed component).platformScope with
      | none =>
        simp only [updateRegistry, bind_apply, pure_apply]
        cases world.readiness with
        | error error => exact failReplacement_state component _ world error _ _
        | ok _ => rfl
      | some registryKey =>
        cases hupdate : world.update with
        | error error =>
          simp only [updateRegistry, hupdate, bind_apply, pure_apply]
          exact failReplacement_state component _ world error none _
        | ok _ =>
          simp only [updateRegistry, hupdate, bind_apply, modify_apply, pure_apply]
          cases world.readiness with
          | error error => exact failReplacement_state component _ world error _ _
          | ok _ => rfl

/-- The restart of a component ends where the process it holds does not stop. -/
def GivesUp (component : SupervisedComponent) (stop : RuntimeClientProcessStop)
    (world : RestartWorld) : Prop :=
  component = .claudeCodeServer ∧ (stopRuntimeClientProcess stop world.stop).isOk = false

instance (component : SupervisedComponent) (stop : RuntimeClientProcessStop)
    (world : RestartWorld) : Decidable (GivesUp component stop world) :=
  inferInstanceAs (Decidable (_ ∧ _))

/-- The state once the process that was held was to be stopped. -/
def ProcessState.afterStopHeld (s : ProcessState) (component : SupervisedComponent)
    (world : RestartWorld) : ProcessState :=
  (s.setRestartInProgress component true).afterStop component (s.managed component).child
    world.stop

theorem beginRestart_state (component : SupervisedComponent) (s : ProcessState) :
    (beginRestart component s).result = .ok () ∧
      (beginRestart component s).state = s.setRestartInProgress component true := ⟨rfl, rfl⟩

theorem held_setRestartInProgress (component : SupervisedComponent) (inProgress : Bool)
    (s : ProcessState) :
    (s.setRestartInProgress component inProgress).managed component =
      { s.managed component with restartInProgress := inProgress } :=
  Function.update_self _ _ _

theorem restartIgnoringStop_state (component : SupervisedComponent) (readinessCheck : String)
    (world : RestartWorld) (s : ProcessState) :
    (restartIgnoringStop component readinessCheck world s).state =
      (s.afterStopHeld component world).afterReplace component world := by
  simp only [restartIgnoringStop, beginRestart, bind_apply, modify_apply, emit_apply, get_apply,
    attempt_apply, replaceChild_state, held_setRestartInProgress]
  rw [(stopChild_apply component _ world.stop _).2]
  rfl

theorem restart_state (component : SupervisedComponent) (world : RestartWorld) (s : ProcessState) :
    (restart component world s).state =
      if GivesUp component (s.managed component).stop world then
        (s.afterStopHeld component world).setRestartInProgress component false
      else (s.afterStopHeld component world).afterReplace component world := by
  cases component with
  | codexAppServer =>
    rw [if_neg (fun h => nomatch h.1)]
    exact restartIgnoringStop_state _ _ world s
  | openCodeServer =>
    rw [if_neg (fun h => nomatch h.1)]
    exact restartIgnoringStop_state _ _ world s
  | claudeCodeServer =>
    have hstop := stopChild_apply .claudeCodeServer (s.managed .claudeCodeServer).child world.stop
      (s.setRestartInProgress .claudeCodeServer true)
    rw [held_setRestartInProgress] at hstop
    simp only [restart, ClaudeCodeServer.restart, beginRestart, bind_apply, modify_apply,
      emit_apply, get_apply, attempt_apply, held_setRestartInProgress]
    rw [hstop.1, hstop.2]
    cases hresult : stopRuntimeClientProcess (s.managed .claudeCodeServer).stop world.stop with
    | error error =>
      rw [if_pos ⟨rfl, by rw [hresult]; rfl⟩]
      exact failRestart_state _ error _ _
    | ok _ =>
      have hgoes : ¬ GivesUp .claudeCodeServer (s.managed .claudeCodeServer).stop world := by
        rintro ⟨_, herror⟩
        rw [hresult] at herror
        exact nomatch herror
      rw [if_neg hgoes]
      exact replaceChild_state _ _ world _

/-! ### One component -/

/-- At most one child of a component is alive, it is the one that is held, and the registry
    names it. -/
structure ProcessState.HoldsOne (s : ProcessState) (component : SupervisedComponent) : Prop where
  alive : s.alive component = [] ∨ s.alive component = [(s.managed component).child]
  registered : ∀ child ∈ s.alive component, ∀ registryKey,
    (s.managed component).platformScope = some registryKey →
      s.registry registryKey = some child.pid

/-- What should hold of a component whenever it is not restarted. -/
structure ProcessState.Single (s : ProcessState) (component : SupervisedComponent) : Prop
    extends s.HoldsOne component where
  idle : (s.managed component).restartInProgress = false

/-- What the state keeps whatever happens: a child is spawned once, and every component has a
    place of its own in the registry. -/
structure ProcessState.WellFormed (s : ProcessState) : Prop where
  spawned : ∀ component child, child ∈ s.alive component ∨ child = (s.managed component).child →
    child.spawned < s.spawned
  registered : ∀ component registryKey,
    (s.managed component).platformScope = some registryKey → (s.registry registryKey).isSome
  apart : ∀ component other registryKey,
    (s.managed component).platformScope = some registryKey →
      (s.managed other).platformScope = some registryKey → component = other

section

variable (s : ProcessState) (component : SupervisedComponent)

@[simp] theorem alive_setRestartInProgress (inProgress : Bool) :
    (s.setRestartInProgress component inProgress).alive = s.alive := rfl

@[simp] theorem alive_setChild (child : Child) : (s.setChild component child).alive = s.alive := rfl

@[simp] theorem alive_spawn (pid : Nat) :
    (s.spawn component pid).alive component = s.nextChild pid :: s.alive component :=
  Function.update_self _ _ _

@[simp] theorem alive_register (platformScope : Option String) (pid : Nat) :
    (s.register platformScope pid).alive = s.alive := by
  cases platformScope with
  | none => rfl
  | some _ => rfl

@[simp] theorem managed_register (platformScope : Option String) (pid : Nat) :
    (s.register platformScope pid).managed = s.managed := by
  cases platformScope with
  | none => rfl
  | some _ => rfl

@[simp] theorem alive_afterStop (child : Child) (world : StopWorld) :
    (s.afterStop component child world).alive component =
      if world.leavesRunning (s.managed component).stop then s.alive component
      else (s.alive component).erase child := by
  rw [ProcessState.afterStop]
  split
  · rfl
  · exact Function.update_self _ _ _

@[simp] theorem managed_afterStop (child : Child) (world : StopWorld) :
    (s.afterStop component child world).managed = s.managed := by
  rw [ProcessState.afterStop]
  split
  · rfl
  · rfl

@[simp] theorem registry_afterStop (child : Child) (world : StopWorld) :
    (s.afterStop component child world).registry = s.registry := by
  rw [ProcessState.afterStop]
  split
  · rfl
  · rfl

end

/-- The registry names the pid that was written to it. -/
theorem registry_register {registryKey : String} (pid : Nat)
    (h : (s.registry registryKey).isSome) :
    (s.register (some registryKey) pid).registry registryKey = some pid := by
  show Function.update s.registry registryKey _ registryKey = some pid
  rw [Function.update_self]
  rcases Option.isSome_iff_exists.mp h with ⟨old, hold⟩
  rw [hold, Option.map_some]

/-- What a restart may meet once the process that was held was to be stopped, by how far the
    replacement gets: a replacement that failed must be gone, and so must the process that was
    held where the replacement took its place in the registry or in the handle. -/
def ReplaceHarmless (managed : ManagedProcess) (world : RestartWorld) (heldGone : Prop) : Prop :=
  match world.fate managed.platformScope with
  | .notSpawned => True
  | .notRegistered _ => world.stopReplacement.leavesRunning managed.stop = false
  | .notReady _ => world.stopReplacement.leavesRunning managed.stop = false ∧
    (managed.platformScope = none ∨ heldGone)
  | .ready _ => heldGone

/-- A replacement that runs on is not the one that is held. -/
theorem nextChild_ne_held (hwell : s.WellFormed) (pid : Nat) :
    s.nextChild pid ≠ (s.managed component).child := by
  intro hsame
  have hlt := hwell.spawned component _ (.inr rfl)
  rw [← hsame] at hlt
  exact Nat.lt_irrefl _ hlt

theorem single_setRestartInProgress_iff :
    (s.setRestartInProgress component false).Single component ↔ s.HoldsOne component := by
  have hmanaged := held_setRestartInProgress component false s
  constructor
  · intro h
    refine ⟨?_, ?_⟩
    · have halive := h.alive
      rw [hmanaged] at halive
      exact halive
    · have hregistered := h.registered
      rw [hmanaged] at hregistered
      exact hregistered
  · intro h
    refine ⟨⟨?_, ?_⟩, ?_⟩
    · rw [hmanaged]
      exact h.alive
    · rw [hmanaged]
      exact h.registered
    · rw [hmanaged]

/-- A replacement that failed: it must be gone, and the registry must still name what is
    alive. -/
theorem holdsOne_afterStop_iff (hwell : s.WellFormed) (hone : s.HoldsOne component) {pid : Nat}
    {world : StopWorld} (halive : t.alive component = s.nextChild pid :: s.alive component)
    (hmanaged : t.managed = s.managed) :
    (t.afterStop component (s.nextChild pid) world).HoldsOne component ↔
      world.leavesRunning (s.managed component).stop = false ∧
        ∀ child ∈ s.alive component, ∀ registryKey,
          (s.managed component).platformScope = some registryKey →
            t.registry registryKey = some child.pid := by
  have hafter := alive_afterStop t component (s.nextChild pid) world
  rw [hmanaged, halive] at hafter
  cases hleaves : world.leavesRunning (s.managed component).stop with
  | true =>
    rw [hleaves, if_pos rfl] at hafter
    refine ⟨fun h => ?_, fun h => nomatch h.1⟩
    rcases h.alive with hnil | hheld
    · exact absurd (hafter.symm.trans hnil) (List.cons_ne_nil _ _)
    · rw [managed_afterStop, hmanaged] at hheld
      exact absurd (List.head_eq_of_cons_eq (hafter.symm.trans hheld)) (nextChild_ne_held hwell pid)
  | false =>
    rw [hleaves, if_neg Bool.false_ne_true, List.erase_cons_head] at hafter
    refine ⟨fun h => ⟨rfl, ?_⟩, fun h => ⟨?_, ?_⟩⟩
    · have hregistered := h.registered
      rw [hafter, managed_afterStop, registry_afterStop, hmanaged] at hregistered
      exact hregistered
    · rw [hafter, managed_afterStop, hmanaged]
      exact hone.alive
    · rw [hafter, managed_afterStop, registry_afterStop, hmanaged]
      exact h.2

theorem spawn_of_notReady {world : RestartWorld} {platformScope : Option String} {pid : Nat}
    (h : world.fate platformScope = .notReady pid) : world.spawn = .ok pid := by
  unfold RestartWorld.fate at h
  split at h
  · exact nomatch h
  · rename_i spawned hspawn
    split at h
    · exact nomatch h
    · split at h
      · exact nomatch h
      · split at h
        · rw [hspawn, Fate.notReady.inj h]
        · exact nomatch h

/-- When a restart that goes on past the stop ends with a single process. -/
theorem single_afterReplace_iff (hwell : s.WellFormed) (hone : s.HoldsOne component)
    {world : RestartWorld}
    (hpid : ∀ pid, world.spawn = .ok pid → ∀ child ∈ s.alive component, child.pid ≠ pid) :
    (s.afterReplace component world).Single component ↔
      ReplaceHarmless (s.managed component) world (s.alive component = []) := by
  rw [ProcessState.afterReplace, ReplaceHarmless]
  cases hfate : world.fate (s.managed component).platformScope with
  | notSpawned => exact iff_of_true (single_setRestartInProgress_iff.mpr hone) trivial
  | notRegistered pid =>
    refine single_setRestartInProgress_iff.trans ((holdsOne_afterStop_iff
      (t := s.spawn component pid) hwell hone (alive_spawn s component pid) rfl).trans ?_)
    exact ⟨fun h => h.1, fun h => ⟨h, hone.registered⟩⟩
  | notReady pid =>
    have halive : ((s.spawn component pid).register (s.managed component).platformScope
        pid).alive component = s.nextChild pid :: s.alive component := by
      rw [alive_register]
      exact alive_spawn s component pid
    refine single_setRestartInProgress_iff.trans ((holdsOne_afterStop_iff
      (t := (s.spawn component pid).register (s.managed component).platformScope pid) hwell hone
      halive (managed_register _ _ _)).trans (and_congr_right fun _ => ?_))
    · -- What is alive has another pid than the one that was written.
      cases hscope : (s.managed component).platformScope with
      | none => exact iff_of_true (fun _ _ _ h => nomatch h) (.inl rfl)
      | some registryKey =>
        have hwritten := registry_register (s := s.spawn component pid) pid
          (hwell.registered component registryKey hscope)
        constructor
        · intro h
          rcases hone.alive with hnil | hheld
          · exact .inr hnil
          · have hmem : (s.managed component).child ∈ s.alive component := by
              rw [hheld]
              exact List.mem_singleton_self _
            have hsame := (h _ hmem registryKey rfl).symm.trans hwritten
            exact absurd (Option.some.inj hsame) (hpid pid (spawn_of_notReady hfate) _ hmem)
        · rintro (hnone | hnil)
          · exact nomatch hnone
          · intro child hchild
            rw [hnil] at hchild
            exact absurd hchild List.not_mem_nil
  | ready pid =>
    refine single_setRestartInProgress_iff.trans ?_
    have hmanaged : (((s.spawn component pid).register (s.managed component).platformScope
        pid).setChild component (s.nextChild pid)).managed component =
          { s.managed component with child := s.nextChild pid } := by
      rw [ProcessState.setChild, managed_register]
      exact Function.update_self _ _ _
    have halive : (((s.spawn component pid).register (s.managed component).platformScope
        pid).setChild component (s.nextChild pid)).alive component =
          s.nextChild pid :: s.alive component := by
      rw [alive_setChild, alive_register]
      exact alive_spawn s component pid
    constructor
    · intro h
      rcases h.alive with hnil | hheld
      · exact absurd (halive.symm.trans hnil) (List.cons_ne_nil _ _)
      · exact (List.cons.inj (halive.symm.trans hheld)).2
    · intro hnil
      rw [hnil] at halive
      refine ⟨.inr ?_, ?_⟩
      · rw [halive, hmanaged]
      · rw [halive, hmanaged]
        intro child hchild registryKey hscope
        rw [List.mem_singleton.mp hchild, show (s.managed component).platformScope = _ from hscope]
        exact registry_register (s := s.spawn component pid) pid
          (hwell.registered component registryKey hscope)

/-! ### A restart -/

/-- What a restart may meet: it gives up, or what it was to stop is gone where it matters. -/
def Harmless (s : ProcessState) (component : SupervisedComponent) (world : RestartWorld) : Prop :=
  let managed := s.managed component
  GivesUp component managed.stop world ∨
    ReplaceHarmless managed world
      (s.alive component = [] ∨ world.stop.leavesRunning managed.stop = false)

theorem managed_afterStopHeld (s : ProcessState) (component : SupervisedComponent)
    (world : RestartWorld) : (s.afterStopHeld component world).managed component =
      { s.managed component with restartInProgress := true } := by
  rw [ProcessState.afterStopHeld, managed_afterStop]
  exact held_setRestartInProgress _ _ _

theorem alive_afterStopHeld (s : ProcessState) (component : SupervisedComponent)
    (world : RestartWorld) : (s.afterStopHeld component world).alive component =
      if world.stop.leavesRunning (s.managed component).stop then s.alive component
      else (s.alive component).erase (s.managed component).child := by
  rw [ProcessState.afterStopHeld, alive_afterStop, held_setRestartInProgress]
  rfl

theorem registry_afterStopHeld (s : ProcessState) (component : SupervisedComponent)
    (world : RestartWorld) : (s.afterStopHeld component world).registry = s.registry := by
  rw [ProcessState.afterStopHeld, registry_afterStop]
  rfl

/-- A child less is alive. -/
theorem ProcessState.HoldsOne.of_sublist (h : s.HoldsOne component)
    (halive : (t.alive component).Sublist (s.alive component))
    (hchild : (t.managed component).child = (s.managed component).child)
    (hscope : (t.managed component).platformScope = (s.managed component).platformScope)
    (hregistry : t.registry = s.registry) : t.HoldsOne component where
  alive := by
    rw [hchild]
    rcases h.alive with hnil | hheld
    · rw [hnil] at halive
      exact .inl (List.sublist_nil.mp halive)
    · rw [hheld] at halive
      exact (List.sublist_singleton.mp halive).imp id fun h => h
  registered := by
    rw [hscope, hregistry]
    exact fun child hmem => h.registered child (halive.subset hmem)

theorem holdsOne_afterStopHeld (h : s.HoldsOne component) (world : RestartWorld) :
    (s.afterStopHeld component world).HoldsOne component := by
  have hmanaged := managed_afterStopHeld s component world
  refine h.of_sublist ?_ (by rw [hmanaged]) (by rw [hmanaged]) (registry_afterStopHeld s _ world)
  rw [alive_afterStopHeld]
  split
  · exact List.Sublist.refl _
  · exact List.erase_sublist

theorem alive_afterStopHeld_eq_nil_iff (h : s.HoldsOne component) (world : RestartWorld) :
    (s.afterStopHeld component world).alive component = [] ↔
      s.alive component = [] ∨ world.stop.leavesRunning (s.managed component).stop = false := by
  rw [alive_afterStopHeld]
  cases world.stop.leavesRunning (s.managed component).stop with
  | true => exact ⟨.inl, fun h => h.resolve_right nofun⟩
  | false =>
    refine iff_of_true ?_ (.inr rfl)
    rcases h.alive with hnil | hheld
    · rw [if_neg Bool.false_ne_true, hnil]
      rfl
    · rw [if_neg Bool.false_ne_true, hheld, List.erase_cons_head]

/-! ### What is kept -/

theorem ProcessState.WellFormed.of_same (h : s.WellFormed) (hspawned : s.spawned ≤ t.spawned)
    (hchildren : ∀ component child,
      child ∈ t.alive component ∨ child = (t.managed component).child →
        child ∈ s.alive component ∨ child = (s.managed component).child ∨ child.spawned < t.spawned)
    (hscope : ∀ component,
      (t.managed component).platformScope = (s.managed component).platformScope)
    (hregistry : ∀ registryKey, (s.registry registryKey).isSome → (t.registry registryKey).isSome) :
    t.WellFormed where
  spawned := fun component child hchild => by
    rcases hchildren component child hchild with hold | hold | hnew
    · exact Nat.lt_of_lt_of_le (h.spawned component child (.inl hold)) hspawned
    · exact Nat.lt_of_lt_of_le (h.spawned component child (.inr hold)) hspawned
    · exact hnew
  registered := fun component registryKey hkey => by
    rw [hscope] at hkey
    exact hregistry registryKey (h.registered component registryKey hkey)
  apart := fun component other registryKey hkey hother => by
    rw [hscope] at hkey hother
    exact h.apart component other registryKey hkey hother

/-- What a change of one component leaves alone. -/
structure Elsewhere (component : SupervisedComponent) (s t : ProcessState) : Prop where
  alive : ∀ other ≠ component, t.alive other = s.alive other
  managed : ∀ other ≠ component, t.managed other = s.managed other
  registry : ∀ registryKey, (s.managed component).platformScope ≠ some registryKey →
    t.registry registryKey = s.registry registryKey
  platformScope : (t.managed component).platformScope = (s.managed component).platformScope

theorem Elsewhere.trans {u : ProcessState} (h : Elsewhere component s t)
    (h' : Elsewhere component t u) : Elsewhere component s u where
  alive := fun other hother => (h'.alive other hother).trans (h.alive other hother)
  managed := fun other hother => (h'.managed other hother).trans (h.managed other hother)
  registry := fun registryKey hkey =>
    (h'.registry registryKey (h.platformScope ▸ hkey)).trans (h.registry registryKey hkey)
  platformScope := h'.platformScope.trans h.platformScope

/-- A change of one component that keeps the state well formed. -/
structure Changes (component : SupervisedComponent) (s t : ProcessState) : Prop where
  elsewhere : Elsewhere component s t
  wellFormed : s.WellFormed → t.WellFormed

theorem Changes.trans {u : ProcessState} (h : Changes component s t)
    (h' : Changes component t u) : Changes component s u :=
  ⟨h.elsewhere.trans h'.elsewhere, fun hwell => h'.wellFormed (h.wellFormed hwell)⟩

theorem changes_setRestartInProgress (component : SupervisedComponent) (inProgress : Bool)
    (s : ProcessState) : Changes component s (s.setRestartInProgress component inProgress) := by
  have hmanaged : ∀ other, ((s.setRestartInProgress component inProgress).managed other).child =
      (s.managed other).child ∧
        ((s.setRestartInProgress component inProgress).managed other).platformScope =
          (s.managed other).platformScope := by
    intro other
    by_cases hother : other = component
    · rw [hother, held_setRestartInProgress]
      exact ⟨rfl, rfl⟩
    · have hsame : (s.setRestartInProgress component inProgress).managed other =
          s.managed other := Function.update_of_ne hother _ _
      rw [hsame]
      exact ⟨rfl, rfl⟩
  refine ⟨⟨fun _ _ => rfl, fun _ hother => Function.update_of_ne hother _ _, fun _ _ => rfl,
    (hmanaged component).2⟩, fun h => h.of_same (Nat.le_refl _) (fun other child hchild => ?_)
    (fun other => (hmanaged other).2) (fun _ hkey => hkey)⟩
  rw [(hmanaged other).1] at hchild
  exact hchild.imp id .inl

theorem changes_setChild (component : SupervisedComponent) {child : Child}
    (hchild : child.spawned < s.spawned) : Changes component s (s.setChild component child) := by
  have hheld : (s.setChild component child).managed component =
      { s.managed component with child := child } := Function.update_self _ _ _
  have hother : ∀ other ≠ component, (s.setChild component child).managed other =
      s.managed other := fun _ hother => Function.update_of_ne hother _ _
  refine ⟨⟨fun _ _ => rfl, hother, fun _ _ => rfl, by rw [hheld]⟩, fun h =>
    h.of_same (Nat.le_refl _) (fun other held hmem => ?_) (fun other => ?_) (fun _ hkey => hkey)⟩
  · by_cases hsame : other = component
    · rw [hsame, hheld] at hmem
      rw [hsame]
      rcases hmem with hmem | hnew
      · exact .inl hmem
      · rw [hnew]
        exact .inr (.inr hchild)
    · rw [hother other hsame] at hmem
      exact hmem.imp id .inl
  · by_cases hsame : other = component
    · rw [hsame, hheld]
    · rw [hother other hsame]

theorem changes_spawn (component : SupervisedComponent) (pid : Nat) (s : ProcessState) :
    Changes component s (s.spawn component pid) := by
  have halive : ∀ other ≠ component, (s.spawn component pid).alive other = s.alive other :=
    fun _ hother => Function.update_of_ne hother _ _
  refine ⟨⟨halive, fun _ _ => rfl, fun _ _ => rfl, rfl⟩, fun h =>
    h.of_same (Nat.le_succ _) (fun other child hchild => ?_) (fun _ => rfl) (fun _ hkey => hkey)⟩
  by_cases hother : other = component
  · rw [hother] at hchild ⊢
    rw [alive_spawn] at hchild
    rcases hchild with hmem | hheld
    · rcases List.mem_cons.mp hmem with hnew | hold
      · rw [hnew]
        exact .inr (.inr (Nat.lt_succ_self _))
      · exact .inl hold
    · exact .inr (.inl hheld)
  · rw [halive other hother] at hchild
    exact hchild.imp id .inl

theorem changes_exits (component : SupervisedComponent) (child : Child) (s : ProcessState) :
    Changes component s (s.exits component child) := by
  have halive : ∀ other ≠ component, (s.exits component child).alive other = s.alive other :=
    fun _ hother => Function.update_of_ne hother _ _
  have herase : (s.exits component child).alive component = (s.alive component).erase child :=
    Function.update_self _ _ _
  refine ⟨⟨halive, fun _ _ => rfl, fun _ _ => rfl, rfl⟩, fun h =>
    h.of_same (Nat.le_refl _) (fun other held hheld => ?_) (fun _ => rfl) (fun _ hkey => hkey)⟩
  by_cases hother : other = component
  · rw [hother, herase] at hheld
    rw [hother]
    exact hheld.imp (fun hmem => List.mem_of_mem_erase hmem) .inl
  · rw [halive other hother] at hheld
    exact hheld.imp id .inl

theorem Changes.refl (component : SupervisedComponent) (s : ProcessState) :
    Changes component s s :=
  ⟨⟨fun _ _ => rfl, fun _ _ => rfl, fun _ _ => rfl, rfl⟩, id⟩

theorem changes_afterStop (component : SupervisedComponent) (child : Child) (world : StopWorld)
    (s : ProcessState) : Changes component s (s.afterStop component child world) := by
  rw [ProcessState.afterStop]
  split
  · exact Changes.refl component s
  · exact changes_exits component child s

theorem changes_register (component : SupervisedComponent) (pid : Nat) (s : ProcessState) :
    Changes component s (s.register (s.managed component).platformScope pid) := by
  cases hscope : (s.managed component).platformScope with
  | none => exact Changes.refl component s
  | some registryKey =>
    refine ⟨⟨fun _ _ => rfl, fun _ _ => rfl, fun other hother => ?_, rfl⟩, fun h =>
      h.of_same (Nat.le_refl _) (fun _ _ hchild => hchild.imp id .inl) (fun _ => rfl)
        (fun other hother => ?_)⟩
    · rw [hscope] at hother
      have hne : other ≠ registryKey := fun hsame => hother (congrArg some hsame.symm)
      exact Function.update_of_ne hne _ _
    · show (Function.update s.registry registryKey _ other).isSome
      by_cases hsame : other = registryKey
      · rw [hsame, Function.update_self, Option.isSome_map]
        exact hsame ▸ hother
      · rw [Function.update_of_ne hsame]
        exact hother

theorem changes_afterStopHeld (component : SupervisedComponent) (world : RestartWorld)
    (s : ProcessState) : Changes component s (s.afterStopHeld component world) :=
  (changes_setRestartInProgress component true s).trans (changes_afterStop component _ _ _)

theorem changes_afterReplace (component : SupervisedComponent) (world : RestartWorld)
    (s : ProcessState) : Changes component s (s.afterReplace component world) := by
  have hregister : ∀ pid, Changes component s
      ((s.spawn component pid).register (s.managed component).platformScope pid) := fun pid =>
    (changes_spawn component pid s).trans (changes_register component pid (s.spawn component pid))
  rw [ProcessState.afterReplace]
  cases world.fate (s.managed component).platformScope with
  | notSpawned => exact changes_setRestartInProgress component false s
  | notRegistered pid =>
    exact ((changes_spawn component pid s).trans (changes_afterStop component _ _ _)).trans
      (changes_setRestartInProgress component false _)
  | notReady pid =>
    exact ((hregister pid).trans (changes_afterStop component _ _ _)).trans
      (changes_setRestartInProgress component false _)
  | ready pid =>
    refine ((hregister pid).trans (changes_setChild component ?_)).trans
      (changes_setRestartInProgress component false _)
    cases (s.managed component).platformScope with
    | none => exact Nat.lt_succ_self _
    | some _ => exact Nat.lt_succ_self _

theorem changes_restart (component : SupervisedComponent) (world : RestartWorld)
    (s : ProcessState) : Changes component s (restart component world s).state := by
  rw [restart_state]
  split
  · exact (changes_afterStopHeld component world s).trans
      (changes_setRestartInProgress component false _)
  · exact (changes_afterStopHeld component world s).trans
      (changes_afterReplace component world _)

/-- Another component is not touched. -/
theorem Elsewhere.single (h : Elsewhere component s t) (hwell : s.WellFormed)
    {other : SupervisedComponent} (hother : other ≠ component) (hsingle : s.Single other) :
    t.Single other where
  alive := by
    rw [h.alive other hother, h.managed other hother]
    exact hsingle.alive
  registered := by
    rw [h.alive other hother, h.managed other hother]
    intro child hchild registryKey hkey
    rw [h.registry registryKey fun hsame =>
      hother (hwell.apart other component registryKey hkey hsame)]
    exact hsingle.registered child hchild registryKey hkey
  idle := by
    rw [h.managed other hother]
    exact hsingle.idle

/-- When a restart ends with a single process. -/
theorem single_restart_iff (hwell : s.WellFormed) (hone : s.HoldsOne component)
    {world : RestartWorld} (hpid : ∀ pid, world.spawn = .ok pid →
      ∀ child ∈ (s.afterStopHeld component world).alive component, child.pid ≠ pid) :
    (restart component world s).state.Single component ↔ Harmless s component world := by
  have hstopped := holdsOne_afterStopHeld hone world
  have hmanaged := managed_afterStopHeld s component world
  rw [restart_state]
  by_cases hgives : GivesUp component (s.managed component).stop world
  · rw [if_pos hgives]
    exact iff_of_true (single_setRestartInProgress_iff.mpr hstopped) (.inl hgives)
  · rw [if_neg hgives, single_afterReplace_iff
      ((changes_afterStopHeld component world s).wellFormed hwell) hstopped hpid, hmanaged,
      propext (alive_afterStopHeld_eq_nil_iff hone world)]
    exact ⟨.inr, fun h => h.resolve_left hgives⟩

/-! ### Runs -/

inductive ProcessEvent where
  | restart (component : SupervisedComponent) (world : RestartWorld)
  | exits (component : SupervisedComponent) (child : Child)

/-- A pid is not given out while a process that has it is alive. -/
def FreshPid (s : ProcessState) (component : SupervisedComponent) (world : RestartWorld) : Prop :=
  ∀ pid, world.spawn = .ok pid →
    ∀ other, ∀ child ∈ (s.afterStopHeld component world).alive other, child.pid ≠ pid

/-- What a restart answers and says. -/
structure Answer where
  result : Except String Unit
  effects : List SupervisionEffect

/-- A component is restarted while no other restart of it is under way, or a child exits
    by itself. -/
def processStep (s : ProcessState) (event : ProcessEvent) (out : List Answer)
    (t : ProcessState) : Prop :=
  match event with
  | .restart component world => FreshPid s component world ∧
    out = [⟨(restart component world s).result, (restart component world s).emitted⟩] ∧
    t = (restart component world s).state
  | .exits component child => child ∈ s.alive component ∧ out = [] ∧ t = s.exits component child

def ProcessEvent.Harmless (s : ProcessState) : ProcessEvent → Prop
  | .restart component world => ProcessManager.Harmless s component world
  | .exits _ _ => True

theorem processStep_functional : Functional processStep := by
  intro a event out b out' b' h h'
  cases event with
  | restart component world => exact ⟨h.2.1.trans h'.2.1.symm, h.2.2.trans h'.2.2.symm⟩
  | exits component child => exact ⟨h.2.1.trans h'.2.1.symm, h.2.2.trans h'.2.2.symm⟩

theorem wellFormed_of_step {event : ProcessEvent} {out : List Answer} (hwell : s.WellFormed)
    (hstep : processStep s event out t) : t.WellFormed := by
  cases event with
  | restart component world =>
    rw [hstep.2.2]
    exact (changes_restart component world s).wellFormed hwell
  | exits component child =>
    rw [hstep.2.2]
    exact (changes_exits component child s).wellFormed hwell

/-- A step keeps single processes exactly if it is harmless. -/
theorem single_of_step_iff {event : ProcessEvent} {out : List Answer} (hwell : s.WellFormed)
    (hsingle : ∀ component, s.Single component) (hstep : processStep s event out t) :
    (∀ component, t.Single component) ↔ event.Harmless s := by
  cases event with
  | restart component world =>
    rcases hstep with ⟨hpid, _, rfl⟩
    have hone := single_restart_iff hwell (hsingle component).toHoldsOne
      fun pid hspawn => hpid pid hspawn component
    refine ⟨fun h => hone.mp (h component), fun h other => ?_⟩
    by_cases hother : other = component
    · rw [hother]
      exact hone.mpr h
    · exact (changes_restart component world s).elsewhere.single hwell hother (hsingle other)
  | exits component child =>
    rcases hstep with ⟨_, _, rfl⟩
    refine iff_of_true (fun other => ?_) trivial
    by_cases hother : other = component
    · rw [hother]
      have herase : (s.exits component child).alive component =
          (s.alive component).erase child := Function.update_self _ _ _
      refine ⟨(hsingle component).toHoldsOne.of_sublist ?_ rfl rfl rfl, (hsingle component).idle⟩
      rw [herase]
      exact List.erase_sublist
    · exact (changes_exits component child s).elsewhere.single hwell hother (hsingle other)

/-- At most one process of each component is alive, held and registered all along a run
    exactly if every restart of the run is harmless. -/
theorem single_iff_harmless {trace : List (Entry ProcessEvent Answer)} (hwell : s.WellFormed)
    (hsingle : ∀ component, s.Single component) (run : Run processStep s trace t) :
    EveryState processStep s trace (fun u => ∀ component, u.Single component) ↔
      EveryStep processStep s trace fun u event _ => event.Harmless u := by
  rw [everyState_iff hsingle]
  refine run.everyStep_iff_of_invariant (I := fun u => u.WellFormed ∧ ∀ component, u.Single component)
    processStep_functional ⟨hwell, hsingle⟩ ?_ ?_
  · exact fun a event out b ha hstep hb => ⟨wellFormed_of_step ha.1 hstep, hb b hstep⟩
  · intro a event out b ha hstep
    rw [← single_of_step_iff ha.1 ha.2 hstep]
    refine ⟨fun h => h b hstep, fun h c hc => ?_⟩
    rw [← (processStep_functional a event out b out c hstep hc).2]
    exact h

/-! ### Two restarts -/

/-- The three components right after they were started, each in a cgroup of its own. -/
def startedProcesses : ProcessState where
  managed := fun component =>
    let index := match component with
      | .codexAppServer => 0
      | .openCodeServer => 1
      | .claudeCodeServer => 2
    ⟨⟨.sigterm, none⟩, some s!"runtime-{index}", ⟨index, 100 + index⟩, false⟩
  registry := fun registryKey =>
    if registryKey = "runtime-0" then some 100
    else if registryKey = "runtime-1" then some 101
    else if registryKey = "runtime-2" then some 102
    else none
  alive := fun component =>
    match component with
    | .codexAppServer => [⟨0, 100⟩]
    | .openCodeServer => [⟨1, 101⟩]
    | .claudeCodeServer => [⟨2, 102⟩]
  spawned := 3

/-- A process that does not exit before the stop timeout. -/
def deafProcess : StopWorld where
  poll := .running
  signal := .ok ()
  gracePolls := []
  kill := .ok ()
  polls := [.running, .running]
  runsOn := true

/-- A process that is seen to exit. -/
def obedientProcess : StopWorld where
  poll := .running
  signal := .ok ()
  gracePolls := []
  kill := .ok ()
  polls := [.running, .exited]
  runsOn := false

/-- A restart of which everything after the stop works. -/
def restartAfter (stop : StopWorld) : RestartWorld where
  stop := stop
  spawn := .ok 200
  attach := .ok ()
  update := .ok ()
  readiness := .ok ()
  stopReplacement := obedientProcess

theorem startedProcesses_wellFormed : startedProcesses.WellFormed where
  spawned := by
    rintro (_ | _ | _) child (hchild | hchild)
    all_goals first | rw [List.mem_singleton.mp hchild] | rw [hchild]
    all_goals decide
  registered := by
    rintro (_ | _ | _) registryKey hkey
    all_goals
      rw [← Option.some.inj hkey]
      decide
  apart := by
    rintro (_ | _ | _) (_ | _ | _) registryKey hkey hother
    all_goals first | rfl | exact absurd (hkey.trans hother.symm) (by decide)

theorem startedProcesses_single (component : SupervisedComponent) :
    startedProcesses.Single component := by
  refine ⟨⟨.inr (by cases component <;> rfl), fun child hchild registryKey hkey => ?_⟩, rfl⟩
  rw [← Option.some.inj hkey]
  cases component <;>
  · rw [List.mem_singleton.mp hchild]
    decide

/-- Restarting the Codex app server where nothing else goes wrong. -/
def codexRestart (stop : StopWorld) : ProcessEvent :=
  .restart .codexAppServer (restartAfter stop)

theorem processStep_codexRestart (stop : StopWorld) : ∃ out, processStep startedProcesses
    (codexRestart stop) out (restart .codexAppServer (restartAfter stop) startedProcesses).state := by
  refine ⟨_, fun pid hpid other child hchild => ?_, rfl, rfl⟩
  rw [← Except.ok.inj hpid]
  have hmem : child ∈ startedProcesses.alive other := by
    have hkept := changes_afterStopHeld .codexAppServer (restartAfter stop) startedProcesses
    by_cases hother : other = .codexAppServer
    · rw [hother] at hchild ⊢
      rw [alive_afterStopHeld] at hchild
      split at hchild
      · exact hchild
      · exact List.mem_of_mem_erase hchild
    · rw [hkept.elsewhere.alive other hother] at hchild
      exact hchild
  cases other <;>
  · rw [List.mem_singleton.mp hmem]
    decide

/-- The old process exits and the new one takes its place. -/
theorem single_iff_harmless_replaced : ∃ trace t, Run processStep startedProcesses trace t ∧
    trace.map Entry.input = [codexRestart obedientProcess] ∧
    EveryState processStep startedProcesses trace fun u => ∀ component, u.Single component := by
  rcases processStep_codexRestart obedientProcess with ⟨out, hstep⟩
  refine ⟨_, _, .single hstep, rfl, ?_⟩
  refine (single_iff_harmless startedProcesses_wellFormed startedProcesses_single
    (.single hstep)).mpr (EveryStep.single.mpr (.inr ?_))
  exact .inr (by decide)

/-- The old process does not exit in time, and is no longer held by anyone. -/
theorem codex_restart_keeps_two : ∃ trace t, Run processStep startedProcesses trace t ∧
    (t.managed .codexAppServer).restartInProgress = false ∧
    t.alive .codexAppServer = [⟨3, 200⟩, ⟨0, 100⟩] ∧
    (t.managed .codexAppServer).child = ⟨3, 200⟩ ∧ t.registry "runtime-0" = some 200 ∧
    ¬ t.Single .codexAppServer := by
  rcases processStep_codexRestart deafProcess with ⟨out, hstep⟩
  refine ⟨_, _, .single hstep, by decide, by decide, by decide, by decide, fun hsingle => ?_⟩
  rcases hsingle.alive with hnil | hone
  · exact absurd hnil (by decide)
  · exact absurd hone (by decide)

end ProcessManager

end Mistle
