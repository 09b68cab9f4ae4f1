import Mistle.Schedule.System

/-!
# The State Machine of a Scheduled Action

What any number of workers do to one action, whose claims are taken over when they are
stale and whose calls are tried again. The action is pending, is claimed and claimed
again, and ends dispatched or failed.

A worker records its result by the id of the action alone. Nothing in the statement asks
whether the worker still has the claim or whether a result is recorded already, so the
machine is what it should be exactly in the runs in which the workers happen to find
the row as if the statement had asked.

## Main definitions

* `ControlPlane.action?`, `TargetStarted`: An action, and whether its target was started.
* `DispatchOp.Writes`: The statements that write an action.
* `ActionLaw`: What a step may do to an action.
* `FindsClaim`: A step that finds the row as its worker left it.
* `JustScheduled`: The start of an action.

## Theorems

* `action?_claim`, `action?_setDispatched`, `action?_setFailed`: What a statement makes of an action.
* `actionLaw_iff`: A step keeps the law if and only if it finds the claim.
* `scheduled_action_machine_iff`: The same for every run.
* `scheduled_action_overtaken`: A worker that was overtaken.
-/

namespace Mistle

open DispatchOp (claimScheduledAction insertTriggerRun runHandleTriggerRun
  dispatchSnapshotRefresh setDispatched setFailed)

def ControlPlane.action? (s : ControlPlane) (id : String) : Option ScheduledAction :=
  findRow ScheduledAction.id id s.scheduledActions

/-- The trigger runs of an action. -/
def ControlPlane.runsOf (s : ControlPlane) (id : String) : List TriggerRun :=
  s.triggerRuns.filter fun run => decide (run.sourceScheduledActionId = some id)

/-- The workflow of an action's target was started, or is recorded as started. -/
def TargetStarted (id : String) (s : ControlPlane) : Prop :=
  (∃ action ∈ s.action? id, action.targetWorkflowStartedAt.isSome = true) ∨
  (∃ run ∈ s.runsOf id, ∃ workflowRun ∈ s.workflowRuns,
    workflowRun.workflowName = HandleTriggerRunWorkflowName ∧
      workflowRun.idempotencyKey = run.id) ∨
  id ∈ s.snapshotRefreshHandoffs

/-- A statement takes effect, whether it answers or not. -/
def StatementAnswer.TakesEffect : StatementAnswer → Prop
  | .fails _ => False
  | _ => True

/-- The statements that write an action. -/
def DispatchOp.Writes (id : String) (s : ControlPlane) : DispatchOp → Prop
  | .claimScheduledAction input =>
    input.scheduledActionId = id ∧ ∃ action ∈ s.scheduledActions, Claimable input action
  | .setDispatched scheduledActionId _ => scheduledActionId = id
  | .setFailed scheduledActionId _ _ => scheduledActionId = id
  | _ => False

/-- The event is a write to the action by the worker that called with `input`. -/
def WrittenBy (id : String) (s : ControlPlane) (event : ScheduleStepEvent)
    (input : DispatchScheduledActionInput) : Prop :=
  ∃ op choice, event = .perform input op choice ∧ op.Writes id s ∧ choice.answer.TakesEffect

/-- What a step from `s` to `t` may do to an action: what is dispatched or failed stays
    so, an action whose target was started is not failed, only the worker whose claim
    key is stored writes it, and it has at most one trigger run. -/
structure ActionLaw (id : String) (s t : ControlPlane) (event : ScheduleStepEvent) : Prop where
  dispatched : ∀ a ∈ s.action? id, a.status = .dispatched →
    ∃ b ∈ t.action? id, b.status = .dispatched
  failed : ∀ a ∈ s.action? id, a.status = .failed → ∃ b ∈ t.action? id, b.status = .failed
  started : TargetStarted id t → ∀ b ∈ t.action? id, b.status ≠ .failed
  holder : ∀ input, WrittenBy id s event input →
    ∀ b ∈ t.action? id, b.dispatchClaimKey = some input.dispatchClaimKey
  unwritten : (∀ input, ¬ WrittenBy id s event input) → t.action? id = s.action? id
  single : (t.runsOf id).length ≤ 1

/-- The state before a step, as the worker that takes it has left it: what it records
    is recorded under its own claim, over no other result, and a failure is recorded
    only where the target was not started, nor is it started after a failure. -/
def FindsClaim (id : String) (s : ControlPlane) : ScheduleStepEvent → Prop
  | .perform input (.setDispatched scheduledActionId _) choice =>
    choice.answer.TakesEffect → scheduledActionId = id → ∀ a ∈ s.action? id,
      a.dispatchClaimKey = some input.dispatchClaimKey ∧ a.status ≠ .failed
  | .perform input (.setFailed scheduledActionId _ _) choice =>
    choice.answer.TakesEffect → scheduledActionId = id → ∀ a ∈ s.action? id,
      a.dispatchClaimKey = some input.dispatchClaimKey ∧ a.status ≠ .dispatched ∧
        ¬ TargetStarted id s
  | .perform _ (.runHandleTriggerRun triggerRunId) choice =>
    choice.answer.TakesEffect → (∃ run ∈ s.runsOf id, run.id = triggerRunId) →
      ∀ a ∈ s.action? id, a.status ≠ .failed
  | .perform _ (.dispatchSnapshotRefresh handoff) choice =>
    choice.answer.TakesEffect → handoff.scheduledActionId = id →
      ∀ a ∈ s.action? id, a.status ≠ .failed
  | _ => True

/-- An action that no worker has touched. -/
structure JustScheduled (id : String) (s : ControlPlane) : Prop where
  keys : UniqueKeys ScheduledAction.id s.scheduledActions
  pending : ∃ a ∈ s.action? id, a.status = .pending
  noRun : s.runsOf id = []

/-- What the law keeps. -/
structure ActionInvariant (id : String) (s : ControlPlane) : Prop where
  keys : UniqueKeys ScheduledAction.id s.scheduledActions
  row : ∃ a, s.action? id = some a
  started : TargetStarted id s → ∀ a ∈ s.action? id, a.status ≠ .failed
  single : (s.runsOf id).length ≤ 1

theorem JustScheduled.invariant {id : String} {s : ControlPlane} (h : JustScheduled id s) :
    ActionInvariant id s where
  keys := h.keys
  row := by
    rcases h.pending with ⟨a, ha, _⟩
    exact ⟨a, ha⟩
  started := by
    rcases h.pending with ⟨a, ha, hpending⟩
    intro _ b hb
    rw [Option.mem_def] at ha hb
    rw [ha, Option.some.injEq] at hb
    rw [← hb, hpending]
    decide
  single := by
    rw [h.noRun]
    exact Nat.zero_le 1

/-! ### What a statement makes of an action -/

section

variable {id : String} {s : ControlPlane}

theorem claim_id (key : String) (now : Instant) (a : ScheduledAction) :
    (a.claim key now).id = a.id := rfl

theorem markDispatched_id (workflowId : Option String) (now : Instant) (a : ScheduledAction) :
    (a.markDispatched workflowId now).id = a.id := rfl

theorem markFailed_id (code message : String) (now : Instant) (a : ScheduledAction) :
    (a.markFailed code message now).id = a.id := rfl

/-- An update of the row with a key, seen at any key. -/
theorem action?_update {update : ScheduledAction → ScheduledAction}
    (hid : ∀ a, (update a).id = a.id) (scheduledActionId : String) :
    findRow ScheduledAction.id id
        (updateRows (fun a => decide (a.id = scheduledActionId)) update s.scheduledActions) =
      if scheduledActionId = id then (s.action? id).map update else s.action? id := by
  rw [findRow_updateRows hid, ControlPlane.action?]
  by_cases h : scheduledActionId = id
  · rw [if_pos h]
    refine Option.map_congr fun a ha => ?_
    rw [if_pos (decide_eq_true ((findRow_key ha).trans h.symm))]
  · rw [if_neg h]
    cases hrow : findRow ScheduledAction.id id s.scheduledActions with
    | none => rfl
    | some a =>
        have hne : ¬ a.id = scheduledActionId := fun ha => h (ha.symm.trans (findRow_key hrow))
        rw [Option.map_some, if_neg (by simpa only [decide_eq_true_eq] using hne)]

theorem action?_claim (input : DispatchScheduledActionInput) (c : DispatchChoice)
    (hclaim : ∃ a ∈ s.scheduledActions, Claimable input a)
    (hinput : input.scheduledActionId = id) :
    ((claimScheduledAction input).apply c s).1.action? id =
      (s.action? id).map (ScheduledAction.claim input.dispatchClaimKey c.now) := by
  rcases hclaim with ⟨a, hmem, ha⟩
  simp only [ControlPlane.action?, DispatchOp.apply, claimScheduledActionForDispatch]
  cases hfind : s.scheduledActions.find? fun a => decide (Claimable input a) with
  | none => exact absurd ha (of_decide_eq_false (by simpa using List.find?_eq_none.mp hfind a hmem))
  | some candidate =>
      exact (action?_update (claim_id _ _) input.scheduledActionId).trans (if_pos hinput)

theorem action?_setDispatched (c : DispatchChoice) (workflowId : Option String) :
    ((setDispatched id workflowId).apply c s).1.action? id =
      (s.action? id).map (ScheduledAction.markDispatched workflowId c.now) :=
  (action?_update (markDispatched_id _ _) id).trans (if_pos rfl)

theorem action?_setFailed (c : DispatchChoice) (code message : String) :
    ((setFailed id code message).apply c s).1.action? id =
      (s.action? id).map (ScheduledAction.markFailed code message c.now) :=
  (action?_update (markFailed_id _ _ _) id).trans (if_pos rfl)

/-- A statement that does not write the action leaves it. -/
theorem action?_apply_of_not_writes {op : DispatchOp} (c : DispatchChoice)
    (h : ¬ op.Writes id s) : (op.apply c s).1.action? id = s.action? id := by
  cases op with
  | claimScheduledAction input =>
      simp only [ControlPlane.action?, DispatchOp.apply, claimScheduledActionForDispatch]
      cases hfind : s.scheduledActions.find? fun a => decide (Claimable input a) with
      | none => rfl
      | some candidate =>
          have hclaim := List.find?_some hfind
          have hother : input.scheduledActionId ≠ id := fun hid =>
            h ⟨hid, candidate, List.mem_of_find?_eq_some hfind, of_decide_eq_true hclaim⟩
          exact (action?_update (claim_id _ _) input.scheduledActionId).trans (if_neg hother)
  | setDispatched scheduledActionId workflowId =>
      exact (action?_update (markDispatched_id _ _) scheduledActionId).trans (if_neg h)
  | setFailed scheduledActionId code message =>
      exact (action?_update (markFailed_id _ _ _) scheduledActionId).trans (if_neg h)
  | insertTriggerRun triggerId triggerTargetId scheduledActionId =>
      simp only [DispatchOp.apply]
      split
      · rfl
      · split <;> rfl
  | _ => rfl

/-- Only the insert writes trigger runs, and only where the action has none. -/
theorem runsOf_apply (id : String) (s : ControlPlane) (op : DispatchOp) (c : DispatchChoice) :
    (op.apply c s).1.runsOf id = s.runsOf id ∨
      (s.runsOf id = [] ∧ ∃ triggerId triggerTargetId,
        (op.apply c s).1.runsOf id = [⟨c.freshId, triggerId, triggerTargetId, some id⟩]) := by
  cases op with
  | insertTriggerRun triggerId triggerTargetId scheduledActionId =>
      simp only [DispatchOp.apply]
      split
      · exact .inl rfl
      · rename_i hnone
        split
        · exact .inl rfl
        · simp only [ControlPlane.runsOf, List.filter_append]
          by_cases hid : scheduledActionId = id
          · right
            have hempty : s.triggerRuns.filter
                (fun run => decide (run.sourceScheduledActionId = some id)) = [] := by
              rw [List.filter_eq_nil_iff]
              intro run hmem hsource
              exact hnone ⟨run, hmem, by rw [hid]; exact of_decide_eq_true hsource⟩
            refine ⟨hempty, triggerId, some triggerTargetId, ?_⟩
            rw [hempty, List.nil_append, hid]
            exact List.filter_cons_of_pos (decide_eq_true rfl)
          · left
            refine (congrArg (_ ++ ·) (List.filter_eq_nil_iff.mpr ?_)).trans (List.append_nil _)
            intro run hmem hsource
            rw [List.mem_singleton.mp hmem, decide_eq_true_eq, Option.some.injEq] at hsource
            exact hid hsource
  | _ => exact .inl rfl

theorem single_apply (op : DispatchOp) (c : DispatchChoice) (h : (s.runsOf id).length ≤ 1) :
    ((op.apply c s).1.runsOf id).length ≤ 1 := by
  rcases runsOf_apply id s op c with hsame | ⟨_, triggerId, targetId, hone⟩
  · rw [hsame]
    exact h
  · rw [hone]
    exact Nat.le_refl 1

/-- The statements after which the target of the action was started. -/
def DispatchOp.Starts (id : String) (s : ControlPlane) : DispatchOp → Prop
  | .runHandleTriggerRun triggerRunId => ∃ run ∈ s.runsOf id, run.id = triggerRunId
  | .dispatchSnapshotRefresh input => input.scheduledActionId = id
  | .setDispatched scheduledActionId _ => scheduledActionId = id
  | _ => False

theorem targetStarted_of_row {t : ControlPlane} (h : TargetStarted id t)
    (hrow : ∀ b ∈ t.action? id, b.targetWorkflowStartedAt.isSome = true →
      ∃ a ∈ s.action? id, a.targetWorkflowStartedAt.isSome = true)
    (hruns : t.runsOf id = s.runsOf id) (hworkflows : t.workflowRuns = s.workflowRuns)
    (hhandoffs : t.snapshotRefreshHandoffs = s.snapshotRefreshHandoffs) : TargetStarted id s := by
  rcases h with ⟨b, hb, hstarted⟩ | hrun | hhandoff
  · exact .inl (hrow b hb hstarted)
  · rw [hruns, hworkflows] at hrun
    exact .inr (.inl hrun)
  · rw [hhandoffs] at hhandoff
    exact .inr (.inr hhandoff)

/-- The target of an action is started by a statement that starts it. -/
theorem targetStarted_apply {op : DispatchOp} {c : DispatchChoice} (hfresh : FreshId c.freshId s)
    (h : TargetStarted id (op.apply c s).1) : TargetStarted id s ∨ op.Starts id s := by
  have hread : ∀ t : ControlPlane, t.action? id = s.action? id → ∀ b ∈ t.action? id,
      b.targetWorkflowStartedAt.isSome = true →
      ∃ a ∈ s.action? id, a.targetWorkflowStartedAt.isSome = true := by
    intro t hsame b hb hstarted
    rw [hsame] at hb
    exact ⟨b, hb, hstarted⟩
  cases op with
  | claimScheduledAction input =>
      left
      refine targetStarted_of_row h ?_ rfl rfl rfl
      by_cases hwrites : (claimScheduledAction input).Writes id s
      · rw [action?_claim input c hwrites.2 hwrites.1]
        intro b hb hstarted
        rcases Option.map_eq_some_iff.mp hb with ⟨a, ha, hab⟩
        rw [← hab] at hstarted
        exact ⟨a, ha, hstarted⟩
      · exact hread _ (action?_apply_of_not_writes c hwrites)
  | setDispatched scheduledActionId workflowId =>
      by_cases hid : scheduledActionId = id
      · exact .inr hid
      · exact .inl (targetStarted_of_row h (hread _ (action?_apply_of_not_writes c hid)) rfl rfl rfl)
  | setFailed scheduledActionId code message =>
      left
      refine targetStarted_of_row h ?_ rfl rfl rfl
      by_cases hid : scheduledActionId = id
      · rw [hid, action?_setFailed]
        intro b hb hstarted
        rcases Option.map_eq_some_iff.mp hb with ⟨a, ha, hab⟩
        rw [← hab] at hstarted
        exact ⟨a, ha, hstarted⟩
      · exact hread _ (action?_apply_of_not_writes c hid)
  | insertTriggerRun triggerId triggerTargetId scheduledActionId =>
      left
      have hrow : ((insertTriggerRun triggerId triggerTargetId scheduledActionId).apply c
          s).1.action? id = s.action? id := action?_apply_of_not_writes c fun h => h
      have hworkflows : ((insertTriggerRun triggerId triggerTargetId scheduledActionId).apply c
          s).1.workflowRuns = s.workflowRuns ∧
          ((insertTriggerRun triggerId triggerTargetId scheduledActionId).apply c
          s).1.snapshotRefreshHandoffs = s.snapshotRefreshHandoffs := by
        simp only [DispatchOp.apply]
        split
        · exact ⟨rfl, rfl⟩
        · split <;> exact ⟨rfl, rfl⟩
      rcases runsOf_apply id s
        (insertTriggerRun triggerId triggerTargetId scheduledActionId) c with
        hruns | ⟨_, newTrigger, newTarget, hruns⟩
      · exact targetStarted_of_row h (hread _ hrow) hruns hworkflows.1 hworkflows.2
      · -- The id of the new run is fresh, so no workflow was started under it.
        rcases h with ⟨b, hb, hstarted⟩ | ⟨run, hrun, workflowRun, hmem, _, hkey⟩ | hhandoff
        · exact .inl (hread _ hrow b hb hstarted)
        · rw [hruns, List.mem_singleton] at hrun
          rw [hworkflows.1] at hmem
          rw [hrun] at hkey
          exact absurd hkey (hfresh.2 workflowRun hmem)
        · rw [hworkflows.2] at hhandoff
          exact .inr (.inr hhandoff)
  | runHandleTriggerRun triggerRunId =>
      by_cases hstarts : ∃ run ∈ s.runsOf id, run.id = triggerRunId
      · exact .inr hstarts
      · left
        rcases h with hrow | ⟨run, hrun, workflowRun, hmem, hname, hkey⟩ | hhandoff
        · exact .inl hrow
        · refine .inr (.inl ⟨run, hrun, workflowRun, ?_, hname, hkey⟩)
          -- The workflow run that may be new belongs to another trigger run.
          simp only [DispatchOp.apply, runWorkflow] at hmem
          cases hfind : findWorkflowRun HandleTriggerRunWorkflowName triggerRunId s.workflowRuns with
          | some found =>
              rw [hfind] at hmem
              exact hmem
          | none =>
              rw [hfind] at hmem
              rcases List.mem_append.mp hmem with hmem | hmem
              · exact hmem
              · rw [List.mem_singleton.mp hmem] at hkey
                exact absurd ⟨run, hrun, hkey.symm⟩ hstarts
        · exact .inr (.inr hhandoff)
  | dispatchSnapshotRefresh input =>
      by_cases hid : input.scheduledActionId = id
      · exact .inr hid
      · left
        rcases h with hrow | hrun | hhandoff
        · exact .inl hrow
        · exact .inr (.inl hrun)
        · rcases List.mem_cons.mp hhandoff with hnew | hhandoff
          · exact absurd hnew.symm hid
          · exact .inr (.inr hhandoff)
  | findSchedule scheduleId => exact .inl h
  | findScheduleTrigger scheduleId => exact .inl h
  | findTrigger triggerId => exact .inl h
  | findTriggerTarget triggerId => exact .inl h
  | findTriggerRun scheduledActionId => exact .inl h

/-! ### The law of a step -/

/-- A step that leaves the action keeps the law, unless it starts the target of an
    action that failed. -/
theorem law_of_same {t : ControlPlane} {event : ScheduleStepEvent}
    (hrow : t.action? id = s.action? id)
    (hsingle : (t.runsOf id).length ≤ 1)
    (hstarted : TargetStarted id t → ∀ a ∈ s.action? id, a.status ≠ .failed)
    (hnot : ∀ input, ¬ WrittenBy id s event input) : ActionLaw id s t event where
  dispatched a ha hstatus := ⟨a, by rwa [hrow], hstatus⟩
  failed a ha hstatus := ⟨a, by rwa [hrow], hstatus⟩
  started := by
    rw [hrow]
    exact hstarted
  holder input hwrite := absurd hwrite (hnot input)
  unwritten _ := hrow
  single := hsingle

/-- The law of a step that writes the action. -/
theorem law_of_write {t : ControlPlane} {op : DispatchOp}
    {input : DispatchScheduledActionInput} {c : DispatchChoice}
    {update : ScheduledAction → ScheduledAction} (hwrites : op.Writes id s) (heffect : c.answer.TakesEffect)
    (hrow : t.action? id = (s.action? id).map update)
    (hsingle : (t.runsOf id).length ≤ 1) :
    ActionLaw id s t (.perform input op c) ↔ ∀ a ∈ s.action? id,
      (update a).dispatchClaimKey = some input.dispatchClaimKey ∧
      (a.status = .dispatched → (update a).status = .dispatched) ∧
      (a.status = .failed → (update a).status = .failed) ∧
      (TargetStarted id t → (update a).status ≠ .failed) := by
  have hafter : ∀ a ∈ s.action? id, update a ∈ t.action? id := by
    intro a ha
    rw [hrow]
    exact Option.mem_map_of_mem update ha
  constructor
  · intro hlaw a ha
    refine ⟨hlaw.holder input ⟨op, c, rfl, hwrites, heffect⟩ _ (hafter a ha), ?_, ?_, ?_⟩
    · intro hstatus
      rcases hlaw.dispatched a ha hstatus with ⟨b, hb, hstatus'⟩
      rwa [Option.some.inj ((hafter a ha).symm.trans hb)]
    · intro hstatus
      rcases hlaw.failed a ha hstatus with ⟨b, hb, hstatus'⟩
      rwa [Option.some.inj ((hafter a ha).symm.trans hb)]
    · exact fun hstarted => hlaw.started hstarted _ (hafter a ha)
  · intro hfinds
    have hback : ∀ b ∈ t.action? id, ∃ a ∈ s.action? id, update a = b := by
      intro b hb
      rw [hrow] at hb
      exact Option.map_eq_some_iff.mp hb
    refine ⟨?_, ?_, ?_, ?_, ?_, hsingle⟩
    · intro a ha hstatus
      exact ⟨update a, hafter a ha, (hfinds a ha).2.1 hstatus⟩
    · intro a ha hstatus
      exact ⟨update a, hafter a ha, (hfinds a ha).2.2.1 hstatus⟩
    · intro hstarted b hb
      rcases hback b hb with ⟨a, ha, hab⟩
      rw [← hab]
      exact (hfinds a ha).2.2.2 hstarted
    · intro other hwrite b hb
      rcases hwrite with ⟨op', c', hevent, _, _⟩
      injection hevent with hinput
      rcases hback b hb with ⟨a, ha, hab⟩
      rw [← hab, ← hinput]
      exact (hfinds a ha).1
    · intro hunwritten
      exact absurd ⟨op, c, rfl, hwrites, heffect⟩ (hunwritten input)

/-- A worker claims with the input that it was called with. -/
def ClaimsForItself (input : DispatchScheduledActionInput) (op : DispatchOp) : Prop :=
  ∀ claim, op = claimScheduledAction claim → claim = input

/-- The row of a claimed action is not final. -/
theorem status_of_claimable (h : ActionInvariant id s) {claim : DispatchScheduledActionInput}
    (hwrites : (claimScheduledAction claim).Writes id s) :
    ∀ a ∈ s.action? id, a.status ≠ .dispatched ∧ a.status ≠ .failed := by
  rcases hwrites with ⟨hid, a, hmem, hclaim⟩
  intro b hb
  have hsame : s.action? id = some a :=
    (findRow_eq_some_iff h.keys).mpr ⟨hmem, hclaim.1.trans hid⟩
  rw [← Option.some.inj (hsame.symm.trans hb)]
  rcases hclaim.2 with hpending | ⟨hdispatching, _⟩ | ⟨hdispatching, _⟩
  · rw [hpending]
    decide
  · rw [hdispatching]
    decide
  · rw [hdispatching]
    decide

/-- A statement that takes effect. -/
theorem law_apply (h : ActionInvariant id s) {op : DispatchOp}
    {input : DispatchScheduledActionInput} {c : DispatchChoice} (hfresh : FreshId c.freshId s)
    (heffect : c.answer.TakesEffect) (hclaim : ClaimsForItself input op) :
    ActionLaw id s (op.apply c s).1 (.perform input op c) ↔
      FindsClaim id s (.perform input op c) := by
  have hsingle := single_apply op c h.single
  have hsame : ¬ op.Writes id s →
      (op.Starts id s → ∀ a ∈ s.action? id, a.status ≠ .failed) →
      ActionLaw id s (op.apply c s).1 (.perform input op c) := by
    intro hwrites hstarts
    refine law_of_same (action?_apply_of_not_writes c hwrites) hsingle ?_ ?_
    · intro hstarted
      rcases targetStarted_apply hfresh hstarted with hbefore | hnow
      · exact h.started hbefore
      · exact hstarts hnow
    · rintro other ⟨op', c', hevent, hwrites', _⟩
      injection hevent with _ hop
      rw [← hop] at hwrites'
      exact hwrites hwrites'
  cases op with
  | claimScheduledAction claim =>
      refine iff_of_true ?_ trivial
      by_cases hwrites : (claimScheduledAction claim).Writes id s
      · refine (law_of_write hwrites heffect (action?_claim claim c hwrites.2 hwrites.1)
          hsingle).mpr fun a ha => ?_
        have hstatus := status_of_claimable h hwrites a ha
        refine ⟨by rw [hclaim claim rfl]; rfl, fun hd => absurd hd hstatus.1,
          fun hf => absurd hf hstatus.2, fun _ => ?_⟩
        simp only [ScheduledAction.claim, ne_eq, reduceCtorEq, not_false_eq_true]
      · exact hsame hwrites fun hstarts => hstarts.elim
  | setDispatched scheduledActionId workflowId =>
      by_cases hid : scheduledActionId = id
      · subst hid
        have hwrites : (setDispatched scheduledActionId workflowId).Writes scheduledActionId s :=
          rfl
        refine (law_of_write hwrites heffect (action?_setDispatched c workflowId) hsingle).trans ?_
        constructor
        · intro hlaw _ _ a ha
          refine ⟨(hlaw a ha).1, fun hfailed => ?_⟩
          have hnow := (hlaw a ha).2.2.1 hfailed
          simp only [ScheduledAction.markDispatched, reduceCtorEq] at hnow
        · intro hfinds a ha
          rcases hfinds heffect rfl a ha with ⟨hkey, hstatus⟩
          refine ⟨hkey, fun _ => rfl, fun hfailed => absurd hfailed hstatus, fun _ => ?_⟩
          simp only [ScheduledAction.markDispatched, ne_eq, reduceCtorEq, not_false_eq_true]
      · exact iff_of_true (hsame hid fun hstarts => absurd hstarts hid)
          fun _ hother => absurd hother hid
  | setFailed scheduledActionId code message =>
      by_cases hid : scheduledActionId = id
      · subst hid
        have hwrites : (setFailed scheduledActionId code message).Writes scheduledActionId s := rfl
        refine (law_of_write hwrites heffect (action?_setFailed c code message) hsingle).trans ?_
        constructor
        · intro hlaw _ _ a ha
          refine ⟨(hlaw a ha).1, fun hdispatched => ?_, fun hstarted => ?_⟩
          · have hnow := (hlaw a ha).2.1 hdispatched
            simp only [ScheduledAction.markFailed, reduceCtorEq] at hnow
          · -- A failure leaves what says that the target was started.
            refine (hlaw a ha).2.2.2 ?_ rfl
            rcases hstarted with ⟨b, hb, hb'⟩ | hrun | hhandoff
            · refine .inl ⟨b.markFailed code message c.now, ?_, hb'⟩
              rw [action?_setFailed]
              exact Option.mem_map_of_mem _ hb
            · exact .inr (.inl hrun)
            · exact .inr (.inr hhandoff)
        · intro hfinds a ha
          rcases hfinds heffect rfl a ha with ⟨hkey, hstatus, hstarted⟩
          refine ⟨hkey, fun hdispatched => absurd hdispatched hstatus, fun _ => rfl, fun hnow => ?_⟩
          rcases targetStarted_apply hfresh hnow with hbefore | hstarts
          · exact absurd hbefore hstarted
          · exact hstarts.elim
      · exact iff_of_true (hsame hid fun hstarts => hstarts.elim)
          fun _ hother => absurd hother hid
  | runHandleTriggerRun triggerRunId =>
      constructor
      · rintro hlaw _ ⟨run, hrun, hid⟩
        have hrow : ((runHandleTriggerRun triggerRunId).apply c s).1.action? id = s.action? id :=
          action?_apply_of_not_writes c fun hwrites => hwrites
        rw [← hrow]
        -- The workflow run of this trigger run is there now.
        have hfind := findWorkflowRun_runWorkflow HandleTriggerRunWorkflowName
          (.handleTriggerRun triggerRunId) triggerRunId c.freshId s.workflowRuns
        refine hlaw.started (.inr (.inl ⟨run, hrun, _, findWorkflowRun_mem hfind, ?_⟩))
        rw [hid]
        exact findWorkflowRun_key hfind
      · exact fun hfinds => hsame (fun hwrites => hwrites) (hfinds heffect)
  | dispatchSnapshotRefresh handoff =>
      constructor
      · intro hlaw _ hid
        refine hlaw.started (.inr (.inr ?_))
        rw [← hid]
        exact List.mem_cons_self
      · exact fun hfinds => hsame (fun hwrites => hwrites) (hfinds heffect)
  | _ => exact iff_of_true (hsame (fun hwrites => hwrites) fun hstarts => hstarts.elim) trivial

theorem law_perform (h : ActionInvariant id s) {op : DispatchOp}
    {input : DispatchScheduledActionInput} {c : DispatchChoice} (hfresh : FreshId c.freshId s)
    (hclaim : ClaimsForItself input op) :
    ActionLaw id s (op.perform c s).1 (.perform input op c) ↔
      FindsClaim id s (.perform input op c) := by
  by_cases heffect : c.answer.TakesEffect
  · have heq : (op.perform c s).1 = (op.apply c s).1 := by
      unfold DispatchOp.perform
      cases hanswer : c.answer with
      | fails message =>
          rw [hanswer] at heffect
          exact absurd heffect fun h => h
      | _ => rfl
    rw [heq]
    exact law_apply h hfresh heffect hclaim
  · have heq : (op.perform c s).1 = s := by
      unfold DispatchOp.perform
      cases hanswer : c.answer with
      | fails message => rfl
      | _ =>
          rw [hanswer] at heffect
          exact absurd trivial heffect
    rw [heq]
    refine iff_of_true (law_of_same rfl h.single h.started ?_) ?_
    · rintro other ⟨op', c', hevent, _, heffect'⟩
      injection hevent with _ _ hc
      rw [← hc] at heffect'
      exact heffect heffect'
    · cases op with
      | setDispatched => exact fun hnow => absurd hnow heffect
      | setFailed => exact fun hnow => absurd hnow heffect
      | runHandleTriggerRun => exact fun hnow => absurd hnow heffect
      | dispatchSnapshotRefresh => exact fun hnow => absurd hnow heffect
      | _ => trivial

/-- What happens outside of the workers leaves the action. -/
theorem outside_keeps (library : CronLibrary) (event : ScheduleEvent)
    (h : ActionInvariant id s) :
    UniqueKeys ScheduledAction.id (event.apply library s).scheduledActions ∧
      (event.apply library s).action? id = s.action? id ∧
      (event.apply library s).runsOf id = s.runsOf id ∧
      (TargetStarted id (event.apply library s) → TargetStarted id s) := by
  cases event with
  | configure schedules targets => exact ⟨h.keys, rfl, rfl, fun hstarted => hstarted⟩
  | claimBatch cutoffMinute choice =>
      simp only [ScheduleEvent.apply]
      cases hbatch : claimDueScheduleBatch library choice cutoffMinute s with
      | error e => exact ⟨h.keys, rfl, rfl, fun hstarted => hstarted⟩
      | ok r =>
          have hkeeps : BatchKeeps s r.2 := batch_keeps cutoffMinute s r.1 r.2 hbatch
          have hrow : r.2.action? id = s.action? id := by
            rcases hkeeps.actions with ⟨added, hadded, _⟩
            rcases h.row with ⟨a, ha⟩
            rw [ControlPlane.action?, findRow] at ha ⊢
            rw [ControlPlane.action?, findRow, hadded, List.find?_append, ha]
            rfl
          have hruns : r.2.runsOf id = s.runsOf id := by
            rw [ControlPlane.runsOf, ControlPlane.runsOf, hkeeps.triggerRuns]
          refine ⟨hkeeps.keys h.keys, hrow, hruns, fun hstarted => ?_⟩
          refine targetStarted_of_row hstarted ?_ hruns hkeeps.workflowRuns hkeeps.handoffs
          rw [hrow]
          exact fun b hb hb' => ⟨b, hb, hb'⟩

theorem keys_apply (op : DispatchOp) (c : DispatchChoice)
    (h : UniqueKeys ScheduledAction.id s.scheduledActions) :
    UniqueKeys ScheduledAction.id (op.apply c s).1.scheduledActions := by
  cases op with
  | claimScheduledAction input =>
      simp only [DispatchOp.apply, claimScheduledActionForDispatch]
      split
      · exact h
      · exact h.updateRows (claim_id _ _)
  | setDispatched scheduledActionId workflowId => exact h.updateRows (markDispatched_id _ _)
  | setFailed scheduledActionId code message => exact h.updateRows (markFailed_id _ _ _)
  | insertTriggerRun triggerId triggerTargetId scheduledActionId =>
      simp only [DispatchOp.apply]
      split
      · exact h
      · split <;> exact h
  | _ => exact h

theorem row_apply (op : DispatchOp) (c : DispatchChoice) (h : ∃ a, s.action? id = some a) :
    ∃ b, (op.apply c s).1.action? id = some b := by
  rcases h with ⟨a, ha⟩
  by_cases hwrites : op.Writes id s
  · cases op with
    | claimScheduledAction input =>
        rw [action?_claim input c hwrites.2 hwrites.1, ha]
        exact ⟨_, rfl⟩
    | setDispatched scheduledActionId workflowId =>
        rw [show scheduledActionId = id from hwrites, action?_setDispatched, ha]
        exact ⟨_, rfl⟩
    | setFailed scheduledActionId code message =>
        rw [show scheduledActionId = id from hwrites, action?_setFailed, ha]
        exact ⟨_, rfl⟩
    | _ => exact hwrites.elim
  · exact ⟨a, (action?_apply_of_not_writes c hwrites).trans ha⟩

end

/-! ### Runs -/

section

variable {library : CronLibrary} {id : String}

section

open Program (Every)

variable {input : DispatchScheduledActionInput}

/-- A dispatch claims with its input. -/
theorem dispatch_claims (input : DispatchScheduledActionInput) :
    (dispatchScheduledAction input).run.Every (ClaimsForItself input) := by
  refine Every.query_bind (fun _ h => (DispatchOp.claimScheduledAction.inj h).symm) fun claim => ?_
  cases claim with
  | claimed claim =>
      refine (dispatchClaimedAction_records claim).imp fun op hop other hclaims => ?_
      rw [hclaims] at hop
      exact hop.elim
  | _ => trivial

end

theorem actionLaw_iff {pool pool' : SchedulePool} {input : ScheduleInput} {out : List ScheduleStepEvent} (h : ActionInvariant id pool.shared)
    (hprograms : System.Pool.Every ClaimsForItself pool)
    (hstep : (scheduleSystem library).step pool input = some (pool', out)) :
    (∀ event ∈ out, ActionLaw id pool.shared pool'.shared event) ↔
      ∀ event ∈ out, FindsClaim id pool.shared event := by
  rcases System.step_cases hstep with ⟨e, t, ht, hpool', hout⟩ | ⟨i, t, p, ht, hpool', hout⟩ |
    ⟨n, i, op, next, c, t, r, hcall, ht, hpool', hout⟩ | ⟨n, i, a, hcall, hpool', hout⟩
  · rw [hpool', hout]
    simp only [List.mem_singleton, forall_eq]
    rw [← Option.some.inj ht]
    rcases outside_keeps library e h with ⟨_, hrow, hruns, hstarted⟩
    refine iff_of_true (law_of_same hrow (hruns ▸ h.single) (fun h' => h.started (hstarted h')) ?_)
      trivial
    rintro other ⟨op, c, hevent, _⟩
    exact absurd hevent (by simp only [reduceCtorEq, not_false_eq_true])
  · rw [hpool', hout]
    simp only [List.mem_singleton, forall_eq]
    have hsame : pool.shared = t := (Prod.mk.inj (Option.some.inj ht)).1
    rw [← hsame]
    refine iff_of_true (law_of_same rfl h.single h.started ?_) trivial
    rintro other ⟨op, c, hevent, _⟩
    exact absurd hevent (by simp only [reduceCtorEq, not_false_eq_true])
  · rw [hpool', hout]
    simp only [List.mem_singleton, forall_eq]
    have hop : ClaimsForItself i op := (hprograms _ (List.mem_of_getElem? hcall) _ rfl).1
    simp only [scheduleSystem] at ht
    split at ht
    · rename_i hfresh
      rw [Option.some.injEq] at ht
      have hshared : t = (op.perform c pool.shared).1 := congrArg Prod.fst ht.symm
      rw [hshared]
      exact law_perform h hfresh hop
    · exact absurd ht (by simp only [reduceCtorEq, not_false_eq_true])
  · rw [hpool', hout]
    simp only [List.mem_singleton, forall_eq]
    refine iff_of_true (law_of_same rfl h.single h.started ?_) trivial
    rintro other ⟨op, c, hevent, _⟩
    exact absurd hevent (by simp only [reduceCtorEq, not_false_eq_true])

/-- What a worker's step keeps where it keeps the law. -/
theorem ActionInvariant.step {pool pool' : SchedulePool} {input : ScheduleInput} {out : List ScheduleStepEvent} (h : ActionInvariant id pool.shared)
    (hstep : (scheduleSystem library).step pool input = some (pool', out))
    (hlaw : ∀ event ∈ out, ActionLaw id pool.shared pool'.shared event) :
    ActionInvariant id pool'.shared := by
  have hrest : UniqueKeys ScheduledAction.id pool'.shared.scheduledActions ∧
      (∃ b, pool'.shared.action? id = some b) ∧ ∃ event, event ∈ out := by
    rcases System.step_cases hstep with ⟨e, t, ht, hpool', hout⟩ | ⟨i, t, p, ht, hpool', hout⟩ |
      ⟨n, i, op, next, c, t, r, hcall, ht, hpool', hout⟩ | ⟨n, i, a, hcall, hpool', hout⟩
    · rw [hpool', hout, ← Option.some.inj ht]
      rcases outside_keeps library e h with ⟨hkeys, hrow, _, _⟩
      exact ⟨hkeys, hrow ▸ h.row, _, List.mem_singleton.mpr rfl⟩
    · rw [hpool', hout, ← (Prod.mk.inj (Option.some.inj ht)).1]
      exact ⟨h.keys, h.row, _, List.mem_singleton.mpr rfl⟩
    · rw [hpool', hout]
      simp only [scheduleSystem] at ht
      split at ht
      · rw [Option.some.injEq] at ht
        have hshared : t = (op.perform c pool.shared).1 := congrArg Prod.fst ht.symm
        rw [hshared]
        rcases perform_eq op c pool.shared with heq | heq
        · rw [heq]
          exact ⟨keys_apply op c h.keys, row_apply op c h.row, _, List.mem_singleton.mpr rfl⟩
        · rw [heq]
          exact ⟨h.keys, h.row, _, List.mem_singleton.mpr rfl⟩
      · exact absurd ht (by simp only [reduceCtorEq, not_false_eq_true])
    · rw [hpool', hout]
      exact ⟨h.keys, h.row, _, List.mem_singleton.mpr rfl⟩
  rcases hrest.2.2 with ⟨event, hevent⟩
  exact ⟨hrest.1, hrest.2.1, (hlaw event hevent).started, (hlaw event hevent).single⟩

/-- A run of schedules and workers keeps `P` at every step. -/
abbrev EveryScheduleStep (library : CronLibrary) (pool : SchedulePool)
    (trace : List (Entry ScheduleInput ScheduleStepEvent))
    (P : SchedulePool → ScheduleInput → List ScheduleStepEvent → Prop) : Prop :=
  EveryStep (fun pool input out pool' => (scheduleSystem library).step pool input =
    some (pool', out)) pool trace P

/-- Every step of a run keeps the law of the action. -/
def KeepsActionLaw (library : CronLibrary) (id : String) (pool : SchedulePool)
    (trace : List (Entry ScheduleInput ScheduleStepEvent)) : Prop :=
  EveryScheduleStep library pool trace fun pool input out =>
    ∀ pool', (scheduleSystem library).step pool input = some (pool', out) →
      ∀ event ∈ out, ActionLaw id pool.shared pool'.shared event

/-- What a run of lawful steps keeps. -/
theorem ActionInvariant.run {pool pool' : SchedulePool}
    {trace : List (Entry ScheduleInput ScheduleStepEvent)} (h : ActionInvariant id pool.shared)
    (run : (scheduleSystem library).Runs pool trace pool')
    (hlaw : KeepsActionLaw library id pool trace) : ActionInvariant id pool'.shared := by
  refine (run.restrict hlaw).invariant (P := fun p => ActionInvariant id p.shared) h ?_
  intro a input out b ha hstep
  exact ha.step hstep.1 (hstep.2 b hstep.1)

end

/-! ### A worker that is overtaken -/

/-- An action of a daily schedule for a trigger. -/
def dailyControlPlane : ControlPlane where
  schedules := [{
    id := "sch_1"
    organizationId := "org_1"
    targetType := "trigger_run"
    kind := .recurring
    cronExpression := some "0 9 * * *"
    timezone := some "UTC"
    enabled := true
    nextScheduledAt := some 1777453200000
    lastScheduledAt := some 1777366800000
    endAt := none
    deletedAt := none }]
  targets := {
    scheduleTriggers := [⟨"sch_1", "trg_1"⟩]
    snapshotRefreshScheduleTargets := []
    triggers := [⟨"trg_1", "org_1", true⟩]
    triggerTargets := [⟨"tgt_1", "trg_1"⟩] }
  scheduledActions := [{
    id := "sca_1"
    scheduleId := "sch_1"
    organizationId := "org_1"
    targetType := "trigger_run"
    targetPayload := .obj [("triggerId", .str "trg_1")]
    scheduledAt := 1777366800000
    localScheduledDate := "2026-04-28"
    localScheduledTime := "09:00" }]
  triggerRuns := []
  workflowRuns := []
  snapshotRefreshHandoffs := []

theorem justScheduled_daily : JustScheduled "sca_1" dailyControlPlane where
  keys := List.nodup_singleton _
  pending := ⟨_, rfl, rfl⟩
  noRun := rfl

/-- One batch claims the action and hands it off. -/
def dispatchedInputs : List ScheduleInput :=
  [.start ⟨"sca_1", "schedule-dispatch-batch:a", 1777365960000⟩,
    .advance 0 { now := 1777366860000 }, .advance 0 { now := 1777366860000 },
    .advance 0 { now := 1777366860000 }, .advance 0 { now := 1777366860000 },
    .advance 0 { now := 1777366860000 },
    .advance 0 { now := 1777366860000, freshId := "trn_1" },
    .advance 0 { now := 1777366860000, freshId := "wfr_1" },
    .advance 0 { now := 1777366860000 }, .finish 0]

/-- The first worker has claimed the action and read its schedule. A quarter of an hour
    later another takes the stale claim over and hands the action off. The trigger is
    disabled then, which the first worker finds when it goes on. -/
def overtakenInputs : List ScheduleInput :=
  [.start ⟨"sca_1", "schedule-dispatch-batch:a", 1777365960000⟩,
    .advance 0 { now := 1777366860000 }, .advance 0 { now := 1777366860000 },
    .start ⟨"sca_1", "schedule-dispatch-batch:b", 1777366920000⟩,
    .advance 1 { now := 1777367820000 }, .advance 1 { now := 1777367820000 },
    .advance 1 { now := 1777367820000 }, .advance 1 { now := 1777367820000 },
    .advance 1 { now := 1777367820000 },
    .advance 1 { now := 1777367820000, freshId := "trn_1" },
    .advance 1 { now := 1777367820000, freshId := "wfr_1" },
    .advance 1 { now := 1777367820000 },
    .outside (.configure dailyControlPlane.schedules
      { dailyControlPlane.targets with triggers := [⟨"trg_1", "org_1", false⟩] }),
    .advance 0 { now := 1777367880000 }, .advance 0 { now := 1777367880000 },
    .advance 0 { now := 1777367880000 }]

end Mistle
