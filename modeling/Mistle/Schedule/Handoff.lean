import Mistle.Schedule.System

/-!
# The Handoff of a Schedule's Actions

What any number of workers do to the actions of one schedule for a trigger, where the
schedule, its trigger and the trigger's target are there and the trigger is enabled.
As long as the schedule is enabled where it has an action to dispatch, a worker finds
nothing that speaks against the action, and records it as dispatched behind the
trigger run that it was handed off to.

## Main definitions

* `TriggerSchedule`: A schedule, and the trigger that it is for.
* `TriggerSchedule.Present`: What a user keeps that has not given the schedule up.
* `TriggerSchedule.HandedOff`: An action has a trigger run that was started.
* `TriggerSchedule.Inv`, `TriggerSchedule.Keeps`: What holds between any two statements.
* `TriggerSchedule.Answers`: What a dispatch of one of the actions answers.

## Theorems

* `TriggerSchedule.Inv.updateActions`: An update of an action that keeps to the invariant.
* `TriggerSchedule.perform_keeps`: A statement keeps to the invariant.
* `TriggerSchedule.dispatch_holds`: A dispatch in company.
-/

namespace Mistle

open Program (Fallible Holds query)

open DispatchOp (claimScheduledAction findSchedule findScheduleTrigger findTrigger
  findTriggerTarget insertTriggerRun findTriggerRun runHandleTriggerRun dispatchSnapshotRefresh
  setDispatched setFailed)

/-- A recurring schedule, and the trigger that it is for. -/
structure TriggerSchedule where
  scheduleId : String
  organizationId : String
  triggerId : String

namespace TriggerSchedule

/-- The payload of the schedule's actions. -/
def payload (plan : TriggerSchedule) : Json String := .obj [("triggerId", .str plan.triggerId)]

theorem parseTriggerRunTargetPayload_payload {plan : TriggerSchedule}
    (hnamed : plan.triggerId ≠ "") (actionId : String) :
    parseTriggerRunTargetPayload actionId plan.payload = .ok plan.triggerId := by
  refine if_pos ⟨hnamed, fun field hfield => ?_⟩
  rw [List.mem_singleton.mp hfield]

structure IsRow (plan : TriggerSchedule) (row : Schedule) : Prop where
  id : row.id = plan.scheduleId
  organizationId : row.organizationId = plan.organizationId
  targetType : row.targetType = ScheduleTargetType.triggerRun.text
  deletedAt : row.deletedAt = none

/-- The schedule is not deleted, its trigger is there and enabled, and has a target. -/
structure Present (plan : TriggerSchedule) (s : ControlPlane) : Prop where
  keys : UniqueKeys Schedule.id s.schedules
  schedule : ∃ row ∈ s.schedules, plan.IsRow row
  scheduleTrigger : ∃ scheduleTrigger, findRow ScheduleTrigger.scheduleId plan.scheduleId
    s.targets.scheduleTriggers = some scheduleTrigger ∧
      scheduleTrigger.triggerId = plan.triggerId
  named : plan.triggerId ≠ ""
  trigger : ∃ trigger, findRow Trigger.id plan.triggerId s.targets.triggers = some trigger ∧
    trigger.organizationId = plan.organizationId ∧ trigger.enabled = true
  target : ∃ target, findRow TriggerTarget.triggerId plan.triggerId
    s.targets.triggerTargets = some target

/-- The row of the schedule is enabled. -/
def Enabled (plan : TriggerSchedule) (s : ControlPlane) : Prop :=
  ∀ row ∈ s.schedules, row.id = plan.scheduleId → row.enabled = true

/-- No occurrence of the schedule was ever to be dispatched. -/
def OnlySkipped (plan : TriggerSchedule) (s : ControlPlane) : Prop :=
  ∀ action ∈ s.scheduledActions, action.scheduleId = plan.scheduleId →
    action.status = .skippedLate

/-- An action has a run of the trigger, whose workflow was started. -/
def HandedOff (plan : TriggerSchedule) (actionId : String) (s : ControlPlane) : Prop :=
  ∃ run ∈ s.triggerRuns, run.sourceScheduledActionId = some actionId ∧
    run.triggerId = plan.triggerId ∧ ∃ workflowRun ∈ s.workflowRuns,
      workflowRun.workflowName = HandleTriggerRunWorkflowName ∧
        workflowRun.idempotencyKey = run.id

/-- An action of the schedule, as the batch has inserted it, and with no other result than
    that it was handed off. -/
structure Sound (plan : TriggerSchedule) (s : ControlPlane) (action : ScheduledAction) : Prop where
  organizationId : action.organizationId = plan.organizationId
  targetType : action.targetType = ScheduleTargetType.triggerRun.text
  targetPayload : action.targetPayload = plan.payload
  notFailed : action.status ≠ .failed
  dispatched : action.status = .dispatched → plan.HandedOff action.id s
  started : action.targetWorkflowStartedAt.isSome = true → plan.HandedOff action.id s

/-- What holds between any two statements. -/
structure Inv (plan : TriggerSchedule) (s : ControlPlane) : Prop where
  present : plan.Present s
  keys : UniqueKeys ScheduledAction.id s.scheduledActions
  enabled : plan.Enabled s ∨ plan.OnlySkipped s
  actions : ∀ action ∈ s.scheduledActions, action.scheduleId = plan.scheduleId →
    plan.Sound s action
  runs : ∀ run ∈ s.triggerRuns, ∀ actionId, run.sourceScheduledActionId = some actionId →
    ∃ action ∈ s.scheduledActions, action.id = actionId ∧
      (action.scheduleId = plan.scheduleId → run.triggerId = plan.triggerId)

/-- What any number of steps may do together. -/
structure Keeps (plan : TriggerSchedule) (s t : ControlPlane) : Prop where
  inv : plan.Inv t
  actions : ∀ action ∈ s.scheduledActions, ∃ after ∈ t.scheduledActions, after.id = action.id ∧
    after.scheduleId = action.scheduleId ∧
      (action.status ≠ .skippedLate → after.status ≠ .skippedLate)
  triggerRuns : s.triggerRuns ⊆ t.triggerRuns
  workflowRuns : s.workflowRuns ⊆ t.workflowRuns

section

variable {plan : TriggerSchedule} {s t u : ControlPlane} {actionId : String}

theorem Keeps.refl (h : plan.Inv s) : plan.Keeps s s where
  inv := h
  actions action hmem := ⟨action, hmem, rfl, rfl, fun hstatus => hstatus⟩
  triggerRuns := fun _ hmem => hmem
  workflowRuns := fun _ hmem => hmem

theorem Keeps.trans (first : plan.Keeps s t) (rest : plan.Keeps t u) : plan.Keeps s u where
  inv := rest.inv
  actions action hmem := by
    rcases first.actions action hmem with ⟨between, hbetween, hid, hschedule, hstatus⟩
    rcases rest.actions between hbetween with ⟨after, hafter, hid', hschedule', hstatus'⟩
    exact ⟨after, hafter, hid'.trans hid, hschedule'.trans hschedule,
      fun h => hstatus' (hstatus h)⟩
  triggerRuns := fun _ hmem => rest.triggerRuns (first.triggerRuns hmem)
  workflowRuns := fun _ hmem => rest.workflowRuns (first.workflowRuns hmem)

theorem HandedOff.mono (h : plan.HandedOff actionId s) (hruns : s.triggerRuns ⊆ t.triggerRuns)
    (hworkflows : s.workflowRuns ⊆ t.workflowRuns) : plan.HandedOff actionId t := by
  rcases h with ⟨run, hrun, hsource, htrigger, workflowRun, hmem, hworkflow⟩
  exact ⟨run, hruns hrun, hsource, htrigger, workflowRun, hworkflows hmem, hworkflow⟩

theorem Sound.mono {action : ScheduledAction} (h : plan.Sound s action)
    (hruns : s.triggerRuns ⊆ t.triggerRuns) (hworkflows : s.workflowRuns ⊆ t.workflowRuns) :
    plan.Sound t action :=
  { h with
    dispatched := fun hstatus => (h.dispatched hstatus).mono hruns hworkflows
    started := fun hstarted => (h.started hstarted).mono hruns hworkflows }

/-- More runs, each of an action that is there, and for the trigger where it is the schedule's. -/
theorem Inv.addRuns (h : plan.Inv s) (hschedules : t.schedules = s.schedules)
    (htargets : t.targets = s.targets) (hactions : t.scheduledActions = s.scheduledActions)
    (hruns : s.triggerRuns ⊆ t.triggerRuns) (hworkflows : s.workflowRuns ⊆ t.workflowRuns)
    (hnew : ∀ run ∈ t.triggerRuns, run ∈ s.triggerRuns ∨
      ∀ id, run.sourceScheduledActionId = some id → ∃ action ∈ s.scheduledActions,
        action.id = id ∧ (action.scheduleId = plan.scheduleId → run.triggerId = plan.triggerId)) :
    plan.Keeps s t := by
  have hpresent : plan.Present t := by
    refine ⟨hschedules ▸ h.present.keys, hschedules ▸ h.present.schedule, ?_, h.present.named,
      ?_, ?_⟩
    · rw [htargets]
      exact h.present.scheduleTrigger
    · rw [htargets]
      exact h.present.trigger
    · rw [htargets]
      exact h.present.target
  refine ⟨⟨hpresent, hactions ▸ h.keys, ?_, ?_, ?_⟩, ?_, hruns, hworkflows⟩
  · rw [Enabled, OnlySkipped, hschedules, hactions]
    exact h.enabled
  · rw [hactions]
    exact fun action hmem hschedule => (h.actions action hmem hschedule).mono hruns hworkflows
  · rw [hactions]
    intro run hrun id hsource
    rcases hnew run hrun with hold | hnew
    · exact h.runs run hold id hsource
    · exact hnew id hsource
  · rw [hactions]
    exact fun action hmem => ⟨action, hmem, rfl, rfl, fun hstatus => hstatus⟩

/-- An update of the action with an id, which leaves what was inserted. -/
theorem Inv.updateActions (h : plan.Inv s) {update : ScheduledAction → ScheduledAction}
    (hid : ∀ a, (update a).id = a.id) (hschedule : ∀ a, (update a).scheduleId = a.scheduleId)
    (hstatus : ∀ a, (update a).status ≠ .skippedLate)
    (hsound : ∀ a ∈ s.scheduledActions, a.id = actionId → a.scheduleId = plan.scheduleId →
      a.status ≠ .skippedLate ∧ plan.Sound s (update a)) :
    plan.Keeps s { s with
      scheduledActions := updateRows (fun a => decide (a.id = actionId)) update
        s.scheduledActions } := by
  have hback : ∀ b ∈ updateRows (fun a => decide (a.id = actionId)) update s.scheduledActions,
      ∃ a ∈ s.scheduledActions, b.id = a.id ∧ b.scheduleId = a.scheduleId ∧
        ((a.id = actionId ∧ b = update a) ∨ b = a) := by
    intro b hb
    rcases mem_updateRows.mp hb with ⟨a, ha, heq⟩
    by_cases hsame : a.id = actionId
    · rw [if_pos (decide_eq_true hsame)] at heq
      exact ⟨a, ha, heq ▸ hid a, heq ▸ hschedule a, .inl ⟨hsame, heq⟩⟩
    · rw [if_neg fun hdecide => hsame (of_decide_eq_true hdecide)] at heq
      exact ⟨a, ha, heq ▸ rfl, heq ▸ rfl, .inr heq⟩
  have hthere : ∀ a ∈ s.scheduledActions,
      ∃ b ∈ updateRows (fun a => decide (a.id = actionId)) update s.scheduledActions,
        b.id = a.id ∧ b.scheduleId = a.scheduleId ∧
          (a.status ≠ .skippedLate → b.status ≠ .skippedLate) := by
    intro a ha
    refine ⟨_, mem_updateRows.mpr ⟨a, ha, rfl⟩, ?_⟩
    split
    · exact ⟨hid a, hschedule a, fun _ => hstatus a⟩
    · exact ⟨rfl, rfl, fun h => h⟩
  refine ⟨⟨{ h.present with }, h.keys.updateRows hid, ?_, ?_, ?_⟩, hthere, fun _ hmem => hmem,
    fun _ hmem => hmem⟩
  · rcases h.enabled with henabled | hskipped
    · exact .inl henabled
    · -- An action that was skipped is not updated.
      refine .inr fun b hb hmine => ?_
      rcases hback b hb with ⟨a, ha, _, hsame, ⟨haid, _⟩ | heq⟩
      · exact absurd (hskipped a ha (hsame.symm.trans hmine))
          (hsound a ha haid (hsame.symm.trans hmine)).1
      · rw [heq]
        exact hskipped a ha (hsame.symm.trans hmine)
  · intro b hb hmine
    rcases hback b hb with ⟨a, ha, _, hsame, ⟨haid, heq⟩ | heq⟩
    · rw [heq]
      exact { (hsound a ha haid (hsame.symm.trans hmine)).2 with }
    · rw [heq]
      exact { h.actions a ha (hsame.symm.trans hmine) with }
  · intro run hrun id hsource
    rcases h.runs run hrun id hsource with ⟨a, ha, haid, htrigger⟩
    rcases hthere a ha with ⟨b, hb, hbid, hbschedule, _⟩
    exact ⟨b, hb, hbid.trans haid, fun hmine => htrigger (hbschedule.symm.trans hmine)⟩

theorem Inv.only (h : plan.Inv s) {a b : ScheduledAction} (ha : a ∈ s.scheduledActions)
    (hb : b ∈ s.scheduledActions) (hid : a.id = b.id) : a = b :=
  List.inj_on_of_nodup_map h.keys ha hb hid

/-! ### Statements -/

/-- What the statements of a dispatch are careful of. -/
def Justified (plan : TriggerSchedule) (s : ControlPlane) : DispatchOp → Prop
  | .setDispatched id _ => ∀ a ∈ s.scheduledActions, a.id = id →
    a.scheduleId = plan.scheduleId → a.status ≠ .skippedLate ∧ plan.HandedOff id s
  | .setFailed id _ _ => ∀ a ∈ s.scheduledActions, a.id = id → a.scheduleId ≠ plan.scheduleId
  | .insertTriggerRun triggerId _ id => ∃ a ∈ s.scheduledActions, a.id = id ∧
    (a.scheduleId = plan.scheduleId → triggerId = plan.triggerId)
  | _ => True

/-- An action that is claimed was not skipped, and has no result yet. -/
theorem status_of_claimable {input : DispatchScheduledActionInput} {action : ScheduledAction}
    (h : Claimable input action) : action.status ≠ .skippedLate := by
  rcases h.2 with hpending | ⟨hdispatching, _⟩ | ⟨hdispatching, _⟩
  · rw [hpending]
    decide
  · rw [hdispatching]
    decide
  · rw [hdispatching]
    decide

theorem Inv.keeps_claim (h : plan.Inv s) (input : DispatchScheduledActionInput)
    (c : DispatchChoice) : plan.Keeps s ((claimScheduledAction input).apply c s).1 := by
  simp only [DispatchOp.apply, claimScheduledActionForDispatch]
  cases hfind : s.scheduledActions.find? fun action => decide (Claimable input action) with
  | none => exact .refl h
  | some candidate =>
      have hmem := List.mem_of_find?_eq_some hfind
      have hclaimable := List.find?_some hfind
      have hclaimable : Claimable input candidate := of_decide_eq_true hclaimable
      refine h.updateActions (fun _ => rfl) (fun _ => rfl) (fun _ => ?_) fun a ha hid hmine => ?_
      · simp only [ScheduledAction.claim, ne_eq, reduceCtorEq, not_false_eq_true]
      · have hsame : a = candidate := h.only ha hmem (hid.trans hclaimable.1.symm)
        have hsound := h.actions a ha hmine
        refine ⟨hsame ▸ status_of_claimable hclaimable, { hsound with
          notFailed := ?_, dispatched := fun hstatus => ?_ }⟩
        · simp only [ScheduledAction.claim, ne_eq, reduceCtorEq, not_false_eq_true]
        · simp only [ScheduledAction.claim, reduceCtorEq] at hstatus

/-- A statement that a careful dispatch makes. -/
theorem Inv.keeps_apply (h : plan.Inv s) {op : DispatchOp} (hop : plan.Justified s op)
    (c : DispatchChoice) : plan.Keeps s (op.apply c s).1 := by
  cases op with
  | claimScheduledAction input => exact h.keeps_claim input c
  | setDispatched id workflowId =>
      refine h.updateActions (fun _ => rfl) (fun _ => rfl) (fun _ => ?_) fun a ha hid hmine => ?_
      · simp only [ScheduledAction.markDispatched, ne_eq, reduceCtorEq, not_false_eq_true]
      · rcases hop a ha hid hmine with ⟨hstatus, hhanded⟩
        rw [← hid] at hhanded
        refine ⟨hstatus, { h.actions a ha hmine with
          notFailed := ?_, dispatched := fun _ => hhanded, started := fun _ => hhanded }⟩
        simp only [ScheduledAction.markDispatched, ne_eq, reduceCtorEq, not_false_eq_true]
  | setFailed id code message =>
      refine h.updateActions (fun _ => rfl) (fun _ => rfl) (fun _ => ?_) fun a ha hid hmine => ?_
      · simp only [ScheduledAction.markFailed, ne_eq, reduceCtorEq, not_false_eq_true]
      · exact absurd hmine (hop a ha hid)
  | insertTriggerRun triggerId targetId id =>
      simp only [DispatchOp.apply]
      split
      · exact .refl h
      · split
        · exact .refl h
        · refine h.addRuns rfl rfl rfl (List.subset_append_left _ _) (fun _ hmem => hmem) ?_
          intro run hrun
          rcases List.mem_append.mp hrun with hrun | hrun
          · exact .inl hrun
          · refine .inr fun actionId hsource => ?_
            rw [List.mem_singleton.mp hrun] at hsource ⊢
            rw [← Option.some.inj hsource]
            exact hop
  | runHandleTriggerRun runId =>
      exact h.addRuns rfl rfl rfl (fun _ hmem => hmem) (fun _ hmem => mem_runWorkflow hmem)
        fun run hrun => .inl hrun
  | dispatchSnapshotRefresh input =>
      exact h.addRuns rfl rfl rfl (fun _ hmem => hmem) (fun _ hmem => hmem)
        fun run hrun => .inl hrun
  | findSchedule | findScheduleTrigger | findTrigger | findTriggerTarget | findTriggerRun =>
      exact .refl h

/-! ### An action to dispatch -/

/-- An action of the schedule that was not skipped. -/
def ToDispatch (plan : TriggerSchedule) (actionId : String) (s : ControlPlane) : Prop :=
  ∃ action ∈ s.scheduledActions, action.id = actionId ∧ action.scheduleId = plan.scheduleId ∧
    action.status ≠ .skippedLate

theorem ToDispatch.mono (h : plan.ToDispatch actionId s) (hst : plan.Keeps s t) :
    plan.ToDispatch actionId t := by
  rcases h with ⟨action, hmem, hid, hmine, hstatus⟩
  rcases hst.actions action hmem with ⟨after, hafter, hid', hschedule, hstatus'⟩
  exact ⟨after, hafter, hid'.trans hid, hschedule.trans hmine, hstatus' hstatus⟩

/-- Where there is an action to dispatch, the schedule is enabled. -/
theorem ToDispatch.enabled (h : plan.ToDispatch actionId s) (hinv : plan.Inv s) :
    plan.Enabled s := by
  rcases h with ⟨action, hmem, _, hmine, hstatus⟩
  rcases hinv.enabled with henabled | hskipped
  · exact henabled
  · exact absurd (hskipped action hmem hmine) hstatus

/-- The schedule that a worker reads passes every check. -/
theorem ToDispatch.checkedSchedule (h : plan.ToDispatch actionId s) (hinv : plan.Inv s) :
    ∃ row, checkedSchedule plan.organizationId plan.scheduleId actionId
      (findRow Schedule.id plan.scheduleId s.schedules) = .ok row ∧ row.id = plan.scheduleId := by
  rcases hinv.present.schedule with ⟨row, hmem, hrow⟩
  have hfind : findRow Schedule.id plan.scheduleId s.schedules = some row :=
    (findRow_eq_some_iff hinv.present.keys).mpr ⟨hmem, hrow.id⟩
  have henabled : row.enabled = true := h.enabled hinv row hmem hrow.id
  refine ⟨row, ?_, hrow.id⟩
  rw [hfind, Mistle.checkedSchedule, if_neg (not_not.mpr hrow.organizationId),
    if_neg (not_not.mpr hrow.targetType), if_neg (not_not.mpr henabled),
    if_neg (not_not.mpr hrow.deletedAt)]

end

/-! ### A dispatch in company -/

/-- What holds where a dispatch ends, if no statement has failed. A dispatch in which one
    has is tried again. -/
def OrTriedAgain {α : Type} (P : α → ControlPlane → Prop) :
    Except DispatchError α → ControlPlane → Prop
  | .ok a, s => P a s
  | .error e, _ => ∃ message, e = .other message

/-- What a dispatch answers to an action: it was handed off, or is not this worker's. -/
def Answer (plan : TriggerSchedule) (actionId : String) (result : DispatchScheduledActionResult)
    (s : ControlPlane) : Prop :=
  result.status = .skipped ∨ (result.status = .dispatched ∧ plan.HandedOff actionId s)

/-- The answer to an action, where it is one of the schedule's. -/
def Answers (plan : TriggerSchedule) (input : DispatchScheduledActionInput)
    (outcome : DispatchOutcome) (s : ControlPlane) : Prop :=
  (∃ action ∈ s.scheduledActions, action.id = input.scheduledActionId ∧
    action.scheduleId = plan.scheduleId) →
  OrTriedAgain (plan.Answer input.scheduledActionId) outcome s

/-- A claim of one of the schedule's actions. -/
structure Claims (plan : TriggerSchedule) (claim : ClaimedScheduledAction) (s : ControlPlane) :
    Prop where
  scheduleId : claim.scheduleId = plan.scheduleId
  organizationId : claim.organizationId = plan.organizationId
  targetType : claim.targetType = ScheduleTargetType.triggerRun.text
  targetPayload : claim.targetPayload = plan.payload
  started : claim.targetWorkflowStartedAt.isSome = true →
    plan.HandedOff claim.scheduledActionId s
  toDispatch : plan.ToDispatch claim.scheduledActionId s

section

variable {plan : TriggerSchedule} {s t : ControlPlane} {actionId : String} {α β : Type}
  {exec : (op : DispatchOp) → ControlPlane → Fallible DispatchError DispatchOp.Row op →
    ControlPlane → Prop}
  (hexec : ∀ op s r t, exec op s r t → ∃ c, op.perform c s = (t, r))

theorem Keeps.refl_right {a b : ControlPlane} (h : plan.Keeps a b) : plan.Keeps b b := .refl h.inv

theorem bind_holds {P : β → ControlPlane → Prop} {x : Dispatch α} {f : α → Dispatch β}
    (hx : Holds exec plan.Keeps
      (OrTriedAgain fun a t => Holds exec plan.Keeps (OrTriedAgain P) (f a).run t) x.run s) :
    Holds exec plan.Keeps (OrTriedAgain P) (x >>= f).run s := by
  refine Holds.except_bind (fun a b h => h.refl_right) (hx.imp fun r t hr => ?_)
  constructor
  · intro a ha
    rw [ha] at hr
    exact hr
  · intro e he u _
    rw [he] at hr
    exact hr

include hexec

theorem perform_keeps (hinv : plan.Inv s) {o : DispatchOp} (hjustified : plan.Justified s o)
    {r : Fallible DispatchError DispatchOp.Row o} (hperform : exec o s r t) : plan.Keeps s t := by
  rcases hexec o s r t hperform with ⟨c, hc⟩
  have ht : t = (o.perform c s).1 := by rw [hc]
  rw [ht]
  rcases perform_eq o c s with heq | heq
  · rw [heq]
    exact hinv.keeps_apply hjustified c
  · rw [heq]
    exact .refl hinv

/-- A statement that is justified wherever the others have led. -/
theorem query_holds {Q : Except DispatchError α → ControlPlane → Prop} {o : DispatchOp}
    {f : o.Row → Dispatch α} (hfailed : ∀ message t, Q (.error (.other message)) t)
    (hjustified : ∀ t, plan.Keeps s t → plan.Justified t o)
    (hnext : ∀ t c, plan.Keeps s t → plan.Keeps t (o.apply c t).1 →
      Holds exec plan.Keeps Q (f (o.apply c t).2).run (o.apply c t).1) :
    Holds exec plan.Keeps Q (query o >>= f : Dispatch α).run s := by
  intro t hst r u hperform
  refine ⟨perform_keeps hexec hst.inv (hjustified t hst) hperform, ?_⟩
  rcases hexec o t r u hperform with ⟨c, hc⟩
  have hu : u = (o.perform c t).1 := by rw [hc]
  have hr : (o.perform c t).2 = r := by rw [hc]
  cases r with
  | ok row =>
      rcases perform_ok hr with ⟨heq, hanswer⟩
      rw [hu, heq, hanswer]
      exact hnext t c hst (hst.inv.keeps_apply (hjustified t hst) c)
  | error e =>
      rcases perform_error hr with ⟨message, he⟩
      rw [he]
      exact fun v _ => hfailed message v

theorem statement_holds {P : α → ControlPlane → Prop} {o : DispatchOp} {f : o.Row → Dispatch α}
    (hjustified : ∀ t, plan.Keeps s t → plan.Justified t o)
    (hnext : ∀ t c, plan.Keeps s t → plan.Keeps t (o.apply c t).1 →
      Holds exec plan.Keeps (OrTriedAgain P) (f (o.apply c t).2).run (o.apply c t).1) :
    Holds exec plan.Keeps (OrTriedAgain P) (query o >>= f : Dispatch α).run s :=
  query_holds hexec (fun message _ => ⟨message, rfl⟩) hjustified hnext

omit hexec in
theorem lift_holds {P : β → ControlPlane → Prop} {x : Except DispatchError α} {a : α}
    {f : α → Dispatch β} (hx : x = .ok a)
    (h : Holds exec plan.Keeps (OrTriedAgain P) (f a).run s) :
    Holds exec plan.Keeps (OrTriedAgain P) (Program.lift x >>= f : Dispatch β).run s := by
  rw [hx]
  exact h

/-- What a worker reads of the schedule, its trigger and target passes every check. -/
theorem loadTriggerRunHandoffAggregate_holds (h : plan.ToDispatch actionId s) :
    Holds exec plan.Keeps (OrTriedAgain fun aggregate t =>
        aggregate.triggerId = plan.triggerId ∧ plan.ToDispatch actionId t)
      (loadTriggerRunHandoffAggregate plan.triggerId plan.organizationId plan.scheduleId
        actionId).run s := by
  refine statement_holds hexec (fun _ _ => trivial) fun t c hst _ => ?_
  have htoDispatch : plan.ToDispatch actionId t := h.mono hst
  rcases htoDispatch.checkedSchedule hst.inv with ⟨schedule, hschedule, hid⟩
  refine lift_holds hschedule (statement_holds hexec (fun _ _ => trivial) fun t c hst _ => ?_)
  have htoDispatch : plan.ToDispatch actionId t := htoDispatch.mono hst
  rcases hst.inv.present.scheduleTrigger with ⟨scheduleTrigger, hfind, htrigger⟩
  have hchecked : checkedScheduleTrigger plan.triggerId actionId schedule
      (findRow ScheduleTrigger.scheduleId schedule.id t.targets.scheduleTriggers) =
        .ok scheduleTrigger := by
    rw [hid, hfind, checkedScheduleTrigger, if_neg (not_not.mpr htrigger)]
  refine lift_holds hchecked (statement_holds hexec (fun _ _ => trivial) fun t c hst _ => ?_)
  have htoDispatch : plan.ToDispatch actionId t := htoDispatch.mono hst
  rcases hst.inv.present.trigger with ⟨trigger, hfind, horganization, henabled⟩
  have hchecked : checkedTrigger plan.organizationId actionId scheduleTrigger
      (findRow Trigger.id scheduleTrigger.triggerId t.targets.triggers) = .ok trigger := by
    rw [htrigger, hfind, checkedTrigger, if_neg (not_not.mpr horganization),
      if_neg (not_not.mpr henabled)]
  have hid : trigger.id = plan.triggerId := findRow_key hfind
  refine lift_holds hchecked (statement_holds hexec (fun _ _ => trivial) fun t c hst _ => ?_)
  have htoDispatch : plan.ToDispatch actionId t := htoDispatch.mono hst
  rcases hst.inv.present.target with ⟨target, hfind⟩
  have hchecked : checkedTriggerTarget trigger
      (findRow TriggerTarget.triggerId trigger.id t.targets.triggerTargets) = .ok target := by
    rw [hid, hfind, checkedTriggerTarget]
  exact lift_holds hchecked fun u htu => ⟨hid, htoDispatch.mono htu⟩

/-- The trigger run of an action, by its id. -/
def IsRunOf (actionId runId : String) (s : ControlPlane) : Prop :=
  ∃ run ∈ s.triggerRuns, run.sourceScheduledActionId = some actionId ∧ run.id = runId

omit hexec in
/-- The run that an insert answers with is there. -/
theorem isRunOf_of_inserted {triggerId triggerTargetId runId : String} {c : DispatchChoice}
    (h : ((insertTriggerRun triggerId triggerTargetId actionId).apply c s).2 = .inserted runId) :
    IsRunOf actionId runId ((insertTriggerRun triggerId triggerTargetId actionId).apply c s).1 := by
  simp only [DispatchOp.apply] at h ⊢
  split at h
  · cases h
  · rename_i hnone
    split at h
    · cases h
    · rename_i hfresh
      rw [if_neg hnone, if_neg hfresh]
      refine ⟨_, List.mem_append_right _ (List.mem_singleton.mpr rfl), rfl, ?_⟩
      exact InsertTriggerRunResult.inserted.inj h

/-- The trigger run of an action is made, or is there from an earlier dispatch. -/
theorem createOrResolveTriggerRun_holds (h : plan.ToDispatch actionId s)
    (triggerTargetId : String) :
    Holds exec plan.Keeps
      (OrTriedAgain fun runId t => IsRunOf actionId runId t ∧ plan.ToDispatch actionId t)
      (createOrResolveTriggerRun plan.triggerId triggerTargetId actionId).run s := by
  refine statement_holds hexec (fun t hst => ?_) fun t c hst htu => ?_
  · rcases h.mono hst with ⟨action, hmem, hid, _, _⟩
    exact ⟨action, hmem, hid, fun _ => rfl⟩
  · have htoDispatch := (h.mono hst).mono htu
    cases hanswer : ((insertTriggerRun plan.triggerId triggerTargetId actionId).apply c t).2 with
    | inserted runId =>
        rcases isRunOf_of_inserted hanswer with ⟨run, hmem, hrun⟩
        exact fun u htu => ⟨⟨run, htu.triggerRuns hmem, hrun⟩, htoDispatch.mono htu⟩
    | sourceScheduledActionViolation =>
        refine statement_holds hexec (fun _ _ => trivial) fun t c hst _ u htu => ?_
        have hfound : OrTriedAgain (fun runId t => IsRunOf actionId runId t ∧
            plan.ToDispatch actionId t) (checkedTriggerRun actionId
            (findRow TriggerRun.sourceScheduledActionId (some actionId) t.triggerRuns)) u := by
          cases hfind : findRow TriggerRun.sourceScheduledActionId (some actionId)
              t.triggerRuns with
          | none => exact ⟨_, rfl⟩
          | some run =>
              exact ⟨⟨run, htu.triggerRuns (findRow_mem hfind), findRow_key hfind, rfl⟩,
                (htoDispatch.mono hst).mono htu⟩
        exact hfound
    | otherViolation => exact fun u _ => ⟨_, rfl⟩

omit hexec in
/-- The workflow of an action's trigger run was started. -/
theorem handedOff_of_run (hinv : plan.Inv s) (htoDispatch : plan.ToDispatch actionId s)
    {runId : String} (hrun : IsRunOf actionId runId s) (c : DispatchChoice) :
    plan.HandedOff actionId ((runHandleTriggerRun runId).apply c s).1 := by
  rcases hrun with ⟨run, hmem, hsource, hid⟩
  have htrigger : run.triggerId = plan.triggerId := by
    rcases hinv.runs run hmem actionId hsource with ⟨action, haction, haid, htrigger⟩
    rcases htoDispatch with ⟨mine, hmine, hmineId, hschedule, _⟩
    rw [hinv.only haction hmine (haid.trans hmineId.symm)] at htrigger
    exact htrigger hschedule
  have hstarted := findWorkflowRun_runWorkflow HandleTriggerRunWorkflowName
    (.handleTriggerRun runId) runId c.freshId s.workflowRuns
  refine ⟨run, hmem, hsource, htrigger, _, findWorkflowRun_mem hstarted, ?_⟩
  rw [hid]
  exact findWorkflowRun_key hstarted

/-- An action to dispatch is handed off. -/
theorem dispatchTriggerRunScheduledAction_holds (h : plan.ToDispatch actionId s)
    (hnamed : plan.triggerId ≠ "") :
    Holds exec plan.Keeps
      (OrTriedAgain fun _ t => plan.HandedOff actionId t ∧ plan.ToDispatch actionId t)
      (dispatchTriggerRunScheduledAction ⟨actionId, plan.organizationId, plan.scheduleId,
        plan.payload⟩).run s := by
  refine lift_holds (parseTriggerRunTargetPayload_payload hnamed actionId) (bind_holds ?_)
  refine (loadTriggerRunHandoffAggregate_holds hexec h).imp fun loaded t hloaded => ?_
  cases loaded with
  | error e => exact hloaded
  | ok aggregate =>
      rcases hloaded with ⟨htrigger, htoDispatch⟩
      show Holds exec plan.Keeps _ _ t
      rw [htrigger]
      refine bind_holds ((createOrResolveTriggerRun_holds hexec htoDispatch _).imp ?_)
      intro resolved t hresolved
      cases resolved with
      | error e => exact hresolved
      | ok runId =>
          rcases hresolved with ⟨⟨run, hmem, hrun⟩, htoDispatch⟩
          refine statement_holds hexec (fun _ _ => trivial) fun u c htu huv w hvw => ?_
          have htoDispatch := htoDispatch.mono htu
          have hhanded := handedOff_of_run htu.inv htoDispatch ⟨run, htu.triggerRuns hmem, hrun⟩ c
          exact ⟨hhanded.mono hvw.triggerRuns hvw.workflowRuns, htoDispatch.mono (huv.trans hvw)⟩

/-- What was handed off is recorded as dispatched. -/
theorem recordHandoff_holds {claim : ClaimedScheduledAction}
    (hhanded : plan.HandedOff claim.scheduledActionId s)
    (h : plan.ToDispatch claim.scheduledActionId s) (workflowId : Option String) :
    Holds exec plan.Keeps (OrTriedAgain (plan.Answer claim.scheduledActionId))
      (recordHandoff claim (.ok workflowId)).run s := by
  have hmark : Holds exec plan.Keeps
      (OrTriedAgain fun _ t => plan.HandedOff claim.scheduledActionId t)
      (markScheduledActionDispatched claim.scheduledActionId workflowId).run s := by
    refine statement_holds hexec (fun t hst a ha hid _ => ?_) fun t c hst htu u huv => ?_
    · rcases h.mono hst with ⟨mine, hmine, hmineId, _, hstatus⟩
      rw [hst.inv.only ha hmine (hid.trans hmineId.symm)]
      exact ⟨hstatus, hhanded.mono hst.triggerRuns hst.workflowRuns⟩
    · have hsu := (hst.trans htu).trans huv
      have hrecorded : OrTriedAgain (fun _ t => plan.HandedOff claim.scheduledActionId t)
          (assertSingleScheduledActionUpdate
            ((setDispatched claim.scheduledActionId workflowId).apply c t).2
            claim.scheduledActionId) u := by
        unfold assertSingleScheduledActionUpdate
        split
        · exact ⟨_, rfl⟩
        · exact hhanded.mono hsu.triggerRuns hsu.workflowRuns
      exact hrecorded
  refine bind_holds (hmark.imp fun marked t hmarked => ?_)
  cases marked with
  | error e => exact hmarked
  | ok done =>
      exact fun u htu => .inr ⟨rfl, hmarked.mono htu.triggerRuns htu.workflowRuns⟩

theorem handOffClaimedAction_holds {claim : ClaimedScheduledAction} (h : plan.Claims claim s)
    (hnamed : plan.triggerId ≠ "") :
    Holds exec plan.Keeps (OrTriedAgain (plan.Answer claim.scheduledActionId))
      (handOffClaimedAction claim .triggerRun).run s := by
  refine Holds.caught_bind (R := plan.Keeps) (fun a b hab => hab.refl_right)
    (fun a b c => Keeps.trans) ?_
  rw [h.scheduleId, h.organizationId, h.targetPayload]
  refine (dispatchTriggerRunScheduledAction_holds hexec h.toDispatch hnamed).imp ?_
  intro handoff t hhandoff
  cases handoff with
  | error e =>
      rcases hhandoff with ⟨message, he⟩
      rw [he]
      exact fun u _ => ⟨message, rfl⟩
  | ok workflowId => exact recordHandoff_holds hexec hhandoff.1 hhandoff.2 workflowId

/-- The dispatch of an action of the schedule that was claimed. -/
theorem dispatchClaimedAction_holds {claim : ClaimedScheduledAction} (h : plan.Claims claim s)
    (hnamed : plan.triggerId ≠ "") :
    Holds exec plan.Keeps (OrTriedAgain (plan.Answer claim.scheduledActionId))
      (dispatchClaimedAction claim).run s := by
  have htype : parseScheduleTargetType claim.targetType = some .triggerRun := by
    rw [h.targetType]
    rfl
  rw [dispatchClaimedAction, htype]
  by_cases hstarted : claim.targetWorkflowStartedAt.isSome = true
  · rw [if_pos hstarted]
    exact recordHandoff_holds hexec (h.started hstarted) h.toDispatch _
  · rw [if_neg hstarted]
    exact handOffClaimedAction_holds hexec h hnamed

/-- The action with an id is of another schedule. -/
def Foreign (plan : TriggerSchedule) (actionId : String) (s : ControlPlane) : Prop :=
  plan.Inv s ∧ ∃ action ∈ s.scheduledActions, action.id = actionId ∧
    action.scheduleId ≠ plan.scheduleId

omit hexec in
theorem Foreign.mono (h : plan.Foreign actionId s) (hst : plan.Keeps s t) :
    plan.Foreign actionId t := by
  rcases h with ⟨_, action, hmem, hid, hother⟩
  rcases hst.actions action hmem with ⟨after, hafter, hid', hschedule, _⟩
  exact ⟨hst.inv, after, hafter, hid'.trans hid, hschedule.trans_ne hother⟩

omit hexec in
theorem Foreign.other (h : plan.Foreign actionId s) {action : ScheduledAction}
    (hmem : action ∈ s.scheduledActions) (hid : action.id = actionId) :
    action.scheduleId ≠ plan.scheduleId := by
  rcases h with ⟨hinv, found, hfound, hfoundId, hother⟩
  rw [hinv.only hmem hfound (hid.trans hfoundId.symm)]
  exact hother

omit hexec in
/-- The dispatch of an action of another schedule writes none of this one's. -/
theorem Foreign.justified (h : plan.Foreign actionId s) {op : DispatchOp}
    (hop : op.WritesFor actionId) : plan.Justified s op := by
  cases op with
  | setDispatched id workflowId =>
      exact fun a ha hid hmine => absurd hmine (h.other ha (hid.trans hop))
  | setFailed id code message => exact fun a ha hid => h.other ha (hid.trans hop)
  | insertTriggerRun triggerId targetId id =>
      rcases h.2 with ⟨action, hmem, hid, hother⟩
      exact ⟨action, hmem, hid.trans hop.symm, fun hmine => absurd hmine hother⟩
  | _ => trivial

theorem Foreign.dispatchClaimedAction_holds {claim : ClaimedScheduledAction}
    (h : plan.Foreign claim.scheduledActionId s) :
    Holds exec plan.Keeps (fun _ t => plan.Foreign claim.scheduledActionId t)
      (dispatchClaimedAction claim).run s :=
  Holds.of_every (fun _ _ h hab => h.mono hab)
    (fun _ ho _ _ _ h hperform => perform_keeps hexec h.1 (h.justified ho) hperform)
    (dispatchClaimedAction_writes claim) h

omit hexec in
theorem resolveUnclaimedScheduledAction_ne_claimed (id : String) (actions : List ScheduledAction)
    (claim : ClaimedScheduledAction) : resolveUnclaimedScheduledAction id actions ≠ .claimed claim := by
  unfold resolveUnclaimedScheduledAction
  split
  · simp only [ne_eq, reduceCtorEq, not_false_eq_true]
  · split <;> simp only [ne_eq, reduceCtorEq, not_false_eq_true]

/-- A dispatch in company. -/
theorem dispatch_holds (input : DispatchScheduledActionInput) (s : ControlPlane) :
    Holds exec plan.Keeps (plan.Answers input) (dispatchScheduledAction input).run s := by
  refine query_holds hexec (fun message _ _ => ⟨message, rfl⟩) (fun _ _ => trivial)
    fun t c hst htu => ?_
  simp only [DispatchOp.apply, claimScheduledActionForDispatch] at htu ⊢
  cases hfind : t.scheduledActions.find? fun action => decide (Claimable input action) with
  | none =>
      -- The action is another worker's, or has its result.
      cases hanswer : resolveUnclaimedScheduledAction input.scheduledActionId
          t.scheduledActions with
      | claimed claim => exact absurd hanswer (resolveUnclaimedScheduledAction_ne_claimed _ _ _)
      | _ => exact fun _ _ _ => .inl rfl
  | some candidate =>
      rw [hfind] at htu
      have hmem := List.mem_of_find?_eq_some hfind
      have hclaimable := List.find?_some hfind
      have hclaimable : Claimable input candidate := of_decide_eq_true hclaimable
      rw [← hclaimable.1] at htu ⊢
      by_cases hmine : candidate.scheduleId = plan.scheduleId
      · have hsound := hst.inv.actions candidate hmem hmine
        have htoDispatch : plan.ToDispatch candidate.id t :=
          ⟨candidate, hmem, rfl, hmine, status_of_claimable hclaimable⟩
        have hdispatch := fun claim u (h : plan.Claims claim u) =>
          dispatchClaimedAction_holds hexec h hst.inv.present.named
        refine (hdispatch _ _ ?_).imp ?_
        · exact {
            scheduleId := hmine
            organizationId := hsound.organizationId
            targetType := hsound.targetType
            targetPayload := hsound.targetPayload
            started := fun hstarted =>
              (hsound.started hstarted).mono htu.triggerRuns htu.workflowRuns
            toDispatch := htoDispatch.mono htu }
        · intro outcome u houtcome _
          rw [← hclaimable.1]
          exact houtcome
      · have hforeign : plan.Foreign candidate.id t := ⟨hst.inv, candidate, hmem, rfl, hmine⟩
        have hdispatch := fun (claim : ClaimedScheduledAction) u
          (h : plan.Foreign claim.scheduledActionId u) => h.dispatchClaimedAction_holds hexec
        refine (hdispatch _ _ (hforeign.mono htu)).imp fun outcome u houtcome => ?_
        rintro ⟨action, haction, hid, hschedule⟩
        exact absurd hschedule (houtcome.other haction (hid.trans hclaimable.1.symm))

end

end TriggerSchedule

end Mistle
