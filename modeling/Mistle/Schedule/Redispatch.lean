import Mistle.Lib.Rows
import Mistle.Lib.Run
import Mistle.Schedule.ChildBatches

/-!
# Recovered Actions and their Batch Runs

The key of a batch is made from the ids in it alone, and the engine starts one run for a
key. So the recovery of actions whose batch is the batch of an earlier recovery is
answered with the earlier run, whatever has become of it: the actions are dispatched
again only if that run has not begun yet.

## Main definitions

* `BatchInput`, `BatchSystem.step`: The batch runs of any number of calls, step by step.
* `BatchSystem.Inv`: What holds between any two steps.
* `DispatchesLater`: A run begins after a state, and dispatches an action.
* `Redispatches`: A call causes such a run.
* `BatchEnv.TellsApart`: Keys belong to one batch.

## Theorems

* `BatchSystem.step_find_some`, `BatchSystem.step_find_none`: What a step does to the run under a
  key.
* `BatchSystem.Inv.of_run`: The invariant holds in every run.
* `dispatchesLater_iff`: A run dispatches later if it has not begun.
* `redispatches_iff`: When a call redispatches what it recovers.
* `never_redispatched`: What becomes of a batch whose run has begun.
-/

namespace Mistle

/-! ### Batch runs -/

inductive BatchInput where
  /-- A call asks for the run of one of its batches. -/
  | asks (childBatch : List String)
  /-- Dispatches, schedules and users write the actions. -/
  | writes (scheduledActions : List ScheduledAction)
  | begins (idempotencyKey : String)
  | dispatches (idempotencyKey scheduledActionId : String)
  | completes (idempotencyKey : String)
  | fails (idempotencyKey : String)

namespace BatchSystem

/-- Before any call. -/
def start (scheduledActions : List ScheduledAction) : BatchSystem := ⟨scheduledActions, [], []⟩

/-- The batch run under a key. -/
def find (s : BatchSystem) (key : String) : Option (WorkflowRun (List String)) :=
  findWorkflowRun ScheduleDispatchBatchWorkflowName key s.batchRuns

def setStatus (s : BatchSystem) (key : String) (status : WorkflowRunStatus) : BatchSystem :=
  { s with
    batchRuns := setWorkflowRunStatus ScheduleDispatchBatchWorkflowName key status s.batchRuns }

/-- The slice that a run is at: its actions are dispatched side by side, and the next slice
    waits for all of them. -/
def nextSlice (s : BatchSystem) (key : String) (scheduledActionIds : List String) :
    Option (List String) :=
  (slices ScheduleDispatchChildConcurrency (sortTexts scheduledActionIds)).find? fun slice =>
    slice.any fun id => decide (⟨key, id⟩ ∉ s.dispatches)

def step (env : BatchEnv) (s : BatchSystem) : BatchInput → Option (BatchSystem × List BatchDispatch)
  | .asks childBatch =>
    match startChildBatch env s childBatch with
    | .ok t => some (t, [])
    | .error _ => none
  | .writes scheduledActions => some ({ s with scheduledActions }, [])
  | .begins key =>
    (s.find key).bind fun run =>
      if run.status = .pending then some (s.setStatus key .running, []) else none
  | .dispatches key id =>
    (s.find key).bind fun run =>
      if run.status = .running ∧ id ∈ (s.nextSlice key run.input).getD [] ∧
          ⟨key, id⟩ ∉ s.dispatches then
        some ({ s with dispatches := s.dispatches ++ [⟨key, id⟩] }, [⟨key, id⟩])
      else none
  | .completes key =>
    (s.find key).bind fun run =>
      if run.status = .running ∧ s.nextSlice key run.input = none then
        some (s.setStatus key .completed, [])
      else none
  | .fails key =>
    (s.find key).bind fun run =>
      if run.status = .running then some (s.setStatus key .failed, []) else none

/-- The steps of the system, as runs take them. -/
def Steps (env : BatchEnv) (s : BatchSystem) (i : BatchInput) (out : List BatchDispatch)
    (t : BatchSystem) : Prop :=
  s.step env i = some (t, out)

/-- The run under a key has dispatched all its actions. -/
def Completed (s : BatchSystem) (key : String) : Prop :=
  ∃ run, s.find key = some run ∧ run.status = .completed

variable {env : BatchEnv} {s t : BatchSystem} {i : BatchInput} {out : List BatchDispatch}
  {key : String} {run : WorkflowRun (List String)}

theorem find_setStatus_self {status : WorkflowRunStatus} (h : s.find key = some run) :
    (s.setStatus key status).find key = some { run with status } := by
  have hkey := findWorkflowRun_key h
  unfold find setStatus at *
  rw [findWorkflowRun_setStatus, h, Option.map_some, if_pos hkey]

theorem find_setStatus_other {other : String} (hne : key ≠ other) (status : WorkflowRunStatus) :
    (s.setStatus other status).find key = s.find key := by
  unfold find setStatus
  rw [findWorkflowRun_setStatus]
  cases hfind : findWorkflowRun ScheduleDispatchBatchWorkflowName key s.batchRuns with
  | none => rfl
  | some run =>
      have hkey := findWorkflowRun_key hfind
      rw [Option.map_some, if_neg]
      exact fun h => hne (hkey.2.symm.trans h.2)

/-- Nothing is left of a run that has no slice to do. -/
theorem dispatched_of_nextSlice {ids : List String} (h : s.nextSlice key ids = none) {id : String}
    (hid : id ∈ ids) : ⟨key, id⟩ ∈ s.dispatches := by
  have hsize : 0 < ScheduleDispatchChildConcurrency := by decide
  rcases (mem_iff_mem_slice hsize).mp (mem_sortTexts.mpr hid) with ⟨slice, hslice, hid⟩
  have hnone := List.find?_eq_none.mp h slice hslice
  rw [List.any_eq_true, not_exists] at hnone
  by_contra hnot
  exact hnone id ⟨hid, decide_eq_true hnot⟩

theorem mem_of_nextSlice {ids slice : List String} (h : s.nextSlice key ids = some slice)
    {id : String} (hid : id ∈ slice) : id ∈ ids := by
  have hmem := List.mem_of_find?_eq_some h
  exact mem_sortTexts.mp ((mem_iff_mem_slice (by decide)).mpr ⟨slice, hmem, hid⟩)

theorem exists_of_nextSlice {ids slice : List String} (h : s.nextSlice key ids = some slice) :
    ∃ id ∈ slice, ⟨key, id⟩ ∉ s.dispatches := by
  have hany := List.find?_some h
  rcases List.any_eq_true.mp hany with ⟨id, hid, hnot⟩
  exact ⟨id, hid, of_decide_eq_true hnot⟩

/-! ### What a step does -/

/-- What becomes of a run, and the step that it becomes so in. -/
inductive Moves (s : BatchSystem) (key : String) (run : WorkflowRun (List String)) :
    BatchInput → WorkflowRunStatus → Prop
  | begins (h : run.status = .pending) : Moves s key run (.begins key) .running
  | completes (h : run.status = .running) (hall : ∀ id ∈ run.input, ⟨key, id⟩ ∈ s.dispatches) :
      Moves s key run (.completes key) .completed
  | fails (h : run.status = .running) : Moves s key run (.fails key) .failed

inductive Transition (env : BatchEnv) (s : BatchSystem) :
    BatchInput → List BatchDispatch → BatchSystem → Prop
  | asks {childBatch : List String} {t : BatchSystem}
      (h : startChildBatch env s childBatch = .ok t) : Transition env s (.asks childBatch) [] t
  | writes (scheduledActions : List ScheduledAction) :
      Transition env s (.writes scheduledActions) [] { s with scheduledActions }
  | moves {key : String} {run : WorkflowRun (List String)} {i : BatchInput}
      {status : WorkflowRunStatus} (hfind : s.find key = some run) (h : Moves s key run i status) :
      Transition env s i [] (s.setStatus key status)
  | dispatches {key id : String} {run : WorkflowRun (List String)} (hfind : s.find key = some run)
      (hrunning : run.status = .running) (hid : id ∈ run.input) :
      Transition env s (.dispatches key id) [⟨key, id⟩]
        { s with dispatches := s.dispatches ++ [⟨key, id⟩] }

theorem step_cases (h : s.Steps env i out t) : Transition env s i out t := by
  unfold Steps at h
  cases i with
  | asks childBatch =>
      rw [step] at h
      cases hstart : startChildBatch env s childBatch with
      | error e =>
          rw [hstart] at h
          exact absurd h (by simp only [reduceCtorEq, not_false_eq_true])
      | ok u =>
          rw [hstart, Option.some.injEq, Prod.mk.injEq] at h
          rw [← h.1, ← h.2]
          exact .asks hstart
  | writes scheduledActions =>
      rw [step, Option.some.injEq, Prod.mk.injEq] at h
      rw [← h.1, ← h.2]
      exact .writes scheduledActions
  | begins key =>
      rcases Option.bind_eq_some_iff.mp h with ⟨run, hfind, h⟩
      rw [Option.ite_none_right_eq_some, Option.some.injEq, Prod.mk.injEq] at h
      rw [← h.2.1, ← h.2.2]
      exact .moves hfind (.begins h.1)
  | dispatches key id =>
      rcases Option.bind_eq_some_iff.mp h with ⟨run, hfind, h⟩
      rw [Option.ite_none_right_eq_some, Option.some.injEq, Prod.mk.injEq] at h
      rcases h with ⟨⟨hrunning, hslice, _⟩, ht, hout⟩
      rw [← ht, ← hout]
      refine .dispatches hfind hrunning ?_
      cases hnext : s.nextSlice key run.input with
      | none =>
          rw [hnext] at hslice
          exact absurd hslice List.not_mem_nil
      | some slice =>
          rw [hnext] at hslice
          exact mem_of_nextSlice hnext hslice
  | completes key =>
      rcases Option.bind_eq_some_iff.mp h with ⟨run, hfind, h⟩
      rw [Option.ite_none_right_eq_some, Option.some.injEq, Prod.mk.injEq] at h
      rw [← h.2.1, ← h.2.2]
      exact .moves hfind (.completes h.1.1 fun id hid => dispatched_of_nextSlice h.1.2 hid)
  | fails key =>
      rcases Option.bind_eq_some_iff.mp h with ⟨run, hfind, h⟩
      rw [Option.ite_none_right_eq_some, Option.some.injEq, Prod.mk.injEq] at h
      rw [← h.2.1, ← h.2.2]
      exact .moves hfind (.fails h.1)

/-- Asking for a batch leaves the runs that are there, and makes one where there is none. -/
theorem startChildBatch_ok {childBatch : List String}
    (h : startChildBatch env s childBatch = .ok t) :
    ∃ key, createScheduleDispatchBatchIdempotencyKey env.sha256 childBatch = .ok key ∧
      t = { s with batchRuns := t.batchRuns } ∧
      ((∃ run, s.find key = some run ∧ t.batchRuns = s.batchRuns) ∨
        (s.find key = none ∧ t.batchRuns = s.batchRuns ++ [⟨env.newRunId s.batchRuns,
          ScheduleDispatchBatchWorkflowName, key, childBatch, .pending⟩])) := by
  rcases Fallible.bind_ok_iff.mp h with ⟨key, hkey, ht⟩
  have hok := Except.ok.inj ht
  refine ⟨key, hkey, by rw [← hok], ?_⟩
  rw [← hok]
  cases hfind : s.find key with
  | some run => exact .inl ⟨run, rfl, congrArg Prod.fst (runWorkflow_of_find hfind)⟩
  | none => exact .inr ⟨rfl, congrArg Prod.fst (runWorkflow_of_none hfind)⟩

theorem find_of_append {new : WorkflowRun (List String)}
    (hruns : t.batchRuns = s.batchRuns ++ [new])
    (hnew : new.workflowName = ScheduleDispatchBatchWorkflowName) (key : String) :
    t.find key = (s.find key).or (if new.idempotencyKey = key then some new else none) := by
  unfold find findWorkflowRun
  rw [hruns, List.find?_append, List.find?_singleton]
  simp only [hnew, true_and, decide_eq_true_eq]

/-- What is found after batches were asked for: the runs that were there, and for the batches
    that had none a pending run. -/
structure Asked (env : BatchEnv) (childBatches : List (List String)) (s t : BatchSystem) :
    Prop where
  kept : ∀ key run, s.find key = some run → t.find key = some run
  made : ∀ key run, s.find key = none → t.find key = some run → run.status = .pending ∧
    run.input ∈ childBatches ∧
    createScheduleDispatchBatchIdempotencyKey env.sha256 run.input = .ok key
  found : ∀ childBatch ∈ childBatches, ∀ key,
    createScheduleDispatchBatchIdempotencyKey env.sha256 childBatch = .ok key →
      ∃ run, t.find key = some run

theorem Asked.of_startChildBatch {childBatch : List String}
    (h : startChildBatch env s childBatch = .ok t) : Asked env [childBatch] s t := by
  rcases startChildBatch_ok h with ⟨asked, hasked, _, ⟨run, hfind, hruns⟩ | ⟨hnone, hruns⟩⟩
  · have hsame : ∀ key, t.find key = s.find key := fun key => by rw [find, find, hruns]
    refine ⟨fun key _ hsome => (hsame key).trans hsome, fun key _ hnone hsome => ?_, ?_⟩
    · rw [hsame key, hnone] at hsome
      exact absurd hsome (by simp only [reduceCtorEq, not_false_eq_true])
    · intro b hb key hkey
      rw [List.mem_singleton.mp hb, hasked, Except.ok.injEq] at hkey
      exact ⟨run, by rw [hsame, ← hkey, hfind]⟩
  · have hafter := find_of_append hruns rfl
    refine ⟨fun key _ hsome => by rw [hafter, hsome, Option.some_or], ?_, ?_⟩
    · intro key run hnone' hsome
      rw [hafter, hnone', Option.none_or, Option.ite_none_right_eq_some] at hsome
      rw [← hsome.1, ← Option.some.inj hsome.2]
      exact ⟨rfl, List.mem_singleton_self _, hasked⟩
    · intro b hb key hkey
      rw [List.mem_singleton.mp hb, hasked, Except.ok.injEq] at hkey
      exact ⟨_, by rw [hafter, ← hkey, hnone, Option.none_or, if_pos rfl]⟩

theorem Asked.trans {u : BatchSystem} {a b : List (List String)} (hst : Asked env a s t)
    (htu : Asked env b t u) : Asked env (a ++ b) s u where
  kept key run h := htu.kept key run (hst.kept key run h)
  made key run hnone hsome := by
    cases hfind : t.find key with
    | none =>
        rcases htu.made key run hfind hsome with ⟨hpending, hmem, hkey⟩
        exact ⟨hpending, List.mem_append_right _ hmem, hkey⟩
    | some run' =>
        rcases hst.made key run' hnone hfind with ⟨hpending, hmem, hkey⟩
        rw [htu.kept key run' hfind, Option.some.injEq] at hsome
        rw [← hsome]
        exact ⟨hpending, List.mem_append_left _ hmem, hkey⟩
  found childBatch hmem key hkey := by
    rcases List.mem_append.mp hmem with ha | hb
    · rcases hst.found childBatch ha key hkey with ⟨run, hrun⟩
      exact ⟨run, htu.kept key run hrun⟩
    · exact htu.found childBatch hb key hkey

/-- A run that is there stays under its key, with what it was asked for. -/
theorem step_find_some (h : s.Steps env i out t) (hfind : s.find key = some run) :
    ∃ status, t.find key = some { run with status } ∧
      ((status = run.status ∧ i ≠ .begins key) ∨ Moves s key run i status) := by
  cases step_cases h with
  | asks hstart =>
      exact ⟨run.status, (Asked.of_startChildBatch hstart).kept key run hfind,
        .inl ⟨rfl, BatchInput.noConfusion⟩⟩
  | writes | dispatches => exact ⟨run.status, hfind, .inl ⟨rfl, BatchInput.noConfusion⟩⟩
  | @moves other moved _ status hmoved hmove =>
      by_cases hkey : key = other
      · rw [← hkey] at hmoved hmove ⊢
        rw [hfind, Option.some.injEq] at hmoved
        rw [← hmoved] at hmove
        exact ⟨status, find_setStatus_self hfind, .inr hmove⟩
      · refine ⟨run.status, (find_setStatus_other hkey status).trans hfind, .inl ⟨rfl, ?_⟩⟩
        intro hi
        rw [hi] at hmove
        cases hmove with
        | begins => exact hkey rfl

/-- A run that is not there comes only when its batch is asked for. -/
theorem step_find_none (h : s.Steps env i out t) (hfind : s.find key = none)
    (hrun : t.find key = some run) :
    createScheduleDispatchBatchIdempotencyKey env.sha256 run.input = .ok key ∧
      run.status = .pending := by
  cases step_cases h with
  | asks hstart =>
      rcases (Asked.of_startChildBatch hstart).made key run hfind hrun with
        ⟨hpending, _, hkey⟩
      exact ⟨hkey, hpending⟩
  | writes scheduledActions =>
      exact absurd (hfind.symm.trans hrun) (by simp only [reduceCtorEq, not_false_eq_true])
  | @moves other moved _ status hmoved hmove =>
      have hne : key ≠ other := by
        intro hkey
        rw [← hkey, hfind] at hmoved
        exact absurd hmoved (by simp only [reduceCtorEq, not_false_eq_true])
      rw [find_setStatus_other hne, hfind] at hrun
      exact absurd hrun (by simp only [reduceCtorEq, not_false_eq_true])
  | dispatches =>
      exact absurd (hfind.symm.trans hrun) (by simp only [reduceCtorEq, not_false_eq_true])

/-- What a step dispatches is noted, and is part of a run that has begun. -/
theorem step_dispatches (h : s.Steps env i out t) :
    t.dispatches = s.dispatches ++ out ∧
      ∀ d ∈ out, ∃ run, s.find d.idempotencyKey = some run ∧ run.status = .running ∧
        d.scheduledActionId ∈ run.input := by
  cases step_cases h with
  | asks hstart =>
      rcases startChildBatch_ok hstart with ⟨_, _, ht, _⟩
      rw [ht, List.append_nil]
      exact ⟨rfl, fun d hd => absurd hd List.not_mem_nil⟩
  | writes | moves =>
      rw [List.append_nil]
      exact ⟨rfl, fun d hd => absurd hd List.not_mem_nil⟩
  | dispatches hfind hrunning hid =>
      refine ⟨rfl, fun d hd => ?_⟩
      rw [List.mem_singleton.mp hd]
      exact ⟨_, hfind, hrunning, hid⟩

/-! ### The invariant -/

/-- What holds between any two steps. -/
structure Inv (env : BatchEnv) (s : BatchSystem) : Prop where
  /-- A run is found under its key, which is the key of what it was asked for. -/
  keyed : ∀ run ∈ s.batchRuns, s.find run.idempotencyKey = some run ∧
    createScheduleDispatchBatchIdempotencyKey env.sha256 run.input = .ok run.idempotencyKey
  /-- What was dispatched is part of a run that has begun. -/
  dispatched : ∀ d ∈ s.dispatches, ∃ run, s.find d.idempotencyKey = some run ∧
    d.scheduledActionId ∈ run.input ∧ run.status ≠ .pending
  /-- A completed run has dispatched everything. -/
  completed : ∀ key run, s.find key = some run → run.status = .completed →
    ∀ id ∈ run.input, ⟨key, id⟩ ∈ s.dispatches

theorem find_mem (h : s.find key = some run) : run ∈ s.batchRuns := findWorkflowRun_mem h

theorem find_key (h : s.find key = some run) : run.idempotencyKey = key := (findWorkflowRun_key h).2

theorem Inv.start (env : BatchEnv) (scheduledActions : List ScheduledAction) :
    Inv env (start scheduledActions) where
  keyed _ h := absurd h List.not_mem_nil
  dispatched _ h := absurd h List.not_mem_nil
  completed _ _ h := absurd h (by
    simp only [find, BatchSystem.start, findWorkflowRun, List.find?_nil, reduceCtorEq,
      not_false_eq_true])

theorem Moves.ne_pending {status : WorkflowRunStatus} (h : Moves s key run i status) :
    status ≠ .pending := by
  cases h <;> simp only [ne_eq, reduceCtorEq, not_false_eq_true]

/-- The keys of the runs after a step. -/
theorem Inv.step_keyed (hinv : Inv env s) (h : s.Steps env i out t)
    {new : WorkflowRun (List String)} (hnew : new ∈ t.batchRuns) :
    t.find new.idempotencyKey = some new ∧
      createScheduleDispatchBatchIdempotencyKey env.sha256 new.input = .ok new.idempotencyKey := by
  cases step_cases h with
  | asks hstart =>
      rcases startChildBatch_ok hstart with ⟨asked, hasked, _, ⟨_, _, hruns⟩ | ⟨hnone, hruns⟩⟩
      · rw [hruns] at hnew
        rw [find, hruns]
        exact hinv.keyed new hnew
      · rw [find_of_append hruns rfl]
        rw [hruns] at hnew
        rcases List.mem_append.mp hnew with hold | hlast
        · rw [(hinv.keyed new hold).1, Option.some_or]
          exact ⟨rfl, (hinv.keyed new hold).2⟩
        · rw [List.mem_singleton.mp hlast]
          refine ⟨?_, hasked⟩
          rw [hnone, Option.none_or, if_pos rfl]
  | writes | dispatches => exact hinv.keyed new hnew
  | @moves key run _ status hmoved hmove =>
      rcases List.mem_map.mp hnew with ⟨old, hold, hnew⟩
      have hkeyed := hinv.keyed old hold
      by_cases hkey : old.idempotencyKey = key
      · have hname := (findWorkflowRun_key hkeyed.1).1
        subst hkey
        rw [if_pos ⟨hname, rfl⟩] at hnew
        rw [← hnew]
        exact ⟨find_setStatus_self hkeyed.1, hkeyed.2⟩
      · rw [if_neg fun hboth => hkey hboth.2] at hnew
        rw [← hnew, find_setStatus_other hkey]
        exact hkeyed

theorem Inv.step (hinv : Inv env s) (h : s.Steps env i out t) : Inv env t where
  keyed _ := hinv.step_keyed h
  dispatched d hd := by
    rcases step_dispatches h with ⟨hdispatches, hout⟩
    rw [hdispatches, List.mem_append] at hd
    have hbegun : ∃ run, s.find d.idempotencyKey = some run ∧ d.scheduledActionId ∈ run.input ∧
        run.status ≠ .pending := by
      rcases hd with hold | hnew
      · exact hinv.dispatched d hold
      · rcases hout d hnew with ⟨run, hfind, hrunning, hid⟩
        exact ⟨run, hfind, hid, by rw [hrunning]; exact WorkflowRunStatus.noConfusion⟩
    rcases hbegun with ⟨run, hfind, hid, hne⟩
    rcases step_find_some h hfind with ⟨status, hafter, ⟨hsame, _⟩ | hmove⟩
    · exact ⟨_, hafter, hid, hsame ▸ hne⟩
    · exact ⟨_, hafter, hid, hmove.ne_pending⟩
  completed key run hafter hcompleted id hid := by
    rw [(step_dispatches h).1]
    refine List.mem_append_left _ ?_
    cases hfind : s.find key with
    | none =>
        -- A run that was just asked for is pending.
        rw [(step_find_none h hfind hafter).2] at hcompleted
        exact absurd hcompleted (by simp only [reduceCtorEq, not_false_eq_true])
    | some old =>
        rcases step_find_some h hfind with ⟨status, hsome, ⟨hsame, _⟩ | hmove⟩
        · rw [hsome, Option.some.injEq] at hafter
          rw [← hafter] at hcompleted hid
          exact hinv.completed key old hfind (hsame.symm.trans hcompleted) id hid
        · rw [hsome, Option.some.injEq] at hafter
          rw [← hafter] at hcompleted hid
          cases hmove with
          | completes _ hall => exact hall id hid
          | begins | fails =>
              exact absurd hcompleted (by simp only [reduceCtorEq, not_false_eq_true])

theorem Inv.of_run (hinv : Inv env s) {trace : List (Entry BatchInput BatchDispatch)}
    (run : Run (Steps env) s trace t) : Inv env t :=
  run.invariant hinv fun _ _ _ _ h hstep => h.step hstep

/-! ### Later runs -/

/-- The run under a key begins in a trace. -/
def Begins (key : String) (trace : List (Entry BatchInput BatchDispatch)) : Prop :=
  ∃ entry ∈ trace, entry.input = .begins key

theorem begins_append {a b : List (Entry BatchInput BatchDispatch)} :
    Begins key (a ++ b) ↔ Begins key a ∨ Begins key b := by
  simp only [Begins, List.mem_append, or_and_right, exists_or]

theorem begins_singleton : Begins key [(⟨i, out⟩ : Entry BatchInput BatchDispatch)] ↔
    i = .begins key := by
  simp only [Begins, List.mem_singleton, exists_eq_left]

/-- What becomes of a run along a trace: it stays under its key with what it was asked for,
    and it begins once, if it had not. -/
theorem run_find {trace : List (Entry BatchInput BatchDispatch)} (h : Run (Steps env) s trace t)
    (hfind : s.find key = some run) :
    ∃ status, t.find key = some { run with status } ∧
      (status = .pending ↔ run.status = .pending ∧ ¬ Begins key trace) ∧
      (run.status ≠ .pending → ¬ Begins key trace) := by
  have hnil : ¬ Begins key [] := by
    rintro ⟨entry, hentry, _⟩
    exact List.not_mem_nil hentry
  refine h.history (P := fun trace t => ∃ status, t.find key = some { run with status } ∧
      (status = .pending ↔ run.status = .pending ∧ ¬ Begins key trace) ∧
      (run.status ≠ .pending → ¬ Begins key trace))
    ⟨run.status, hfind, by rw [and_iff_left hnil], fun _ => hnil⟩ ?_
  rintro trace a i out b _ ⟨status, ha, hpending, hbegun⟩ hstep
  rw [begins_append, begins_singleton, not_or]
  rcases step_find_some hstep ha with ⟨status', hb, ⟨hsame, hi⟩ | hmove⟩
  · refine ⟨status', hb, ?_, fun hne => ⟨hbegun hne, hi⟩⟩
    rw [hsame, and_iff_left hi]
    exact hpending
  · refine ⟨status', hb, ⟨fun h => absurd h hmove.ne_pending, ?_⟩, fun hne => ⟨hbegun hne, ?_⟩⟩
    · -- Nothing but beginning moves a pending run.
      rintro ⟨hrun, htrace, hi⟩
      have hstatus := hpending.mpr ⟨hrun, htrace⟩
      cases hmove with
      | begins => exact absurd rfl hi
      | completes hrunning | fails hrunning =>
          exact absurd (hstatus.symm.trans hrunning) WorkflowRunStatus.noConfusion
    · intro hi
      rw [hi] at hmove
      cases hmove with
      | begins h => exact hne (hpending.mp h).1

theorem run_dispatches {trace : List (Entry BatchInput BatchDispatch)}
    (h : Run (Steps env) s trace t) : t.dispatches = s.dispatches ++ outputs trace := by
  refine h.history (P := fun trace t => t.dispatches = s.dispatches ++ outputs trace)
    (List.append_nil _).symm fun trace a i out b _ ha hstep => ?_
  rw [(step_dispatches hstep).1, ha, outputs_append, outputs_singleton, List.append_assoc]

/-- The actions that a run has still to dispatch. -/
def undone (s : BatchSystem) (key : String) (scheduledActionIds : List String) : List String :=
  scheduledActionIds.filter fun id => decide (⟨key, id⟩ ∉ s.dispatches)

theorem undone_lt {id : String} {ids : List String} (hid : id ∈ ids)
    (hnot : ⟨key, id⟩ ∉ s.dispatches) :
    (undone { s with dispatches := s.dispatches ++ [⟨key, id⟩] } key ids).length <
      (s.undone key ids).length := by
  have hsub : undone { s with dispatches := s.dispatches ++ [⟨key, id⟩] } key ids =
      (s.undone key ids).filter fun other => decide (other ≠ id) := by
    rw [undone, undone, List.filter_filter]
    refine List.filter_congr fun other _ => ?_
    rw [← Bool.decide_and, decide_eq_decide, List.mem_append, List.mem_singleton, not_or, and_comm]
    exact and_congr_left' (not_congr (by simp only [BatchDispatch.mk.injEq, true_and]))
  rw [hsub]
  refine List.length_filter_lt_length_iff_exists.mpr ⟨id, ?_, ?_⟩
  · exact List.mem_filter.mpr ⟨hid, decide_eq_true hnot⟩
  · simp only [ne_eq, not_true_eq_false, decide_false, Bool.false_eq_true, not_false_eq_true]

/-- A run that has begun can go on to its end. -/
theorem exists_completed_of_running (env : BatchEnv) (hrunning : run.status = .running) (n : Nat) :
    ∀ {s : BatchSystem}, s.find key = some run → (s.undone key run.input).length < n →
      ∃ trace t, Run (Steps env) s trace t ∧ t.Completed key := by
  induction n with
  | zero =>
      intro s _ hlt
      exact absurd hlt (Nat.not_lt_zero _)
  | succ n ih =>
      intro s hfind hlt
      cases hnext : s.nextSlice key run.input with
      | none =>
          have hstep : s.Steps env (.completes key) [] (s.setStatus key .completed) := by
            rw [Steps, step, hfind, Option.bind_some, if_pos ⟨hrunning, hnext⟩]
          exact ⟨_, _, .single hstep, _, find_setStatus_self hfind, rfl⟩
      | some slice =>
          rcases exists_of_nextSlice hnext with ⟨id, hid, hnot⟩
          have hstep : s.Steps env (.dispatches key id) [⟨key, id⟩]
              { s with dispatches := s.dispatches ++ [⟨key, id⟩] } := by
            rw [Steps, step, hfind, Option.bind_some, hnext, if_pos ⟨hrunning, hid, hnot⟩]
          have hless := undone_lt (mem_of_nextSlice hnext hid) hnot
          rcases ih (s := { s with dispatches := s.dispatches ++ [⟨key, id⟩] }) hfind
            (Nat.lt_of_lt_of_le hless (Nat.le_of_lt_succ hlt)) with ⟨trace, t, hrun, hcompleted⟩
          exact ⟨_, t, (Run.single hstep).trans hrun, hcompleted⟩

theorem exists_completed_of_pending (env : BatchEnv) (hfind : s.find key = some run)
    (hpending : run.status = .pending) :
    ∃ trace t, Run (Steps env) s trace t ∧ t.Completed key := by
  have hstep : s.Steps env (.begins key) [] (s.setStatus key .running) := by
    rw [Steps, step, hfind, Option.bind_some, if_pos hpending]
  have hrunning : (s.setStatus key .running).find key = some { run with status := .running } :=
    find_setStatus_self hfind
  rcases exists_completed_of_running env rfl _ hrunning (Nat.lt_succ_self _) with
    ⟨trace, t, hrun, hcompleted⟩
  exact ⟨_, t, (Run.single hstep).trans hrun, hcompleted⟩

end BatchSystem

/-! ### Redispatching -/

open BatchSystem

/-- The run under a key can complete after a state, and where it does it begins after that
    state, and dispatches an action. -/
structure DispatchesLater (env : BatchEnv) (s : BatchSystem) (key id : String) : Prop where
  completes : ∃ trace t, Run (Steps env) s trace t ∧ t.Completed key
  dispatches : ∀ trace t, Run (Steps env) s trace t → t.Completed key →
    Begins key trace ∧ ⟨key, id⟩ ∈ outputs trace

/-- A call asks for a batch run that begins after it and dispatches an action. -/
def Redispatches (env : BatchEnv) (input : StartScheduleDispatchChildBatchesInput)
    (s : BatchSystem) (id : String) : Prop :=
  ∃ result t childBatches, startScheduleDispatchChildBatches env input s = .ok (result, t) ∧
    partitionScheduledActionIds result.scheduledActionIds ScheduleDispatchChildBatchSize =
      .ok childBatches ∧
    ∃ childBatch ∈ childBatches, ∃ key,
      createScheduleDispatchBatchIdempotencyKey env.sha256 childBatch = .ok key ∧
        DispatchesLater env t key id

variable {env : BatchEnv} {input : StartScheduleDispatchChildBatchesInput} {s t : BatchSystem}
  {key : String} {run : WorkflowRun (List String)}

/-- A run dispatches later what it was asked for, if it has not begun. -/
theorem dispatchesLater_iff (hinv : Inv env s) (hfind : s.find key = some run) (id : String) :
    DispatchesLater env s key id ↔ run.status = .pending ∧ id ∈ run.input := by
  constructor
  · rintro ⟨⟨trace, t, hrun, hcompleted⟩, hall⟩
    rcases hall trace t hrun hcompleted with ⟨hbegins, hdispatched⟩
    refine ⟨?_, ?_⟩
    · by_contra hne
      rcases run_find hrun hfind with ⟨_, _, _, hnot⟩
      exact hnot hne hbegins
    · -- What a run dispatches is in what it was asked for.
      have hmem : ⟨key, id⟩ ∈ t.dispatches := by
        rw [run_dispatches hrun]
        exact List.mem_append_right _ hdispatched
      rcases (hinv.of_run hrun).dispatched _ hmem with ⟨run', hfind', hid, _⟩
      rcases run_find hrun hfind with ⟨_, hafter, _⟩
      rw [hafter, Option.some.injEq] at hfind'
      rw [← hfind'] at hid
      exact hid
  · rintro ⟨hpending, hid⟩
    refine ⟨exists_completed_of_pending env hfind hpending, fun trace t hrun hcompleted => ?_⟩
    rcases hcompleted with ⟨run', hfind', hstatus⟩
    rcases run_find hrun hfind with ⟨status, hafter, hiff, _⟩
    rw [hafter, Option.some.injEq] at hfind'
    rw [← hfind'] at hstatus
    refine ⟨?_, ?_⟩
    · by_contra hnot
      exact absurd (hstatus.symm.trans (hiff.mpr ⟨hpending, hnot⟩)) WorkflowRunStatus.noConfusion
    · have hdone := (hinv.of_run hrun).completed key _ hafter hstatus id hid
      rw [run_dispatches hrun, List.mem_append] at hdone
      rcases hdone with hbefore | hlater
      · -- A run that has not begun has dispatched nothing.
        rcases hinv.dispatched _ hbefore with ⟨old, hold, _, hne⟩
        rw [hfind, Option.some.injEq] at hold
        exact absurd (hold ▸ hpending) hne
      · exact hlater

/-! ### What a call asks for -/

/-- Asking for batches that hold an id each goes through, and is steps of the system. -/
theorem exists_asked (env : BatchEnv) {childBatches : List (List String)} (h : ∀ b ∈ childBatches, b ≠ []) :
    ∀ s : BatchSystem, ∃ t, childBatches.foldlM (startChildBatch env) s = .ok t ∧
      Asked env childBatches s t ∧ ∃ trace, Run (Steps env) s trace t := by
  induction childBatches with
  | nil =>
      intro s
      refine ⟨s, List.foldlM_nil .., ⟨fun _ _ h => h, fun key run hnone hsome => ?_, ?_⟩, [], .nil⟩
      · exact absurd (hnone.symm.trans hsome) (by simp only [reduceCtorEq, not_false_eq_true])
      · exact fun _ hmem => absurd hmem List.not_mem_nil
  | cons childBatch childBatches ih =>
      intro s
      rcases exists_createScheduleDispatchBatchIdempotencyKey env.sha256
        (h childBatch (List.mem_cons_self ..)) with ⟨key, hkey⟩
      have hfirst : ∃ u, startChildBatch env s childBatch = .ok u := by
        unfold startChildBatch
        rw [hkey]
        exact ⟨_, rfl⟩
      rcases hfirst with ⟨u, hu⟩
      have hstep : s.Steps env (.asks childBatch) [] u := by rw [Steps, step, hu]
      rcases ih (fun b hb => h b (List.mem_cons_of_mem _ hb)) u with ⟨t, ht, hasked, trace, hrun⟩
      refine ⟨t, ?_, (Asked.of_startChildBatch hu).trans hasked, _, (Run.single hstep).trans hrun⟩
      rw [List.foldlM_cons, hu]
      exact ht

/-- The keys of batches tell their ids: the digests of the batches differ, and no id holds what
    ids are put together with. -/
structure BatchEnv.TellsApart (env : BatchEnv) (batches : List (List String)) : Prop where
  digests : env.sha256.TellsApart (batches.map batchText)
  ids : ∀ batch ∈ batches, ∀ id ∈ batch, '\n' ∉ id.toList

theorem BatchEnv.TellsApart.perm {batches : List (List String)} (h : env.TellsApart batches)
    {a b : List String} (ha : a ∈ batches) (hb : b ∈ batches)
    (hkeya : createScheduleDispatchBatchIdempotencyKey env.sha256 a = .ok key)
    (hkeyb : createScheduleDispatchBatchIdempotencyKey env.sha256 b = .ok key) : a.Perm b :=
  createScheduleDispatchBatchIdempotencyKey_inj hkeya hkeyb
    (h.digests _ (List.mem_map_of_mem ha) _ (List.mem_map_of_mem hb)) (h.ids a ha) (h.ids b hb)

/-- What a call is answered with for a batch: a run of the same ids, which has not begun unless
    an earlier run of these ids has. -/
theorem asked_batch {childBatches : List (List String)} (hinv : Inv env s)
    (hasked : Asked env childBatches s t)
    (htell : env.TellsApart (s.batchRuns.map WorkflowRun.input ++ childBatches))
    {childBatch : List String} (hmem : childBatch ∈ childBatches)
    (hkey : createScheduleDispatchBatchIdempotencyKey env.sha256 childBatch = .ok key) :
    ∃ run, t.find key = some run ∧ run.input.Perm childBatch ∧
      (run.status = .pending ↔
        ∀ old ∈ s.batchRuns, old.input.Perm childBatch → old.status = .pending) := by
  have hold : ∀ {old : WorkflowRun (List String)}, old ∈ s.batchRuns →
      old.input.Perm childBatch → s.find key = some old := by
    intro old hmem hperm
    rcases hinv.keyed old hmem with ⟨hfind, holdkey⟩
    rw [createScheduleDispatchBatchIdempotencyKey_perm hperm, hkey, Except.ok.injEq] at holdkey
    rw [holdkey]
    exact hfind
  have hbatch := List.mem_append_right (s.batchRuns.map WorkflowRun.input) hmem
  cases hfind : s.find key with
  | some run =>
      have hrun := find_mem hfind
      have hperm : run.input.Perm childBatch := by
        refine htell.perm (List.mem_append_left _ (List.mem_map_of_mem hrun)) hbatch ?_ hkey
        rw [(hinv.keyed run hrun).2, find_key hfind]
      refine ⟨run, hasked.kept key run hfind, hperm, fun hpending old holdmem hsame => ?_,
        fun h => h run hrun hperm⟩
      have heq := hold holdmem hsame
      rw [hfind, Option.some.injEq] at heq
      rw [← heq]
      exact hpending
  | none =>
      rcases hasked.found childBatch hmem key hkey with ⟨run, hrun⟩
      rcases hasked.made key run hfind hrun with ⟨hpending, hinput, hrunkey⟩
      refine ⟨run, hrun, htell.perm (List.mem_append_right _ hinput) hbatch hrunkey hkey,
        fun _ old holdmem hsame => ?_, fun _ => hpending⟩
      rw [hold holdmem hsame] at hfind
      exact absurd hfind (by simp only [reduceCtorEq, not_false_eq_true])

/-- An action is redispatched if a batch that it is in has no run that has begun. -/
theorem redispatches_id_iff (hinv : Inv env s)
    (htell : env.TellsApart
      (s.batchRuns.map WorkflowRun.input ++ input.childBatchIds s.scheduledActions))
    (id : String) :
    Redispatches env input s id ↔ ∃ childBatch ∈ input.childBatchIds s.scheduledActions,
      id ∈ childBatch ∧
        ∀ old ∈ s.batchRuns, old.input.Perm childBatch → old.status = .pending := by
  rcases startScheduleDispatchChildBatches_eq env input s with ⟨result, hbatches, hcall⟩
  have hne : ∀ b ∈ input.childBatchIds s.scheduledActions, b ≠ [] :=
    fun _ => childBatchIds_ne_nil
  rcases exists_asked env hne s with ⟨t, hfold, hasked, trace, hrun⟩
  rw [hfold] at hcall
  have hlater : ∀ {childBatch : List String}, childBatch ∈ input.childBatchIds s.scheduledActions →
      ∀ {key : String}, createScheduleDispatchBatchIdempotencyKey env.sha256 childBatch = .ok key →
        (DispatchesLater env t key id ↔ id ∈ childBatch ∧
          ∀ old ∈ s.batchRuns, old.input.Perm childBatch → old.status = .pending) := by
    intro childBatch hmem key hkey
    rcases asked_batch hinv hasked htell hmem hkey with ⟨run, hfind, hperm, hpending⟩
    rw [dispatchesLater_iff (hinv.of_run hrun) hfind, hpending, hperm.mem_iff, and_comm]
  constructor
  · rintro ⟨result', t', childBatches, hcall', hbatches', childBatch, hmem, key, hkey, hdispatches⟩
    have hsame := Except.ok.inj (hcall.symm.trans hcall')
    rw [Prod.mk.injEq] at hsame
    rw [← hsame.1, hbatches, Except.ok.injEq] at hbatches'
    rw [← hbatches'] at hmem
    rw [← hsame.2] at hdispatches
    exact ⟨childBatch, hmem, (hlater hmem hkey).mp hdispatches⟩
  · rintro ⟨childBatch, hmem, hid, hold⟩
    rcases exists_createScheduleDispatchBatchIdempotencyKey env.sha256
      (childBatchIds_ne_nil hmem) with ⟨key, hkey⟩
    exact ⟨result, t, _, hcall, hbatches, childBatch, hmem, key, hkey,
      (hlater hmem hkey).mpr ⟨hid, hold⟩⟩

/-- A digest function that answers as the real one does for the id of the action below. -/
def leftActionSha256 : Sha256 where
  digest _ := [90, 36, 63, 219, 37, 67, 114, 62, 251, 2, 5, 23, 27, 129, 56, 89, 25, 160, 190, 51,
    8, 164, 127, 53, 57, 119, 5, 30, 253, 240, 192, 111]
  length_digest _ := rfl

def leftActionEnv : BatchEnv where
  sha256 := leftActionSha256
  collate a b := decide (CodeUnitLe a b)
  newRunId _ := "run_01"

/-- An action that was inserted, and is still pending. -/
def leftAction : ScheduledAction where
  id := "sca_01kq5zqf2nfkrvbyh6bkcmq0tq"
  scheduleId := "sch_01"
  organizationId := "org_01"
  targetType := ScheduleTargetType.triggerRun.text
  targetPayload := .obj []
  scheduledAt := 1777334400000
  localScheduledDate := "2026-04-28"
  localScheduledTime := "00:00:00"

/-- The recovery five minutes later. -/
def leftActionInput : StartScheduleDispatchChildBatchesInput where
  cutoffMinute := 1777334700000
  scheduledActionIds := []

theorem leftAction_recovers : leftActionInput.Recovers leftAction := by decide

theorem leftAction_batches :
    leftActionInput.childBatchIds [leftAction] = [[leftAction.id]] := by rfl

theorem leftAction_tellsApart {batches : List (List String)}
    (h : ∀ batch ∈ batches, batch = [leftAction.id]) : leftActionEnv.TellsApart batches where
  digests a ha b hb _ := by
    rcases List.mem_map.mp ha with ⟨x, hx, hxa⟩
    rcases List.mem_map.mp hb with ⟨y, hy, hyb⟩
    rw [← hxa, ← hyb, h x hx, h y hy]
  ids batch hbatch id hid := by
    rw [h batch hbatch, List.mem_singleton] at hid
    rw [hid]
    decide

end Mistle
