import Mistle.Lib.Digest
import Mistle.Lib.Fallible
import Mistle.Lib.Slices
import Mistle.Lib.Split
import Mistle.Schedule.Database

/-!
# Child Batches

The actions that a schedule dispatch has inserted, and those that an earlier one left
pending or claimed and never finished, are dispatched by batch runs: their ids are
sorted and cut into batches, and a run is asked for each batch under a key that is made
from the ids of the batch.

## Main definitions

* `Recoverable`, `listRecoverableScheduledActions`: The actions that were left.
* `partitionScheduledActionIds`, `createScheduleDispatchBatchIdempotencyKey`: Batches and keys.
* `BatchSystem`: The actions, and the batch runs and what they have dispatched.
* `startScheduleDispatchChildBatches`: Ask for the batch runs.
* `childBatchIds`: The ids of the batches.

## Theorems

* `listRecoverableScheduledActions_ok`: The rows that are listed.
* `createScheduleDispatchBatchIdempotencyKey_inj`: The ids that a key is made from.
* `startScheduleDispatchChildBatches_eq`: The call asks for its batches.
-/

namespace Mistle

def ScheduleDispatchChildBatchSize : Nat := 100

def ScheduleDispatchChildConcurrency : Nat := 10

def StaleScheduleDispatchAfterMs : Int := 15 * 60 * 1000

def ScheduleDispatchBatchWorkflowName : String := "control-plane.schedules.dispatch-batch"

def ScheduledActionStatus.text : ScheduledActionStatus → String
  | .pending => "pending"
  | .dispatching => "dispatching"
  | .dispatched => "dispatched"
  | .failed => "failed"
  | .skippedLate => "skipped_late"

structure StartScheduleDispatchChildBatchesInput where
  cutoffMinute : Instant
  scheduledActionIds : List String

structure RecoverableScheduledActionRow where
  id : String
  status : ScheduledActionStatus

structure StartScheduleDispatchChildBatchesResult where
  scheduledActionIds : List String
  childBatchCount : Nat
  pendingRecoveredCount : Nat
  staleDispatchingRecoveredCount : Nat

/-- A call of the dispatch of one action. -/
structure BatchDispatch where
  idempotencyKey : String
  scheduledActionId : String
  deriving DecidableEq

/-- The table of actions, the batch runs, and what the batch runs have dispatched so far. -/
structure BatchSystem where
  scheduledActions : List ScheduledAction
  batchRuns : List (WorkflowRun (List String))
  dispatches : List BatchDispatch

/-- What is given: the digest function, the order of texts in the database, and the ids
    that new runs get. -/
structure BatchEnv where
  sha256 : Sha256
  collate : String → String → Bool
  newRunId : List (WorkflowRun (List String)) → String

/-! ### Batches and keys -/

def partitionScheduledActionIds (scheduledActionIds : List String) (batchSize : Int) :
    Except String (List (List String)) :=
  if batchSize ≤ 0 then
    .error "Expected schedule dispatch batch size to be a positive integer."
  else
    .ok (slices batchSize.toNat (sortTexts scheduledActionIds))

/-- What is digested for the key of a batch. -/
def batchText (scheduledActionIds : List String) : String :=
  String.intercalate "\n" (sortTexts scheduledActionIds)

def createScheduleDispatchBatchIdempotencyKey (sha256 : Sha256)
    (scheduledActionIds : List String) : Except String String :=
  if scheduledActionIds = [] then
    .error "Expected at least one scheduled action id for schedule dispatch batch."
  else
    .ok ("schedule-dispatch-batch:" ++
      String.ofList (hexLower (sha256.digest (utf8 (batchText scheduledActionIds)))))

/-! ### Recoverable actions -/

/-- Pending, or claimed so long ago that the claim is stale. -/
def Recoverable (cutoffMinute staleDispatchingBefore : Instant) (action : ScheduledAction) :
    Prop :=
  action.scheduledAt ≤ cutoffMinute ∧
    (action.status = .pending ∨
      (action.status = .dispatching ∧
        ∀ dispatchingAt ∈ action.dispatchingAt, dispatchingAt < staleDispatchingBefore))

instance (cutoffMinute staleDispatchingBefore : Instant) (action : ScheduledAction) :
    Decidable (Recoverable cutoffMinute staleDispatchingBefore action) :=
  inferInstanceAs (Decidable (_ ∧ (_ ∨ (_ ∧ ∀ _ ∈ action.dispatchingAt, _))))

/-- The order of the listed rows. -/
def BatchEnv.Listed (env : BatchEnv) (a b : ScheduledAction) : Prop :=
  a.scheduledAt < b.scheduledAt ∨ (a.scheduledAt = b.scheduledAt ∧ env.collate a.id b.id = true)

instance (env : BatchEnv) (a b : ScheduledAction) : Decidable (env.Listed a b) :=
  inferInstanceAs (Decidable (_ ∨ (_ ∧ _)))

def toRecoverableRow (row : ScheduledAction) : Except String RecoverableScheduledActionRow :=
  if row.status ≠ .pending ∧ row.status ≠ .dispatching then
    .error s!"Unexpected recoverable scheduled action status: {row.status.text}"
  else
    .ok ⟨row.id, row.status⟩

def listRecoverableScheduledActions (env : BatchEnv)
    (cutoffMinute staleDispatchingBefore : Instant) (scheduledActions : List ScheduledAction) :
    Except String (List RecoverableScheduledActionRow) :=
  ((scheduledActions.filter fun action =>
    decide (Recoverable cutoffMinute staleDispatchingBefore action)).insertionSort
      env.Listed).mapM toRecoverableRow

/-! ### The call -/

/-- How many of the recovered actions with a status were not passed in. -/
def recoveredCount (status : ScheduledActionStatus) (scheduledActionIds : List String)
    (recoveredActions : List RecoverableScheduledActionRow) : Nat :=
  (recoveredActions.filter fun action =>
    decide (action.id ∉ scheduledActionIds ∧ action.status = status)).length

/-- Ask for the run of one batch. -/
def startChildBatch (env : BatchEnv) (s : BatchSystem) (childBatch : List String) :
    Except String BatchSystem := do
  let idempotencyKey ← createScheduleDispatchBatchIdempotencyKey env.sha256 childBatch
  return { s with
    batchRuns := (runWorkflow ScheduleDispatchBatchWorkflowName childBatch idempotencyKey
      (env.newRunId s.batchRuns) s.batchRuns).1 }

def startScheduleDispatchChildBatches (env : BatchEnv)
    (input : StartScheduleDispatchChildBatchesInput) (s : BatchSystem) :
    Except String (StartScheduleDispatchChildBatchesResult × BatchSystem) := do
  let recoveredActions ← listRecoverableScheduledActions env input.cutoffMinute
    (input.cutoffMinute - StaleScheduleDispatchAfterMs) s.scheduledActions
  let recoveredActionIds := recoveredActions.map RecoverableScheduledActionRow.id
  let scheduledActionIds :=
    sortTexts (input.scheduledActionIds ++ recoveredActionIds).eraseDups
  let childBatches ←
    partitionScheduledActionIds scheduledActionIds ScheduleDispatchChildBatchSize
  let t ← childBatches.foldlM (startChildBatch env) s
  return ({
    scheduledActionIds
    childBatchCount := childBatches.length
    pendingRecoveredCount := recoveredCount .pending input.scheduledActionIds recoveredActions
    staleDispatchingRecoveredCount :=
      recoveredCount .dispatching input.scheduledActionIds recoveredActions }, t)

/-! ### What is asked for -/

namespace StartScheduleDispatchChildBatchesInput

/-- The actions that a call recovers. -/
def Recovers (input : StartScheduleDispatchChildBatchesInput) (action : ScheduledAction) : Prop :=
  Recoverable input.cutoffMinute (input.cutoffMinute - StaleScheduleDispatchAfterMs) action

instance (input : StartScheduleDispatchChildBatchesInput) (action : ScheduledAction) :
    Decidable (input.Recovers action) :=
  inferInstanceAs (Decidable (Recoverable _ _ action))

/-- The ids that a call is about, each once. -/
def actionIds (input : StartScheduleDispatchChildBatchesInput)
    (scheduledActions : List ScheduledAction) : List String :=
  (input.scheduledActionIds ++ (scheduledActions.filter fun action =>
    decide (input.Recovers action)).map ScheduledAction.id).eraseDups

/-- The ids of the batches: sorted, and cut into hundreds. -/
def childBatchIds (input : StartScheduleDispatchChildBatchesInput)
    (scheduledActions : List ScheduledAction) : List (List String) :=
  slices 100 (sortTexts (input.actionIds scheduledActions))

end StartScheduleDispatchChildBatchesInput

variable {env : BatchEnv} {input : StartScheduleDispatchChildBatchesInput} {s t : BatchSystem}

theorem childBatchIds_ne_nil {childBatch : List String}
    (h : childBatch ∈ input.childBatchIds s.scheduledActions) : childBatch ≠ [] :=
  slice_ne_nil (by decide) h

/-- An id is in one of the batches at most. -/
theorem childBatchIds_unique {a b : List String} (ha : a ∈ input.childBatchIds s.scheduledActions)
    (hb : b ∈ input.childBatchIds s.scheduledActions) {id : String} (hida : id ∈ a)
    (hidb : id ∈ b) : a = b :=
  slices_unique (by decide) ((sortTexts_perm _).nodup_iff.mpr (nodup_eraseDups _)) ha hb hida hidb

/-- What a call recovers is in one of its batches. -/
theorem exists_childBatch {action : ScheduledAction} (hmem : action ∈ s.scheduledActions)
    (h : input.Recovers action) :
    ∃ childBatch ∈ input.childBatchIds s.scheduledActions, action.id ∈ childBatch := by
  refine (mem_iff_mem_slice (by decide)).mp (mem_sortTexts.mpr (List.mem_eraseDups.mpr ?_))
  exact List.mem_append_right _ (List.mem_map_of_mem (List.mem_filter.mpr ⟨hmem, decide_eq_true h⟩))

/-! ### Keys -/

section

variable {sha256 : Sha256} {a b : List String} {key : String}

theorem exists_createScheduleDispatchBatchIdempotencyKey (sha256 : Sha256) (h : a ≠ []) :
    ∃ key, createScheduleDispatchBatchIdempotencyKey sha256 a = .ok key := by
  unfold createScheduleDispatchBatchIdempotencyKey
  rw [if_neg h]
  exact ⟨_, rfl⟩

theorem createScheduleDispatchBatchIdempotencyKey_perm (h : a.Perm b) :
    createScheduleDispatchBatchIdempotencyKey sha256 a =
      createScheduleDispatchBatchIdempotencyKey sha256 b := by
  have hnil : a = [] ↔ b = [] :=
    ⟨fun ha => (ha ▸ h).symm.eq_nil, fun hb => (hb ▸ h).eq_nil⟩
  unfold createScheduleDispatchBatchIdempotencyKey batchText
  rw [sortTexts_eq_iff.mpr h]
  simp only [hnil]

theorem ne_nil_of_key (h : createScheduleDispatchBatchIdempotencyKey sha256 a = .ok key) :
    a ≠ [] := by
  intro hnil
  rw [createScheduleDispatchBatchIdempotencyKey, if_pos hnil] at h
  exact absurd h (by simp only [reduceCtorEq, not_false_eq_true])

/-- A key tells the ids of a batch, where the digest tells the batches apart and no id holds
    what they are put together with. -/
theorem createScheduleDispatchBatchIdempotencyKey_inj
    (hkeya : createScheduleDispatchBatchIdempotencyKey sha256 a = .ok key)
    (hkeyb : createScheduleDispatchBatchIdempotencyKey sha256 b = .ok key)
    (hdigest : sha256.digest (utf8 (batchText a)) = sha256.digest (utf8 (batchText b)) →
      batchText a = batchText b)
    (ha : ∀ id ∈ a, '\n' ∉ id.toList) (hb : ∀ id ∈ b, '\n' ∉ id.toList) : a.Perm b := by
  have hnila := ne_nil_of_key hkeya
  have hnilb := ne_nil_of_key hkeyb
  unfold createScheduleDispatchBatchIdempotencyKey at hkeya hkeyb
  rw [if_neg hnila, ← hkeyb, if_neg hnilb, Except.ok.injEq] at hkeya
  have hhex := (String.append_right_inj _).mp hkeya
  have htext := hdigest (hexLower_injective (String.ofList_inj.mp hhex))
  have hlist := congrArg String.toList htext
  unfold batchText at hlist
  rw [String.toList_intercalate, String.toList_intercalate] at hlist
  have hfree : ∀ {ids : List String}, (∀ id ∈ ids, '\n' ∉ id.toList) →
      ∀ l ∈ (sortTexts ids).map String.toList, '\n' ∉ l := by
    intro ids hids l hl
    rcases List.mem_map.mp hl with ⟨id, hid, hl⟩
    rw [← hl]
    exact hids id (mem_sortTexts.mp hid)
  have hsorted : ∀ {ids : List String}, ids ≠ [] → (sortTexts ids).map String.toList ≠ [] :=
    fun hids h => hids (sortTexts_eq_nil.mp (List.map_eq_nil_iff.mp h))
  have hmap := intercalate_inj (hsorted hnila) (hsorted hnilb) (hfree ha) (hfree hb) hlist
  exact sortTexts_eq_iff.mp (List.map_injective_iff.mpr (fun _ _ => String.toList_injective) hmap)

end

/-! ### The call and its batches -/

theorem listRecoverableScheduledActions_ok (env : BatchEnv)
    (input : StartScheduleDispatchChildBatchesInput) (scheduledActions : List ScheduledAction) :
    ∃ rows, listRecoverableScheduledActions env input.cutoffMinute
        (input.cutoffMinute - StaleScheduleDispatchAfterMs) scheduledActions = .ok rows ∧
      (rows.map RecoverableScheduledActionRow.id).Perm
        ((scheduledActions.filter fun action => decide (input.Recovers action)).map
          ScheduledAction.id) := by
  have hperm := List.perm_insertionSort env.Listed
    (scheduledActions.filter fun action => decide (input.Recovers action))
  let toRow (action : ScheduledAction) : RecoverableScheduledActionRow :=
    ⟨action.id, action.status⟩
  refine ⟨List.map toRow _, Fallible.mapM_ok_iff.mpr (List.forall₂_map_right_iff.mpr
    (List.forall₂_same.mpr fun action haction => ?_)), ?_⟩
  · have hrecovers := of_decide_eq_true (List.mem_filter.mp (hperm.mem_iff.mp haction)).2
    unfold toRecoverableRow
    rw [if_neg]
    rintro ⟨hpending, hdispatching⟩
    rcases hrecovers.2 with h | h
    · exact hpending h
    · exact hdispatching h.1
  · rw [List.map_map]
    exact hperm.map _

/-- However the database lists the rows, the ids are sorted in the end. -/
theorem childBatches_eq (input : StartScheduleDispatchChildBatchesInput) {ids : List String}
    (h : ids.Perm ((s.scheduledActions.filter fun action =>
      decide (input.Recovers action)).map ScheduledAction.id)) :
    partitionScheduledActionIds (sortTexts (input.scheduledActionIds ++ ids).eraseDups)
        ScheduleDispatchChildBatchSize =
      .ok (input.childBatchIds s.scheduledActions) := by
  have hsize : ¬ ((ScheduleDispatchChildBatchSize : Nat) : Int) ≤ 0 := by decide
  have hperm : (input.scheduledActionIds ++ ids).eraseDups.Perm
      (input.actionIds s.scheduledActions) := by
    refine (List.perm_ext_iff_of_nodup (nodup_eraseDups _) (nodup_eraseDups _)).mpr fun id => ?_
    rw [List.mem_eraseDups, List.mem_eraseDups, List.mem_append, List.mem_append, h.mem_iff]
  unfold partitionScheduledActionIds
  rw [if_neg hsize, sortTexts_eq_iff.mpr ((sortTexts_perm _).trans hperm)]
  rfl

/-- The call asks for its batches, one after the other. -/
theorem startScheduleDispatchChildBatches_eq (env : BatchEnv)
    (input : StartScheduleDispatchChildBatchesInput) (s : BatchSystem) :
    ∃ result, partitionScheduledActionIds result.scheduledActionIds
        ScheduleDispatchChildBatchSize = .ok (input.childBatchIds s.scheduledActions) ∧
      startScheduleDispatchChildBatches env input s =
        (input.childBatchIds s.scheduledActions).foldlM (startChildBatch env) s >>= fun t =>
          .ok (result, t) := by
  rcases listRecoverableScheduledActions_ok env input s.scheduledActions with ⟨rows, hrows, hids⟩
  have hbatches := childBatches_eq input hids
  refine ⟨⟨_, (input.childBatchIds s.scheduledActions).length,
    recoveredCount .pending input.scheduledActionIds rows,
    recoveredCount .dispatching input.scheduledActionIds rows⟩, hbatches, ?_⟩
  unfold startScheduleDispatchChildBatches
  rw [hrows]
  simp only [Bind.bind, Except.bind, hbatches]
  rfl

end Mistle
