import Mistle.Lifecycle.RowLock

/-!
# The End of an Idle Stop

A stop of an idle sandbox has the provider stop it, which ends the bootstrap session of its
owner: the session detaches, and the gateway clears its attachment. The stop then locks the
row, reads the runtime state once more, and marks the instance stopped only where the
expected owner is attached. So where the detach is faster than the last read, the stop ends
without a mark and leaves the instance stopping, by an effect of its own.

It marks the instance stopped exactly where the row is still stopping when it is locked, the
expected owner is still attached at the last read, and the statements answer. From the lock
to the mark no other call can interfere, whatever it is.

## Main definitions

* `finishRest`: What is left of a stop whose sandbox is stopped at the provider.
* `StopKept`: The steps of the stop that lead to the mark.
* `MarksStopped`: The instance was marked stopped, for being idle.

## Theorems

* `finishRest_next`, `lockedRest_next`, `permittedRest_next`: The three statements of the end.
* `StopStage.advance`, `StopStage.wait`: One step of the stop, and one of others.
* `idle_stop_marks_iff`: When an idle stop marks the instance stopped.
* `idle_stop_undone`: A run in which it does not.
-/

namespace Mistle

open Program (query)
open LifecycleOp (readSnapshot inspectProvider lockInstance commitStatus)

section

variable (sandboxInstanceId expectedOwnerLeaseId : String)
  (terminationTarget : Option SandboxRuntimeAttachment)

/-- The rest of a call that answers with the result of a stop. -/
def stopAnswer (x : LifecycleProgram StopSandboxInstanceResult) : LifecycleRest :=
  (do return .stop (← x) : LifecycleProgram LifecycleAnswer).run

def idleStop : LifecycleCall :=
  .stop .idle (some expectedOwnerLeaseId)

/-- What is left of an idle stop whose sandbox the provider has stopped. -/
def stoppedRest (stopRequestedStatus : SandboxInstanceStatus) : LifecycleRest :=
  stopAnswer (inspectThenFinish sandboxInstanceId .idle (some expectedOwnerLeaseId)
    stopRequestedStatus terminationTarget)

/-- What is left of it where the provider has the sandbox stopped and resumable. -/
def finishRest : LifecycleRest :=
  stopAnswer (finishStop sandboxInstanceId .idle (some expectedOwnerLeaseId) terminationTarget)

/-- The answer of a stop that has marked the instance stopped. -/
def stoppedOutcome : LifecycleOutcome :=
  .ok (.stop ⟨true, .stopped, terminationTarget, none⟩)

/-- A rest that does not answer so. -/
def Misses (p : LifecycleRest) : Prop :=
  p.EveryResult fun outcome => outcome ≠ stoppedOutcome terminationTarget

def markIdle (row : SandboxInstance) : SandboxInstance :=
  { row with stopReason := some .idle }

def missedMarkMessage : String :=
  "Failed to transition sandbox instance status from stopping to stopped."

/-- What is left where the row has been locked and is stopping. -/
def lockedRest (transaction : Nat) : LifecycleRest :=
  stopAnswer do
    let outcome ← inTransaction transaction (commitPermitted transaction
      (readSandboxStopPermission .idle (some expectedOwnerLeaseId)) .stopping .stopped markIdle
      missedMarkMessage)
    return .ofMark terminationTarget outcome

/-- What is left where the last read has permitted the mark, or has not. -/
def permittedRest (transaction : Nat) (permitted : Bool) : LifecycleRest :=
  stopAnswer do
    let outcome ← inTransaction transaction (commitPermitted transaction (return permitted)
      .stopping .stopped markIdle missedMarkMessage)
    return .ofMark terminationTarget outcome

/-! ### The three statements of the end -/

variable {sandboxInstanceId expectedOwnerLeaseId terminationTarget}

theorem stoppedRest_next {stopRequestedStatus : SandboxInstanceStatus} :
    ∃ next, stoppedRest sandboxInstanceId expectedOwnerLeaseId terminationTarget
        stopRequestedStatus = .perform .inspectProvider next ∧
      next (.ok .resumableStopped) =
        finishRest sandboxInstanceId expectedOwnerLeaseId terminationTarget :=
  ⟨_, rfl, rfl⟩

theorem finishRest_next :
    ∃ next, finishRest sandboxInstanceId expectedOwnerLeaseId terminationTarget =
        .perform .lockInstance next ∧
      (∀ transaction, next (.ok (transaction, some .stopping)) =
        lockedRest expectedOwnerLeaseId terminationTarget transaction) ∧
      ∀ r, (∀ transaction, r ≠ .ok (transaction, some .stopping)) →
        Misses terminationTarget (next r) := by
  refine ⟨_, rfl, fun _ => rfl, fun r hr => ?_⟩
  rcases r with e | ⟨transaction, lockedStatus⟩
  · exact fun h => nomatch h
  · -- Where the row is not stopping, the transaction ends without the mark.
    cases lockedStatus with
    | none =>
        intro r
        cases r <;> exact fun h => nomatch h
    | some status =>
        cases status with
        | stopping => exact absurd rfl (hr transaction)
        | stopped =>
            intro r
            cases r with
            | ok _ => exact fun h => nomatch h
            | error e =>
                intro r
                cases r <;> exact fun h => nomatch h
        | _ =>
            intro r
            cases r <;> exact fun h => nomatch h

theorem lockedRest_next {transaction : Nat} :
    ∃ next, lockedRest expectedOwnerLeaseId terminationTarget transaction =
        .perform .readSnapshot next ∧
      (∀ snapshot, next (.ok snapshot) = permittedRest terminationTarget transaction
        (shouldExecuteSandboxStop .idle (some expectedOwnerLeaseId) snapshot)) ∧
      ∀ e, Misses terminationTarget (next (.error e)) := by
  refine ⟨_, rfl, fun _ => rfl, fun e r => ?_⟩
  cases r <;> exact fun h => nomatch h

theorem permittedRest_next {transaction : Nat} :
    ∃ next, permittedRest terminationTarget transaction true =
        .perform (.commitStatus transaction .stopping .stopped markIdle) next ∧
      next (.ok true) = .done (stoppedOutcome terminationTarget) ∧
      ∀ r, r ≠ .ok true → Misses terminationTarget (next r) := by
  refine ⟨_, rfl, rfl, fun r hr => ?_⟩
  rcases r with e | committed
  · intro r
    cases r <;> exact fun h => nomatch h
  · cases committed with
    | true => exact absurd rfl hr
    | false =>
        intro r
        cases r <;> exact fun h => nomatch h

/-- A fence that is not matched ends the transaction without the mark. -/
theorem permittedRest_misses {transaction : Nat} :
    Misses terminationTarget (permittedRest terminationTarget transaction false) := by
  intro r
  cases r with
  | ok _ => exact fun h => nomatch h
  | error e =>
      intro r
      cases r <;> exact fun h => nomatch h

/-! ### What the three statements answer -/

section

variable {c : LifecycleChoice} {s t : LifecycleState} {transaction : Nat}

theorem lockInstance_answer {r : Program.Fallible LifecycleError LifecycleOp.Row .lockInstance}
    (h : LifecycleOp.lockInstance.perform c s = some (t, r)) :
    (c.answer = .arrives ∧ s.status = some .stopping ∧
        r = .ok (s.transactions, some .stopping) ∧ t.lock = some s.transactions ∧
        t.status = some .stopping) ∨
      (¬ (c.answer = .arrives ∧ s.status = some .stopping) ∧
        ∀ transaction, r ≠ .ok (transaction, some .stopping)) := by
  rcases (LifecycleOp.perform_cases h).2 with ⟨harrives, ht, hr⟩ | ⟨hfails, _, e, hr⟩
  · by_cases hstatus : s.status = some .stopping
    · left
      refine ⟨harrives, hstatus, ?_, by rw [ht]; rfl, by rw [ht]; exact hstatus⟩
      exact hr.trans (congrArg (fun status => Except.ok (_, status)) hstatus)
    · right
      refine ⟨fun h => hstatus h.2, fun transaction h => hstatus ?_⟩
      rw [hr, Except.ok.injEq, Prod.mk.injEq] at h
      exact h.2
  · right
    refine ⟨fun h => hfails h.1, fun transaction h => ?_⟩
    exact absurd (hr.symm.trans h) (by simp only [reduceCtorEq, not_false_eq_true])

theorem readSnapshot_answer {r : Program.Fallible LifecycleError LifecycleOp.Row .readSnapshot}
    (h : LifecycleOp.readSnapshot.perform c s = some (t, r)) :
    (c.answer = .arrives ∧ t = s ∧ r = .ok s.snapshot) ∨ (c.answer ≠ .arrives ∧ ∃ e, r = .error e) := by
  rcases (LifecycleOp.perform_cases h).2 with ⟨harrives, ht, hr⟩ | ⟨hfails, _, herror⟩
  · exact .inl ⟨harrives, ht, hr⟩
  · exact .inr ⟨hfails, herror⟩

/-- A row that is stopping is found by the mark. -/
theorem commitStatus_answer
    {r : Program.Fallible LifecycleError LifecycleOp.Row
      (.commitStatus transaction .stopping .stopped markIdle)}
    (h : (LifecycleOp.commitStatus transaction .stopping .stopped markIdle).perform c s =
      some (t, r)) (hstatus : s.status = some .stopping) :
    (c.answer = .arrives ∧ r = .ok true ∧
        ∃ row, t.row = some row ∧ row.status = .stopped ∧ row.stopReason = some .idle) ∨
      (c.answer ≠ .arrives ∧ r ≠ .ok true) := by
  rcases (LifecycleOp.perform_cases h).2 with ⟨harrives, ht, hr⟩ | ⟨hfails, _, e, hr⟩
  · left
    rcases Option.map_eq_some_iff.mp hstatus with ⟨row, hrow, hstopping⟩
    have hmatching : s.matching true (· = .stopping) = some row := by
      rw [LifecycleState.matching, hrow, Option.filter_some, if_pos]
      simp only [Bool.true_or, Bool.true_and, hstopping, decide_true]
    have happly : (LifecycleOp.commitStatus transaction .stopping .stopped markIdle).apply c s =
        ({ s.write row .stopped markIdle with lock := none }, true) := by
      simp only [LifecycleOp.apply, hmatching]
    rw [happly] at ht hr
    refine ⟨harrives, hr, { markIdle row with status := .stopped }, ?_, rfl, rfl⟩
    rw [ht]
    rfl
  · right
    refine ⟨hfails, fun h => ?_⟩
    exact absurd (hr.symm.trans h) (by simp only [reduceCtorEq, not_false_eq_true])

end

/-! ### The steps that lead to the mark -/

/-- A step of the stop `n` that leads to the mark: its statement answers, it locks a row that is
    stopping, and it reads that the expected owner is attached. Any step of others does. -/
def StopKept (expectedOwnerLeaseId : String) (n : Nat) (pool : LifecyclePool) :
    LifecycleInput → Prop
  | .advance k c => k = n → c.answer = .arrives ∧
    match pool.calls[n]? with
    | some ⟨_, some (.perform .lockInstance _)⟩ => pool.shared.status = some .stopping
    | some ⟨_, some (.perform .readSnapshot _)⟩ =>
      pool.shared.attachment.map SandboxRuntimeAttachment.ownerLeaseId = some expectedOwnerLeaseId
    | _ => True
  | _ => True

/-- The call `n` has marked the instance stopped in a step of the trace, for being idle. -/
def MarksStopped (sandboxInstanceId : String) (n : Nat) (pool : LifecyclePool)
    (trace : List (Entry LifecycleInput LifecycleStepEvent)) : Prop :=
  ∃ before c out after mid next row, trace = before ++ ⟨.advance n c, out⟩ :: after ∧
    (lifecycleSystem sandboxInstanceId).Runs pool before mid ∧
    LifecycleStep sandboxInstanceId mid (.advance n c) out next ∧
    mid.shared.status = some .stopping ∧
    next.shared.row = some row ∧ row.status = .stopped ∧ row.stopReason = some .idle

theorem MarksStopped.append {n : Nat} {pool : LifecyclePool}
    {trace more : List (Entry LifecycleInput LifecycleStepEvent)}
    (h : MarksStopped sandboxInstanceId n pool trace) :
    MarksStopped sandboxInstanceId n pool (trace ++ more) := by
  rcases h with ⟨before, c, out, after, mid, next, row, htrace, hrest⟩
  refine ⟨before, c, out, after ++ more, mid, next, row, ?_, hrest⟩
  rw [htrace, List.append_assoc, List.cons_append]

/-- How far the stop `n` has come whose steps have all led to the mark. -/
inductive StopStage (sandboxInstanceId expectedOwnerLeaseId : String)
    (terminationTarget : Option SandboxRuntimeAttachment) (x : LifecyclePool × List StatusNote)
    (n : Nat) : LifecycleRest → Prop
  | finishing : StopStage sandboxInstanceId expectedOwnerLeaseId terminationTarget x n
      (finishRest sandboxInstanceId expectedOwnerLeaseId terminationTarget)
  | locked (transaction) (hholds : HoldsRow x n transaction .stopping) :
      StopStage sandboxInstanceId expectedOwnerLeaseId terminationTarget x n
        (lockedRest expectedOwnerLeaseId terminationTarget transaction)
  | permitted (transaction) (hholds : HoldsRow x n transaction .stopping) :
      StopStage sandboxInstanceId expectedOwnerLeaseId terminationTarget x n
        (permittedRest terminationTarget transaction true)

/-- Where the stop goes on: in a step that leads to the mark to the next stage, or to the mark
    itself, and in any other to a rest that misses it. -/
theorem StopStage.advance {x y : LifecyclePool × List StatusNote} {n : Nat} {c : LifecycleChoice}
    {call : LifecycleCall} {out : List LifecycleStepEvent} {p : LifecycleRest}
    (hstep : (lifecycleSystem sandboxInstanceId).stepNoting noteStatus {} x (.advance n c) =
      some (y, out))
    (hcall : x.1.calls[n]? = some ⟨call, some p⟩) (hlength : x.2.length = x.1.calls.length)
    (hstage : StopStage sandboxInstanceId expectedOwnerLeaseId terminationTarget x n p) :
    ∃ q, y.1.calls[n]? = some ⟨call, some q⟩ ∧
      ((StopKept expectedOwnerLeaseId n x.1 (.advance n c) ∧
          StopStage sandboxInstanceId expectedOwnerLeaseId terminationTarget y n q) ∨
        (StopKept expectedOwnerLeaseId n x.1 (.advance n c) ∧
          q = .done (stoppedOutcome terminationTarget) ∧ x.1.shared.status = some .stopping ∧
          ∃ row, y.1.shared.row = some row ∧ row.status = .stopped ∧
            row.stopReason = some .idle) ∨
        (¬ StopKept expectedOwnerLeaseId n x.1 (.advance n c) ∧ Misses terminationTarget q)) := by
  rcases System.stepNoting_step hstep with ⟨hpool, hnotes⟩
  rcases System.step_advance hpool with ⟨call', op, next, t, r, hadvance, ht, hy, _⟩
  have hlt : n < x.1.calls.length := (List.getElem?_eq_some_iff.mp hadvance).1
  have hshared : y.1.shared = t := congrArg Pool.shared hy
  have hknown : x.2[n]? = some x.2[n] := List.getElem?_eq_getElem (hlength ▸ hlt)
  have hnoting : y.2[n]? = some (noteStatus x.2[n] op r) := by
    rw [hnotes, System.notesAfter_advance hadvance ht, List.getElem?_modify_eq, hknown]
    rfl
  have hafter : y.1.calls[n]? = some ⟨call', some (next r)⟩ := by
    rw [hy]
    exact List.getElem?_set_self hlt
  rw [hcall, Option.some.injEq, SystemCall.mk.injEq, Option.some.injEq] at hadvance
  rcases hadvance with ⟨hcall', hp⟩
  refine ⟨next r, hcall' ▸ hafter, ?_⟩
  cases hstage with
  | finishing =>
      rcases finishRest_next with ⟨next', hrest, hlocked, hmisses⟩
      rw [hrest] at hp hcall
      cases hp
      have hkept : StopKept expectedOwnerLeaseId n x.1 (.advance n c) ↔
          c.answer = .arrives ∧ x.1.shared.status = some .stopping := by
        simp only [StopKept, hcall, forall_const]
      rw [hkept]
      rcases lockInstance_answer ht with ⟨harrives, hstatus, hr, hlock, hstopping⟩ | ⟨hlost, hr⟩
      · left
        refine ⟨⟨harrives, hstatus⟩, ?_⟩
        rw [hr] at hnoting
        rw [hr, hlocked]
        exact .locked _ ⟨hshared ▸ hlock, ⟨_, hnoting, rfl⟩, hshared ▸ hstopping⟩
      · exact .inr (.inr ⟨hlost, hmisses r hr⟩)
  | locked transaction hholds =>
      rcases lockedRest_next with ⟨next', hrest, hfound, hmisses⟩
      rw [hrest] at hp hcall
      cases hp
      have hkept : StopKept expectedOwnerLeaseId n x.1 (.advance n c) ↔
          c.answer = .arrives ∧ x.1.shared.attachment.map SandboxRuntimeAttachment.ownerLeaseId =
            some expectedOwnerLeaseId := by
        simp only [StopKept, hcall, forall_const]
      rw [hkept]
      rcases readSnapshot_answer ht with ⟨harrives, hsame, hr⟩ | ⟨hfails, e, hr⟩
      · rw [hr, hfound]
        by_cases hattached : x.1.shared.attachment.map SandboxRuntimeAttachment.ownerLeaseId =
            some expectedOwnerLeaseId
        · left
          have hpermitted : shouldExecuteSandboxStop .idle (some expectedOwnerLeaseId)
              x.1.shared.snapshot = true := decide_eq_true ⟨rfl, hattached, hattached⟩
          rw [hpermitted]
          refine ⟨⟨harrives, hattached⟩, .permitted transaction ?_⟩
          rcases hholds with ⟨hlock, ⟨note, hnote, htransaction⟩, hstatus⟩
          rw [hknown, Option.some.injEq] at hnote
          have hunchanged : y.1.shared = x.1.shared := hshared.trans hsame
          exact ⟨hunchanged ▸ hlock, ⟨_, hnoting, hnote ▸ htransaction⟩, hunchanged ▸ hstatus⟩
        · right; right
          have hpermitted : shouldExecuteSandboxStop .idle (some expectedOwnerLeaseId)
              x.1.shared.snapshot = false := decide_eq_false fun h => hattached h.2.1
          rw [hpermitted]
          exact ⟨fun h => hattached h.2, permittedRest_misses⟩
      · right; right
        rw [hr]
        exact ⟨fun h => hfails h.1, hmisses e⟩
  | permitted transaction hholds =>
      rcases permittedRest_next with ⟨next', hrest, hcommits, hmisses⟩
      rw [hrest] at hp hcall
      cases hp
      have hkept : StopKept expectedOwnerLeaseId n x.1 (.advance n c) ↔ c.answer = .arrives := by
        simp only [StopKept, hcall, forall_const, and_true]
      rw [hkept]
      rcases commitStatus_answer ht hholds.status with ⟨harrives, hr, row, hrow, hmarked⟩ |
        ⟨hfails, hr⟩
      · right; left
        exact ⟨harrives, hr ▸ hcommits, hholds.status, row, hshared ▸ hrow, hmarked⟩
      · exact .inr (.inr ⟨hfails, hmisses r hr⟩)

theorem StopStage.wait {x y : LifecyclePool × List StatusNote} {n : Nat} {input : LifecycleInput}
    {out : List LifecycleStepEvent} {p : LifecycleRest}
    (hstep : (lifecycleSystem sandboxInstanceId).stepNoting noteStatus {} x input = some (y, out))
    (hnoted : System.Noted noteStatus (fun call => WritesInOrder call.marked) x) (hinv : LockInv x)
    (hother : ∀ c, input ≠ .advance n c)
    (hstage : StopStage sandboxInstanceId expectedOwnerLeaseId terminationTarget x n p) :
    StopStage sandboxInstanceId expectedOwnerLeaseId terminationTarget y n p := by
  cases hstage with
  | finishing => exact .finishing
  | locked transaction hholds =>
      exact .locked transaction (hholds.step_other hstep hnoted hinv hother)
  | permitted transaction hholds =>
      exact .permitted transaction (hholds.step_other hstep hnoted hinv hother)

/-- How far the stop `n` has come, and whether its steps have led to the mark. -/
def StopProgress (sandboxInstanceId expectedOwnerLeaseId : String)
    (terminationTarget : Option SandboxRuntimeAttachment) (pool : LifecyclePool) (n : Nat)
    (trace : List (Entry LifecycleInput LifecycleStepEvent))
    (x : LifecyclePool × List StatusNote) : Prop :=
  let kept := EveryStep (LifecycleStep sandboxInstanceId) pool trace
    fun pool input _ => StopKept expectedOwnerLeaseId n pool input
  ∃ call rest, x.1.calls[n]? = some ⟨call, rest⟩ ∧
    (rest = none ∨
      (kept ∧ ∃ p, rest = some p ∧
        StopStage sandboxInstanceId expectedOwnerLeaseId terminationTarget x n p) ∨
      (kept ∧ rest = some (.done (stoppedOutcome terminationTarget)) ∧
        MarksStopped sandboxInstanceId n pool trace) ∨
      (¬ kept ∧ ∃ p, rest = some p ∧ Misses terminationTarget p))

theorem StopKept.other {n : Nat} {pool : LifecyclePool} {input : LifecycleInput}
    (hother : ∀ c, input ≠ .advance n c) : StopKept expectedOwnerLeaseId n pool input := by
  cases input with
  | advance k c => exact fun hk => absurd (hk ▸ rfl) (hother c)
  | _ => trivial

theorem stopProgress_step {pool : LifecyclePool} {notes : List StatusNote} {n : Nat}
    {trace : List (Entry LifecycleInput LifecycleStepEvent)} {x y : LifecyclePool × List StatusNote}
    {input : LifecycleInput} {out : List LifecycleStepEvent}
    (hrun : StatusRuns sandboxInstanceId (pool, notes) trace x)
    (hstep : (lifecycleSystem sandboxInstanceId).stepNoting noteStatus {} x input = some (y, out))
    (hnoted : System.Noted noteStatus (fun call => WritesInOrder call.marked) x) (hinv : LockInv x)
    (h : StopProgress sandboxInstanceId expectedOwnerLeaseId terminationTarget pool n trace x) :
    StopProgress sandboxInstanceId expectedOwnerLeaseId terminationTarget pool n
      (trace ++ [⟨input, out⟩]) y := by
  have hplain : (lifecycleSystem sandboxInstanceId).Runs pool trace x.1 :=
    System.Runs.of_noting hrun
  have hpool := (System.stepNoting_step hstep).1
  have hkept : EveryStep (LifecycleStep sandboxInstanceId) pool (trace ++ [⟨input, out⟩])
        (fun pool input _ => StopKept expectedOwnerLeaseId n pool input) ↔
      EveryStep (LifecycleStep sandboxInstanceId) pool trace
        (fun pool input _ => StopKept expectedOwnerLeaseId n pool input) ∧
      StopKept expectedOwnerLeaseId n x.1 input :=
    EveryStep.snoc_iff (functional_of_step _) hplain
  rcases h with ⟨call, rest, hcall, hprogress⟩
  simp only [StopProgress, hkept]
  by_cases hadvance : ∃ c, input = .advance n c
  · rcases hadvance with ⟨c, hinput⟩
    rw [hinput] at hstep hpool ⊢
    rcases hprogress with hrest | ⟨hbefore, p, hrest, hstage⟩ | ⟨_, hrest, _⟩ | ⟨hbefore, p, hrest, hmisses⟩
    · rcases System.step_advance hpool with ⟨call', op, next, t, r, hnext, _⟩
      rw [hcall, hrest] at hnext
      exact absurd hnext (by simp only [Option.some.injEq, SystemCall.mk.injEq, reduceCtorEq,
        and_false, not_false_eq_true])
    · rw [hrest] at hcall
      rcases hstage.advance hstep hcall hnoted.length with ⟨q, hq, hnext⟩
      refine ⟨call, some q, hq, .inr ?_⟩
      rcases hnext with ⟨hlast, hstage⟩ | ⟨hlast, hdone, hstopping, row, hrow, hmarked⟩ |
        ⟨hlast, hmisses⟩
      · exact .inl ⟨⟨hbefore, hlast⟩, q, rfl, hstage⟩
      · refine .inr (.inl ⟨⟨hbefore, hlast⟩, hdone ▸ rfl, ?_⟩)
        exact ⟨trace, c, out, [], x.1, y.1, row, rfl, hplain, hpool, hstopping, hrow, hmarked⟩
      · exact .inr (.inr ⟨fun h => hlast h.2, q, rfl, hmisses⟩)
    · rcases System.step_advance hpool with ⟨call', op, next, t, r, hnext, _⟩
      rw [hcall, hrest] at hnext
      exact absurd hnext (by simp only [Option.some.injEq, SystemCall.mk.injEq, reduceCtorEq,
        and_false, not_false_eq_true])
    · rcases System.step_advance hpool with ⟨call', op, next, t, r, hnext, _, hy, _⟩
      rw [hcall, hrest, Option.some.injEq, SystemCall.mk.injEq, Option.some.injEq] at hnext
      rw [hnext.2] at hmisses
      refine ⟨call', some (next r), ?_, .inr (.inr (.inr ⟨fun h => hbefore h.1, _, rfl, hmisses r⟩))⟩
      rw [hy]
      exact List.getElem?_set_self (List.getElem?_eq_some_iff.mp hcall).1
  · have hother : ∀ c, input ≠ .advance n c := fun c hinput => hadvance ⟨c, hinput⟩
    have hlast : StopKept expectedOwnerLeaseId n x.1 input := .other hother
    by_cases hfinish : input = .finish n
    · rw [hfinish] at hpool
      rcases System.step_finish hpool with ⟨call', answer, hnext, hy, _⟩
      refine ⟨call', none, ?_, .inl rfl⟩
      rw [hy]
      exact List.getElem?_set_self (List.getElem?_eq_some_iff.mp hcall).1
    · refine ⟨call, rest, System.step_call_other hpool hcall hother hfinish, ?_⟩
      rcases hprogress with hrest | ⟨hbefore, p, hrest, hstage⟩ | ⟨hbefore, hrest, hmarks⟩ |
        ⟨hbefore, p, hrest, hmisses⟩
      · exact .inl hrest
      · exact .inr (.inl ⟨⟨hbefore, hlast⟩, p, hrest, hstage.wait hstep hnoted hinv hother⟩)
      · exact .inr (.inr (.inl ⟨⟨hbefore, hlast⟩, hrest, hmarks.append⟩))
      · exact .inr (.inr (.inr ⟨fun h => hbefore h.1, p, hrest, hmisses⟩))

theorem StopStage.not_done {x : LifecyclePool × List StatusNote} {n : Nat}
    {outcome : LifecycleOutcome} :
    ¬ StopStage sandboxInstanceId expectedOwnerLeaseId terminationTarget x n (.done outcome) := by
  intro hstage
  generalize hp : Program.done outcome = p at hstage
  cases hstage with
  | finishing =>
      rcases @finishRest_next sandboxInstanceId expectedOwnerLeaseId terminationTarget with
        ⟨next, hrest, _⟩
      rw [hrest] at hp
      cases hp
  | locked transaction hholds =>
      rcases @lockedRest_next expectedOwnerLeaseId terminationTarget transaction with
        ⟨next, hrest, _⟩
      rw [hrest] at hp
      cases hp
  | permitted transaction hholds =>
      rcases @permittedRest_next terminationTarget transaction with ⟨next, hrest, _⟩
      rw [hrest] at hp
      cases hp

end

/-! ### Every run -/

/-- An idle stop whose provider has stopped the sandbox, and reports it as resumable, answers
    that it has stopped the instance, and has marked it stopped for being idle, exactly where
    each of its steps from there leads to the mark. -/
theorem idle_stop_marks_iff (sandboxInstanceId expectedOwnerLeaseId : String)
    (terminationTarget : Option SandboxRuntimeAttachment)
    {stopRequestedStatus : SandboxInstanceStatus} {n : Nat} {c : LifecycleChoice}
    {before trace : List (Entry LifecycleInput LifecycleStepEvent)} {out : List LifecycleStepEvent}
    {pool mid pool' : LifecyclePool} {outcome : LifecycleOutcome}
    (hbefore : (lifecycleSystem sandboxInstanceId).Runs noInstance before pool)
    (hcall : pool.calls[n]? = some ⟨idleStop expectedOwnerLeaseId, some (stoppedRest
      sandboxInstanceId expectedOwnerLeaseId terminationTarget stopRequestedStatus)⟩)
    (hprovider : c.provider = .resumableStopped) (harrives : c.answer = .arrives)
    (hinspect : LifecycleStep sandboxInstanceId pool (.advance n c) out mid)
    (hrun : (lifecycleSystem sandboxInstanceId).Runs mid trace pool')
    (hdone : pool'.calls[n]? = some ⟨idleStop expectedOwnerLeaseId, some (.done outcome)⟩) :
    (outcome = stoppedOutcome terminationTarget ∧ MarksStopped sandboxInstanceId n mid trace) ↔
      EveryStep (LifecycleStep sandboxInstanceId) mid trace
        fun pool input _ => StopKept expectedOwnerLeaseId n pool input := by
  rcases System.Runs.noting noteStatus ({} : StatusNote) (hbefore.snoc hinspect) [] with
    ⟨notes, hnoting⟩
  have hmid : mid.calls[n]? = some ⟨idleStop expectedOwnerLeaseId, some (finishRest
      sandboxInstanceId expectedOwnerLeaseId terminationTarget)⟩ := by
    rcases System.step_advance hinspect with ⟨call, op, next, t, r, hnext, ht, hmid, _⟩
    rcases @stoppedRest_next sandboxInstanceId expectedOwnerLeaseId terminationTarget
      stopRequestedStatus with ⟨next', hrest, hfinish⟩
    rw [hcall, hrest, Option.some.injEq, SystemCall.mk.injEq, Option.some.injEq] at hnext
    rcases hnext with ⟨hidle, hop⟩
    cases hop
    have hr : r = .ok .resumableStopped := by
      rcases (LifecycleOp.perform_cases ht).2 with ⟨_, _, hr⟩ | ⟨hfails, _⟩
      · rw [hr, ← hprovider]
        rfl
      · exact absurd harrives hfails
    rw [hmid, ← hidle, ← hfinish, ← hr]
    exact List.getElem?_set_self (List.getElem?_eq_some_iff.mp hcall).1
  rcases hrun.noting noteStatus ({} : StatusNote) notes with ⟨notes', hnoting'⟩
  have hprogress : StopProgress sandboxInstanceId expectedOwnerLeaseId terminationTarget mid n
      trace (pool', notes') := by
    refine hnoting'.history ⟨_, _, hmid, .inr (.inl ⟨.nil, _, rfl, .finishing⟩)⟩ ?_
    intro trace x input out y hfirst hprogress hstep
    have hwhole := hnoting.trans hfirst
    exact stopProgress_step hfirst hstep (StatusRuns.writesInOrder hwhole)
      (StatusRuns.lockInv hwhole) hprogress
  rcases hprogress with ⟨call, rest, hcall', hend⟩
  rw [hdone, Option.some.injEq, SystemCall.mk.injEq] at hcall'
  rcases hend with hrest | ⟨_, p, hrest, hstage⟩ | ⟨hkept, hrest, hmarks⟩ | ⟨hkept, p, hrest, hmisses⟩
  · exact absurd (hcall'.2.trans hrest) (Option.some_ne_none _)
  · rw [← Option.some.inj (hcall'.2.trans hrest)] at hstage
    exact hstage.not_done.elim
  · have houtcome := hcall'.2.trans hrest
    rw [Option.some.injEq, Program.done.injEq] at houtcome
    exact ⟨fun _ => hkept, fun _ => ⟨houtcome, hmarks⟩⟩
  · rw [← Option.some.inj (hcall'.2.trans hrest)] at hmisses
    exact ⟨fun h => absurd h.1 hmisses, fun h => absurd h hkept⟩

/-! ### A stop that is undone by its own effect -/

/-- An idle stop of a started sandbox, to where its provider has stopped it. -/
def providerStoppedInputs : List LifecycleInput :=
  startedInputs ++ [.start (idleStop "lease_a")] ++ List.replicate 8 (.advance 5 {})

def inspectInput : LifecycleInput :=
  .advance 5 { provider := .resumableStopped }

/-- A check that is enough for a step to lead to the mark. -/
def keepsStop (pool : LifecyclePool) : LifecycleInput → Bool
  | .advance n ⟨_, _, _, _, _, .arrives⟩ =>
    match pool.calls[n]? with
    | some ⟨_, some (.perform .lockInstance _)⟩ => decide (pool.shared.status = some .stopping)
    | some ⟨_, some (.perform .readSnapshot _)⟩ =>
      decide (pool.shared.attachment.map SandboxRuntimeAttachment.ownerLeaseId = some "lease_a")
    | _ => true
  | .advance _ _ => false
  | _ => true

theorem stopKept_of_keepsStop {n : Nat} {pool : LifecyclePool} {input : LifecycleInput}
    (h : keepsStop pool input = true) : StopKept "lease_a" n pool input := by
  cases input with
  | advance k c =>
      intro hk
      rcases c with ⟨provider, providerFound, idleDeadline, startupFailure, runtimePlanMatches,
        answer⟩
      cases answer with
      | arrives =>
          rw [keepsStop, hk] at h
          refine ⟨rfl, ?_⟩
          split at h
          · exact of_decide_eq_true h
          · exact of_decide_eq_true h
          · trivial
      | fails message => exact absurd h Bool.false_ne_true
      | lost message => exact absurd h Bool.false_ne_true
  | _ => trivial

/-- The stop to where its provider has stopped the sandbox, and from the inspection to its end. -/
structure IdleStopRun (inputs : List LifecycleInput) (outcome : LifecycleOutcome)
    (status : SandboxInstanceStatus) (keeps : Bool)
    (before : List (Entry LifecycleInput LifecycleStepEvent)) (pool : LifecyclePool)
    (out : List LifecycleStepEvent) (mid : LifecyclePool)
    (trace : List (Entry LifecycleInput LifecycleStepEvent)) (pool' : LifecyclePool) : Prop where
  run : (lifecycleSystem "sbi_1").Runs noInstance before pool
  stopped : pool.calls[5]? = some ⟨idleStop "lease_a", some (stoppedRest "sbi_1" "lease_a"
    (some ⟨"lease_a", "session_a"⟩) .stopping)⟩
  inspect : LifecycleStep "sbi_1" pool inspectInput out mid
  executes : execute (lifecycleSystem "sbi_1").step mid inputs = some (trace, pool')
  done : pool'.calls[5]? = some ⟨idleStop "lease_a", some (.done outcome)⟩
  status : pool'.shared.status = some status
  keeps : stepsPass (lifecycleSystem "sbi_1").step keepsStop mid inputs = keeps

theorem exists_idleStopRun {inputs : List LifecycleInput} {outcome : LifecycleOutcome}
    {status : SandboxInstanceStatus} {keeps : Bool}
    (h : executeAround (lifecycleSystem "sbi_1").step noInstance providerStoppedInputs inspectInput
        inputs (fun pool mid pool' => (pool.calls[5]?, pool'.calls[5]?, pool'.shared.status,
          stepsPass (lifecycleSystem "sbi_1").step keepsStop mid inputs)) =
      some (some ⟨idleStop "lease_a", some (stoppedRest "sbi_1" "lease_a"
          (some ⟨"lease_a", "session_a"⟩) .stopping)⟩,
        some ⟨idleStop "lease_a", some (.done outcome)⟩, some status, keeps)) :
    ∃ before pool out mid trace pool',
      IdleStopRun inputs outcome status keeps before pool out mid trace pool' := by
  rcases exists_runs_of_executeAround h with
    ⟨before, pool, out, mid, trace, pool', hrun, hinspect, hexecutes, hread⟩
  rw [Prod.mk.injEq, Prod.mk.injEq, Prod.mk.injEq] at hread
  exact ⟨before, pool, out, mid, trace, pool', hrun, hread.1, hinspect, hexecutes, hread.2.1,
    hread.2.2.1, hread.2.2.2⟩

/-- The session detaches behind the last read of the fence. -/
theorem idle_stop_marks_before_detach :
    ∃ before pool out mid trace pool', IdleStopRun
        [.advance 5 {}, .advance 5 {}, .outside (.detach "lease_a"), .advance 5 {}]
        (stoppedOutcome (some ⟨"lease_a", "session_a"⟩)) .stopped true before pool out mid trace
        pool' ∧
      MarksStopped "sbi_1" 5 mid trace := by
  have hexists : ∃ before pool out mid trace pool', IdleStopRun
      [.advance 5 {}, .advance 5 {}, .outside (.detach "lease_a"), .advance 5 {}]
      (stoppedOutcome (some ⟨"lease_a", "session_a"⟩)) .stopped true before pool out mid trace
      pool' :=
    exists_idleStopRun rfl
  rcases hexists with ⟨before, pool, out, mid, trace, pool', hrun⟩
  have hpasses := everyStep_of_stepsPass _ hrun.executes hrun.keeps
  refine ⟨before, pool, out, mid, trace, pool', hrun, ?_⟩
  refine ((idle_stop_marks_iff "sbi_1" "lease_a" (some ⟨"lease_a", "session_a"⟩) hrun.run
    hrun.stopped rfl rfl hrun.inspect (execute_run _ hrun.executes) hrun.done).mpr ?_).2
  exact fun first input out rest t htrace hfirst =>
    stopKept_of_keepsStop (hpasses first input out rest t htrace hfirst)

/-- The session detaches before the last read of the fence, and the instance stays stopping. -/
theorem idle_stop_undone :
    ∃ before pool out mid trace pool', IdleStopRun
      [.outside (.detach "lease_a"), .advance 5 {}, .advance 5 {}, .advance 5 {}]
      (.ok (.stop ⟨false, .runtimeStateFenceBeforeMark, none, none⟩)) .stopping false before pool
      out mid trace pool' :=
  exists_idleStopRun rfl

end Mistle
