import Mistle.SessionClient.OneStream

/-!
# How an Open Ends

A call of `openStream` asks for a stream and then waits: for an answer, for the timer, for
the send to fail, or for the connection to end. Whichever comes first settles the promise,
and what comes later finds nothing to settle. So a promise settles once, and as long as it has
not, its timer is armed or its answer is in hand.

The price is paid on the other side. Once `openStream` has failed, the transport has nothing
on the stream any more: it sends nothing for it, whatever comes in. A stream that the sandbox
opened after the timer went off is never closed.

## Main definitions

* `TransportOutput.isAsk`, `TransportOutput.isAnswer`, `TransportOutput.isSend`: Outputs about an
  open.
* `Accounted`: An open has been answered, or waits.
* `StreamView.Forgotten`: The transport has nothing on a stream that it made.

## Theorems

* `open_settles_once`: Each promise settles once.
* `nothing_sent_after_failure`: An open that has failed is not closed.
-/

namespace Mistle

namespace SessionClient

/-- `openStream` asks for the stream. -/
def TransportOutput.isAsk (id : Nat) : TransportOutput → Bool
  | .sendsControl _ (.streamOpen streamId _) => streamId = id
  | _ => false

/-- The promise of the stream's `openStream` is settled. -/
def TransportOutput.isAnswer (id : Nat) : TransportOutput → Bool
  | .opens streamId _ => streamId = id
  | _ => false

/-- A control message or a data frame is sent. -/
def TransportOutput.isSend : TransportOutput → Bool
  | .sendsControl _ _ | .sendsBinary _ _ => true
  | _ => false

def asks (id : Nat) (out : List TransportOutput) : Nat := out.countP (TransportOutput.isAsk id)

def answers (id : Nat) (out : List TransportOutput) : Nat :=
  out.countP (TransportOutput.isAnswer id)

section

variable {id gained : Nat} {socket : Option Nat} {v v' : StreamView}
  {out more : List TransportOutput}

@[simp] theorem asks_append : asks id (out ++ more) = asks id out + asks id more :=
  List.countP_append

@[simp] theorem answers_append : answers id (out ++ more) = answers id out + answers id more :=
  List.countP_append

/-- What is said of a stream counts among the outputs that bear its id. -/
theorem asks_about : asks id (about id out) = asks id out := by
  refine (List.countP_filter ..).trans (List.countP_congr fun o _ => ?_)
  rw [Bool.and_eq_true, and_iff_left_iff_imp]
  intro h
  cases o with
  | sendsControl n message =>
      cases message with
      | streamOpen streamId channel => exact decide_eq_true (congrArg some (of_decide_eq_true h))
      | _ => exact absurd h Bool.false_ne_true
  | _ => exact absurd h Bool.false_ne_true

theorem answers_about : answers id (about id out) = answers id out := by
  refine (List.countP_filter ..).trans (List.countP_congr fun o _ => ?_)
  rw [Bool.and_eq_true, and_iff_left_iff_imp]
  intro h
  cases o with
  | opens streamId result => exact decide_eq_true (congrArg some (of_decide_eq_true h))
  | _ => exact absurd h Bool.false_ne_true

/-! ### Each promise settles once -/

/-- An open that was asked for has been answered, or is pending, or its answer waits for
    `openStream` to go on. -/
structure Accounted (id : Nat) (out : List TransportOutput) (v : StreamView) : Prop where
  balance : answers id out + v.pending.toNat + v.settled.isSome.toNat = asks id out
  once : asks id out ≤ 1
  new : v.made = false → asks id out = 0

/-- A step that neither asks nor answers, and leaves what waits as it is. -/
theorem Accounted.of_same (h : Accounted id out v) (hasks : asks id more = 0)
    (hanswers : answers id more = 0) (hmade : v'.made = v.made) (hpending : v'.pending = v.pending)
    (hsettled : v'.settled = v.settled) : Accounted id (out ++ more) v' where
  balance := by
    rw [asks_append, answers_append, hasks, hanswers, hpending, hsettled]
    exact h.balance
  once := by
    rw [asks_append, hasks]
    exact h.once
  new hnew := by
    rw [asks_append, hasks]
    exact h.new (hmade ▸ hnew)

/-- An open whose answer is in hand is answered. -/
theorem Accounted.answered (h : Accounted id out v) {result : Except OpenFailure Unit}
    (hsettled : v.settled = some result) (hmade : v'.made = v.made)
    (hpending : v'.pending = v.pending) (hnone : v'.settled = none) :
    Accounted id (out ++ [.opens id result]) v' := by
  have hask : asks id [.opens id result] = 0 := rfl
  have hanswer : answers id [.opens id result] = 1 :=
    List.countP_cons_of_pos (decide_eq_true rfl)
  have hbalance := h.balance
  rw [hsettled, Option.isSome_some, Bool.toNat_true] at hbalance
  refine ⟨?_, ?_, fun hnew => ?_⟩
  · rw [asks_append, answers_append, hask, hanswer, hpending, hnone, Option.isSome_none,
      Bool.toNat_false]
    omega
  · rw [asks_append, hask]
    exact h.once
  · rw [asks_append, hask]
    exact h.new (hmade ▸ hnew)

theorem Accounted.step (h : Accounted id out v) (hstep : StreamStep id socket gained v more v') :
    Accounted id (out ++ more) v' := by
  have hbalance := h.balance
  have honce := h.once
  cases hstep with
  | same => exact h.of_same rfl rfl rfl rfl rfl
  | @asks _ n channel hsocket hnew =>
      have hnone := h.new hnew
      have hask : asks id [.sendsControl n (.streamOpen id channel)] = 1 :=
        List.countP_cons_of_pos (decide_eq_true rfl)
      have hanswer : answers id [.sendsControl n (.streamOpen id channel)] = 0 := rfl
      refine ⟨?_, ?_, fun hmade => absurd hmade Bool.noConfusion⟩
      · rw [asks_append, answers_append, hask, hanswer, hnone]
        simp only [Bool.toNat_true]
        omega
      · rw [asks_append, hask, hnone]
  | settles result hpending =>
      rw [List.append_nil]
      refine ⟨?_, honce, h.new⟩
      rw [hpending, Bool.toNat_true] at hbalance
      simp only [Bool.toNat_false, Option.isSome_some, Bool.toNat_true]
      omega
  | opens hsettled => exact h.answered hsettled rfl rfl rfl
  | givesUp failure hsettled => exact h.answered hsettled rfl rfl rfl
  | sends message hsocket hwindow =>
      refine h.of_same ?_ rfl rfl rfl rfl
      cases message with
      | close => rfl
      | signal signal => rfl
      | window bytes => rfl
  | pays payload payloadKind encoded => exact h.of_same rfl rfl rfl rfl rfl
  | wastes => exact h.of_same rfl rfl rfl rfl rfl
  | gains bytes hwindow hfits => exact h.of_same rfl rfl rfl rfl rfl
  | ends pending settled hanswer =>
      rw [List.append_nil]
      refine ⟨?_, honce, h.new⟩
      rcases hanswer with ⟨hpending, hsettled⟩ | ⟨hwaits, hpending, failure, hsettled⟩
      · rw [hpending, hsettled]
        exact hbalance
      · rw [hwaits, Bool.toNat_true] at hbalance
        rw [hpending, hsettled, Bool.toNat_false, Option.isSome_some, Bool.toNat_true]
        omega

theorem accounted_of_run {trace : List (Entry TransportInput TransportOutput)} {t : Transport}
    (run : Run Steps .new trace t) (id : Nat) :
    Accounted id (about id (outputs trace)) (t.view id) :=
  view_of_run ⟨rfl, Nat.zero_le 1, fun _ => rfl⟩ (fun _ _ _ _ _ _ h hstep => h.step hstep) run

/-- Along every run, an `openStream` that has asked for its stream settles at most once. As long as
    it has not, exactly one of two things is the case: its timer is armed, so that it will go off,
    or its answer is in hand. -/
theorem open_settles_once {trace : List (Entry TransportInput TransportOutput)} {t : Transport}
    (run : Run Steps .new trace t) (id : Nat) :
    asks id (outputs trace) ≤ 1 ∧ answers id (outputs trace) ≤ asks id (outputs trace) ∧
      (answers id (outputs trace) < asks id (outputs trace) ↔
        (t.allows (.openTimesOut id) = true ∨ t.allows (.openStreamGoesOn id) = true)) ∧
      ¬ (t.allows (.openTimesOut id) = true ∧ t.allows (.openStreamGoesOn id) = true) := by
  have h := accounted_of_run run id
  have hbalance := h.balance
  have honce := h.once
  rw [asks_about, answers_about] at hbalance
  rw [asks_about] at honce
  have htimer : t.allows (.openTimesOut id) = (t.view id).pending :=
    Bool.eq_iff_iff.mpr (InsertionMap.has_iff.trans InsertionMap.isSome_get?_iff.symm)
  have hgoesOn : t.allows (.openStreamGoesOn id) = (t.view id).settled.isSome :=
    Bool.eq_iff_iff.mpr (InsertionMap.has_iff.trans InsertionMap.isSome_get?_iff.symm)
  rw [htimer, hgoesOn]
  generalize (t.view id).pending = pending at hbalance ⊢
  generalize (t.view id).settled.isSome = settled at hbalance ⊢
  cases pending with
  | false =>
      cases settled with
      | false =>
          simp only [Bool.toNat_false, Bool.false_eq_true, or_self, and_self, iff_false,
            not_false_eq_true, and_true] at hbalance ⊢
          omega
      | true =>
          simp only [Bool.toNat_false, Bool.toNat_true, Bool.false_eq_true, or_true,
            iff_true, not_false_eq_true, and_true] at hbalance ⊢
          omega
  | true =>
      cases settled with
      | false =>
          simp only [Bool.toNat_false, Bool.toNat_true, Bool.false_eq_true, or_false, and_false,
            iff_true, not_false_eq_true, and_true] at hbalance ⊢
          omega
      | true =>
          simp only [Bool.toNat_true] at hbalance
          omega

/-- A stream that is opened: its promise settles when `openStream` goes on. -/
theorem open_settles_once_opened :
    ∃ trace t, Run Steps .new trace t ∧ asks 1 (outputs trace) = 1 ∧
      answers 1 (outputs trace) = 1 ∧ answers 1 (outputs trace) ≤ asks 1 (outputs trace) := by
  have hexecutes : executesTo step .new
      [.connect (.ok ()), .socketOpens 0, .openStream .agent,
        .receives 0 (.control (.streamOpenOk 1)), .openStreamGoesOn 1]
      (fun trace _ => asks 1 (outputs trace) = 1 ∧ answers 1 (outputs trace) = 1) = true := by
    decide +kernel
  rcases exists_run_of_executesTo hexecutes with ⟨trace, t, run, _, hcheck⟩
  rcases of_decide_eq_true hcheck with ⟨hasks, hanswers⟩
  exact ⟨trace, t, run, hasks, hanswers, (open_settles_once run 1).2.1⟩

/-! ### An open that has failed -/

/-- The transport has nothing on a stream that it made. -/
structure StreamView.Forgotten (v : StreamView) : Prop where
  made : v.made = true
  pending : v.pending = false
  window : v.window = none
  settled : v.settled = none

/-- What is forgotten stays so, and nothing is sent for it. -/
theorem StreamView.Forgotten.step (h : v.Forgotten)
    (hstep : StreamStep id socket gained v more v') : v'.Forgotten ∧ more = [] := by
  have hwindow : ∀ {w : Nat}, v.window ≠ some w := by
    intro w hsome
    rw [h.window] at hsome
    exact Option.some_ne_none w hsome.symm
  have hsettled : ∀ {result}, v.settled ≠ some result := by
    intro result hsome
    rw [h.settled] at hsome
    exact Option.some_ne_none result hsome.symm
  cases hstep with
  | same => exact ⟨h, rfl⟩
  | asks channel hsocket hnew => exact absurd (hnew.symm.trans h.made) Bool.false_ne_true
  | settles result hpending => exact absurd (h.pending.symm.trans hpending) Bool.false_ne_true
  | opens hsome => exact absurd hsome hsettled
  | givesUp failure hsome => exact absurd hsome hsettled
  | sends message hsocket hsome => exact absurd hsome hwindow
  | pays payload payloadKind encoded hsocket hsome => exact absurd hsome hwindow
  | wastes paid hsome => exact absurd hsome hwindow
  | gains bytes hsome => exact absurd hsome hwindow
  | ends pending settled hanswer =>
      rcases hanswer with ⟨hpending, hsame⟩ | ⟨hwaits, _⟩
      · exact ⟨⟨h.made, hpending.trans h.pending, rfl, hsame.trans h.settled⟩, rfl⟩
      · exact absurd (h.pending.symm.trans hwaits) Bool.false_ne_true

/-- Only an `openStream` that goes on fails. -/
theorem givesUp_of_mem {failure : OpenFailure} (hstep : StreamStep id socket gained v more v')
    (hmem : .opens id (.error failure) ∈ more) : v.settled = some (.error failure) ∧
      v' = { v with settled := none, window := none } := by
  have hother : ∀ {o : TransportOutput}, o.isAnswer id = false →
      .opens id (.error failure) ∉ [o] := by
    intro o ho hsingle
    rw [← List.mem_singleton.mp hsingle] at ho
    exact Bool.false_ne_true (ho.symm.trans (decide_eq_true rfl))
  cases hstep with
  | opens hsettled =>
      exact absurd (List.mem_singleton.mp hmem) (by
        simp only [TransportOutput.opens.injEq, reduceCtorEq, and_false, not_false_eq_true])
  | givesUp failure' hsettled =>
      have hsame := List.mem_singleton.mp hmem
      simp only [TransportOutput.opens.injEq, Except.error.injEq, true_and] at hsame
      rw [hsame]
      exact ⟨hsettled, rfl⟩
  | asks channel hsocket hnew => exact absurd hmem (hother rfl)
  | sends message hsocket hsome => exact absurd hmem (hother rfl)
  | pays payload payloadKind encoded hsocket hsome => exact absurd hmem (hother rfl)
  | _ => exact absurd hmem List.not_mem_nil

/-- A stream whose open has failed is forgotten. -/
theorem forgotten_of_failed {trace : List (Entry TransportInput TransportOutput)} {t : Transport}
    (run : Run Steps .new trace t) {failure : OpenFailure}
    (hfailed : .opens id (.error failure) ∈ outputs trace) : (t.view id).Forgotten := by
  have hinv : Accounted id (about id (outputs trace)) (t.view id) ∧
      (.opens id (.error failure) ∈ about id (outputs trace) → (t.view id).Forgotten) := by
    refine view_of_run (P := fun out v => Accounted id out v ∧
      (.opens id (.error failure) ∈ out → v.Forgotten)) ?_ ?_ run
    · exact ⟨⟨rfl, Nat.zero_le 1, fun _ => rfl⟩, fun hmem => absurd hmem List.not_mem_nil⟩
    · rintro out socket gained v more v' ⟨haccounted, hforgotten⟩ hstep
      refine ⟨haccounted.step hstep, fun hmem => ?_⟩
      rcases List.mem_append.mp hmem with hbefore | hnow
      · exact ((hforgotten hbefore).step hstep).1
      · rcases givesUp_of_mem hstep hnow with ⟨hsettled, hv'⟩
        have hbalance := haccounted.balance
        have honce := haccounted.once
        rw [hsettled, Option.isSome_some, Bool.toNat_true] at hbalance
        -- The open was asked for once and is settled, so it is not pending.
        have hpending : v.pending = false := by
          cases hp : v.pending with
          | false => rfl
          | true =>
              rw [hp, Bool.toNat_true] at hbalance
              omega
        have hmade : v.made = true := by
          cases hm : v.made with
          | true => rfl
          | false =>
              have hnone := haccounted.new hm
              omega
        rw [hv']
        exact ⟨hmade, hpending, rfl, rfl⟩
  exact hinv.2 (List.mem_filter.mpr ⟨hfailed, decide_eq_true rfl⟩)

end

/-- An `openStream` that has failed leaves its stream as it may be on the other side: along every
    run that goes on, nothing is sent that bears the stream's id, so a stream that was opened all
    the same, or is opened later, is never closed. -/
theorem nothing_sent_after_failure {id : Nat} {failure : OpenFailure}
    {before after : List (Entry TransportInput TransportOutput)} {s t : Transport}
    (run : Run Steps .new before s) (hfailed : .opens id (.error failure) ∈ outputs before)
    (later : Run Steps s after t) :
    ∀ o ∈ outputs after, o.isSend = true → o.streamId? ≠ some id := by
  have hinv : (t.view id).Forgotten ∧
      ∀ o ∈ outputs after, o.isSend = true → o.streamId? ≠ some id := by
    refine later.history (P := fun trace t => (t.view id).Forgotten ∧
      ∀ o ∈ outputs trace, o.isSend = true → o.streamId? ≠ some id) ?_ ?_
    · exact ⟨forgotten_of_failed run hfailed, fun o ho => absurd ho List.not_mem_nil⟩
    · rintro trace a input out b _ ⟨hforgotten, hquiet⟩ hstep
      rcases streamStep_of_steps hstep with ⟨gained, hacts, _⟩
      have hnext := hforgotten.step hacts
      refine ⟨hnext.1, fun o ho hsend hbears => ?_⟩
      rw [outputs_append, outputs_singleton] at ho
      rcases List.mem_append.mp ho with hbefore | hnow
      · exact hquiet o hbefore hsend hbears
      · have habout : o ∈ about id out := List.mem_filter.mpr ⟨hnow, decide_eq_true hbears⟩
        rw [hnext.2] at habout
        exact absurd habout List.not_mem_nil
  exact hinv.2

/-- The timer goes off before the sandbox has opened the stream: the answer finds nobody, and no
    close follows it. -/
theorem nothing_sent_after_failure_late_answer :
    ∃ before s after t, Run Steps .new before s ∧ Run Steps s after t ∧
      outputs after = [.emits (.unhandledControl (.streamOpenOk 1))] ∧
      ∀ o ∈ outputs after, o.isSend = true → o.streamId? ≠ some 1 := by
  have hexecutes : executesTo step .new
      [.connect (.ok ()), .socketOpens 0, .openStream .agent, .openTimesOut 1, .openStreamGoesOn 1]
      (fun trace s => .opens 1 (.error (.message
          "Timed out waiting for stream.open acknowledgement for stream 1.")) ∈ outputs trace ∧
        executesTo step s [.receives 0 (.control (.streamOpenOk 1))]
          (fun after _ => outputs after = [.emits (.unhandledControl (.streamOpenOk 1))]) = true) =
      true := by decide +kernel
  rcases exists_run_of_executesTo hexecutes with ⟨before, s, run, _, hcheck⟩
  rcases of_decide_eq_true hcheck with ⟨hfailed, hlater⟩
  rcases exists_run_of_executesTo hlater with ⟨after, t, later, _, hafter⟩
  exact ⟨before, s, after, t, run, later, of_decide_eq_true hafter,
    nothing_sent_after_failure run hfailed later⟩

end SessionClient

end Mistle
