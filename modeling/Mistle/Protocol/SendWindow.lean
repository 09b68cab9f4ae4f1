import Mathlib.Algebra.BigOperators.Group.List.Basic
import Mathlib.Algebra.Ring.Nat
import Mistle.Lib.Run
import Mistle.Protocol.Types

/-!
# Send Windows Over Their Lifetime

The byte credit of a stream goes up by what the peer grants and down by what is
sent. Both operations check before they assign, so a call that is refused leaves
the credit as it was, and the credit is at every moment what it started with plus
the grants that were accepted minus the payloads that were.

The check of a grant compares the credit with the room that the maximum leaves
behind the grant, and that subtraction saturates. A grant larger than the maximum
leaves no room at all, which refuses it on top of any credit except none. This is
the one grant that goes past the maximum: on an empty window the comparison holds
between zero and zero, whatever the size of the grant.

## Main definitions

* `SendWindowCall`, `SendWindowCall.perform`: The two operations, and what they answer.
* `credited`, `consumed`: The bytes of the accepted calls of a trace.
* `StreamSendWindow.WithinMax`: A credit within the maximum.
* `KeepsCredit`: The law of a window over a trace.
* `GrantsWithin`: No grant above the maximum on an empty window.

## Theorems

* `SendWindowCall.perform_cases`: What a call does.
* `SendWindowCall.Step.lt`: A machine word that holds the operands holds the credit.
* `availableBytes_of_run`: The credit is the balance of the accepted calls.
* `add_le_max_iff`: Which grants keep the credit within the maximum.
* `keepsCredit_iff`: The law holds exactly when no grant above the maximum meets an
  empty window.
-/

namespace Mistle

/-- A call of a window. -/
inductive SendWindowCall where
  | add (bytes : Nat)
  | tryConsume (bytes : Nat)
  deriving DecidableEq

/-- What a call leaves, with whether it was accepted. -/
def SendWindowCall.perform (window : StreamSendWindow) :
    SendWindowCall → Option (StreamSendWindow × List Bool)
  | .add bytes =>
    match window.add bytes with
    | .ok window => some (window, [true])
    | .error _ => some (window, [false])
  | .tryConsume bytes =>
    match window.tryConsume bytes with
    | some window => some (window, [true])
    | none => some (window, [false])

/-- The calls of a window, one after the other. -/
def SendWindowCall.Step (window : StreamSendWindow) (call : SendWindowCall) (answers : List Bool)
    (next : StreamSendWindow) : Prop :=
  call.perform window = some (next, answers)

/-- The bytes that a call added, where it was an add and was accepted. -/
def creditOf : Entry SendWindowCall Bool → Nat
  | ⟨.add bytes, [true]⟩ => bytes
  | _ => 0

/-- The bytes that a call consumed, where it was a consumption and was accepted. -/
def debitOf : Entry SendWindowCall Bool → Nat
  | ⟨.tryConsume bytes, [true]⟩ => bytes
  | _ => 0

def credited (trace : List (Entry SendWindowCall Bool)) : Nat :=
  (trace.map creditOf).sum

def consumed (trace : List (Entry SendWindowCall Bool)) : Nat :=
  (trace.map debitOf).sum

/-- The credit is within the maximum. -/
def StreamSendWindow.WithinMax (window : StreamSendWindow) : Prop :=
  window.availableBytes ≤ maxStreamWindowBytes

/-- The law of a window over the calls of a trace: the credit stays within the maximum and is
    the balance of the accepted calls, and a call that is refused leaves it unchanged. -/
structure KeepsCredit (start : StreamSendWindow) (trace : List (Entry SendWindowCall Bool)) :
    Prop where
  bounded : EveryState SendWindowCall.Step start trace StreamSendWindow.WithinMax
  balance : ∀ before after window, trace = before ++ after →
    Run SendWindowCall.Step start before window →
    window.availableBytes + consumed before = start.availableBytes + credited before
  refused : EveryStep SendWindowCall.Step start trace fun window call answers =>
    answers = [false] → ∀ next, SendWindowCall.Step window call answers next → next = window

/-- A grant of more than the maximum does not meet an empty window. -/
def GrantsWithin (window : StreamSendWindow) (call : SendWindowCall) : Prop :=
  ∀ bytes, call = .add bytes → window.availableBytes = 0 → bytes ≤ maxStreamWindowBytes

@[simp] theorem credited_nil : credited [] = 0 := rfl

@[simp] theorem consumed_nil : consumed [] = 0 := rfl

@[simp] theorem credited_snoc (trace : List (Entry SendWindowCall Bool))
    (entry : Entry SendWindowCall Bool) :
    credited (trace ++ [entry]) = credited trace + creditOf entry := by
  simp [credited]

@[simp] theorem consumed_snoc (trace : List (Entry SendWindowCall Bool))
    (entry : Entry SendWindowCall Bool) :
    consumed (trace ++ [entry]) = consumed trace + debitOf entry := by
  simp [consumed]

/-- A grant is refused when it is empty, or when the credit is more than the maximum leaves
    room for. -/
theorem StreamSendWindow.add_cases (window : StreamSendWindow) (bytes : Nat) :
    (window.add bytes = .ok ⟨window.availableBytes + bytes⟩ ∧ 0 < bytes ∧
        window.availableBytes ≤ maxStreamWindowBytes - bytes) ∨
      ∃ error, window.add bytes = .error error ∧
        (bytes = 0 ∨ maxStreamWindowBytes - bytes < window.availableBytes) := by
  unfold add
  by_cases hzero : bytes = 0
  · rw [if_pos hzero]
    exact .inr ⟨_, rfl, .inl hzero⟩
  · rw [if_neg hzero]
    by_cases hfull : window.availableBytes > maxStreamWindowBytes - bytes
    · rw [if_pos hfull]
      exact .inr ⟨_, rfl, .inr hfull⟩
    · rw [if_neg hfull]
      exact .inl ⟨rfl, by omega, by omega⟩

theorem StreamSendWindow.tryConsume_cases (window : StreamSendWindow) (bytes : Nat) :
    (window.tryConsume bytes = some ⟨window.availableBytes - bytes⟩ ∧
        bytes ≤ window.availableBytes) ∨
      (window.tryConsume bytes = none ∧ window.availableBytes < bytes) := by
  unfold tryConsume
  by_cases hmore : bytes > window.availableBytes
  · rw [if_pos hmore]
    exact .inr ⟨rfl, hmore⟩
  · rw [if_neg hmore]
    exact .inl ⟨rfl, by omega⟩

/-- What a call does: an accepted add, an accepted consumption, or nothing. -/
theorem SendWindowCall.perform_cases {window next : StreamSendWindow} {call : SendWindowCall}
    {answers : List Bool} (h : Step window call answers next) :
    (∃ bytes, call = .add bytes ∧ answers = [true] ∧
        window.availableBytes ≤ maxStreamWindowBytes - bytes ∧
        next.availableBytes = window.availableBytes + bytes) ∨
      (∃ bytes, call = .tryConsume bytes ∧ answers = [true] ∧
        bytes ≤ window.availableBytes ∧
        next.availableBytes + bytes = window.availableBytes) ∨
      (answers = [false] ∧ next = window ∧
        ∀ bytes, call = .add bytes → 0 < bytes →
          maxStreamWindowBytes - bytes < window.availableBytes) := by
  unfold Step at h
  cases call with
  | add bytes =>
      rcases window.add_cases bytes with ⟨hadd, _, hroom⟩ | ⟨error, hadd, hwhy⟩
      · simp only [perform, hadd, Option.some.injEq, Prod.mk.injEq] at h
        exact .inl ⟨bytes, rfl, h.2.symm, hroom, by rw [← h.1]⟩
      · simp only [perform, hadd, Option.some.injEq, Prod.mk.injEq] at h
        refine .inr (.inr ⟨h.2.symm, h.1.symm, ?_⟩)
        intro bytes' hbytes hpos
        injection hbytes with hbytes
        omega
  | tryConsume bytes =>
      rcases window.tryConsume_cases bytes with ⟨htry, hle⟩ | ⟨htry, _⟩
      · simp only [perform, htry, Option.some.injEq, Prod.mk.injEq] at h
        refine .inr (.inl ⟨bytes, rfl, h.2.symm, hle, ?_⟩)
        rw [← h.1]
        exact Nat.sub_add_cancel hle
      · simp only [perform, htry, Option.some.injEq, Prod.mk.injEq] at h
        exact .inr (.inr ⟨h.2.symm, h.1.symm, fun _ hcall => by injection hcall⟩)

/-- A step moves the credit by what its entry says. -/
theorem SendWindowCall.Step.balance {window next : StreamSendWindow} {call : SendWindowCall}
    {answers : List Bool} (h : Step window call answers next) :
    next.availableBytes + debitOf ⟨call, answers⟩
      = window.availableBytes + creditOf ⟨call, answers⟩ := by
  rcases perform_cases h with ⟨bytes, hcall, hanswers, _, hnext⟩ |
    ⟨bytes, hcall, hanswers, _, hnext⟩ | ⟨hanswers, hnext, _⟩
  · rw [hcall, hanswers, hnext]
    rfl
  · rw [hcall, hanswers]
    exact hnext
  · rw [hanswers, hnext]
    cases call <;> rfl

/-- The credit of a window is what it started with and the balance of the accepted calls. -/
theorem availableBytes_of_run {start window : StreamSendWindow}
    {trace : List (Entry SendWindowCall Bool)}
    (run : Run SendWindowCall.Step start trace window) :
    window.availableBytes + consumed trace = start.availableBytes + credited trace := by
  induction run with
  | nil => rfl
  | snoc _ last ih =>
      have hlast := last.balance
      rw [consumed_snoc, credited_snoc]
      omega

/-- The sum of an accepted add never leaves the range that its operands are in, as long as
    the maximum is in it. -/
theorem SendWindowCall.Step.lt {window next : StreamSendWindow} {call : SendWindowCall}
    {answers : List Bool} {limit : Nat} (h : Step window call answers next)
    (hlimit : maxStreamWindowBytes < limit) (hwindow : window.availableBytes < limit)
    (hcall : ∀ bytes, call = .add bytes → bytes < limit) : next.availableBytes < limit := by
  rcases perform_cases h with ⟨bytes, hadd, _, hroom, hnext⟩ |
    ⟨bytes, _, _, _, hnext⟩ | ⟨_, hnext, _⟩
  · have hbytes := hcall bytes hadd
    omega
  · omega
  · rw [hnext]
    exact hwindow

/-- A call that is refused leaves the window unchanged. -/
theorem SendWindowCall.Step.refused {window next : StreamSendWindow} {call : SendWindowCall}
    {answers : List Bool} (h : Step window call answers next) (hrefused : answers = [false]) :
    next = window := by
  rcases perform_cases h with ⟨_, _, hanswers, _⟩ | ⟨_, _, hanswers, _⟩ | ⟨_, hnext, _⟩
  · exact absurd (hanswers.symm.trans hrefused) (by decide)
  · exact absurd (hanswers.symm.trans hrefused) (by decide)
  · exact hnext

/-- From a credit within the maximum, a call leaves one within the maximum unless it grants
    more than that to an empty window. -/
theorem add_le_max_iff {window next : StreamSendWindow} {call : SendWindowCall}
    {answers : List Bool} (hwithin : window.WithinMax)
    (h : SendWindowCall.Step window call answers next) :
    next.WithinMax ↔ GrantsWithin window call := by
  unfold StreamSendWindow.WithinMax at hwithin ⊢
  rcases SendWindowCall.perform_cases h with ⟨bytes, hcall, _, hroom, hnext⟩ |
    ⟨bytes, hcall, _, hle, hnext⟩ | ⟨_, hnext, hroom⟩
  · rw [hnext]
    constructor
    · intro hle bytes' hbytes _
      rw [hcall] at hbytes
      injection hbytes with hbytes
      omega
    · intro hgrants
      -- A grant above the maximum is accepted only where there is no credit.
      by_cases hempty : window.availableBytes = 0
      · have hbytes := hgrants bytes hcall hempty
        omega
      · omega
  · constructor
    · intro _ bytes' hbytes
      exact absurd (hcall.symm.trans hbytes) (by simp)
    · intro _
      omega
  · rw [hnext]
    refine ⟨fun _ bytes hcall hempty => ?_, fun _ => hwithin⟩
    -- A grant that an empty window refuses is the empty grant.
    by_cases hpos : 0 < bytes
    · have hless := hroom bytes hcall hpos
      omega
    · omega

/-- The law of a window holds over a run exactly when no grant of more than the maximum
    is made to an empty window. -/
theorem keepsCredit_iff {start window : StreamSendWindow}
    {trace : List (Entry SendWindowCall Bool)}
    (hstart : start.WithinMax)
    (run : Run SendWindowCall.Step start trace window) :
    KeepsCredit start trace ↔
      EveryStep SendWindowCall.Step start trace fun window call _ => GrantsWithin window call := by
  have hfunctional : Functional SendWindowCall.Step :=
    functional_of_step fun (window : StreamSendWindow) (call : SendWindowCall) =>
      call.perform window
  have hbounded : EveryState SendWindowCall.Step start trace StreamSendWindow.WithinMax ↔
      EveryStep SendWindowCall.Step start trace fun window call _ => GrantsWithin window call := by
    rw [everyState_iff hstart]
    refine run.everyStep_iff_of_invariant hfunctional hstart ?_ ?_
    · intro a call answers b _ hstep hwithin
      exact hwithin b hstep
    · intro a call answers b ha hstep
      constructor
      · intro hwithin
        exact (add_le_max_iff ha hstep).mp (hwithin b hstep)
      · intro hgrants c hc
        exact (add_le_max_iff ha hc).mpr hgrants
  constructor
  · intro h
    exact hbounded.mp h.bounded
  · intro h
    refine ⟨hbounded.mpr h, ?_, ?_⟩
    · intro before _ window' _ run'
      exact availableBytes_of_run run'
    · intro _ _ _ _ _ _ _ hrefused next hstep
      exact hstep.refused hrefused

/-- A window that is spent and granted in turn, within the maximum. -/
theorem keepsCredit_iff_spent_and_granted :
    ∃ trace window, Run SendWindowCall.Step ⟨maxStreamWindowBytes⟩ trace window ∧
      (KeepsCredit ⟨maxStreamWindowBytes⟩ trace ↔
        EveryStep SendWindowCall.Step ⟨maxStreamWindowBytes⟩ trace
          fun window call _ => GrantsWithin window call) := by
  have hconsume : SendWindowCall.Step ⟨maxStreamWindowBytes⟩ (.tryConsume maxStreamWindowBytes)
      [true] ⟨0⟩ := rfl
  have hadd : SendWindowCall.Step ⟨0⟩ (.add maxStreamWindowBytes) [true]
      ⟨maxStreamWindowBytes⟩ := rfl
  have run := (Run.single hconsume).trans (Run.single hadd)
  exact ⟨_, _, run, keepsCredit_iff (Nat.le_refl maxStreamWindowBytes) run⟩

/-- A window that is spent to the last byte takes a grant of one more than the maximum. -/
theorem grant_past_max :
    ¬ ∀ (start window : StreamSendWindow) (trace : List (Entry SendWindowCall Bool)),
      start.WithinMax →
      Run SendWindowCall.Step start trace window → KeepsCredit start trace := by
  intro h
  have hconsume : SendWindowCall.Step ⟨maxStreamWindowBytes⟩ (.tryConsume maxStreamWindowBytes)
      [true] ⟨0⟩ := rfl
  have hadd : SendWindowCall.Step ⟨0⟩ (.add (maxStreamWindowBytes + 1)) [true]
      ⟨maxStreamWindowBytes + 1⟩ := rfl
  have run := (Run.single hconsume).trans (Run.single hadd)
  have hkeeps := h ⟨maxStreamWindowBytes⟩ _ _ (Nat.le_refl _) run
  have hlast := hkeeps.bounded _ [] _ (List.append_nil _).symm run
  exact absurd hlast (by unfold StreamSendWindow.WithinMax; decide)

end Mistle
