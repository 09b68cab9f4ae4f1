import Mathlib.Algebra.BigOperators.Group.List.Basic
import Mathlib.Algebra.Ring.Nat
import Mathlib.Tactic.Common

/-!
# Debts Settled in Order

Debts are taken on one after the other and paid oldest first. A payment settles whole
debts from the front of the queue and, where it ends within one, lessens that one. What
was taken on then splits into a part that is settled, at most one debt that is settled in
part, and a part that is untouched, and no amount is counted twice.

A debt of nothing is settled by the next payment that comes to it, so the queue may keep
it at its front although all before it is paid.

## Main definitions

* `Debt`: What has an amount that can be lessened.
* `Debt.owed`: The amount of a queue.
* `Debt.settle`: Paying oldest first.
* `Debt.Settled`: What is left of the debts taken on, with what was paid.

## Theorems

* `Debt.Settled.balance`: What is left and what was paid is what was taken on.
* `Debt.Settled.snoc`: A debt is taken on behind the others.
* `Debt.Settled.settle`: A payment goes on where the last one ended.
-/

namespace Mistle

/-- Things with an amount that can be lessened. -/
structure Debt (α : Type) where
  amount : α → Nat
  lessen : α → Nat → α
  amount_lessen : ∀ debt paid, amount (lessen debt paid) = amount debt - paid
  lessen_lessen : ∀ debt paid more, lessen (lessen debt paid) more = lessen debt (paid + more)

namespace Debt

variable {α : Type} (kind : Debt α)

def owed (debts : List α) : Nat := (debts.map kind.amount).sum

/-- What is left of a queue after a payment. -/
def settle : Nat → List α → List α
  | _, [] => []
  | paid, debt :: rest =>
    if paid = 0 then debt :: rest
    else if kind.amount debt ≤ paid then settle (paid - kind.amount debt) rest
    else kind.lessen debt paid :: rest

/-- Of the debts taken on, in order, `paid` was paid and the last list is left. -/
inductive Settled : List α → Nat → List α → Prop
  | whole (done rest : List α) : Settled (done ++ rest) (kind.owed done) rest
  | within (done : List α) (debt : α) (paid : Nat) (rest : List α) (hpos : 0 < paid)
      (hless : paid < kind.amount debt) :
      Settled (done ++ debt :: rest) (kind.owed done + paid) (kind.lessen debt paid :: rest)

@[simp] theorem owed_nil : kind.owed [] = 0 := rfl

@[simp] theorem owed_cons (debt : α) (rest : List α) :
    kind.owed (debt :: rest) = kind.amount debt + kind.owed rest := by
  simp [owed]

@[simp] theorem owed_append (before after : List α) :
    kind.owed (before ++ after) = kind.owed before + kind.owed after := by
  simp [owed]

@[simp] theorem settle_zero (debts : List α) : kind.settle 0 debts = debts := by
  cases debts with
  | nil => rfl
  | cons debt rest => rw [settle, if_pos rfl]

variable {kind}

theorem Settled.none (kind : Debt α) (debts : List α) : kind.Settled debts 0 debts :=
  .whole [] debts

/-- What is left and what was paid is what was taken on. -/
theorem Settled.balance {debts left : List α} {paid : Nat} (h : kind.Settled debts paid left) :
    kind.owed left + paid = kind.owed debts := by
  cases h with
  | whole done =>
      rw [owed_append]
      omega
  | within done debt paid rest hpos hless =>
      rw [owed_append, owed_cons, owed_cons, kind.amount_lessen]
      omega

theorem Settled.snoc {debts left : List α} {paid : Nat} (h : kind.Settled debts paid left)
    (debt : α) : kind.Settled (debts ++ [debt]) paid (left ++ [debt]) := by
  cases h with
  | whole done =>
      rw [List.append_assoc]
      exact .whole done (left ++ [debt])
  | within done first paid rest hpos hless =>
      rw [List.append_assoc, List.cons_append, List.cons_append]
      exact .within done first paid (rest ++ [debt]) hpos hless

/-- Debts that were settled before. -/
theorem Settled.prepend {debts left : List α} {paid : Nat} (h : kind.Settled debts paid left)
    (before : List α) : kind.Settled (before ++ debts) (kind.owed before + paid) left := by
  cases h with
  | whole done =>
      rw [← List.append_assoc, ← owed_append]
      exact .whole (before ++ done) left
  | within done debt paid rest hpos hless =>
      rw [← List.append_assoc, ← Nat.add_assoc, ← owed_append]
      exact .within (before ++ done) debt paid rest hpos hless

/-- A first payment. -/
theorem settled_settle {debts : List α} {paid : Nat} (h : paid ≤ kind.owed debts) :
    kind.Settled debts paid (kind.settle paid debts) := by
  induction debts generalizing paid with
  | nil =>
      rw [owed_nil] at h
      rw [Nat.le_zero.mp h, settle_zero]
      exact Settled.none kind []
  | cons debt rest ih =>
      rw [owed_cons] at h
      rw [settle]
      by_cases hzero : paid = 0
      · rw [if_pos hzero, hzero]
        exact Settled.none kind _
      rw [if_neg hzero]
      by_cases hle : kind.amount debt ≤ paid
      · rw [if_pos hle]
        have hrest := (ih (Nat.sub_le_iff_le_add'.mpr h)).prepend [debt]
        rw [owed_cons, owed_nil] at hrest
        have hpaid : kind.amount debt + 0 + (paid - kind.amount debt) = paid := by omega
        rwa [hpaid] at hrest
      · rw [if_neg hle]
        have hwithin : kind.Settled ([] ++ debt :: rest) (kind.owed [] + paid)
            (kind.lessen debt paid :: rest) := .within [] debt paid rest (by omega) (by omega)
        rwa [owed_nil, Nat.zero_add] at hwithin

/-- A payment goes on where the last one ended. -/
theorem Settled.settle {debts left : List α} {paid more : Nat} (h : kind.Settled debts paid left)
    (hmore : more ≤ kind.owed left) :
    kind.Settled debts (paid + more) (kind.settle more left) := by
  cases h with
  | whole done => exact (settled_settle hmore).prepend done
  | within done debt paid rest hpos hless =>
      rw [owed_cons, kind.amount_lessen] at hmore
      rw [Debt.settle, kind.amount_lessen, kind.lessen_lessen]
      by_cases hzero : more = 0
      · rw [if_pos hzero, hzero]
        exact .within done debt paid rest hpos hless
      rw [if_neg hzero]
      by_cases hle : kind.amount debt - paid ≤ more
      · -- The debt that was settled in part is settled by the first of this payment.
        rw [if_pos hle]
        have hrest := (settled_settle (Nat.sub_le_iff_le_add'.mpr hmore)).prepend
          (done ++ [debt])
        rw [List.append_assoc, List.singleton_append, owed_append, owed_cons, owed_nil] at hrest
        have hpaid : kind.owed done + (kind.amount debt + 0)
            + (more - (kind.amount debt - paid)) = kind.owed done + paid + more := by omega
        rwa [hpaid] at hrest
      · rw [if_neg hle, Nat.add_assoc]
        exact .within done debt (paid + more) rest (by omega) (by omega)

end Debt

end Mistle
