import Mathlib.Algebra.BigOperators.Group.List.Basic
import Mathlib.Algebra.Ring.Nat
import Mistle.Lib.Run

/-!
# Credit Flow

Credit-based flow control between a sender and a receiver joined by two queues.
The sender holds credit and spends it on what it sends. The receiver takes what
arrives and keeps count of what it has not yet granted back; a grant returns any
part of that count to the sender. Nothing else creates or destroys credit, so
the credit in the sender's hands, in the two queues and in the receiver's count
always adds up to the same total.

No order is needed for that: a step splits or joins amounts, and the law is one
of any commutative monoid.

## Main definitions

* `CreditFlow`: The four places credit can be.
* `CreditFlow.Step`: Sending, receiving, granting and crediting.
* `CreditFlow.total`: All credit of a state.

## Theorems

* `CreditFlow.Step.total_eq`: A step keeps the total.
* `CreditFlow.Reaches.total_eq`: So does any number of steps.
-/

namespace Mistle

/-- Where the credit of one flow is. -/
structure CreditFlow (M : Type) where
  available : M
  data : List M
  grants : List M
  unreturned : M

namespace CreditFlow

variable {M : Type} [AddCommMonoid M]

/-- All credit of a state. -/
def total (s : CreditFlow M) : M :=
  s.available + s.data.sum + s.grants.sum + s.unreturned

/-- One move of credit. -/
inductive Step : CreditFlow M → CreditFlow M → Prop
  | send (n a u : M) (d g : List M) : Step ⟨n + a, d, g, u⟩ ⟨a, d ++ [n], g, u⟩
  | receive (n a u : M) (d g : List M) : Step ⟨a, n :: d, g, u⟩ ⟨a, d, g, u + n⟩
  | grant (n a u : M) (d g : List M) : Step ⟨a, d, g, u + n⟩ ⟨a, d, g ++ [n], u⟩
  | credit (n a u : M) (d g : List M) : Step ⟨a, d, n :: g, u⟩ ⟨a + n, d, g, u⟩

/-- Any number of moves. -/
inductive Reaches : CreditFlow M → CreditFlow M → Prop
  | refl (s : CreditFlow M) : Reaches s s
  | tail {s t u : CreditFlow M} (run : Reaches s t) (last : Step t u) : Reaches s u

theorem Step.total_eq {s t : CreditFlow M} (h : Step s t) : t.total = s.total := by
  cases h with
  | send n a u d g =>
      simp only [total, List.sum_append, List.sum_singleton]
      ac_rfl
  | receive n a u d g =>
      simp only [total, List.sum_cons]
      ac_rfl
  | grant n a u d g =>
      simp only [total, List.sum_append, List.sum_singleton]
      ac_rfl
  | credit n a u d g =>
      simp only [total, List.sum_cons]
      ac_rfl

theorem Reaches.total_eq {s t : CreditFlow M} (h : Reaches s t) : t.total = s.total := by
  induction h with
  | refl => rfl
  | tail _ last ih => rw [last.total_eq, ih]

theorem Reaches.single {s t : CreditFlow M} (h : Step s t) : Reaches s t :=
  .tail (.refl s) h

theorem Reaches.trans {s t u : CreditFlow M} (first : Reaches s t) (rest : Reaches t u) :
    Reaches s u := by
  induction rest with
  | refl => exact first
  | tail _ last ih => exact .tail ih last

/-- Sending one amount after another. -/
theorem Reaches.sendAll (ns : List M) (a u : M) (d g : List M) :
    Reaches ⟨ns.sum + a, d, g, u⟩ ⟨a, d ++ ns, g, u⟩ := by
  induction ns generalizing d with
  | nil =>
      rw [List.sum_nil, zero_add, List.append_nil]
      exact .refl _
  | cons n ns ih =>
      have hfirst : Step ⟨(n :: ns).sum + a, d, g, u⟩ ⟨ns.sum + a, d ++ [n], g, u⟩ := by
        rw [List.sum_cons, add_assoc]
        exact .send n _ u d g
      have hrest := ih (d ++ [n])
      rw [List.append_assoc, List.singleton_append] at hrest
      exact (Reaches.single hfirst).trans hrest

end CreditFlow

end Mistle
