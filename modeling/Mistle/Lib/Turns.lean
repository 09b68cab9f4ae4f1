import Mathlib.Data.List.Induction
import Mathlib.Tactic.Common

/-!
# Loops that Take Turns

A loop that takes one turn after another over a state, until a turn returns or never
ends. What a turn meets is given with it, so a loop is run on a list of turns, and what
the loop returns it returns at one of them: the first that does not go on.

That makes a claim about what a loop may return a claim about single turns, each taken
in the state the turns before it led to.

## Main definitions

* `TurnEnd`: How a turn ends.
* `loopTurns`: The loop.
* `EachTurn`: A property of every turn that the loop comes to.

## Theorems

* `loopTurns_append`: A loop is taken up where it went on.
* `loopTurns_returned_iff`: What a loop returns, one of its turns returned.
* `EachTurn.congr`: Properties that agree on turns agree on loops.
* `loopTurns_invariant`: Invariants of a loop that goes on.
-/

namespace Mistle

/-- How a turn of a loop ends: it goes on, the loop returns, or the turn waits forever. -/
inductive TurnEnd (ρ : Type) where
  | continues
  | returned (result : ρ)
  | blocked
  deriving DecidableEq

section

variable {σ τ ρ : Type} (turn : σ → τ → σ × TurnEnd ρ)

/-- Take turns until one does not go on. -/
def loopTurns : List τ → σ → σ × TurnEnd ρ
  | [], s => (s, .continues)
  | t :: rest, s =>
    match turn s t with
    | (s', .continues) => loopTurns rest s'
    | ended => ended

/-- A property of every turn that the loop comes to, in the state it is taken in and behind
    the turns before it. -/
def EachTurn (s : σ) (turns : List τ) (P : List τ → σ → τ → Prop) : Prop :=
  ∀ before t after, turns = before ++ t :: after → (loopTurns turn before s).2 = .continues →
    P before (loopTurns turn before s).1 t

variable {turn}

theorem loopTurns_append {before : List τ} {s : σ}
    (h : (loopTurns turn before s).2 = .continues) (after : List τ) :
    loopTurns turn (before ++ after) s = loopTurns turn after (loopTurns turn before s).1 := by
  induction before generalizing s with
  | nil => rfl
  | cons t rest ih =>
    rcases hturn : turn s t with ⟨s', _ | result | _⟩ <;>
      simp only [List.cons_append, loopTurns, hturn] at h ⊢
    · exact ih h
    · exact nomatch h
    · exact nomatch h

/-- A loop that has ended takes no more turns. -/
theorem loopTurns_append_of_ends {before : List τ} {s : σ}
    (h : (loopTurns turn before s).2 ≠ .continues) (after : List τ) :
    loopTurns turn (before ++ after) s = loopTurns turn before s := by
  induction before generalizing s with
  | nil => exact absurd rfl h
  | cons t rest ih =>
    rcases hturn : turn s t with ⟨s', _ | result | _⟩ <;>
      simp only [List.cons_append, loopTurns, hturn] at h ⊢
    exact ih h

/-- The turns before the last of those that all went on, went on. -/
theorem continues_of_append {before after : List τ} {s : σ}
    (h : (loopTurns turn (before ++ after) s).2 = .continues) :
    (loopTurns turn before s).2 = .continues := by
  by_contra hends
  rw [loopTurns_append_of_ends hends] at h
  exact hends h

theorem loopTurns_concat {before : List τ} {s : σ} (h : (loopTurns turn before s).2 = .continues)
    (t : τ) : loopTurns turn (before ++ [t]) s = turn (loopTurns turn before s).1 t := by
  rw [loopTurns_append h]
  rcases hturn : turn (loopTurns turn before s).1 t with ⟨s', _ | result | _⟩ <;>
    simp only [loopTurns, hturn]

/-- A turn that went on, among those that did. -/
theorem turn_continues {before after : List τ} {t : τ} {s : σ}
    (h : (loopTurns turn (before ++ t :: after) s).2 = .continues) :
    (turn (loopTurns turn before s).1 t).2 = .continues := by
  have hbefore := continues_of_append h
  rw [← List.singleton_append, ← List.append_assoc] at h
  have hturn := continues_of_append h
  rw [loopTurns_concat hbefore] at hturn
  exact hturn

/-- What a loop returns, one of its turns returned. -/
theorem loopTurns_returned_iff {turns : List τ} {s : σ} {result : ρ} :
    (loopTurns turn turns s).2 = .returned result ↔
      ∃ before t after, turns = before ++ t :: after ∧
        (loopTurns turn before s).2 = .continues ∧
        (turn (loopTurns turn before s).1 t).2 = .returned result := by
  constructor
  · intro h
    induction turns generalizing s with
    | nil => exact nomatch h
    | cons t rest ih =>
      rcases hturn : turn s t with ⟨s', _ | result' | _⟩ <;> simp only [loopTurns, hturn] at h
      · rcases ih h with ⟨before, t', after, hrest, hbefore, hreturned⟩
        refine ⟨t :: before, t', after, by rw [hrest, List.cons_append], ?_, ?_⟩
        · simp only [loopTurns, hturn]
          exact hbefore
        · simp only [loopTurns, hturn]
          exact hreturned
      · exact ⟨[], t, rest, rfl, rfl, by rw [loopTurns, hturn, h]⟩
      · exact nomatch h
  · rintro ⟨before, t, after, hturns, hbefore, hreturned⟩
    have hlast : (loopTurns turn (before ++ [t]) s).2 = .returned result := by
      rw [loopTurns_concat hbefore]
      exact hreturned
    rw [hturns, ← List.singleton_append, ← List.append_assoc, loopTurns_append_of_ends]
    · exact hlast
    · rw [hlast]
      exact nofun

/-- Properties that agree on every turn the loop comes to agree on the loop. -/
theorem EachTurn.congr {s : σ} {turns : List τ} {P Q : List τ → σ → τ → Prop}
    (h : ∀ before t, (loopTurns turn before s).2 = .continues →
      (P before (loopTurns turn before s).1 t ↔ Q before (loopTurns turn before s).1 t)) :
    EachTurn turn s turns P ↔ EachTurn turn s turns Q := by
  constructor
  · intro hP before t after hturns hbefore
    exact (h before t hbefore).mp (hP before t after hturns hbefore)
  · intro hQ before t after hturns hbefore
    exact (h before t hbefore).mpr (hQ before t after hturns hbefore)

/-- What holds at first and is kept by the turns that go on holds where the loop goes on. -/
theorem loopTurns_invariant {s : σ} {I : List τ → σ → Prop} (hinit : I [] s)
    (hstep : ∀ before t a b, (loopTurns turn before s).2 = .continues →
      (loopTurns turn before s).1 = a → I before a → turn a t = (b, .continues) →
      I (before ++ [t]) b) :
    ∀ turns, (loopTurns turn turns s).2 = .continues → I turns (loopTurns turn turns s).1 := by
  intro turns
  induction turns using List.reverseRec with
  | nil => exact fun _ => hinit
  | append_singleton before t ih =>
    intro h
    have hbefore := continues_of_append h
    have hturn : (turn (loopTurns turn before s).1 t).2 = .continues := turn_continues h
    rw [loopTurns_concat hbefore]
    exact hstep before t _ _ hbefore rfl (ih hbefore) (Prod.ext rfl hturn)

end

end Mistle
