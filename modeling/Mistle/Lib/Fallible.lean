import Mathlib.Data.List.Forall2
import Mathlib.Tactic.Common

/-!
# Computations that May Fail

What it takes for a sequence of computations that may fail to succeed: every one of them
does, on what the ones before it gave. For a list of computations of the same kind that is a
relation between what they take and what they give.

## Theorems

* `bind_ok_iff`: Two computations in a row.
* `ite_ok_iff`: A computation that is only made where a condition holds.
* `mapM_ok_iff`: One computation for each entry.
* `foldlM_concat_ok_iff`: One computation for each entry, on what the last one gave.
* `foldlM_keeps`: What the computation of an entry makes and every other keeps.
* `foldlM_eq`, `foldlM_invariant`, `foldlM_appends`: What every computation leaves, and what each
  adds.
* `forall₂_trans`, `exists_of_forall₂`: What becomes of the entries of a list.
-/

namespace Mistle

namespace Fallible

variable {ε α β : Type}

theorem bind_ok_iff {x : Except ε α} {f : α → Except ε β} {b : β} :
    x >>= f = .ok b ↔ ∃ a, x = .ok a ∧ f a = .ok b := by
  cases x with
  | error e =>
      constructor
      · intro h
        exact nomatch h
      · rintro ⟨a, ha, _⟩
        exact nomatch ha
  | ok a =>
      constructor
      · intro h
        exact ⟨a, rfl, h⟩
      · rintro ⟨a', ha, h⟩
        rw [Except.ok.injEq] at ha
        rw [ha]
        exact h

/-- A computation behind a check. -/
theorem ite_ok_iff {p : Prop} [Decidable p] {e : ε} {x : Except ε α} {a : α} :
    (if p then .error e else x) = .ok a ↔ ¬ p ∧ x = .ok a := by
  by_cases hp : p
  · rw [if_pos hp]
    constructor
    · intro h
      exact nomatch h
    · rintro ⟨hno, _⟩
      exact absurd hp hno
  · rw [if_neg hp, and_iff_right hp]

theorem mapM_ok_iff {f : α → Except ε β} {xs : List α} {ys : List β} :
    xs.mapM f = .ok ys ↔ List.Forall₂ (fun x y => f x = .ok y) xs ys := by
  induction xs generalizing ys with
  | nil =>
      rw [List.mapM_nil, List.forall₂_nil_left_iff]
      exact ⟨fun h => (Except.ok.inj h).symm, fun h => congrArg Except.ok h.symm⟩
  | cons x xs ih =>
      rw [List.mapM_cons, bind_ok_iff, List.forall₂_cons_left_iff]
      constructor
      · rintro ⟨y, hy, hrest⟩
        rcases bind_ok_iff.mp hrest with ⟨rest, htail, hys⟩
        exact ⟨y, rest, hy, ih.mp htail, (Except.ok.inj hys).symm⟩
      · rintro ⟨y, rest, hy, htail, hys⟩
        exact ⟨y, hy, bind_ok_iff.mpr ⟨rest, ih.mpr htail, congrArg Except.ok hys.symm⟩⟩

theorem foldlM_concat_ok_iff {f : β → α → Except ε β} {xs : List α} {x : α} {b c : β} :
    (xs ++ [x]).foldlM f b = .ok c ↔ ∃ m, xs.foldlM f b = .ok m ∧ f m x = .ok c := by
  rw [List.foldlM_append, bind_ok_iff]
  refine exists_congr fun m => and_congr_right fun _ => ?_
  rw [List.foldlM_cons, bind_ok_iff]
  constructor
  · rintro ⟨c', hc', hpure⟩
    rw [hc']
    exact hpure
  · intro h
    exact ⟨c, h, rfl⟩

/-- What the computation of an entry makes, and the computation of every other keeps, is there
    at the end. -/
theorem foldlM_keeps {f : β → α → Except ε β} {P : α → β → Prop}
    (hmake : ∀ b a b', f b a = .ok b' → P a b')
    (hkeep : ∀ b a b' a', f b a = .ok b' → P a' b → P a' b') {xs : List α} {b c : β}
    (h : xs.foldlM f b = .ok c) : (∀ a ∈ xs, P a c) ∧ ∀ a, P a b → P a c := by
  induction xs generalizing b with
  | nil =>
      rw [← Except.ok.inj h]
      exact ⟨fun a ha => absurd ha List.not_mem_nil, fun _ ha => ha⟩
  | cons x xs ih =>
      rw [List.foldlM_cons] at h
      rcases bind_ok_iff.mp h with ⟨m, hx, hrest⟩
      rcases ih hrest with ⟨hmem, hkept⟩
      refine ⟨fun a ha => ?_, fun a ha => hkept a (hkeep b x m a hx ha)⟩
      rcases List.mem_cons.mp ha with heq | ha
      · rw [heq]
        exact hkept x (hmake b x m hx)
      · exact hmem a ha

/-- What no computation changes. -/
theorem foldlM_eq {γ : Type} {f : β → α → Except ε β} {g : β → γ}
    (hsame : ∀ b a b', f b a = .ok b' → g b' = g b) {xs : List α} {b c : β}
    (h : xs.foldlM f b = .ok c) : g c = g b := by
  induction xs generalizing b with
  | nil => rw [← Except.ok.inj h]
  | cons x xs ih =>
      rw [List.foldlM_cons] at h
      rcases bind_ok_iff.mp h with ⟨m, hx, hrest⟩
      rw [ih hrest, hsame b x m hx]

theorem foldlM_invariant {f : β → α → Except ε β} {I : β → Prop}
    (hstep : ∀ b a b', f b a = .ok b' → I b → I b') {xs : List α} {b c : β} (hb : I b)
    (h : xs.foldlM f b = .ok c) : I c := by
  induction xs generalizing b with
  | nil =>
      rw [← Except.ok.inj h]
      exact hb
  | cons x xs ih =>
      rw [List.foldlM_cons] at h
      rcases bind_ok_iff.mp h with ⟨m, hx, hrest⟩
      exact ih (hstep b x m hx hb) hrest

/-- What each computation adds to a list. -/
theorem foldlM_appends {γ : Type} {f : β → α → Except ε β} {g : β → List γ} {added : α → List γ}
    (hstep : ∀ b a b', f b a = .ok b' → g b' = g b ++ added a) {xs : List α} {b c : β}
    (h : xs.foldlM f b = .ok c) : g c = g b ++ xs.flatMap added := by
  induction xs generalizing b with
  | nil => rw [← Except.ok.inj h, List.flatMap_nil, List.append_nil]
  | cons x xs ih =>
      rw [List.foldlM_cons] at h
      rcases bind_ok_iff.mp h with ⟨m, hx, hrest⟩
      rw [ih hrest, hstep b x m hx, List.flatMap_cons, List.append_assoc]

/-! ### Lists entry by entry -/

theorem forall₂_trans {γ : Type} {R : α → β → Prop} {S : β → γ → Prop} {T : α → γ → Prop}
    (hcomp : ∀ a b c, R a b → S b c → T a c) {xs : List α} {ys : List β} {zs : List γ}
    (h : List.Forall₂ R xs ys) (h' : List.Forall₂ S ys zs) : List.Forall₂ T xs zs := by
  induction h generalizing zs with
  | nil =>
      rw [List.forall₂_nil_left_iff.mp h']
      exact .nil
  | cons hxy _ ih =>
      rcases List.forall₂_cons_left_iff.mp h' with ⟨z, rest, hyz, hrest, rfl⟩
      exact .cons (hcomp _ _ _ hxy hyz) (ih hrest)

theorem exists_of_forall₂ {R : α → β → Prop} {xs : List α} {ys : List β}
    (h : List.Forall₂ R xs ys) {x : α} (hx : x ∈ xs) : ∃ y ∈ ys, R x y := by
  induction h with
  | nil => exact absurd hx List.not_mem_nil
  | cons hxy _ ih =>
      rcases List.mem_cons.mp hx with rfl | hx
      · exact ⟨_, List.mem_cons_self, hxy⟩
      · rcases ih hx with ⟨y, hy, hxy⟩
        exact ⟨y, List.mem_cons_of_mem _ hy, hxy⟩

end Fallible

end Mistle
