import Mistle.Lib.Text
import Mathlib.Data.List.Nodup
import Mathlib.Data.List.Pairwise
import Mathlib.Data.List.Sort

/-!
# Sorted Texts and Slices

Texts sorted by their code units, which gives one list for every list of the same
texts, and a list cut into slices of one size, which put together are the list again.

## Main definitions

* `CodeUnitLe`, `sortTexts`: The order of code units, and sorting by it.
* `slices`: A list cut into slices.

## Theorems

* `sortTexts_eq_iff`: Lists are sorted alike exactly if they hold the same texts.
* `flatten_slices`: The slices put together.
* `slices_unique`: Where nothing occurs twice, an entry is in one slice only.
-/

namespace Mistle

/-! ### Sorting -/

/-- A text is not after another, by code units. -/
def CodeUnitLe (a b : String) : Prop := toJs a ≤ toJs b

instance (a b : String) : Decidable (CodeUnitLe a b) :=
  inferInstanceAs (Decidable (toJs a ≤ toJs b))

instance : Std.Total CodeUnitLe where
  total a b := List.le_total (toJs a) (toJs b)

instance : IsTrans String CodeUnitLe where
  trans _ _ _ hab hbc := List.le_trans hab hbc

theorem CodeUnitLe.antisymm {a b : String} (hab : CodeUnitLe a b) (hba : CodeUnitLe b a) :
    a = b :=
  toJs_injective (List.le_antisymm hab hba)

def sortTexts (texts : List String) : List String := texts.insertionSort CodeUnitLe

theorem sortTexts_perm (texts : List String) : (sortTexts texts).Perm texts :=
  List.perm_insertionSort _ texts

@[simp] theorem mem_sortTexts {text : String} {texts : List String} :
    text ∈ sortTexts texts ↔ text ∈ texts :=
  (sortTexts_perm texts).mem_iff

/-- The order leaves nothing to the order in which the texts came. -/
theorem sortTexts_eq_iff {a b : List String} : sortTexts a = sortTexts b ↔ a.Perm b := by
  constructor
  · intro h
    have hab : (sortTexts a).Perm b := h ▸ sortTexts_perm b
    exact (sortTexts_perm a).symm.trans hab
  · intro h
    have hperm : (sortTexts a).Perm (sortTexts b) :=
      (sortTexts_perm a).trans (h.trans (sortTexts_perm b).symm)
    exact hperm.eq_of_pairwise (fun _ _ _ _ => CodeUnitLe.antisymm)
      (List.pairwise_insertionSort _ a) (List.pairwise_insertionSort _ b)

theorem sortTexts_eq_nil {texts : List String} : sortTexts texts = [] ↔ texts = [] := by
  constructor
  · intro h
    exact (h ▸ sortTexts_perm texts).symm.eq_nil
  · intro h
    rw [h]
    rfl

/-- What is kept of a list when the later ones of equal entries go. -/
theorem nodup_eraseDups {α : Type} [DecidableEq α] : ∀ items : List α, items.eraseDups.Nodup
  | [] => by
      rw [List.eraseDups_nil]
      exact List.nodup_nil
  | a :: items => by
      have hlt : (items.filter fun b => !b == a).length < (a :: items).length := by
        rw [List.length_cons]
        exact Nat.lt_succ_of_le (List.length_filter_le _ items)
      rw [List.eraseDups_cons, List.nodup_cons]
      refine ⟨?_, nodup_eraseDups _⟩
      rw [List.mem_eraseDups, List.mem_filter]
      intro h
      simp only [beq_self_eq_true, Bool.not_true, Bool.false_eq_true, and_false] at h
termination_by items => items.length
decreasing_by exact hlt

/-! ### Slices -/

section

variable {α : Type}

/-- A list cut into slices of a size; the last one has what is left. -/
def slices (size : Nat) (items : List α) : List (List α) :=
  (List.range ((items.length + size - 1) / size)).map fun i => (items.drop (i * size)).take size

variable {size : Nat} {items slice other : List α}

/-- The first slices put together are the front of the list. -/
theorem flatten_slices_take (size count : Nat) (items : List α) :
    ((List.range count).map fun i => (items.drop (i * size)).take size).flatten =
      items.take (count * size) := by
  induction count with
  | zero => rw [List.range_zero, List.map_nil, List.flatten_nil, Nat.zero_mul, List.take_zero]
  | succ count ih =>
      rw [List.range_succ, List.map_append, List.flatten_append, ih, List.map_singleton,
        List.flatten_singleton, Nat.succ_mul, List.take_add]

theorem flatten_slices (hsize : 0 < size) (items : List α) :
    (slices size items).flatten = items := by
  rw [slices, flatten_slices_take]
  refine List.take_of_length_le ?_
  -- The number of slices is rounded up.
  have hdiv := Nat.div_add_mod (items.length + size - 1) size
  have hmod := Nat.mod_lt (items.length + size - 1) hsize
  rw [Nat.mul_comm] at hdiv
  omega

theorem mem_iff_mem_slice (hsize : 0 < size) {a : α} :
    a ∈ items ↔ ∃ slice ∈ slices size items, a ∈ slice := by
  rw [← List.mem_flatten, flatten_slices hsize]

theorem slice_ne_nil (hsize : 0 < size) (h : slice ∈ slices size items) : slice ≠ [] := by
  rcases List.mem_map.mp h with ⟨i, hi, hslice⟩
  have hlt : i * size < items.length := by
    have hle := Nat.mul_le_mul_right size (Nat.succ_le_of_lt (List.mem_range.mp hi))
    have hdiv := Nat.div_mul_le_self (items.length + size - 1) size
    rw [Nat.succ_mul] at hle
    omega
  rw [← hslice]
  intro hnil
  have hlength := congrArg List.length hnil
  rw [List.length_take, List.length_drop, List.length_nil] at hlength
  omega

/-- Where nothing occurs twice, no two slices have an entry in common. -/
theorem slices_unique (hsize : 0 < size) (hnodup : items.Nodup) (h : slice ∈ slices size items)
    (hother : other ∈ slices size items) {a : α} (ha : a ∈ slice) (haother : a ∈ other) :
    slice = other := by
  rw [← flatten_slices hsize items, List.nodup_flatten] at hnodup
  have hsymm : Std.Symm (List.Disjoint (α := α)) := ⟨fun _ _ h => List.disjoint_comm.mp h⟩
  by_contra hne
  exact hnodup.2.forall h hother hne ha haother

end

end Mistle
