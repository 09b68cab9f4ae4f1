import Mathlib.Data.List.Sort

/-!
# Lists Ordered by a Key

A list whose keys descend strictly is cut at an element by comparing keys: what is
below the element's key is what follows it, and what is above is what comes before.
So a position in the list can be given by the key of an element, which is how a query
finds its place again without counting.

The list is what sorting gives, in either direction and with a condition taken before
or after, as long as no two elements have one key.

## Main definitions

* `Descends`: The keys of a list descend strictly.

## Theorems

* `Descends.filter_lt`, `Descends.filter_gt`: A list cut at an element.
* `Descends.eq_of_perm`: A list is determined by its elements.
* `descends_insertionSort`: Sorting by descending keys.
* `insertionSort_reverse`, `insertionSort_filter`: Sorting by ascending keys, and
  conditions.
-/

namespace Mistle

variable {α κ : Type} [LinearOrder κ] {key : α → κ}

/-- The keys of a list descend strictly. -/
def Descends (key : α → κ) (items : List α) : Prop :=
  items.Pairwise fun a b => key b < key a

theorem Descends.filter_lt {before after : List α} {a : α}
    (h : Descends key (before ++ a :: after)) :
    (before ++ a :: after).filter (fun b => key b < key a) = after := by
  rcases List.pairwise_append.mp h with ⟨_, hafter, hbefore⟩
  have hnone : before.filter (fun b => key b < key a) = [] := by
    refine List.filter_eq_nil_iff.mpr fun b hb => ?_
    have habove := hbefore b hb a List.mem_cons_self
    exact fun hlt => lt_asymm habove (of_decide_eq_true hlt)
  have hself : ¬ (decide (key a < key a)) = true := by
    rw [decide_eq_true_iff]
    exact lt_irrefl _
  have hall : after.filter (fun b => key b < key a) = after := by
    refine List.filter_eq_self.mpr fun b hb => ?_
    exact decide_eq_true (List.rel_of_pairwise_cons hafter hb)
  rw [List.filter_append, hnone, List.filter_cons, if_neg hself, hall, List.nil_append]

theorem Descends.filter_gt {before after : List α} {a : α}
    (h : Descends key (before ++ a :: after)) :
    (before ++ a :: after).filter (fun b => key a < key b) = before := by
  rcases List.pairwise_append.mp h with ⟨_, hafter, hbefore⟩
  have hall : before.filter (fun b => key a < key b) = before := by
    refine List.filter_eq_self.mpr fun b hb => ?_
    exact decide_eq_true (hbefore b hb a List.mem_cons_self)
  have hself : ¬ (decide (key a < key a)) = true := by
    rw [decide_eq_true_iff]
    exact lt_irrefl _
  have hnone : after.filter (fun b => key a < key b) = [] := by
    refine List.filter_eq_nil_iff.mpr fun b hb => ?_
    have hbelow := List.rel_of_pairwise_cons hafter hb
    exact fun hlt => lt_asymm hbelow (of_decide_eq_true hlt)
  rw [List.filter_append, hall, List.filter_cons, if_neg hself, hnone, List.append_nil]

theorem Descends.eq_of_perm {items items' : List α} (h : Descends key items)
    (h' : Descends key items') (hperm : items.Perm items') : items = items' :=
  hperm.eq_of_pairwise (fun _ _ _ _ hab hba => absurd hab (lt_asymm hba)) h h'

theorem Descends.filter {items : List α} (h : Descends key items) (p : α → Bool) :
    Descends key (items.filter p) :=
  List.Pairwise.filter p h

theorem Descends.nodup {items : List α} (h : Descends key items) : items.Nodup :=
  List.Pairwise.imp (fun hlt heq => absurd (heq ▸ hlt) (lt_irrefl _)) h

/-- A list that descends ascends from its end. -/
theorem Descends.reverse {items : List α} (h : Descends key items) :
    Descends (fun a => OrderDual.toDual (key a)) items.reverse :=
  List.pairwise_reverse.mpr h

/-- Sorting by descending keys, where no two elements have one key. -/
theorem descends_insertionSort {r : α → α → Prop} [DecidableRel r]
    (hr : ∀ a b, r a b ↔ key b ≤ key a) {items : List α} (hkeys : (items.map key).Nodup) :
    Descends key (items.insertionSort r) := by
  have htotal : Std.Total r := ⟨fun a b => by rw [hr, hr]; exact le_total _ _⟩
  have htrans : IsTrans α r := ⟨fun a b c hab hbc => by
    rw [hr] at hab hbc ⊢
    exact le_trans hbc hab⟩
  have hsorted := List.pairwise_insertionSort r items
  have hnodup : ((items.insertionSort r).map key).Nodup :=
    ((List.perm_insertionSort r items).map key).nodup_iff.mpr hkeys
  have hne : (items.insertionSort r).Pairwise fun a b => key a ≠ key b :=
    List.pairwise_map.mp hnodup
  refine (hsorted.and hne).imp fun hab => ?_
  exact lt_of_le_of_ne ((hr _ _).mp hab.1) (Ne.symm hab.2)

/-- Sorting by ascending keys is sorting by descending keys, from the end. -/
theorem insertionSort_reverse {r r' : α → α → Prop} [DecidableRel r] [DecidableRel r']
    (hr : ∀ a b, r a b ↔ key b ≤ key a) (hr' : ∀ a b, r' a b ↔ key a ≤ key b) {items : List α}
    (hkeys : (items.map key).Nodup) :
    items.insertionSort r' = (items.insertionSort r).reverse := by
  have hdual : (items.map fun a => OrderDual.toDual (key a)).Nodup := hkeys
  have hascends : Descends (fun a => OrderDual.toDual (key a)) (items.insertionSort r') :=
    descends_insertionSort hr' hdual
  refine hascends.eq_of_perm (descends_insertionSort hr hkeys).reverse ?_
  exact ((List.perm_insertionSort r' items).trans (List.perm_insertionSort r items).symm).trans
    (List.reverse_perm _).symm

/-- A condition may be taken before the sorting or behind it. -/
theorem insertionSort_filter {r : α → α → Prop} [DecidableRel r]
    (hr : ∀ a b, r a b ↔ key b ≤ key a) {items : List α} (hkeys : (items.map key).Nodup)
    (p : α → Bool) : (items.filter p).insertionSort r = (items.insertionSort r).filter p := by
  have hfiltered : ((items.filter p).map key).Nodup :=
    hkeys.sublist (List.filter_sublist.map key)
  refine (descends_insertionSort hr hfiltered).eq_of_perm
    ((descends_insertionSort hr hkeys).filter p) ?_
  exact (List.perm_insertionSort r _).trans ((List.perm_insertionSort r items).symm.filter p)

end Mistle
