import Mathlib.Algebra.BigOperators.Group.List.Basic
import Mathlib.Data.List.Nodup
import Mathlib.Tactic.Common

/-!
# Maps in Insertion Order

A map that is read by key and iterated in the order in which its keys were first
written. Writing a key that is there keeps its place, and a key that was deleted
comes back at the end.

That no key is there twice is a field, so reading a key is membership in the
entries, and every law of the operations is one about lists.

## Main definitions

* `InsertionMap`: A map as its entries.
* `InsertionMap.get?`, `InsertionMap.has`: Reading a key.
* `InsertionMap.set`, `InsertionMap.delete`: Writing and deleting one.
* `InsertionMap.values`: The values, in order.
* `InsertionMap.mapValues`: All values changed alike.

## Theorems

* `get?_eq_some_iff`: Reading a key is membership.
* `get?_set`, `get?_delete`: Reading after writing and deleting.
* `entries_set_of_new`, `entries_set_of_split`: A new key is added at the end, and an old one
  keeps its place.
* `sum_values_set`: What a sum over the values gains with a key.
* `entries_deleteAll`: Deleting keys one after the other.
* `countP_delete`: What a count loses with a key.
-/

namespace Mistle

/-- A map as its entries, in the order in which the keys were first written. -/
structure InsertionMap (κ α : Type) where
  entries : List (κ × α)
  nodup : (entries.map Prod.fst).Nodup

namespace InsertionMap

section

variable {κ α : Type}

def empty : InsertionMap κ α := ⟨[], List.nodup_nil⟩

def keys (m : InsertionMap κ α) : List κ := m.entries.map Prod.fst

def values (m : InsertionMap κ α) : List α := m.entries.map Prod.snd

def size (m : InsertionMap κ α) : Nat := m.entries.length

@[simp] theorem entries_empty : (empty : InsertionMap κ α).entries = [] := rfl

theorem mem_keys_of_mem {m : InsertionMap κ α} {k : κ} {v : α} (h : (k, v) ∈ m.entries) :
    k ∈ m.keys :=
  List.mem_map_of_mem (f := Prod.fst) h

theorem exists_of_mem_keys {m : InsertionMap κ α} {k : κ} (h : k ∈ m.keys) :
    ∃ v, (k, v) ∈ m.entries := by
  rcases List.mem_map.mp h with ⟨⟨k', v⟩, hmem, hk⟩
  rw [← hk]
  exact ⟨v, hmem⟩

/-- All values changed alike. -/
def mapValues {β : Type} (f : α → β) (m : InsertionMap κ α) : InsertionMap κ β where
  entries := m.entries.map fun entry => (entry.1, f entry.2)
  nodup := by
    rw [List.map_map]
    exact m.nodup

theorem mem_values_iff {m : InsertionMap κ α} {v : α} :
    v ∈ m.values ↔ ∃ k, (k, v) ∈ m.entries := by
  simp [values]

/-- A key has one value. -/
theorem eq_of_mem {m : InsertionMap κ α} {k : κ} {v v' : α} (h : (k, v) ∈ m.entries)
    (h' : (k, v') ∈ m.entries) : v = v' := by
  have heq := List.inj_on_of_nodup_map m.nodup h h' rfl
  injection heq

end

section

variable {κ α : Type} [DecidableEq κ]

def get? (m : InsertionMap κ α) (k : κ) : Option α :=
  (m.entries.find? fun entry => entry.1 = k).map Prod.snd

def has (m : InsertionMap κ α) (k : κ) : Bool :=
  m.keys.contains k

theorem get?_eq_some_iff {m : InsertionMap κ α} {k : κ} {v : α} :
    m.get? k = some v ↔ (k, v) ∈ m.entries := by
  unfold get?
  constructor
  · intro h
    rcases Option.map_eq_some_iff.mp h with ⟨⟨k', v'⟩, hfind, hv⟩
    have hk : k' = k := by simpa using List.find?_some hfind
    rw [← hk, ← hv]
    exact List.mem_of_find?_eq_some hfind
  · intro h
    cases hfind : m.entries.find? fun entry => entry.1 = k with
    | none =>
        have hnone := List.find?_eq_none.mp hfind (k, v) h
        exact absurd (decide_eq_true rfl) hnone
    | some entry =>
        have hk : entry.1 = k := by simpa using List.find?_some hfind
        have hmem : (k, entry.2) ∈ m.entries := by
          rw [← hk]
          exact List.mem_of_find?_eq_some hfind
        rw [Option.map_some, eq_of_mem hmem h]

theorem get?_eq_none_iff {m : InsertionMap κ α} {k : κ} : m.get? k = none ↔ k ∉ m.keys := by
  constructor
  · intro h hmem
    rcases exists_of_mem_keys hmem with ⟨v, hv⟩
    rw [get?_eq_some_iff.mpr hv] at h
    exact absurd h (by simp only [reduceCtorEq, not_false_eq_true])
  · intro h
    cases hget : m.get? k with
    | none => rfl
    | some v => exact absurd (mem_keys_of_mem (get?_eq_some_iff.mp hget)) h

theorem isSome_get?_iff {m : InsertionMap κ α} {k : κ} :
    (m.get? k).isSome = true ↔ k ∈ m.keys := by
  rw [← not_iff_not, ← get?_eq_none_iff, Bool.not_eq_true, Option.isSome_eq_false_iff,
    Option.isNone_iff_eq_none]

@[simp] theorem has_iff {m : InsertionMap κ α} {k : κ} : m.has k = true ↔ k ∈ m.keys := by
  simp [has]

@[simp] theorem get?_empty (k : κ) : (empty : InsertionMap κ α).get? k = none := rfl

theorem get?_mapValues {β : Type} (m : InsertionMap κ α) (f : α → β) (k : κ) :
    (m.mapValues f).get? k = (m.get? k).map f := by
  unfold get? mapValues
  rw [List.find?_map, Option.map_map, Option.map_map]
  rfl

/-- Two maps that read the same key by key agree on what an entry is. -/
theorem get?_eq_of_mem_iff {m m' : InsertionMap κ α} {k : κ}
    (h : ∀ v, (k, v) ∈ m.entries ↔ (k, v) ∈ m'.entries) : m.get? k = m'.get? k := by
  cases hget : m'.get? k with
  | none =>
      rw [get?_eq_none_iff]
      intro hmem
      rcases exists_of_mem_keys hmem with ⟨v, hv⟩
      rw [get?_eq_some_iff.mpr ((h v).mp hv)] at hget
      exact absurd hget (by simp only [reduceCtorEq, not_false_eq_true])
  | some v => rw [get?_eq_some_iff, h, ← get?_eq_some_iff, hget]

/-! ### Writing -/

/-- The entries with a key written. -/
def setEntry (k : κ) (v : α) (entries : List (κ × α)) : List (κ × α) :=
  if k ∈ entries.map Prod.fst then
    entries.map fun entry => if entry.1 = k then (k, v) else entry
  else entries ++ [(k, v)]

theorem keys_setEntry (k : κ) (v : α) (entries : List (κ × α)) :
    (setEntry k v entries).map Prod.fst =
      if k ∈ entries.map Prod.fst then entries.map Prod.fst else entries.map Prod.fst ++ [k] := by
  unfold setEntry
  split
  · rw [List.map_map]
    refine List.map_congr_left fun entry _ => ?_
    rw [Function.comp_apply]
    split
    · rename_i hk
      exact hk.symm
    · rfl
  · rw [List.map_append]
    rfl

def set (m : InsertionMap κ α) (k : κ) (v : α) : InsertionMap κ α where
  entries := setEntry k v m.entries
  nodup := by
    rw [keys_setEntry]
    split
    · exact m.nodup
    · rename_i hnew
      exact List.nodup_append.mpr ⟨m.nodup, List.nodup_singleton k, fun a ha b hb => by
        rw [List.mem_singleton.mp hb]
        exact fun heq => hnew (heq ▸ ha)⟩

theorem entries_set_of_new {m : InsertionMap κ α} {k : κ} (h : k ∉ m.keys) (v : α) :
    (m.set k v).entries = m.entries ++ [(k, v)] :=
  if_neg h

theorem mem_set_iff {m : InsertionMap κ α} {k k' : κ} {v v' : α} :
    (k', v') ∈ (m.set k v).entries ↔
      (k' = k ∧ v' = v) ∨ (k' ≠ k ∧ (k', v') ∈ m.entries) := by
  change (k', v') ∈ setEntry k v m.entries ↔ _
  unfold setEntry
  by_cases hold : k ∈ m.entries.map Prod.fst
  · rw [if_pos hold, List.mem_map]
    constructor
    · rintro ⟨⟨k₀, v₀⟩, hmem, hentry⟩
      by_cases hk : k₀ = k
      · rw [if_pos hk, Prod.mk.injEq] at hentry
        exact .inl ⟨hentry.1.symm, hentry.2.symm⟩
      · rw [if_neg hk, Prod.mk.injEq] at hentry
        rw [← hentry.1, ← hentry.2]
        exact .inr ⟨hk, hmem⟩
    · rintro (⟨hk, hv⟩ | ⟨hk, hmem⟩)
      · rcases exists_of_mem_keys (m := m) hold with ⟨v₀, hmem⟩
        exact ⟨(k, v₀), hmem, by rw [if_pos rfl, hk, hv]⟩
      · exact ⟨(k', v'), hmem, if_neg hk⟩
  · rw [if_neg hold, List.mem_append, List.mem_singleton, Prod.mk.injEq, or_comm]
    refine or_congr_right ⟨fun hmem => ⟨?_, hmem⟩, fun h => h.2⟩
    intro hk
    exact hold (hk ▸ mem_keys_of_mem (m := m) hmem)

theorem get?_set (m : InsertionMap κ α) (k k' : κ) (v : α) :
    (m.set k v).get? k' = if k' = k then some v else m.get? k' := by
  split
  · rename_i hk
    rw [get?_eq_some_iff, mem_set_iff]
    exact .inl ⟨hk, rfl⟩
  · rename_i hk
    refine get?_eq_of_mem_iff fun v' => ?_
    rw [mem_set_iff]
    exact ⟨fun h => h.elim (fun h => absurd h.1 hk) And.right, fun h => .inr ⟨hk, h⟩⟩

@[simp] theorem get?_set_self (m : InsertionMap κ α) (k : κ) (v : α) :
    (m.set k v).get? k = some v := by
  rw [get?_set, if_pos rfl]

theorem get?_set_of_ne {k k' : κ} (h : k' ≠ k) (m : InsertionMap κ α) (v : α) :
    (m.set k v).get? k' = m.get? k' := by
  rw [get?_set, if_neg h]

/-- A key that is there keeps its place. -/
theorem entries_set_of_split {m : InsertionMap κ α} {k : κ} {v₀ : α} {before after : List (κ × α)}
    (h : m.entries = before ++ (k, v₀) :: after) (v : α) :
    (m.set k v).entries = before ++ (k, v) :: after := by
  have hnodup := m.nodup
  rw [h, List.map_append, List.map_cons, List.nodup_middle, List.nodup_cons,
    List.mem_append] at hnodup
  have hkeep : ∀ entries : List (κ × α), k ∉ entries.map Prod.fst →
      (entries.map fun entry => if entry.1 = k then (k, v) else entry) = entries := by
    intro entries hnot
    conv_rhs => rw [← List.map_id entries]
    refine List.map_congr_left fun entry hentry => if_neg fun hk => hnot ?_
    rw [← hk]
    exact List.mem_map_of_mem hentry
  have hmem : k ∈ m.entries.map Prod.fst := by
    rw [h, List.map_append, List.map_cons]
    exact List.mem_append_right _ List.mem_cons_self
  change setEntry k v m.entries = _
  rw [setEntry, if_pos hmem, h, List.map_append, List.map_cons,
    hkeep before fun hk => hnodup.1 (.inl hk), hkeep after fun hk => hnodup.1 (.inr hk), if_pos rfl]

theorem keys_set_of_mem {m : InsertionMap κ α} {k : κ} (h : k ∈ m.keys) (v : α) :
    (m.set k v).keys = m.keys := by
  change (setEntry k v m.entries).map Prod.fst = _
  rw [keys_setEntry]
  exact if_pos h

theorem mem_keys_set {m : InsertionMap κ α} {k k' : κ} {v : α} :
    k' ∈ (m.set k v).keys ↔ k' = k ∨ k' ∈ m.keys := by
  change k' ∈ (setEntry k v m.entries).map Prod.fst ↔ _
  rw [keys_setEntry]
  split
  · rename_i hmem
    exact ⟨.inr, fun h => h.elim (fun hk => hk ▸ hmem) id⟩
  · rw [List.mem_append, List.mem_singleton]
    exact or_comm

/-- What a sum over the values gains with a key, beside what was there under it. -/
theorem sum_values_set {M : Type} [AddCommMonoid M] (m : InsertionMap κ α) (k : κ) (v : α)
    (f : α → M) :
    ((m.set k v).values.map f).sum + ((m.get? k).map f).getD 0 = (m.values.map f).sum + f v := by
  cases hget : m.get? k with
  | none =>
      rw [values, entries_set_of_new (get?_eq_none_iff.mp hget)]
      simp [values]
  | some v₀ =>
      rcases List.append_of_mem (get?_eq_some_iff.mp hget) with ⟨before, after, hentries⟩
      rw [values, entries_set_of_split hentries, values, hentries]
      simp only [List.map_append, List.map_cons, List.sum_append, List.sum_cons, Option.map_some,
        Option.getD_some]
      ac_rfl

/-- Reading all keys gives all values. -/
theorem map_get?_keys (m : InsertionMap κ α) : m.keys.map m.get? = m.values.map some := by
  rw [keys, values, List.map_map, List.map_map]
  exact List.map_congr_left fun entry hentry => get?_eq_some_iff.mpr hentry

/-! ### Deleting -/

def delete (m : InsertionMap κ α) (k : κ) : InsertionMap κ α where
  entries := m.entries.filter fun entry => entry.1 ≠ k
  nodup := m.nodup.sublist (List.filter_sublist.map Prod.fst)

/-- Delete keys one after the other. -/
def deleteAll (m : InsertionMap κ α) (ks : List κ) : InsertionMap κ α :=
  ks.foldl delete m

theorem entries_deleteAll (m : InsertionMap κ α) (ks : List κ) :
    (m.deleteAll ks).entries = m.entries.filter fun entry => entry.1 ∉ ks := by
  unfold deleteAll
  induction ks generalizing m with
  | nil => simp
  | cons k ks ih =>
      rw [List.foldl_cons, ih]
      change (m.entries.filter _).filter _ = _
      rw [List.filter_filter]
      refine List.filter_congr fun entry _ => ?_
      rw [Bool.eq_iff_iff]
      simp [and_comm]

theorem mem_deleteAll_iff {m : InsertionMap κ α} {ks : List κ} {k : κ} {v : α} :
    (k, v) ∈ (m.deleteAll ks).entries ↔ (k, v) ∈ m.entries ∧ k ∉ ks := by
  rw [entries_deleteAll, List.mem_filter]
  simp

theorem delete_eq_deleteAll (m : InsertionMap κ α) (k : κ) : m.delete k = m.deleteAll [k] := rfl

theorem mem_delete_iff {m : InsertionMap κ α} {k k' : κ} {v : α} :
    (k', v) ∈ (m.delete k).entries ↔ (k', v) ∈ m.entries ∧ k' ≠ k := by
  rw [delete_eq_deleteAll, mem_deleteAll_iff, List.mem_singleton]

theorem get?_delete (m : InsertionMap κ α) (k k' : κ) :
    (m.delete k).get? k' = if k' = k then none else m.get? k' := by
  split
  · rename_i hk
    rw [get?_eq_none_iff]
    intro hmem
    rcases exists_of_mem_keys hmem with ⟨v, hv⟩
    exact absurd hk (mem_delete_iff.mp hv).2
  · rename_i hk
    refine get?_eq_of_mem_iff fun v' => ?_
    rw [mem_delete_iff, and_iff_left hk]

@[simp] theorem get?_delete_self (m : InsertionMap κ α) (k : κ) :
    (m.delete k).get? k = none := by
  rw [get?_delete, if_pos rfl]

theorem get?_delete_of_ne {k k' : κ} (h : k' ≠ k) (m : InsertionMap κ α) :
    (m.delete k).get? k' = m.get? k' := by
  rw [get?_delete, if_neg h]

/-- The entry of a key is the only one. -/
theorem filter_key_eq {m : InsertionMap κ α} {k : κ} {v : α} (h : (k, v) ∈ m.entries) :
    m.entries.filter (fun entry => entry.1 = k) = [(k, v)] := by
  rcases List.append_of_mem h with ⟨before, after, hentries⟩
  have hnodup := m.nodup
  rw [hentries, List.map_append, List.map_cons, List.nodup_middle, List.nodup_cons,
    List.mem_append] at hnodup
  have hnone : ∀ entries : List (κ × α), k ∉ entries.map Prod.fst →
      entries.filter (fun entry => entry.1 = k) = [] := by
    intro entries hnot
    rw [List.filter_eq_nil_iff]
    intro entry hentry hk
    exact hnot (of_decide_eq_true hk ▸ List.mem_map_of_mem hentry)
  rw [hentries, List.filter_append, List.filter_cons, if_pos (decide_eq_true rfl),
    hnone before fun hk => hnodup.1 (.inl hk), hnone after fun hk => hnodup.1 (.inr hk)]
  rfl

/-- Counting without an entry. -/
theorem countP_delete {m : InsertionMap κ α} {k : κ} {v : α} (h : (k, v) ∈ m.entries)
    (p : κ × α → Bool) :
    (m.delete k).entries.countP p + (if p (k, v) then 1 else 0) = m.entries.countP p := by
  have hsplit := List.countP_eq_countP_filter_add m.entries p fun entry => entry.1 = k
  rw [filter_key_eq h] at hsplit
  have hone : [(k, v)].countP p = if p (k, v) then 1 else 0 := by simp [List.countP_cons]
  have hrest : (m.entries.filter fun entry => !decide (entry.1 = k)).countP p
      = (m.delete k).entries.countP p := by
    unfold delete
    simp
  rw [hsplit, hone, hrest, Nat.add_comm]

end

end InsertionMap

end Mistle
