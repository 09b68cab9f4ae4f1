import Mathlib.Data.List.Induction
import Mathlib.Data.List.Nodup
import Mathlib.Tactic.Common

/-!
# Upserting into a List

A list of entries with keys is brought up to date with an entry: the first entry with
its key is replaced where it stands, and where no entry has the key the entry is put at
the end. Brought up to date with several entries in a row, the list keeps every key in
its place, gets each new key once, and has under a key the last entry that was given
for it.

## Main definitions

* `upsert`, `upsertAll`: A list brought up to date with an entry, and with several.
* `Upserted`: What a list is after it was brought up to date.

## Theorems

* `map_key_upsert`, `firstWith_upsert`: What one entry does.
* `upsertAll_spec`: Bringing a list up to date gives such a list.
-/

namespace Mistle

section

variable {α κ : Type} [DecidableEq κ] (key : α → κ)

/-- The first entry with the key of `entry` is replaced, or `entry` is put at the end. -/
def upsert (entry : α) : List α → List α
  | [] => [entry]
  | a :: table => if key a = key entry then entry :: table else a :: upsert entry table

def upsertAll (table entries : List α) : List α :=
  entries.foldl (fun table entry => upsert key entry table) table

/-- The first entry of a list with a key. -/
def firstWith (k : κ) (table : List α) : Option α :=
  table.find? fun a => decide (key a = k)

/-- The last entry of a list with a key. -/
def lastWith (k : κ) (entries : List α) : Option α :=
  firstWith key k entries.reverse

/-- What `table` is after it was brought up to date with `entries`. -/
structure Upserted (table entries result : List α) : Prop where
  /-- Keys stay where they are, and each new one is put at the end once. -/
  keys : ∃ appended, result.map key = table.map key ++ appended ∧ appended.Nodup ∧
    ∀ k, k ∈ appended ↔ k ∈ entries.map key ∧ k ∉ table.map key
  /-- A key has the last entry that was given for it, or the one it had. -/
  value : ∀ k, firstWith key k result = (lastWith key k entries).or (firstWith key k table)
  /-- An entry behind another with its key is left alone. -/
  repeated : ∀ (i : Nat) (a : α), table[i]? = some a → key a ∈ (table.take i).map key →
    result[i]? = some a

variable {key}

/-! ### One entry -/

theorem firstWith_cons (k : κ) (a : α) (table : List α) :
    firstWith key k (a :: table) = if key a = k then some a else firstWith key k table := by
  rw [firstWith, List.find?_cons]
  by_cases h : key a = k
  · rw [if_pos h, decide_eq_true h]
  · rw [if_neg h, decide_eq_false h]
    rfl

theorem map_key_upsert (entry : α) (table : List α) :
    (upsert key entry table).map key =
      if key entry ∈ table.map key then table.map key else table.map key ++ [key entry] := by
  induction table with
  | nil => rfl
  | cons a table ih =>
      rw [upsert]
      by_cases h : key a = key entry
      · have hmem : key entry ∈ (a :: table).map key := by
          rw [List.map_cons, h]
          exact List.mem_cons_self
        rw [if_pos h, if_pos hmem, List.map_cons, List.map_cons, h]
      · have hmem : key entry ∈ (a :: table).map key ↔ key entry ∈ table.map key := by
          rw [List.map_cons, List.mem_cons]
          exact or_iff_right (Ne.symm h)
        rw [if_neg h, List.map_cons, ih]
        simp only [hmem]
        split
        · rfl
        · rfl

theorem firstWith_upsert (entry : α) (k : κ) (table : List α) :
    firstWith key k (upsert key entry table) =
      if key entry = k then some entry else firstWith key k table := by
  induction table with
  | nil => exact firstWith_cons k entry []
  | cons a table ih =>
      rw [upsert]
      by_cases h : key a = key entry
      · rw [if_pos h, firstWith_cons, firstWith_cons, h]
        by_cases hk : key entry = k
        · rw [if_pos hk, if_pos hk]
        · rw [if_neg hk, if_neg hk, if_neg hk]
      · rw [if_neg h, firstWith_cons, firstWith_cons, ih]
        by_cases ha : key a = k
        · have hk : ¬ key entry = k := fun hentry => h (ha.trans hentry.symm)
          rw [if_pos ha, if_neg hk, if_pos ha]
        · rw [if_neg ha, if_neg ha]

/-- An entry with another key is left alone. -/
theorem getElem?_upsert_of_ne {entry a : α} (hne : key a ≠ key entry) (table : List α) :
    ∀ i : Nat, table[i]? = some a → (upsert key entry table)[i]? = some a := by
  induction table with
  | nil => exact fun i h => absurd h (by rw [List.getElem?_nil]; exact nofun)
  | cons b table ih =>
      intro i h
      rw [upsert]
      cases i with
      | zero =>
          rw [List.getElem?_cons_zero, Option.some.injEq] at h
          rw [h, if_neg hne, List.getElem?_cons_zero]
      | succ i =>
          rw [List.getElem?_cons_succ] at h
          split
          · exact h
          · exact ih i h

/-- An entry behind another with its key is left alone. -/
theorem getElem?_upsert_of_repeated {a : α} (entry : α) (table : List α) :
    ∀ i : Nat, table[i]? = some a → key a ∈ (table.take i).map key →
      (upsert key entry table)[i]? = some a := by
  induction table with
  | nil => exact fun i h => absurd h (by rw [List.getElem?_nil]; exact nofun)
  | cons b table ih =>
      intro i h hmem
      cases i with
      | zero => exact absurd hmem List.not_mem_nil
      | succ i =>
          rw [List.getElem?_cons_succ] at h
          rw [upsert]
          by_cases hb : key b = key entry
          · rw [if_pos hb]
            exact h
          · rw [if_neg hb, List.getElem?_cons_succ]
            by_cases ha : key a = key entry
            · -- The entry before it is not the first one, which has another key.
              refine ih i h ?_
              rw [List.take_succ_cons, List.map_cons, List.mem_cons] at hmem
              exact hmem.resolve_left fun hab => hb (hab.symm.trans ha)
            · exact getElem?_upsert_of_ne ha table i h

/-! ### Several entries -/

theorem upsertAll_concat (table entries : List α) (entry : α) :
    upsertAll key table (entries ++ [entry]) = upsert key entry (upsertAll key table entries) := by
  rw [upsertAll, List.foldl_append]
  rfl

theorem lastWith_concat (k : κ) (entries : List α) (entry : α) :
    lastWith key k (entries ++ [entry]) =
      if key entry = k then some entry else lastWith key k entries := by
  rw [lastWith, List.reverse_append, List.reverse_singleton, List.singleton_append,
    firstWith_cons]
  rfl

theorem Upserted.nil (table : List α) : Upserted key table [] table where
  keys := ⟨[], (List.append_nil _).symm, List.nodup_nil,
    fun _ => ⟨fun h => absurd h List.not_mem_nil, fun h => absurd h.1 List.not_mem_nil⟩⟩
  value := fun _ => rfl
  repeated := fun _ _ h _ => h

/-- One more entry. -/
theorem Upserted.concat {table entries result : List α} (h : Upserted key table entries result)
    (entry : α) : Upserted key table (entries ++ [entry]) (upsert key entry result) := by
  rcases h.keys with ⟨appended, hkeys, hnodup, hmem⟩
  have hentries : ∀ k, k ∈ (entries ++ [entry]).map key ↔
      k ∈ entries.map key ∨ k = key entry := by
    intro k
    rw [List.map_append, List.mem_append, List.map_singleton, List.mem_singleton]
  refine ⟨?_, ?_, ?_⟩
  · rw [map_key_upsert]
    by_cases hold : key entry ∈ result.map key
    · refine ⟨appended, ?_, hnodup, ?_⟩
      · rw [if_pos hold]
        exact hkeys
      · intro k
        rw [hmem, hentries]
        constructor
        · exact fun ⟨hk, hnew⟩ => ⟨.inl hk, hnew⟩
        · rintro ⟨hk | rfl, hnew⟩
          · exact ⟨hk, hnew⟩
          · rw [hkeys, List.mem_append] at hold
            exact (hmem _).mp (hold.resolve_left hnew)
    · rw [if_neg hold]
      rw [hkeys, List.mem_append, not_or] at hold
      refine ⟨appended ++ [key entry], ?_, ?_, ?_⟩
      · rw [hkeys, List.append_assoc]
      · rw [List.nodup_append]
        refine ⟨hnodup, List.nodup_singleton _, fun a ha b hb => ?_⟩
        rw [List.mem_singleton] at hb
        rw [hb]
        exact fun hab => hold.2 (hab ▸ ha)
      · intro k
        rw [List.mem_append, List.mem_singleton, hmem, hentries]
        constructor
        · rintro (⟨hk, hnew⟩ | rfl)
          · exact ⟨.inl hk, hnew⟩
          · exact ⟨.inr rfl, hold.1⟩
        · rintro ⟨hk | rfl, hnew⟩
          · exact .inl ⟨hk, hnew⟩
          · exact .inr rfl
  · intro k
    rw [firstWith_upsert, lastWith_concat, h.value k]
    by_cases hk : key entry = k
    · rw [if_pos hk, if_pos hk, Option.some_or]
    · rw [if_neg hk, if_neg hk]
  · intro i a ha hrepeated
    refine getElem?_upsert_of_repeated entry result i (h.repeated i a ha hrepeated) ?_
    have hi : i < table.length := (List.getElem?_eq_some_iff.mp ha).1
    have htake : (result.take i).map key = (table.take i).map key := by
      rw [List.map_take, hkeys, List.take_append_of_le_length, ← List.map_take]
      rw [List.length_map]
      omega
    rw [htake]
    exact hrepeated

theorem upsertAll_spec (table entries : List α) :
    Upserted key table entries (upsertAll key table entries) := by
  induction entries using List.reverseRec with
  | nil => exact Upserted.nil table
  | append_singleton entries entry ih =>
      rw [upsertAll_concat]
      exact ih.concat entry

end

end Mistle
