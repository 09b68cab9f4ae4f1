import Mistle.Gateway.CredentialCache

/-!
# The Index of a Connection

An invalidation deletes the keys it finds in the index of the connection, so it is
complete only where the index lists what is stored. The index is read and written back
in two operations, and between them other calls may have written it too. What they
added is then lost, and the entry stays until it expires.

Where a call is in its program decides what it may still do to the index. A call that
has written an entry either has its key still to add, or is about to write an index that
lists it, or is through. The calls on the cache are followed by these stages, with one
kind of step for each operation, and the listing of the stored keys is an invariant of
every run in which no write of the index drops a key that is in use.

## Main definitions

* `CacheStage`, `CacheStage.program`: Where a call may be, and what it has still to do.
* `CacheMove`: What an operation does at each stage.
* `IndexState`, `IndexStep`: The values of the cache with the stages of the calls.
* `IndexInvariant`: Every stored key is listed, or is about to be.

## Theorems

* `CacheStage.move`: Every operation of a call is the one of its stage.
* `CacheMove.entry`, `CacheMove.index`: What a move does to the entries and to the index.
* `IndexStep.invariant`: The invariant is kept where no stored key is dropped.
-/

namespace Mistle

/-! ### Stages -/

/-- Where a call may be: `toAdd` and `toRemove` read the index next, `writeIndex` and
    `deleteIndex` have read it. -/
inductive CacheStage where
  | returning (result : CredentialCacheResult)
  | lookUp (input : CredentialCacheKeyInput)
  | writeEntry (key : String) (record : CredentialCacheRecord) (ttlMs : Option Int)
  | dropEntry (key : String) (result : CredentialCacheResult)
  | toAdd (key : String) (result : CredentialCacheResult)
  | toRemove (key : String) (result : CredentialCacheResult)
  | writeIndex (keys : List String) (result : CredentialCacheResult)
  | deleteIndex (result : CredentialCacheResult)
  | toInvalidate
  | deleting (deletedEntryCount : Nat) (keys : List String)

namespace CacheStage

def program (config : CredentialCacheConfig) (indexKey : String) : CacheStage → CacheProgram
  | returning result => .done result
  | lookUp input => CredentialCache.getWithResult config input
  | writeEntry key record ttlMs =>
    .perform (.set key (.record record) ttlMs) fun _ => addToIndex indexKey key .stored
  | dropEntry key result => .perform (.delete key) fun _ => removeFromIndex indexKey key result
  | toAdd key result => addToIndex indexKey key result
  | toRemove key result => removeFromIndex indexKey key result
  | writeIndex keys result => .perform (.set indexKey (.index keys) none) fun _ => .done result
  | deleteIndex result => .perform (.delete indexKey) fun _ => .done result
  | toInvalidate => invalidateIndex indexKey
  | deleting deletedEntryCount keys => deleteKeys indexKey deletedEntryCount keys.length keys

/-- The entries of a stage are not the index. -/
def Good (connection : IntegrationConnectionKey) : CacheStage → Prop
  | lookUp input => input.OfConnection connection
  | writeEntry key _ _ => key ≠ toConnectionIndexKey connection
  | dropEntry key _ => key ≠ toConnectionIndexKey connection
  | toAdd key _ => key ≠ toConnectionIndexKey connection
  | writeIndex keys _ => toConnectionIndexKey connection ∉ keys
  | deleting _ keys => toConnectionIndexKey connection ∉ keys
  | _ => True

/-- The keys that the call goes on to have in the index. -/
def adds : CacheStage → List String
  | toAdd key _ => [key]
  | writeIndex keys _ => keys
  | _ => []

/-- What the next operation makes of the index, if it writes it. -/
def indexWrite : CacheStage → Option (List String)
  | writeIndex keys _ => some keys
  | deleteIndex _ => some []
  | deleting _ [] => some []
  | _ => none

def isReturning : CacheStage → Bool
  | returning _ => true
  | _ => false

theorem isReturning_iff {stage : CacheStage} :
    stage.isReturning = true ↔ ∃ result, stage = .returning result := by
  cases stage <;> simp [isReturning]

end CacheStage

/-! ### The index -/

abbrev CacheValues := String → Option StoredCacheValue

/-- The keys that the index lists. -/
def indexKeys (indexKey : String) (values : CacheValues) : List String :=
  match values indexKey with
  | some ⟨.index keys, _, _⟩ => keys
  | _ => []

/-- The index is none or a list of keys, does not list itself and does not expire. -/
def IndexReadable (indexKey : String) (values : CacheValues) : Prop :=
  ∀ stored, values indexKey = some stored →
    ∃ keys, stored.value = .index keys ∧ stored.ttlMs = none ∧ indexKey ∉ keys

theorem IndexReadable.cases {indexKey : String} {values : CacheValues}
    (h : IndexReadable indexKey values) :
    values indexKey = none ∨
      ∃ keys writer, values indexKey = some ⟨.index keys, none, writer⟩ ∧ indexKey ∉ keys := by
  cases hstored : values indexKey with
  | none => exact .inl rfl
  | some stored =>
      rcases stored with ⟨value, ttlMs, writer⟩
      rcases h _ hstored with ⟨keys, hvalue, httl, hkeys⟩
      simp only at hvalue httl
      rw [hvalue, httl]
      exact .inr ⟨keys, writer, rfl, hkeys⟩

/-- What is stored beside a removed value was stored before. -/
theorem stored_of_removed {values : CacheValues} {key removed : String} {stored : StoredCacheValue}
    (h : Function.update values removed none key = some stored) :
    key ≠ removed ∧ values key = some stored := by
  by_cases heq : key = removed
  · rw [heq, Function.update_self] at h
    exact absurd h (by simp only [reduceCtorEq, not_false_eq_true])
  · rw [Function.update_of_ne heq] at h
    exact ⟨heq, h⟩

theorem indexKeys_of_none {indexKey : String} {values : CacheValues}
    (h : values indexKey = none) : indexKeys indexKey values = [] := by
  rw [indexKeys, h]

theorem indexKeys_of_index {indexKey : String} {values : CacheValues} {keys : List String}
    {ttlMs : Option Int} {writer : Option Nat}
    (h : values indexKey = some ⟨.index keys, ttlMs, writer⟩) : indexKeys indexKey values = keys := by
  rw [indexKeys, h]

theorem indexKeys_update_ne {indexKey key : String} {values : CacheValues}
    {stored : Option StoredCacheValue} (h : key ≠ indexKey) :
    indexKeys indexKey (Function.update values key stored) = indexKeys indexKey values := by
  rw [indexKeys, indexKeys, Function.update_of_ne (Ne.symm h)]

theorem IndexReadable.update_ne {indexKey key : String} {values : CacheValues}
    {stored : Option StoredCacheValue} (h : IndexReadable indexKey values) (hkey : key ≠ indexKey) :
    IndexReadable indexKey (Function.update values key stored) := by
  intro found hfound
  rw [Function.update_of_ne (Ne.symm hkey)] at hfound
  exact h found hfound

/-! ### Moves -/

/-- What an operation of call `n` does at each stage. -/
inductive CacheMove (indexKey : String) (n : Nat) (values : CacheValues) :
    CacheStage → CacheStage → CacheValues → Prop where
  | lookUp {input : CredentialCacheKeyInput} {result : CredentialCacheResult} :
      CacheMove indexKey n values (.lookUp input) (.returning result) values
  | lookUpExpired {input : CredentialCacheKeyInput} {result : CredentialCacheResult} :
      CacheMove indexKey n values (.lookUp input) (.dropEntry (toCacheKey input) result) values
  | writeEntry {key : String} {record : CredentialCacheRecord} {ttlMs : Option Int} :
      CacheMove indexKey n values (.writeEntry key record ttlMs) (.toAdd key .stored)
        (Function.update values key (some ⟨.record record, ttlMs, some n⟩))
  | dropEntry {key : String} {result : CredentialCacheResult} :
      CacheMove indexKey n values (.dropEntry key result) (.toRemove key result)
        (Function.update values key none)
  | addListed {key : String} {result : CredentialCacheResult}
      (h : key ∈ indexKeys indexKey values) :
      CacheMove indexKey n values (.toAdd key result) (.returning result) values
  | addMissing {key : String} {result : CredentialCacheResult} :
      CacheMove indexKey n values (.toAdd key result)
        (.writeIndex (sortKeys (indexKeys indexKey values ++ [key])) result) values
  | removeAbsent {key : String} {result : CredentialCacheResult} :
      CacheMove indexKey n values (.toRemove key result) (.returning result) values
  | removeLast {key : String} {result : CredentialCacheResult} :
      CacheMove indexKey n values (.toRemove key result) (.deleteIndex result) values
  | removeOne {key : String} {result : CredentialCacheResult} :
      CacheMove indexKey n values (.toRemove key result)
        (.writeIndex ((indexKeys indexKey values).filter fun other => other ≠ key) result) values
  | writeIndex {keys : List String} {result : CredentialCacheResult} :
      CacheMove indexKey n values (.writeIndex keys result) (.returning result)
        (Function.update values indexKey (some ⟨.index keys, none, some n⟩))
  | deleteIndex {result : CredentialCacheResult} :
      CacheMove indexKey n values (.deleteIndex result) (.returning result)
        (Function.update values indexKey none)
  | invalidateNothing {result : CredentialCacheResult} (h : indexKeys indexKey values = []) :
      CacheMove indexKey n values .toInvalidate (.returning result) values
  | invalidate {count : Nat} :
      CacheMove indexKey n values .toInvalidate
        (.deleting count (indexKeys indexKey values).dedup) values
  | deleteOne {count : Nat} {keys : List String} {key : String} (h : key ∈ keys) :
      CacheMove indexKey n values (.deleting count keys) (.deleting count (keys.erase key))
        (Function.update values key none)
  | deleted {count : Nat} {result : CredentialCacheResult} :
      CacheMove indexKey n values (.deleting count []) (.returning result)
        (Function.update values indexKey none)

section

variable {config : CredentialCacheConfig} {connection : IntegrationConnectionKey} {n : Nat}
  {values values' : CacheValues} {stage stage' : CacheStage}

theorem mem_sortKeys {key : String} {keys : List String} : key ∈ sortKeys keys ↔ key ∈ keys :=
  List.mem_insertionSort _

/-- Every operation of a call is the one of its stage. -/
theorem CacheStage.move {op : CacheOp} {next : op.Res → CacheProgram} {c : CacheChoice}
    {r : op.Res} (hindex : IndexReadable (toConnectionIndexKey connection) values)
    (hgood : stage.Good connection)
    (hprogram : stage.program config (toConnectionIndexKey connection) = .perform op next)
    (hperform : op.perform n c values = some (values', r)) :
    ∃ stage', next r = stage'.program config (toConnectionIndexKey connection) ∧
      stage'.Good connection ∧
      CacheMove (toConnectionIndexKey connection) n values stage stage' values' := by
  cases stage with
  | returning result => exact absurd hprogram (by simp only [program, reduceCtorEq, not_false_eq_true])
  | lookUp input =>
      injection hprogram with hop hnext
      subst hop
      injection hperform with hperform
      injection hperform with hvalues hr
      subst hvalues hr
      rw [← eq_of_heq hnext]
      dsimp only
      split
      · exact ⟨.returning .miss, rfl, trivial, .lookUp⟩
      · exact ⟨.returning .failed, rfl, trivial, .lookUp⟩
      · split
        · refine ⟨.dropEntry (toCacheKey input) .refreshSkewExpired, ?_,
            toCacheKey_ne_indexKey input connection, .lookUpExpired⟩
          simp only [program, removeFromConnectionIndex]
          rw [hgood]
        · exact ⟨.returning _, rfl, trivial, .lookUp⟩
  | writeEntry key record ttlMs =>
      injection hprogram with hop hnext
      subst hop
      injection hperform with hperform
      injection hperform with hvalues hr
      rw [← eq_of_heq hnext, ← hvalues]
      exact ⟨.toAdd key .stored, rfl, hgood, .writeEntry⟩
  | dropEntry key result =>
      injection hprogram with hop hnext
      subst hop
      injection hperform with hperform
      injection hperform with hvalues hr
      rw [← eq_of_heq hnext, ← hvalues]
      exact ⟨.toRemove key result, rfl, trivial, .dropEntry⟩
  | toAdd key result =>
      injection hprogram with hop hnext
      subst hop
      injection hperform with hperform
      injection hperform with hvalues hr
      subst hvalues hr
      rw [← eq_of_heq hnext]
      rcases hindex.cases with hnone | ⟨keys, writer, hsome, hkeys⟩
      · have hmove : CacheMove (toConnectionIndexKey connection) n values (.toAdd key result)
            (.writeIndex (sortKeys (indexKeys (toConnectionIndexKey connection) values ++ [key]))
              result) values := .addMissing
        rw [indexKeys_of_none hnone] at hmove
        refine ⟨.writeIndex (sortKeys ([] ++ [key])) result, ?_, ?_, hmove⟩
        · rw [hnone]
          rfl
        · exact fun hmem => hgood (List.mem_singleton.mp (mem_sortKeys.mp hmem)).symm
      · have hlist := indexKeys_of_index hsome
        rw [hsome]
        simp only [Option.map_some, parseCredentialIndex]
        by_cases hlisted : key ∈ keys
        · rw [if_pos hlisted]
          exact ⟨.returning result, rfl, trivial, .addListed (hlist ▸ hlisted)⟩
        · rw [if_neg hlisted]
          refine ⟨.writeIndex (sortKeys (keys ++ [key])) result, rfl, ?_, ?_⟩
          · intro hmem
            rcases List.mem_append.mp (mem_sortKeys.mp hmem) with hmem | hmem
            · exact hkeys hmem
            · exact hgood (List.mem_singleton.mp hmem).symm
          · rw [← hlist]
            exact .addMissing
  | toRemove key result =>
      injection hprogram with hop hnext
      subst hop
      injection hperform with hperform
      injection hperform with hvalues hr
      subst hvalues hr
      rw [← eq_of_heq hnext]
      rcases hindex.cases with hnone | ⟨keys, writer, hsome, hkeys⟩
      · rw [hnone]
        exact ⟨.returning result, rfl, trivial, .removeAbsent⟩
      · have hlist := indexKeys_of_index hsome
        rw [hsome]
        simp only [Option.map_some]
        split
        · exact ⟨.deleteIndex result, rfl, trivial, .removeLast⟩
        · refine ⟨.writeIndex (keys.filter fun other => other ≠ key) result, rfl,
            fun hmem => hkeys (List.mem_filter.mp hmem).1, ?_⟩
          rw [← hlist]
          exact .removeOne
  | writeIndex keys result =>
      injection hprogram with hop hnext
      subst hop
      injection hperform with hperform
      injection hperform with hvalues hr
      rw [← eq_of_heq hnext, ← hvalues]
      exact ⟨.returning result, rfl, trivial, .writeIndex⟩
  | deleteIndex result =>
      injection hprogram with hop hnext
      subst hop
      injection hperform with hperform
      injection hperform with hvalues hr
      rw [← eq_of_heq hnext, ← hvalues]
      exact ⟨.returning result, rfl, trivial, .deleteIndex⟩
  | toInvalidate =>
      injection hprogram with hop hnext
      subst hop
      injection hperform with hperform
      injection hperform with hvalues hr
      subst hvalues hr
      rw [← eq_of_heq hnext]
      rcases hindex.cases with hnone | ⟨keys, writer, hsome, hkeys⟩
      · rw [hnone]
        exact ⟨.returning (.invalidated 0), rfl, trivial,
          .invalidateNothing (indexKeys_of_none hnone)⟩
      · have hlist := indexKeys_of_index hsome
        rw [hsome]
        refine ⟨.deleting keys.dedup.length keys.dedup, rfl,
          fun hmem => hkeys (List.mem_dedup.mp hmem), ?_⟩
        rw [← hlist]
        exact .invalidate
  | deleting count keys =>
      cases keys with
      | nil =>
          injection hprogram with hop hnext
          subst hop
          injection hperform with hperform
          injection hperform with hvalues hr
          rw [← eq_of_heq hnext, ← hvalues]
          exact ⟨.returning (.invalidated count), rfl, trivial, .deleted⟩
      | cons first rest =>
          injection hprogram with hop hnext
          subst hop
          simp only [CacheOp.perform] at hperform
          split at hperform
          · rename_i hmem
            injection hperform with hperform
            injection hperform with hvalues hr
            rw [← eq_of_heq hnext, ← hvalues, ← hr]
            refine ⟨.deleting count ((first :: rest).erase c.key), ?_,
              fun h => hgood (List.mem_of_mem_erase h), .deleteOne hmem⟩
            rw [program, List.length_erase_of_mem hmem, List.length_cons, Nat.add_sub_cancel]
          · exact absurd hperform (by simp only [reduceCtorEq, not_false_eq_true])

/-! ### What a move does -/

variable {indexKey : String}

theorem CacheMove.not_returning (h : CacheMove indexKey n values stage stage' values') :
    stage.isReturning = false := by
  cases h <;> rfl

/-- What was to be listed is listed, or still to be. -/
theorem CacheMove.adds (h : CacheMove indexKey n values stage stage' values') {key : String}
    (hkey : key ∈ stage.adds) :
    key ∈ indexKeys indexKey values' ∨ key ∈ stage'.adds := by
  cases h with
  | addListed h =>
      rw [CacheStage.adds, List.mem_singleton] at hkey
      rw [hkey]
      exact .inl h
  | addMissing =>
      rw [CacheStage.adds, List.mem_singleton] at hkey
      rw [hkey]
      exact .inr (mem_sortKeys.mpr (List.mem_append_right _ (List.mem_singleton.mpr rfl)))
  | @writeIndex keys result =>
      refine .inl ?_
      rw [indexKeys_of_index (Function.update_self _ _ _)]
      exact hkey
  | _ => exact absurd hkey List.not_mem_nil

/-- A call that was to add a key still is, or returns. -/
theorem CacheMove.adds_or_returning (h : CacheMove indexKey n values stage stage' values')
    {key : String} (hkey : key ∈ stage.adds) :
    key ∈ stage'.adds ∨ stage'.isReturning = true := by
  cases h with
  | addListed => exact .inr rfl
  | addMissing =>
      rw [CacheStage.adds, List.mem_singleton] at hkey
      rw [hkey]
      exact .inl (mem_sortKeys.mpr (List.mem_append_right _ (List.mem_singleton.mpr rfl)))
  | writeIndex => exact .inr rfl
  | _ => exact absurd hkey List.not_mem_nil

/-- An entry was there before, or has just been written and is to be added. -/
theorem CacheMove.entry (h : CacheMove indexKey n values stage stage' values') {key : String}
    {entry : StoredCacheValue} (hkey : key ≠ indexKey) (hentry : values' key = some entry) :
    values key = some entry ∨ (entry.writer = some n ∧ key ∈ stage'.adds) := by
  cases h with
  | @writeEntry other record ttlMs =>
      by_cases heq : key = other
      · rw [heq, Function.update_self, Option.some.injEq] at hentry
        rw [← hentry, heq]
        exact .inr ⟨rfl, List.mem_singleton.mpr rfl⟩
      · rw [Function.update_of_ne heq] at hentry
        exact .inl hentry
  | writeIndex =>
      rw [Function.update_of_ne hkey] at hentry
      exact .inl hentry
  | dropEntry => exact .inl (stored_of_removed hentry).2
  | deleteIndex => exact .inl (stored_of_removed hentry).2
  | deleteOne => exact .inl (stored_of_removed hentry).2
  | deleted => exact .inl (stored_of_removed hentry).2
  | _ => exact .inl hentry

/-- The index is what the stage writes, or what it was. -/
theorem CacheMove.index
    (h : CacheMove (toConnectionIndexKey connection) n values stage stage' values')
    (hgood : stage.Good connection) :
    indexKeys (toConnectionIndexKey connection) values' =
      stage.indexWrite.getD (indexKeys (toConnectionIndexKey connection) values) := by
  cases h with
  | writeEntry => exact indexKeys_update_ne hgood
  | dropEntry => exact indexKeys_update_ne hgood
  | writeIndex => exact indexKeys_of_index (Function.update_self _ _ _)
  | deleteIndex => exact indexKeys_of_none (Function.update_self _ _ _)
  | deleted => exact indexKeys_of_none (Function.update_self _ _ _)
  | @deleteOne count keys key h =>
      rw [indexKeys_update_ne (ne_of_mem_of_not_mem h hgood)]
      cases keys with
      | nil => exact absurd h List.not_mem_nil
      | cons first rest => rfl
  | _ => rfl

theorem CacheMove.readable
    (h : CacheMove (toConnectionIndexKey connection) n values stage stage' values')
    (hgood : stage.Good connection)
    (hindex : IndexReadable (toConnectionIndexKey connection) values) :
    IndexReadable (toConnectionIndexKey connection) values' := by
  have hdelete : IndexReadable (toConnectionIndexKey connection)
      (Function.update values (toConnectionIndexKey connection) none) := by
    intro stored hstored
    rw [Function.update_self] at hstored
    exact absurd hstored (by simp only [reduceCtorEq, not_false_eq_true])
  cases h with
  | writeEntry => exact hindex.update_ne hgood
  | dropEntry => exact hindex.update_ne hgood
  | @writeIndex keys result =>
      intro stored hstored
      rw [Function.update_self, Option.some.injEq] at hstored
      rw [← hstored]
      exact ⟨keys, rfl, rfl, hgood⟩
  | deleteIndex => exact hdelete
  | deleted => exact hdelete
  | deleteOne h => exact hindex.update_ne (ne_of_mem_of_not_mem h hgood)
  | _ => exact hindex

end

/-! ### Steps -/

/-- The values of the cache, and the stage of every call that has not returned. -/
structure IndexState where
  values : CacheValues
  stages : List (Option CacheStage)

/-- A step of the calls for one connection, with the number of the call that performs an
    operation in it. -/
inductive IndexStep (connection : IntegrationConnectionKey) :
    IndexState → Option Nat → IndexState → Prop where
  | expire {s : IndexState} {key : String} {value : CacheValue} {ttlMs : Int} {writer : Option Nat}
      (hexpires : s.values key = some ⟨value, some ttlMs, writer⟩) :
      IndexStep connection s none ⟨Function.update s.values key none, s.stages⟩
  | start {s : IndexState} {stage : CacheStage} (hgood : stage.Good connection)
      (hadds : stage.adds = []) : IndexStep connection s none ⟨s.values, s.stages ++ [some stage]⟩
  | move {s : IndexState} {n : Nat} {stage stage' : CacheStage} {values' : CacheValues}
      (hstage : s.stages[n]? = some (some stage)) (hgood : stage'.Good connection)
      (hmove : CacheMove (toConnectionIndexKey connection) n s.values stage stage' values') :
      IndexStep connection s (some n) ⟨values', s.stages.set n (some stage')⟩
  | finish {s : IndexState} {n : Nat} {stage : CacheStage}
      (hstage : s.stages[n]? = some (some stage)) (hreturning : stage.isReturning = true) :
      IndexStep connection s none ⟨s.values, s.stages.set n none⟩

/-- The call that wrote an entry has still an operation to do. -/
def IndexState.InProgress (s : IndexState) (writer : Option Nat) : Prop :=
  ∃ w stage, writer = some w ∧ s.stages[w]? = some (some stage) ∧ stage.isReturning = false

/-- A call that writes the index leaves in it what is in use. -/
def IndexState.KeepsStoredKeys (connection : IntegrationConnectionKey) (s : IndexState) (n : Nat) :
    Prop :=
  ∀ (stage : CacheStage) keys, s.stages[n]? = some (some stage) → stage.indexWrite = some keys →
    ∀ key ∈ indexKeys (toConnectionIndexKey connection) s.values, ∀ entry,
      s.values key = some entry → key ∈ keys ∨ s.InProgress entry.writer

/-- The call `w` has its key still to add to the index. -/
def IndexState.Adding (s : IndexState) (w : Nat) (key : String) : Prop :=
  ∃ stage, s.stages[w]? = some (some stage) ∧ key ∈ stage.adds

/-- A call that has written an entry is still to add its key, returning, or has returned. -/
def IndexState.Wrote (s : IndexState) (w : Nat) (key : String) : Prop :=
  s.stages[w]? = some none ∨ ∃ stage, s.stages[w]? = some (some stage) ∧
    (key ∈ stage.adds ∨ stage.isReturning = true)

/-- Every stored key of the connection is listed, or is about to be. -/
structure IndexInvariant (connection : IntegrationConnectionKey) (own : String → Prop)
    (s : IndexState) : Prop where
  readable : IndexReadable (toConnectionIndexKey connection) s.values
  good : ∀ (n : Nat) (stage : CacheStage), s.stages[n]? = some (some stage) → stage.Good connection
  wrote : ∀ key entry w, key ≠ toConnectionIndexKey connection → s.values key = some entry →
    entry.writer = some w → s.Wrote w key
  listed : ∀ key entry, own key → s.values key = some entry →
    key ∈ indexKeys (toConnectionIndexKey connection) s.values ∨
      ∃ w, entry.writer = some w ∧ s.Adding w key

section

variable {connection : IntegrationConnectionKey} {own : String → Prop} {s s' : IndexState}

theorem getElem?_set_of_some {α : Type} {l : List α} {n : Nat} {a : α} (h : l[n]? = some a)
    (b : α) : (l.set n b)[n]? = some b := by
  rcases List.getElem?_eq_some_iff.mp h with ⟨hlt, _⟩
  exact List.getElem?_set_self hlt

theorem getElem?_append_of_some {α : Type} {l : List α} {n : Nat} {a : α} (h : l[n]? = some a)
    (b : List α) : (l ++ b)[n]? = some a := by
  rcases List.getElem?_eq_some_iff.mp h with ⟨hlt, _⟩
  rw [List.getElem?_append_left hlt]
  exact h

/-- A writer that is still in progress has its key to add. -/
theorem IndexState.Adding.of_inProgress {w : Nat} {key : String} (hwrote : s.Wrote w key)
    (hprogress : s.InProgress (some w)) : s.Adding w key := by
  rcases hprogress with ⟨w', stage, hw, hstage, hreturning⟩
  rw [Option.some.injEq] at hw
  rw [← hw] at hstage
  rcases hwrote with hnone | ⟨stage', hstage', hadds | hreturning'⟩
  · rw [hnone] at hstage
    exact absurd hstage (by simp only [reduceCtorEq, Option.some.injEq, not_false_eq_true])
  · exact ⟨stage', hstage', hadds⟩
  · rw [hstage, Option.some.injEq, Option.some.injEq] at hstage'
    rw [hstage', hreturning'] at hreturning
    exact absurd hreturning (by simp only [reduceCtorEq, not_false_eq_true])

/-- An entry that goes takes nothing from the listing of the others. -/
theorem IndexInvariant.remove (h : IndexInvariant connection own s) {key : String}
    (hkey : key ≠ toConnectionIndexKey connection) :
    IndexInvariant connection own ⟨Function.update s.values key none, s.stages⟩ := by
  refine ⟨h.readable.update_ne hkey, h.good, ?_, ?_⟩
  · intro other entry w hother hstored hw
    exact h.wrote other entry w hother (stored_of_removed hstored).2 hw
  · intro other entry hother hstored
    rw [indexKeys_update_ne hkey]
    exact h.listed other entry hother (stored_of_removed hstored).2

/-- A call that starts adds nothing yet. -/
theorem IndexInvariant.append (h : IndexInvariant connection own s) {stage : CacheStage}
    (hgood : stage.Good connection) :
    IndexInvariant connection own ⟨s.values, s.stages ++ [some stage]⟩ := by
  refine ⟨h.readable, ?_, ?_, ?_⟩
  · intro n other hother
    rw [List.getElem?_append] at hother
    split at hother
    · exact h.good n other hother
    · have hmem := List.mem_of_getElem? hother
      rw [List.mem_singleton, Option.some.injEq] at hmem
      rw [hmem]
      exact hgood
  · intro key entry w hkey hentry hw
    rcases h.wrote key entry w hkey hentry hw with hnone | ⟨other, hother, hadds⟩
    · exact .inl (getElem?_append_of_some hnone _)
    · exact .inr ⟨other, getElem?_append_of_some hother _, hadds⟩
  · intro key entry hkey hentry
    rcases h.listed key entry hkey hentry with hlisted | ⟨w, hw, other, hother, hadds⟩
    · exact .inl hlisted
    · exact .inr ⟨w, hw, other, getElem?_append_of_some hother _, hadds⟩

/-- A call that returns had nothing more to add. -/
theorem IndexInvariant.finish (h : IndexInvariant connection own s) {n : Nat} {stage : CacheStage}
    (hstage : s.stages[n]? = some (some stage)) (hreturning : stage.isReturning = true) :
    IndexInvariant connection own ⟨s.values, s.stages.set n none⟩ := by
  refine ⟨h.readable, ?_, ?_, ?_⟩
  · intro m other hother
    by_cases hm : n = m
    · rw [← hm, getElem?_set_of_some hstage, Option.some.injEq] at hother
      exact absurd hother (by simp only [reduceCtorEq, not_false_eq_true])
    · rw [List.getElem?_set_ne hm] at hother
      exact h.good m other hother
  · intro key entry w hkey hentry hw
    by_cases hn : n = w
    · rw [← hn]
      exact .inl (getElem?_set_of_some hstage none)
    · rw [IndexState.Wrote, List.getElem?_set_ne hn]
      exact h.wrote key entry w hkey hentry hw
  · intro key entry hkey hentry
    rcases h.listed key entry hkey hentry with hlisted | ⟨w, hw, other, hother, hadds⟩
    · exact .inl hlisted
    · refine .inr ⟨w, hw, other, ?_, hadds⟩
      by_cases hn : n = w
      · rw [← hn, hstage, Option.some.injEq, Option.some.injEq] at hother
        rcases CacheStage.isReturning_iff.mp hreturning with ⟨result, hresult⟩
        rw [← hother, hresult] at hadds
        exact absurd hadds List.not_mem_nil
      · rw [List.getElem?_set_ne hn]
        exact hother

/-- What an adding call does next leaves its key listed or still to be added. -/
theorem IndexState.Adding.move {n w : Nat} {key : String} {stage stage' : CacheStage}
    {values' : CacheValues} (h : s.Adding w key) (hstage : s.stages[n]? = some (some stage))
    (hmove : CacheMove (toConnectionIndexKey connection) n s.values stage stage' values') :
    key ∈ indexKeys (toConnectionIndexKey connection) values' ∨
      IndexState.Adding ⟨values', s.stages.set n (some stage')⟩ w key := by
  rcases h with ⟨other, hother, hadds⟩
  by_cases hn : n = w
  · rw [← hn, hstage, Option.some.injEq, Option.some.injEq] at hother
    rw [← hother] at hadds
    rw [← hn]
    exact (hmove.adds hadds).imp id fun hadds => ⟨stage', getElem?_set_of_some hstage _, hadds⟩
  · exact .inr ⟨other, by rwa [List.getElem?_set_ne hn], hadds⟩

/-- A move keeps the invariant where it drops no key that is in use. -/
theorem IndexInvariant.move (h : IndexInvariant connection own s)
    (hown : ∀ key, own key → key ≠ toConnectionIndexKey connection) {n : Nat}
    {stage stage' : CacheStage} {values' : CacheValues}
    (hstage : s.stages[n]? = some (some stage)) (hgood : stage'.Good connection)
    (hmove : CacheMove (toConnectionIndexKey connection) n s.values stage stage' values')
    (hkeeps : s.KeepsStoredKeys connection n) :
    IndexInvariant connection own ⟨values', s.stages.set n (some stage')⟩ := by
  have hstage' := getElem?_set_of_some hstage (some stage')
  refine ⟨hmove.readable (h.good n stage hstage) h.readable, ?_, ?_, ?_⟩
  · intro m other hother
    by_cases hm : n = m
    · rw [← hm, hstage', Option.some.injEq, Option.some.injEq] at hother
      rw [← hother]
      exact hgood
    · rw [List.getElem?_set_ne hm] at hother
      exact h.good m other hother
  · intro key entry w hkey hentry hw
    rcases hmove.entry hkey hentry with hbefore | ⟨hn, hadds⟩
    · by_cases hn : n = w
      · rw [← hn]
        -- A call that goes on has not returned, so it was still to add its key.
        rcases h.wrote key entry w hkey hbefore hw with hnone | ⟨other, hother, hadds⟩
        · rw [← hn, hstage] at hnone
          exact absurd hnone (by simp only [Option.some.injEq, reduceCtorEq, not_false_eq_true])
        · rw [← hn, hstage, Option.some.injEq, Option.some.injEq] at hother
          rw [← hother] at hadds
          rcases hadds with hadds | hreturning
          · exact .inr ⟨stage', hstage', hmove.adds_or_returning hadds⟩
          · rw [hmove.not_returning] at hreturning
            exact absurd hreturning Bool.false_ne_true
      · rw [IndexState.Wrote, List.getElem?_set_ne hn]
        exact h.wrote key entry w hkey hbefore hw
    · rw [hw, Option.some.injEq] at hn
      rw [hn]
      exact .inr ⟨stage', hstage', .inl hadds⟩
  · intro key entry hkey hentry
    rcases hmove.entry (hown key hkey) hentry with hbefore | ⟨hn, hadds⟩
    · have hadding : ∀ w, entry.writer = some w → s.Adding w key →
          key ∈ indexKeys (toConnectionIndexKey connection) values' ∨
            ∃ w, entry.writer = some w ∧
              IndexState.Adding ⟨values', s.stages.set n (some stage')⟩ w key :=
        fun w hw hadding => (hadding.move hstage hmove).imp id fun hafter => ⟨w, hw, hafter⟩
      rcases h.listed key entry hkey hbefore with hlisted | ⟨w, hw, hadds⟩
      · cases hwrite : stage.indexWrite with
        | none =>
            refine .inl ?_
            rw [hmove.index (h.good n stage hstage), hwrite]
            exact hlisted
        | some keys =>
            rcases hkeeps stage keys hstage hwrite key hlisted entry hbefore with hkept | hprogress
            · refine .inl ?_
              rw [hmove.index (h.good n stage hstage), hwrite]
              exact hkept
            · rcases hprogress with ⟨w, hprogress⟩
              refine hadding w hprogress.choose_spec.1 (.of_inProgress
                (h.wrote key entry w (hown key hkey) hbefore hprogress.choose_spec.1)
                ⟨w, hprogress.choose, rfl, hprogress.choose_spec.2⟩)
      · exact hadding w hw hadds
    · exact .inr ⟨n, hn, stage', hstage', hadds⟩

/-- The invariant is kept where no stored key is dropped. -/
theorem IndexStep.invariant {who : Option Nat} (hstep : IndexStep connection s who s')
    (hown : ∀ key, own key → key ≠ toConnectionIndexKey connection)
    (hkeeps : ∀ n, who = some n → s.KeepsStoredKeys connection n)
    (h : IndexInvariant connection own s) : IndexInvariant connection own s' := by
  cases hstep with
  | @expire key value ttlMs writer hexpires =>
      refine h.remove fun hkey => ?_
      -- The index has no time to live.
      rw [hkey] at hexpires
      rcases h.readable _ hexpires with ⟨keys, _, httl, _⟩
      exact absurd httl (by simp only [reduceCtorEq, not_false_eq_true])
  | start hgood hadds => exact h.append hgood
  | move hstage hgood hmove => exact h.move hown hstage hgood hmove (hkeeps _ rfl)
  | finish hstage hreturning => exact h.finish hstage hreturning

end

end Mistle
