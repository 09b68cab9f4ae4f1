import Mistle.Gateway.CredentialIndex

/-!
# Credential Invalidation

An invalidation reads the index of the connection, deletes the keys it has found and
deletes the index last. It is complete for what was stored before it started: the calls
that wrote it have returned, so their keys are listed when the index is read, and what
is written afterwards is written by calls that had not returned. All of this rests on
the index, and a write of the index that drops a key in use breaks it.

Two calls that add their keys at the same time are enough: both read the index before
either has written it, the first write is lost, and the entry is never found again.

## Main definitions

* `Invalidating`: What an invalidation has still to delete.
* `Stands`: The stages of the calls stand for their programs.
* `dropsStoredKey`: A write of the index drops a key whose entry stays.
* `CacheAtRest`: The values a run starts from.

## Theorems

* `IndexStep.invalidating`: What is old is still to be deleted, in every step.
* `Stands.step`: Every step of the calls is a step of their stages.
* `invalidation_complete`: Invalidations are complete in runs that drop no stored key.
-/

namespace Mistle

section

variable {connection : IntegrationConnectionKey} {own : String → Prop} {s s' : IndexState}

/-! ### An invalidation -/

/-- What a call that is an invalidation has still to delete. -/
def CacheStage.ToDelete : Option CacheStage → String → Prop
  | some .toInvalidate, _ => True
  | some (.deleting _ keys), key => key ∈ keys
  | _, _ => False

def CacheStage.isInvalidation : Option CacheStage → Bool
  | none => true
  | some (.returning _) => true
  | some .toInvalidate => true
  | some (.deleting _ _) => true
  | _ => false

/-- An entry of the connection by one of the old writers. -/
def IndexState.OldEntry (own : String → Prop) (old : Option Nat → Prop) (s : IndexState)
    (key : String) : Prop :=
  own key ∧ ∃ entry, s.values key = some entry ∧ old entry.writer

/-- The calls of the old writers have returned, and the call `v` has what they have left
    still to delete. -/
structure Invalidating (own : String → Prop) (old : Option Nat → Prop) (v : Nat)
    (s : IndexState) : Prop where
  returned : ∀ w, old (some w) → s.stages[w]? = some none
  remaining : ∃ rest, s.stages[v]? = some rest ∧ CacheStage.isInvalidation rest = true ∧
    ∀ key, s.OldEntry own old key → CacheStage.ToDelete rest key

variable {old : Option Nat → Prop} {v : Nat}

/-- The entries of writers that have returned are in the index. -/
theorem IndexInvariant.old_listed (h : IndexInvariant connection own s)
    (hold : Invalidating own old v s) {key : String} (hkey : s.OldEntry own old key) :
    key ∈ indexKeys (toConnectionIndexKey connection) s.values := by
  rcases hkey with ⟨hown, entry, hentry, hwriter⟩
  rcases h.listed key entry hown hentry with hlisted | ⟨w, hw, stage, hstage, _⟩
  · exact hlisted
  · rw [hw] at hwriter
    rw [hold.returned w hwriter] at hstage
    exact absurd hstage (by simp only [Option.some.injEq, reduceCtorEq, not_false_eq_true])

/-- What the invalidation does next leaves it what is old and still there. -/
theorem Invalidating.own_move (h : IndexInvariant connection own s)
    (hold : Invalidating own old v s) {stage stage' : CacheStage}
    {values' : CacheValues} (hstage : s.stages[v]? = some (some stage))
    (hmove : CacheMove (toConnectionIndexKey connection) v s.values stage stage' values')
    (hentries : ∀ key, IndexState.OldEntry own old ⟨values', s.stages⟩ key → s.OldEntry own old key) :
    CacheStage.isInvalidation (some stage') = true ∧
      ∀ key, IndexState.OldEntry own old ⟨values', s.stages⟩ key →
        CacheStage.ToDelete (some stage') key := by
  rcases hold.remaining with ⟨rest, hrest, hkind, hdelete⟩
  rw [hstage, Option.some.injEq] at hrest
  rw [← hrest] at hkind hdelete
  cases hmove with
  | invalidateNothing hnone =>
      refine ⟨rfl, fun key hkey => ?_⟩
      have hlisted := h.old_listed hold (hentries key hkey)
      rw [hnone] at hlisted
      exact absurd hlisted List.not_mem_nil
  | invalidate =>
      exact ⟨rfl, fun key hkey => List.mem_dedup.mpr (h.old_listed hold (hentries key hkey))⟩
  | @deleteOne count keys deleted hdeleted =>
      refine ⟨rfl, fun key hkey => ?_⟩
      have hne : key ≠ deleted := by
        rcases hkey with ⟨_, entry, hentry, _⟩
        exact (stored_of_removed hentry).1
      exact (List.mem_erase_of_ne hne).mpr (hdelete key (hentries key hkey))
  | deleted => exact ⟨rfl, fun key hkey => absurd (hdelete key (hentries key hkey)) List.not_mem_nil⟩
  | _ => exact absurd hkind Bool.false_ne_true

/-- What an invalidation has still to delete, in every step of all calls. -/
theorem IndexStep.invalidating {who : Option Nat} (hstep : IndexStep connection s who s')
    (hown : ∀ key, own key → key ≠ toConnectionIndexKey connection)
    (h : IndexInvariant connection own s) (hold : Invalidating own old v s) :
    Invalidating own old v s' := by
  rcases hold.remaining with ⟨rest, hrest, hkind, hdelete⟩
  cases hstep with
  | @expire key value ttlMs writer hexpires =>
      refine ⟨hold.returned, rest, hrest, hkind, fun other hother => hdelete other ?_⟩
      rcases hother with ⟨hother, entry, hentry, hwriter⟩
      exact ⟨hother, entry, (stored_of_removed hentry).2, hwriter⟩
  | start hgood hadds =>
      exact ⟨fun w hw => getElem?_append_of_some (hold.returned w hw) _, rest,
        getElem?_append_of_some hrest _, hkind, hdelete⟩
  | @move n stage stage' values' hstage hgood hmove =>
      have hreturned : ∀ w, old (some w) → n ≠ w := by
        intro w hw hn
        rw [← hn] at hw
        rw [hold.returned n hw] at hstage
        exact absurd hstage (by simp only [Option.some.injEq, reduceCtorEq, not_false_eq_true])
      -- What is written now is written by a call that has not returned.
      have hentries : ∀ key, IndexState.OldEntry own old ⟨values', s.stages⟩ key →
          s.OldEntry own old key := by
        rintro key ⟨hkey, entry, hentry, hwriter⟩
        rcases hmove.entry (hown key hkey) hentry with hbefore | ⟨hn, _⟩
        · exact ⟨hkey, entry, hbefore, hwriter⟩
        · rw [hn] at hwriter
          exact absurd rfl (hreturned n hwriter)
      refine ⟨fun w hw => ?_, ?_⟩
      · rw [List.getElem?_set_ne (hreturned w hw)]
        exact hold.returned w hw
      · by_cases hn : n = v
        · rw [hn] at hstage hmove
          rcases hold.own_move h hstage hmove hentries with ⟨hkind', hdelete'⟩
          rw [hn]
          exact ⟨some stage', getElem?_set_of_some hstage _, hkind', hdelete'⟩
        · exact ⟨rest, by rwa [List.getElem?_set_ne hn], hkind,
            fun key hkey => hdelete key (hentries key hkey)⟩
  | @finish n stage hstage hreturning =>
      refine ⟨fun w hw => ?_, ?_⟩
      · by_cases hn : n = w
        · rw [← hn]
          exact getElem?_set_of_some hstage none
        · rw [List.getElem?_set_ne hn]
          exact hold.returned w hw
      · by_cases hn : n = v
        · refine ⟨none, by rw [hn] at hstage ⊢; exact getElem?_set_of_some hstage none, rfl,
            fun key hkey => ?_⟩
          rw [← hn, hstage, Option.some.injEq] at hrest
          rcases CacheStage.isReturning_iff.mp hreturning with ⟨result, hresult⟩
          have hnothing := hdelete key hkey
          rw [← hrest, hresult] at hnothing
          exact hnothing
        · exact ⟨rest, by rwa [List.getElem?_set_ne hn], hkind, hdelete⟩

end

/-! ### Calls by their stages -/

/-- The stage a call starts in. -/
def CredentialCacheCall.stage (config : CredentialCacheConfig) : CredentialCacheCall → CacheStage
  | .set input credential nowMs =>
    match resolveExpiryMs config credential nowMs with
    | none => .returning .failed
    | some expiresAtMs =>
      if expiresAtMs ≤ nowMs then .dropEntry (toCacheKey input) .stored
      else .writeEntry (toCacheKey input) ⟨credential, expiresAtMs⟩ (some (expiresAtMs - nowMs))
  | .getWithResult input => .lookUp input
  | .invalidateIntegrationConnection => .toInvalidate

section

variable {config : CredentialCacheConfig} {connection : IntegrationConnectionKey}

theorem CredentialCacheCall.program_eq {call : CredentialCacheCall}
    (hcall : call.OfConnection connection) :
    call.program config connection =
      (call.stage config).program config (toConnectionIndexKey connection) := by
  cases call with
  | set input credential nowMs =>
      have hindex : toConnectionIndexKeyForCacheKey input =
        some (toConnectionIndexKey connection) := hcall
      cases hexpiry : resolveExpiryMs config credential nowMs with
      | none => simp only [program, CredentialCache.set, stage, hexpiry, CacheStage.program]
      | some expiresAtMs =>
          simp only [program, CredentialCache.set, stage, hexpiry]
          by_cases hexpired : expiresAtMs ≤ nowMs
          · rw [if_pos hexpired, if_pos hexpired, removeFromConnectionIndex, hindex]
            rfl
          · rw [if_neg hexpired, if_neg hexpired, addToConnectionIndex, hindex]
            rfl
  | getWithResult input => rfl
  | invalidateIntegrationConnection => rfl

theorem CredentialCacheCall.stage_good {call : CredentialCacheCall}
    (hcall : call.OfConnection connection) : (call.stage config).Good connection := by
  cases call with
  | set input credential nowMs =>
      rw [stage]
      split
      · trivial
      · split
        · exact toCacheKey_ne_indexKey input connection
        · exact toCacheKey_ne_indexKey input connection
  | getWithResult input => exact hcall
  | invalidateIntegrationConnection => trivial

theorem CredentialCacheCall.stage_adds (call : CredentialCacheCall) :
    (call.stage config).adds = [] := by
  cases call with
  | set input credential nowMs =>
      rw [stage]
      split
      · rfl
      · split <;> rfl
  | getWithResult input => rfl
  | invalidateIntegrationConnection => rfl

/-- What an operation makes of the index, if it writes it. -/
def CacheOp.indexWrite (indexKey : String) : CacheOp → Option (List String)
  | .set key (.index keys) _ => if key = indexKey then some keys else none
  | .delete key => if key = indexKey then some [] else none
  | _ => none

theorem CacheStage.indexWrite_op {stage : CacheStage} {op : CacheOp}
    {next : op.Res → CacheProgram} (hgood : stage.Good connection)
    (hprogram : stage.program config (toConnectionIndexKey connection) = .perform op next) :
    op.indexWrite (toConnectionIndexKey connection) = stage.indexWrite := by
  cases stage with
  | returning result => exact absurd hprogram (by simp only [program, reduceCtorEq, not_false_eq_true])
  | dropEntry key result =>
      injection hprogram with hop _
      rw [← hop, CacheOp.indexWrite, if_neg hgood]
      rfl
  | writeIndex keys result =>
      injection hprogram with hop _
      rw [← hop, CacheOp.indexWrite, if_pos rfl]
      rfl
  | deleteIndex result =>
      injection hprogram with hop _
      rw [← hop, CacheOp.indexWrite, if_pos rfl]
      rfl
  | deleting count keys =>
      cases keys with
      | nil =>
          injection hprogram with hop _
          rw [← hop, CacheOp.indexWrite, if_pos rfl]
          rfl
      | cons first rest =>
          injection hprogram with hop _
          rw [← hop]
          rfl
  | _ =>
      injection hprogram with hop _
      rw [← hop]
      rfl

theorem CacheStage.isReturning_of_done {stage : CacheStage} {result : CredentialCacheResult}
    (hprogram : stage.program config (toConnectionIndexKey connection) = .done result) :
    stage.isReturning = true := by
  cases stage with
  | returning result => rfl
  | deleting count keys =>
      cases keys <;> exact absurd hprogram (by simp only [program, List.length_nil,
        List.length_cons, deleteKeys, reduceCtorEq, not_false_eq_true])
  | _ => exact absurd hprogram (by simp only [program, CredentialCache.getWithResult, addToIndex,
      removeFromIndex, invalidateIndex, reduceCtorEq, not_false_eq_true])

abbrev CachePoolCall := SystemCall NumberedCacheCall CredentialCacheResult CacheOp CacheOp.Res

/-- The state with the stages stands for the calls. -/
structure Stands (config : CredentialCacheConfig) (connection : IntegrationConnectionKey)
    (pool : CachePool) (s : IndexState) : Prop where
  values : pool.shared.values = s.values
  count : pool.shared.calls = pool.calls.length
  numbered : ∀ (n : Nat) (call : CachePoolCall), pool.calls[n]? = some call →
    call.input.number = n
  rests : pool.calls.map SystemCall.rest =
    s.stages.map (Option.map (CacheStage.program config (toConnectionIndexKey connection)))

variable {pool pool' : CachePool} {s : IndexState}

theorem Stands.rest (h : Stands config connection pool s) {n : Nat} {call : CachePoolCall}
    (hcall : pool.calls[n]? = some call) :
    ∃ stage, s.stages[n]? = some stage ∧
      call.rest = stage.map (CacheStage.program config (toConnectionIndexKey connection)) := by
  have hrests := congrArg (fun l => l[n]?) h.rests
  simp only [List.getElem?_map, hcall, Option.map_some] at hrests
  rcases Option.map_eq_some_iff.mp hrests.symm with ⟨stage, hstage, hrest⟩
  exact ⟨stage, hstage, hrest.symm⟩

theorem Stands.stage (h : Stands config connection pool s) {n : Nat} {stage : Option CacheStage}
    (hstage : s.stages[n]? = some stage) :
    ∃ call, pool.calls[n]? = some call ∧
      call.rest = stage.map (CacheStage.program config (toConnectionIndexKey connection)) := by
  have hrests := congrArg (fun l => l[n]?) h.rests
  simp only [List.getElem?_map, hstage, Option.map_some] at hrests
  exact Option.map_eq_some_iff.mp hrests

/-- A call that goes on goes on with its stage. -/
theorem Stands.set (h : Stands config connection pool s) {n : Nat} {i : NumberedCacheCall}
    {before rest : Option CacheProgram} (hcall : pool.calls[n]? = some ⟨i, before⟩)
    {stage : Option CacheStage} {values : CacheValues}
    (hrest : rest = stage.map (CacheStage.program config (toConnectionIndexKey connection))) :
    Stands config connection ⟨⟨values, pool.shared.calls⟩, pool.calls.set n ⟨i, rest⟩⟩
      ⟨values, s.stages.set n stage⟩ := by
  refine ⟨rfl, ?_, ?_, ?_⟩
  · rw [List.length_set]
    exact h.count
  · intro m call hm
    by_cases hn : n = m
    · rw [← hn, getElem?_set_of_some hcall, Option.some.injEq] at hm
      rw [← hm, ← hn]
      exact h.numbered n ⟨i, before⟩ hcall
    · rw [List.getElem?_set_ne hn] at hm
      exact h.numbered m call hm
  · rw [List.map_set, List.map_set, h.rests, hrest]

theorem Stands.start (h : Stands config connection pool s) (call : CredentialCacheCall)
    (hcall : call.OfConnection connection) :
    Stands config connection
      ⟨⟨pool.shared.values, pool.shared.calls + 1⟩,
        pool.calls ++ [⟨⟨pool.shared.calls, call⟩, some (call.program config connection)⟩]⟩
      ⟨s.values, s.stages ++ [some (call.stage config)]⟩ := by
  refine ⟨h.values, ?_, ?_, ?_⟩
  · rw [List.length_append, List.length_singleton, ← h.count]
  · intro m other hm
    rw [List.getElem?_append] at hm
    split at hm
    · exact h.numbered m other hm
    · rename_i hlt
      rcases List.getElem?_eq_some_iff.mp hm with ⟨hlength, hother⟩
      rw [List.length_singleton] at hlength
      have hsingle := List.mem_singleton.mp (List.mem_of_getElem? hm)
      rw [hsingle]
      simp only
      rw [h.count]
      omega
  · rw [List.map_append, List.map_append, h.rests, List.map_singleton, List.map_singleton,
      Option.map_some, CredentialCacheCall.program_eq hcall]

/-- The call that wrote an entry has still an operation to do. -/
def CachePool.inProgress (pool : CachePool) : Option Nat → Bool
  | none => false
  | some w =>
    match pool.calls[w]? with
    | some ⟨_, some (.perform _ _)⟩ => true
    | _ => false

/-- A write of the index drops a key it lists, where an entry is stored that no call in
    progress has written. -/
def dropsStoredKey (connection : IntegrationConnectionKey) (pool : CachePool) : CacheEvent → Bool
  | .perform _ op _ =>
    match op.indexWrite (toConnectionIndexKey connection) with
    | none => false
    | some keys =>
      (indexKeys (toConnectionIndexKey connection) pool.shared.values).any fun key =>
        decide (key ∉ keys) &&
          match pool.shared.values key with
          | none => false
          | some entry => !CachePool.inProgress pool entry.writer
  | _ => false

theorem Stands.inProgress (h : Stands config connection pool s) {writer : Option Nat}
    (hwriter : CachePool.inProgress pool writer = true) : s.InProgress writer := by
  cases writer with
  | none => exact absurd hwriter Bool.false_ne_true
  | some w =>
      rw [CachePool.inProgress] at hwriter
      split at hwriter
      · rename_i i op next hcall
        rcases h.rest hcall with ⟨stage?, hstage, hrest⟩
        rcases Option.map_eq_some_iff.mp hrest.symm with ⟨stage, hsome, hprogram⟩
        rw [hsome] at hstage
        refine ⟨w, stage, rfl, hstage, ?_⟩
        cases stage with
        | returning result =>
            exact absurd hprogram (by simp only [CacheStage.program, reduceCtorEq, not_false_eq_true])
        | _ => rfl
      · exact absurd hwriter Bool.false_ne_true

theorem Stands.keeps (h : Stands config connection pool s) {op : CacheOp}
    {next : op.Res → CacheProgram} {i : NumberedCacheCall} {c : CacheChoice} {n : Nat}
    {stage : CacheStage} (hdrops : dropsStoredKey connection pool (.perform i op c) = false)
    (hstage : s.stages[n]? = some (some stage)) (hgood : stage.Good connection)
    (hprogram : stage.program config (toConnectionIndexKey connection) = .perform op next) :
    s.KeepsStoredKeys connection n := by
  intro other keys hother hwrite key hlisted entry hentry
  rw [hstage, Option.some.injEq, Option.some.injEq] at hother
  rw [dropsStoredKey, CacheStage.indexWrite_op hgood hprogram, hother, hwrite] at hdrops
  simp only [List.any_eq_false, Bool.and_eq_true, decide_eq_true_eq, not_and] at hdrops
  rw [h.values] at hdrops
  by_cases hkey : key ∈ keys
  · exact .inl hkey
  · have hprogress := hdrops key hlisted hkey
    rw [hentry] at hprogress
    simp only [Bool.not_eq_true', Bool.not_eq_false] at hprogress
    exact .inr (h.inProgress hprogress)

/-- Every step of the calls is a step of their stages. -/
theorem Stands.step {own : String → Prop} (h : Stands config connection pool s)
    (hinv : IndexInvariant connection own s)
    {input : PoolInput String NumberedCacheCall CacheChoice} {out : List CacheEvent}
    (hstep : (credentialCacheSystem config connection).step pool input = some (pool', out))
    (hkeeps : ∀ event ∈ out, dropsStoredKey connection pool event = false) :
    ∃ who s', IndexStep connection s who s' ∧ Stands config connection pool' s' ∧
      ∀ n, who = some n → s.KeepsStoredKeys connection n := by
  rcases System.step_cases hstep with ⟨e, t, ht, hpool', hout⟩ | ⟨i, t, p, ht, hpool', hout⟩ |
    ⟨n, i, op, next, c, t, r, hcall, ht, hpool', hout⟩ | ⟨n, i, a, hcall, hpool', hout⟩
  · rw [credentialCacheSystem] at ht
    simp only [expireKey] at ht
    split at ht
    · rename_i value ttlMs writer hexpires
      rw [Option.map_some, Option.some.injEq] at ht
      rw [h.values] at hexpires
      refine ⟨none, _, .expire hexpires, ⟨?_, ?_, ?_, ?_⟩, fun n hn => absurd hn nofun⟩
      · rw [hpool', ← ht, h.values]
      · rw [hpool', ← ht]
        exact h.count
      · rw [hpool']
        exact h.numbered
      · rw [hpool']
        exact h.rests
    · exact absurd ht (by simp only [Option.map_none, reduceCtorEq, not_false_eq_true])
  · rcases i with ⟨number, call⟩
    simp only [credentialCacheSystem] at ht
    split at ht
    · rename_i hstart
      rw [Option.some.injEq, Prod.mk.injEq] at ht
      refine ⟨none, ⟨s.values, s.stages ++ [some (call.stage config)]⟩,
        .start (CredentialCacheCall.stage_good hstart.2) (CredentialCacheCall.stage_adds call), ?_,
        fun n hn => absurd hn nofun⟩
      rw [hpool', ← ht.1, ← ht.2, hstart.1]
      exact h.start call hstart.2
    · exact absurd ht (by simp only [reduceCtorEq, not_false_eq_true])
  · rcases h.rest hcall with ⟨stage?, hstage, hrest⟩
    rcases Option.map_eq_some_iff.mp hrest.symm with ⟨stage, hsome, hprogram⟩
    rw [hsome] at hstage
    rcases Option.map_eq_some_iff.mp ht with ⟨⟨values', r'⟩, hperform, hresult⟩
    rw [Prod.mk.injEq] at hresult
    have hnumber : i.number = n := h.numbered n _ hcall
    rw [hnumber, h.values] at hperform
    rcases stage.move hinv.readable (hinv.good n stage hstage) hprogram hperform with
      ⟨stage', hnext, hgood, hmove⟩
    refine ⟨some n, _, .move hstage hgood hmove, ?_, ?_⟩
    · rw [hpool', ← hresult.1, ← hresult.2]
      refine h.set hcall ?_
      rw [Option.map_some, hnext]
    · intro m hm
      rw [Option.some.injEq] at hm
      rw [← hm]
      exact h.keeps (hkeeps _ (hout ▸ List.mem_singleton.mpr rfl)) hstage
        (hinv.good n stage hstage) hprogram
  · rcases h.rest hcall with ⟨stage?, hstage, hrest⟩
    rcases Option.map_eq_some_iff.mp hrest.symm with ⟨stage, hsome, hprogram⟩
    rw [hsome] at hstage
    refine ⟨none, _, .finish hstage (CacheStage.isReturning_of_done hprogram), ?_,
      fun n hn => absurd hn nofun⟩
    rw [hpool', ← h.values]
    exact h.set hcall rfl

/-! ### Runs -/

/-- A key of the connection. -/
def OwnKey (connection : IntegrationConnectionKey) (key : String) : Prop :=
  ∃ input : CredentialCacheKeyInput, input.OfConnection connection ∧ toCacheKey input = key

theorem OwnKey.ne_indexKey {key : String} (h : OwnKey connection key) :
    key ≠ toConnectionIndexKey connection := by
  rcases h with ⟨input, _, hkey⟩
  rw [← hkey]
  exact toCacheKey_ne_indexKey input connection

/-- The values a run starts from: what earlier calls have left, all of it listed. -/
structure CacheAtRest (connection : IntegrationConnectionKey) (values : CacheValues) : Prop where
  readable : IndexReadable (toConnectionIndexKey connection) values
  unwritten : ∀ key stored, values key = some stored → stored.writer = none
  listed : ∀ key stored, OwnKey connection key → values key = some stored →
    key ∈ indexKeys (toConnectionIndexKey connection) values

/-- The cache with no calls yet. -/
def CachePool.atRest (values : CacheValues) : CachePool :=
  ⟨⟨values, 0⟩, []⟩

/-- The call with a number has returned. What was stored before the first call was written
    by calls that have. -/
def CachePool.returned (pool : CachePool) : Option Nat → Bool
  | none => true
  | some number =>
    match pool.calls[number]? with
    | some ⟨_, none⟩ => true
    | _ => false

theorem CachePool.returned_iff {number : Nat} :
    CachePool.returned pool (some number) = true ↔
      ∃ i, pool.calls[number]? = some ⟨i, none⟩ := by
  rw [returned]
  constructor
  · intro h
    split at h
    · rename_i i hcall
      exact ⟨i, hcall⟩
    · exact absurd h Bool.false_ne_true
  · rintro ⟨i, hcall⟩
    rw [hcall]

/-- The calls stand in stages that keep the invariant. -/
def Indexed (config : CredentialCacheConfig) (connection : IntegrationConnectionKey)
    (pool : CachePool) (s : IndexState) : Prop :=
  Stands config connection pool s ∧ IndexInvariant connection (OwnKey connection) s

theorem indexed_atRest {values : CacheValues} (h : CacheAtRest connection values) :
    Indexed config connection (CachePool.atRest values) ⟨values, []⟩ := by
  refine ⟨⟨rfl, rfl, ?_, rfl⟩, h.readable, ?_, ?_, ?_⟩
  · exact fun n call hcall => absurd hcall (by simp [CachePool.atRest])
  · exact fun n stage hstage => absurd hstage (by simp)
  · intro key entry w _ hentry hw
    rw [h.unwritten key entry hentry] at hw
    exact absurd hw (by simp only [reduceCtorEq, not_false_eq_true])
  · exact fun key entry hkey hentry => .inl (h.listed key entry hkey hentry)

/-- The stages go on with the calls, where no stored key is dropped. -/
theorem Indexed.step (h : Indexed config connection pool s)
    {input : PoolInput String NumberedCacheCall CacheChoice} {out : List CacheEvent}
    (hstep : (credentialCacheSystem config connection).step pool input = some (pool', out))
    (hkeeps : ∀ event ∈ out, dropsStoredKey connection pool event = false) :
    ∃ s', Indexed config connection pool' s' ∧
      ∀ old v, Invalidating (OwnKey connection) old v s →
        Invalidating (OwnKey connection) old v s' := by
  rcases h.1.step h.2 hstep hkeeps with ⟨who, s', hmove, hstands, hkept⟩
  have hown : ∀ key, OwnKey connection key → key ≠ toConnectionIndexKey connection :=
    fun key hkey => hkey.ne_indexKey
  exact ⟨s', ⟨hstands, hmove.invariant hown hkept h.2⟩,
    fun old v hold => hmove.invalidating hown h.2 hold⟩

/-- The steps of a run drop no stored key. -/
abbrev KeepsStoredKeys (config : CredentialCacheConfig) (connection : IntegrationConnectionKey)
    (pool : CachePool) (trace : CacheTrace) : Prop :=
  EveryStep (fun pool input out pool' =>
      (credentialCacheSystem config connection).step pool input = some (pool', out)) pool trace
    fun pool _ out => ∀ event ∈ out, dropsStoredKey connection pool event = false

theorem Indexed.run {trace : CacheTrace} (h : Indexed config connection pool s)
    (hrun : (credentialCacheSystem config connection).Runs pool trace pool')
    (hkeeps : KeepsStoredKeys config connection pool trace) :
    ∃ s', Indexed config connection pool' s' ∧
      ∀ old v, Invalidating (OwnKey connection) old v s →
        Invalidating (OwnKey connection) old v s' := by
  refine (hrun.restrict hkeeps).invariant (P := fun p => ∃ s', Indexed config connection p s' ∧
    ∀ old v, Invalidating (OwnKey connection) old v s →
      Invalidating (OwnKey connection) old v s') ⟨s, h, fun _ _ hold => hold⟩ ?_
  rintro a input out b ⟨there, hthere, hgoes⟩ hstep
  rcases hthere.step hstep.1 hstep.2 with ⟨next, hnext, hgoes'⟩
  exact ⟨next, hnext, fun old v hold => hgoes' old v (hgoes old v hold)⟩

/-- Where an invalidation starts, what has been written by calls that have returned is
    old for it. -/
theorem Indexed.start_invalidation (h : Indexed config connection pool s) {number : Nat}
    {out : List CacheEvent}
    (hstep : (credentialCacheSystem config connection).step pool
      (.start ⟨number, .invalidateIntegrationConnection⟩) = some (pool', out)) :
    ∃ s', Indexed config connection pool' s' ∧
      Invalidating (OwnKey connection) (fun writer => CachePool.returned pool writer = true)
        number s' := by
  simp only [System.step, credentialCacheSystem] at hstep
  split at hstep
  · exact absurd hstep (by simp only [reduceCtorEq, not_false_eq_true])
  · rename_i t p hstart
    split at hstart
    · rename_i hnumber
      rw [Option.some.injEq, Prod.mk.injEq] at hstart hstep
      have hpool' : pool' = ⟨⟨pool.shared.values, pool.shared.calls + 1⟩, pool.calls ++
          [⟨⟨pool.shared.calls, .invalidateIntegrationConnection⟩,
            some (CredentialCacheCall.program config connection
              .invalidateIntegrationConnection)⟩]⟩ := by
        rw [← hstep.1, ← hstart.1, ← hstart.2, hnumber.1]
      have hlength : s.stages.length = number := by
        have hlengths := congrArg List.length h.1.rests
        rw [List.length_map, List.length_map] at hlengths
        rw [hnumber.1, h.1.count, hlengths]
      refine ⟨⟨s.values, s.stages ++ [some .toInvalidate]⟩, ⟨?_, ?_⟩, ?_, ?_⟩
      · rw [hpool']
        exact h.1.start .invalidateIntegrationConnection trivial
      · exact h.2.append trivial
      · intro w hw
        rcases CachePool.returned_iff.mp hw with ⟨i, hcall⟩
        rcases h.1.rest hcall with ⟨stage, hstage, hrest⟩
        rw [Option.map_eq_none_iff.mp hrest.symm] at hstage
        exact getElem?_append_of_some hstage _
      · refine ⟨some .toInvalidate, ?_, rfl, fun key _ => trivial⟩
        rw [← hlength]
        exact List.getElem?_concat_length
    · exact absurd hstart (by simp only [reduceCtorEq, not_false_eq_true])

/-- An invalidation that has returned has left nothing of what is old for it. -/
theorem Invalidating.none_left {old : Option Nat → Prop} {v : Nat}
    (hold : Invalidating (OwnKey connection) old v s) (h : Stands config connection pool s)
    (hreturned : CachePool.returned pool (some v) = true) (key : String) :
    ¬ s.OldEntry (OwnKey connection) old key := by
  intro hkey
  rcases hold.remaining with ⟨rest, hrest, _, hdelete⟩
  rcases CachePool.returned_iff.mp hreturned with ⟨i, hcall⟩
  rcases h.rest hcall with ⟨stage, hstage, hnone⟩
  rw [Option.map_eq_none_iff.mp hnone.symm, hrest, Option.some.injEq] at hstage
  rw [hstage] at hdelete
  exact hdelete key hkey

/-- Where no write of the index drops a stored key, an invalidation that has returned has
    left no entry by a call that had returned before it started, and the index lists every
    stored key whenever no call is in progress. -/
theorem invalidation_complete (config : CredentialCacheConfig)
    (connection : IntegrationConnectionKey) (values : CacheValues) (pool' : CachePool)
    (trace : CacheTrace) (hvalues : CacheAtRest connection values)
    (hrun : (credentialCacheSystem config connection).Runs (CachePool.atRest values) trace pool')
    (hkeeps : KeepsStoredKeys config connection (CachePool.atRest values) trace) :
    (∀ (before after : CacheTrace) (number : Nat) (out : List CacheEvent) (pool : CachePool),
      trace = before ++ ⟨.start ⟨number, .invalidateIntegrationConnection⟩, out⟩ :: after →
      (credentialCacheSystem config connection).Runs (CachePool.atRest values) before pool →
      CachePool.returned pool' (some number) = true →
      ∀ input entry, input.OfConnection connection →
        pool'.shared.values (toCacheKey input) = some entry →
        CachePool.returned pool entry.writer = false) ∧
    ((∀ call ∈ pool'.calls, call.rest = none) →
      ∀ input entry, input.OfConnection connection →
        pool'.shared.values (toCacheKey input) = some entry →
        toCacheKey input ∈ indexKeys (toConnectionIndexKey connection) pool'.shared.values) := by
  constructor
  · intro before after number out pool htrace hbefore hreturned input entry hinput hentry
    rw [htrace] at hrun hkeeps
    rcases (indexed_atRest hvalues).run hbefore hkeeps.init with ⟨s, hs, _⟩
    rcases hrun.split before _ rfl with ⟨there, hthere, hrest⟩
    rw [← hbefore.functional (functional_of_step _) there hthere] at hrest
    rcases hrest.uncons with ⟨next, hstart, hafter⟩
    rcases hs.start_invalidation hstart with ⟨s₁, hs₁, hold⟩
    have hkept : KeepsStoredKeys config connection next after := by
      rw [List.append_cons] at hkeeps
      exact hkeeps.drop (hbefore.trans (Run.single hstart))
    rcases hs₁.run hafter hkept with ⟨s', hs', hgoes⟩
    rw [← Bool.not_eq_true]
    intro hwriter
    refine (hgoes _ _ hold).none_left hs'.1 hreturned (toCacheKey input)
      ⟨⟨input, hinput, rfl⟩, entry, ?_, hwriter⟩
    rw [← hs'.1.values]
    exact hentry
  · intro hreturned input entry hinput hentry
    rcases (indexed_atRest hvalues).run hrun hkeeps with ⟨s, hs, _⟩
    rw [hs.1.values] at hentry ⊢
    rcases hs.2.listed _ entry ⟨input, hinput, rfl⟩ hentry with hlisted | ⟨w, _, stage, hstage, _⟩
    · exact hlisted
    · rcases hs.1.stage hstage with ⟨call, hcall, hrest⟩
      rw [hreturned call (List.mem_of_getElem? hcall), Option.map_some] at hrest
      exact absurd hrest (by simp only [reduceCtorEq, not_false_eq_true])

end

/-! ### Two calls at once -/

def defaultCacheConfig : CredentialCacheConfig where
  defaultTtlSeconds := 300
  refreshSkewSeconds := 30
  dateParse := fun _ => none

def testConnection : IntegrationConnectionKey := ⟨none, "icn_1"⟩

def slotInput (slotKey : String) : CredentialCacheKeyInput where
  testEnvironmentId := none
  bindingId := "bind_1"
  resolver := .integrationConnection "icn_1" "api_key" (some slotKey) none

def setSlot (number : Nat) (slotKey : String) : PoolInput String NumberedCacheCall CacheChoice :=
  .start ⟨number, .set (slotInput slotKey) (.value "secret" none) 0⟩

/-- Two calls read the index before either of them has written it. -/
def racingSets : List (PoolInput String NumberedCacheCall CacheChoice) :=
  [setSlot 0 "a", setSlot 1 "b", .advance 0 {}, .advance 1 {}, .advance 0 {}, .advance 1 {},
    .advance 0 {}, .advance 1 {}, .finish 0, .finish 1]

/-- The same calls, one after the other. -/
def serialSets : List (PoolInput String NumberedCacheCall CacheChoice) :=
  [setSlot 0 "a", .advance 0 {}, .advance 0 {}, .advance 0 {}, .finish 0,
    setSlot 1 "b", .advance 1 {}, .advance 1 {}, .advance 1 {}, .finish 1]

/-- An invalidation that finds the slots in the index. -/
def invalidateSlots (slotKeys : List String) :
    List (PoolInput String NumberedCacheCall CacheChoice) :=
  .start ⟨2, .invalidateIntegrationConnection⟩ :: .advance 2 {} ::
    slotKeys.map (fun slotKey => .advance 2 { key := toCacheKey (slotInput slotKey) }) ++
      [.advance 2 {}, .finish 2]

theorem noValues_atRest : CacheAtRest testConnection fun _ => none :=
  ⟨fun _ h => absurd h nofun, fun _ _ h => absurd h nofun, fun _ _ _ h => absurd h nofun⟩

/-- Whether the entry of a slot is stored, by a call that has returned, and not listed. -/
def slotForgotten (slotKey : String) (pool : CachePool) : Bool :=
  match pool.shared.values (toCacheKey (slotInput slotKey)) with
  | none => false
  | some entry => CachePool.returned pool entry.writer &&
      decide (toCacheKey (slotInput slotKey) ∉
        indexKeys (toConnectionIndexKey testConnection) pool.shared.values)

/-- An entry that is stored and not listed is still there after an invalidation. -/
theorem invalidation_misses_slot :
    CacheAtRest testConnection (fun _ => none) ∧ (slotInput "a").OfConnection testConnection ∧
    ∃ before out after pool pool',
      (credentialCacheSystem defaultCacheConfig testConnection).Runs
        (CachePool.atRest fun _ => none) before pool ∧
      (credentialCacheSystem defaultCacheConfig testConnection).Runs
        (CachePool.atRest fun _ => none)
        (before ++ ⟨.start ⟨2, .invalidateIntegrationConnection⟩, out⟩ :: after) pool' ∧
      (pool.calls.all fun call => call.rest.isNone) = true ∧ slotForgotten "a" pool = true ∧
      CachePool.returned pool' (some 2) = true ∧
      ∃ entry, pool'.shared.values (toCacheKey (slotInput "a")) = some entry ∧
        CachePool.returned pool entry.writer = true := by
  refine ⟨noValues_atRest, by decide, ?_⟩
  have hrace : executesTo (credentialCacheSystem defaultCacheConfig testConnection).step
      (CachePool.atRest fun _ => none) racingSets (fun _ pool =>
        (pool.calls.all fun call => call.rest.isNone) && slotForgotten "a" pool &&
        executesTo (credentialCacheSystem defaultCacheConfig testConnection).step pool
          (invalidateSlots ["b"]) fun _ pool' => CachePool.returned pool' (some 2) &&
            match pool'.shared.values (toCacheKey (slotInput "a")) with
            | none => false
            | some entry => CachePool.returned pool entry.writer) = true := by
    decide +kernel
  rcases exists_run_of_executesTo hrace with ⟨before, pool, hbefore, _, hcheck⟩
  simp only [Bool.and_eq_true] at hcheck
  rcases exists_run_of_executesTo hcheck.2 with ⟨rest, pool', hrest, hinputs, hend⟩
  cases rest with
  | nil => exact absurd hinputs nofun
  | cons entry after =>
      rcases entry with ⟨input, out⟩
      rw [List.map_cons] at hinputs
      injection hinputs with hinput _
      rw [Bool.and_eq_true] at hend
      refine ⟨before, out, after, pool, pool', hbefore, ?_, hcheck.1.1, hcheck.1.2, hend.1, ?_⟩
      · rw [← hinput]
        exact hbefore.trans hrest
      · have hstored := hend.2
        split at hstored
        · exact absurd hstored Bool.false_ne_true
        · rename_i entry hentry
          exact ⟨entry, hentry, hstored⟩

/-- Whether the operations of a step drop no stored key. -/
def stepKeeps (config : CredentialCacheConfig) (connection : IntegrationConnectionKey)
    (pool : CachePool) (input : PoolInput String NumberedCacheCall CacheChoice) : Bool :=
  match (credentialCacheSystem config connection).step pool input with
  | none => true
  | some (_, out) => out.all fun event => !dropsStoredKey connection pool event

theorem keepsStoredKeys_of_stepKeeps {config : CredentialCacheConfig}
    {connection : IntegrationConnectionKey} {pool pool' : CachePool} {trace : CacheTrace}
    (hrun : (credentialCacheSystem config connection).Runs pool trace pool')
    (h : EveryStep (fun pool input out pool' =>
        (credentialCacheSystem config connection).step pool input = some (pool', out)) pool trace
      fun pool input _ => stepKeeps config connection pool input = true) :
    KeepsStoredKeys config connection pool trace := by
  refine (hrun.everyStep_iff (functional_of_step _) ?_).mp h
  intro a input out b hstep
  rw [stepKeeps, hstep, List.all_eq_true]
  simp only [Bool.not_eq_true']

/-- Of two slots set one after the other nothing is left. -/
theorem invalidation_finds_slots :
    ∃ before out after pool pool',
      (credentialCacheSystem defaultCacheConfig testConnection).Runs
        (CachePool.atRest fun _ => none) before pool ∧
      (credentialCacheSystem defaultCacheConfig testConnection).Runs
        (CachePool.atRest fun _ => none)
        (before ++ ⟨.start ⟨2, .invalidateIntegrationConnection⟩, out⟩ :: after) pool' ∧
      before.map Entry.input = serialSets ∧
      (∀ input entry, input.OfConnection testConnection →
        pool'.shared.values (toCacheKey input) = some entry →
        CachePool.returned pool entry.writer = false) ∧
      ∀ input entry, input.OfConnection testConnection →
        pool'.shared.values (toCacheKey input) = some entry →
        toCacheKey input ∈ indexKeys (toConnectionIndexKey testConnection)
          pool'.shared.values := by
  have hexecute : executesTo (credentialCacheSystem defaultCacheConfig testConnection).step
      (CachePool.atRest fun _ => none) (serialSets ++ invalidateSlots ["b", "a"])
      (fun _ pool' => CachePool.returned pool' (some 2) &&
        pool'.calls.all fun call => call.rest.isNone) = true := by
    decide +kernel
  have hpass : stepsPass (credentialCacheSystem defaultCacheConfig testConnection).step
      (stepKeeps defaultCacheConfig testConnection) (CachePool.atRest fun _ => none)
      (serialSets ++ invalidateSlots ["b", "a"]) = true := by
    decide +kernel
  rcases exists_run_of_stepsPass hexecute hpass with ⟨trace, pool', hrun, hinputs, hend, hkeeps⟩
  rw [Bool.and_eq_true] at hend
  rcases List.map_eq_append_iff.mp hinputs with ⟨before, rest, htrace, hbefore, hrest⟩
  cases rest with
  | nil => exact absurd hrest nofun
  | cons entry after =>
      rcases entry with ⟨input, out⟩
      rw [List.map_cons] at hrest
      injection hrest with hinput _
      have hstart : input = .start ⟨2, .invalidateIntegrationConnection⟩ := hinput
      rw [hstart] at htrace
      rcases hrun.split before _ htrace with ⟨pool, hfirst, _⟩
      have hcomplete := invalidation_complete defaultCacheConfig testConnection _ pool' trace
        noValues_atRest hrun (keepsStoredKeys_of_stepKeeps hrun hkeeps)
      refine ⟨before, out, after, pool, pool', hfirst, htrace ▸ hrun, hbefore,
        hcomplete.1 before after 2 out pool htrace hfirst hend.1, hcomplete.2 fun call hcall => ?_⟩
      exact Option.isNone_iff_eq_none.mp (List.all_eq_true.mp hend.2 call hcall)

end Mistle
