import Mathlib.Data.List.Induction
import Mathlib.Data.Set.Function
import Mistle.Proxy.Calls

/-!
# A Request Is Forwarded at Most Once

The index of a running process and the directory may differ after a step of the file
system has failed, but never about a completed record, and never about what a key was
used for. So a key whose request was forwarded keeps its record until that record is
removed, over failed calls and over processes that die, and what a record says is
what every later request with its key gets.

## Main definitions

* `Shaped`: A record as the proxies write it.
* `Files`, `Indexes`: What a directory holds, and how an index may differ from it.
* `Change`: What one operation of the store changes.
* `ProxyState.Sound`, `ProxyState.Guards`: The invariants.

## Theorems

* `apply_change`: Every operation makes a change.
* `proxyStep_sound`, `proxyStep_guards`, `proxyStep_keeps_completed`: What a step keeps.
* `proxies_forward_at_most_once`: Every run.
-/

namespace Mistle

/-- A record as the proxies write it. -/
structure Shaped (record : IdempotencyRecord) : Prop where
  version : record.version = currentIdempotencyRecordVersion
  storable : record.Storable
  completed : record.status = .completed →
    ∃ document, record.response = some document ∧ IsResponse record.runtimeId document

/-- An operation as the proxies ask for it. -/
def StoreOperation.Shaped : StoreOperation → Prop
  | .start _ => True
  | .accept _ _ => False
  | .complete key input =>
    IsResponse key.runtimeId input.response ∧ input.runtimeArtifactHint ≠ some .null
  | .delete _ _ => True

/-- A record under its key. -/
structure Filed (keys : Set String) (key : StoreKey) (record : IdempotencyRecord) : Prop where
  ofRecord : .ofRecord record = key
  known : key.key ∈ keys
  shaped : Shaped record

/-- What a directory holds. -/
structure Files (sha : Sha256) (keys : Set String) (disk : Disk)
    (filed : StoreKey → Option IdempotencyRecord) : Prop where
  mirrors : Mirrors sha disk filed
  filed : ∀ key record, filed key = some record → Filed keys key record

/-- An index of a directory, which may have missed changes of records that are not
    completed. -/
structure Indexes (keys : Set String) (filed index : StoreKey → Option IdempotencyRecord) :
    Prop where
  indexed : ∀ key record, index key = some record → Filed keys key record
  completed : ∀ key record, index key = some record → record.status = .completed →
    filed key = some record
  same : ∀ key record other, index key = some record → filed key = some other →
    other.requestFingerprint = record.requestFingerprint

/-- What an operation changes: nothing, or a record, or a started record goes. The
    index may miss it. -/
inductive Change (before : StoreState) (input : StoreInput) (after : StoreState)
    (result : StoreResult) (filed : StoreKey → Option IdempotencyRecord) :
    (StoreKey → Option IdempotencyRecord) → Prop where
  | kept (hstore : after.store = before.store)
      (hresult : before.writes input.operation = none ∨ result ≠ .done) :
      Change before input after result filed filed
  | written (record : IdempotencyRecord) (hwrites : before.writes input.operation = some record)
      (hstore : (after.store = before.store ∧ result ≠ .done) ∨
        after.store.records = Function.update before.store.records (.ofRecord record)
          (some record)) :
      Change before input after result filed
        (Function.update filed (.ofRecord record) (some record))
  | removed (key : StoreKey) (hremoves : before.removes input.operation = some key)
      (hlands : RemovalLands input.fault)
      (hstore : after.store = before.store ∨
        after.store.records = Function.update before.store.records key none) :
      Change before input after result filed (Function.update filed key none)

/-! ### Operations -/

section

variable {sha : Sha256} {keys : Set String} {disk : Disk}
  {filed index : StoreKey → Option IdempotencyRecord}

theorem Filed.completed {key : StoreKey} {record : IdempotencyRecord}
    (h : Filed keys key record) {input : CompleteIdempotencyOperation}
    (hshaped : (StoreOperation.complete key input).Shaped) :
    Filed keys key (record.completed input) := by
  rcases record.completed_keeps input with ⟨hkey, hruntime, hoperation, hversion, _⟩
  rcases record.completed_status input with ⟨_, hresponse⟩
  have hof : StoreKey.ofRecord (record.completed input) = .ofRecord record := by
    rw [StoreKey.ofRecord, StoreKey.ofRecord, hkey, hruntime, hoperation]
  have hruntime' : record.runtimeId = key.runtimeId := by
    rw [← h.ofRecord]
    rfl
  refine ⟨hof.trans h.ofRecord, h.known, hversion.trans h.shaped.version, ⟨?_, ?_⟩, fun _ => ?_⟩
  · unfold IdempotencyRecord.completed
    by_cases hstarted : record.status = .started
    · rw [if_pos hstarted]
      exact hshaped.2
    · rw [if_neg hstarted]
      exact h.shaped.storable.1
  · rw [hresponse, ne_eq, Option.some.injEq]
    intro hnull
    have hresponses : IsResponse key.runtimeId .null := hnull ▸ hshaped.1
    cases hkey : key.runtimeId with
    | codex | openCode | pi =>
        rw [hkey] at hresponses
        rcases hresponses with ⟨response, heq⟩
        exact absurd heq (by simp only [StoredCodexProxyResponse.toJson,
          StoredOpenCodeProxyResponse.toJson, reduceCtorEq, not_false_eq_true])
  · rw [hresponse, hruntime, hruntime']
    exact ⟨_, rfl, hshaped.1⟩

/-- The record that an operation writes is one for its key, where the index has none
    or one for the same request that is not completed. -/
theorem writes_spec {st : StoreState} {operation : StoreOperation} {record : IdempotencyRecord}
    (hindexed : ∀ key record, st.store.records key = some record → Filed keys key record)
    (hkey : operation.key.key ∈ keys) (hshaped : operation.Shaped)
    (hwrites : st.writes operation = some record) :
    Filed keys operation.key record ∧ ∀ existing, st.store.records operation.key = some existing →
      existing.status ≠ .completed ∧ record.requestFingerprint = existing.requestFingerprint := by
  cases operation with
  | start input =>
      simp only [StoreState.writes, StoreOperation.key] at hwrites hkey ⊢
      by_cases hnone : st.store.records ⟨input.runtimeId, input.operation, input.key⟩ = none
      · rw [if_pos hnone, Option.some.injEq] at hwrites
        rw [← hwrites]
        refine ⟨⟨rfl, hkey, rfl, ⟨?_, ?_⟩, fun hcompleted => ?_⟩, fun existing hexisting => ?_⟩
        · simp only [IdempotencyRecord.started, ne_eq, reduceCtorEq, not_false_eq_true]
        · simp only [IdempotencyRecord.started, ne_eq, reduceCtorEq, not_false_eq_true]
        · exact absurd hcompleted (by
            simp only [IdempotencyRecord.started, reduceCtorEq, not_false_eq_true])
        · rw [hnone] at hexisting
          exact absurd hexisting (by simp only [reduceCtorEq, not_false_eq_true])
      · rw [if_neg hnone] at hwrites
        exact absurd hwrites (by simp only [reduceCtorEq, not_false_eq_true])
  | accept key input => exact hshaped.elim
  | complete key input =>
      simp only [StoreState.writes] at hwrites
      rcases Option.bind_eq_some_iff.mp hwrites with ⟨existing, hrecord, hmarked⟩
      cases hnext : existing.markCompleted input with
      | error error =>
          rw [hnext] at hmarked
          exact absurd hmarked (by simp only [reduceCtorEq, not_false_eq_true])
      | ok next =>
          rw [hnext, Option.some.injEq] at hmarked
          rcases IdempotencyRecord.markCompleted_ok hnext with ⟨_, hopen, hcompleted⟩
          rw [← hmarked, hcompleted]
          refine ⟨(hindexed key existing hrecord).completed hshaped, fun other hother => ?_⟩
          rw [StoreOperation.key, hrecord, Option.some.injEq] at hother
          rw [← hother]
          exact ⟨hopen, (existing.completed_keeps input).2.2.2.2⟩
  | delete key fingerprint =>
      exact absurd hwrites (by simp only [StoreState.writes, reduceCtorEq, not_false_eq_true])

theorem removes_spec {st : StoreState} {operation : StoreOperation} {key : StoreKey}
    (h : st.removes operation = some key) : ∃ fingerprint record,
      operation = .delete key fingerprint ∧ st.store.records key = some record ∧
      record.status = .started ∧ record.requestFingerprint = fingerprint := by
  cases operation with
  | delete other fingerprint =>
      simp only [StoreState.removes] at h
      rcases Option.bind_eq_some_iff.mp h with ⟨record, hrecord, hkey⟩
      by_cases hlet : record.requestFingerprint = fingerprint ∧ record.status = .started
      · rw [if_pos hlet, Option.some.injEq] at hkey
        rw [← hkey]
        exact ⟨fingerprint, record, rfl, hrecord, hlet.2, hlet.1⟩
      · rw [if_neg hlet] at hkey
        exact absurd hkey (by simp only [reduceCtorEq, not_false_eq_true])
  | start _ | accept _ _ | complete _ _ =>
      exact absurd h (by simp only [StoreState.removes, reduceCtorEq, not_false_eq_true])

/-- A file with the name of a known key is the file of that key. -/
theorem Files.of_contains (h : Files sha keys disk filed)
    (hdigest : Set.InjOn (fun key => sha.digest (utf8 key)) keys) {key : StoreKey}
    (hkey : key.key ∈ keys) (hexists : disk.directory.contains (recordFileName sha key) = true) :
    ∃ record, filed key = some record := by
  rw [Std.ExtTreeMap.contains_eq_isSome_getElem?, Option.isSome_iff_exists] at hexists
  rcases hexists with ⟨entry, hentry⟩
  rcases h.mirrors.entries _ entry hentry with ⟨contents, _, htemp | ⟨record, _, hname, hrecord⟩⟩
  · rw [isStoreTempRecordFileName_record] at htemp
    exact absurd htemp (by decide)
  · have hother := (h.filed _ record hrecord).known
    have hsame : key = .ofRecord record :=
      recordFileName_injective sha (fun heq => hdigest hkey hother heq) hname
    rw [← hsame] at hrecord
    exact ⟨record, hrecord⟩

/-- Every operation makes a change. -/
theorem apply_change (st : StoreState) (h : Files sha keys st.disk filed)
    (hindex : Indexes keys filed st.store.records)
    (hdigest : Set.InjOn (fun key => sha.digest (utf8 key)) keys) (input : StoreInput)
    (hkey : input.operation.key.key ∈ keys) (hshaped : input.operation.Shaped) :
    ∃ filed', Files sha keys (st.apply sha input).1.disk filed' ∧
      Change st input (st.apply sha input).1 (st.apply sha input).2 filed filed' := by
  cases hwrites : st.writes input.operation with
  | some record =>
      rcases writes_spec hindex.indexed hkey hshaped hwrites with ⟨hfiled, _⟩
      have hrecord : Filed keys (.ofRecord record) record := by
        rw [hfiled.ofRecord]
        exact hfiled
      rw [(apply_eq_writeAndIndexRecord sha hwrites).2]
      unfold IdempotencyStore.writeAndIndexRecord
      rcases writeRecordAtomically_spec sha st.store.root input.fault record st.disk
        with hrefused | hlanded
      · rcases hrefused with ⟨_, error, disk', heq, hsame⟩
        rw [heq]
        refine ⟨filed, ⟨h.mirrors.congr hsame, h.filed⟩, .kept rfl (.inr ?_)⟩
        simp only [StoreOutcome.settle, ne_eq, reduceCtorEq, not_false_eq_true]
      · rcases hlanded with ⟨_, disk', hsame, heq⟩
        rw [heq]
        have hreads : Reads (.ok record.toJson) record := by
          have hback := reads_toJson hrecord.shaped.version
          rwa [(IdempotencyRecord.readBack_eq_self record).mpr hrecord.shaped.storable] at hback
        have hmirrors := (h.mirrors.congr hsame).insert hreads fun key hsome hname => by
          rcases Option.ne_none_iff_exists'.mp hsome with ⟨other, hother⟩
          exact recordFileName_injective sha
            (fun heq => hdigest (h.filed key other hother).known hrecord.known heq) hname
        have hfiles : ∀ key other,
            Function.update filed (.ofRecord record) (some record) key = some other →
            Filed keys key other := by
          intro key other hother
          by_cases hsamekey : key = .ofRecord record
          · rw [hsamekey, Function.update_self, Option.some.injEq] at hother
            rw [hsamekey, ← hother]
            exact hrecord
          · rw [Function.update_of_ne hsamekey] at hother
            exact h.filed key other hother
        unfold syncDirectory
        cases Fault.hits input.fault .syncDirectory with
        | some error =>
            refine ⟨_, ⟨hmirrors, hfiles⟩, .written record hwrites (.inl ⟨rfl, ?_⟩)⟩
            simp only [StoreOutcome.settle, ne_eq, reduceCtorEq, not_false_eq_true]
        | none => exact ⟨_, ⟨hmirrors, hfiles⟩, .written record hwrites (.inr rfl)⟩
  | none =>
      cases hremoves : st.removes input.operation with
      | none =>
          rw [apply_of_idle sha hwrites hremoves]
          exact ⟨filed, h, .kept rfl (.inl hwrites)⟩
      | some key =>
          rcases removes_spec hremoves with ⟨fingerprint, record, hoperation, hrecord, _, _⟩
          have hknown := (hindex.indexed key record hrecord).known
          have hdelete : st.removes (.delete key fingerprint) ≠ none := by
            rw [← hoperation, hremoves]
            simp only [ne_eq, reduceCtorEq, not_false_eq_true]
          have heq := (deleteStarted_of_removes sha st input.fault hdelete).2.2
          have happly : st.apply sha input = (st.store.deleteStarted sha input.fault st.disk key
              fingerprint).settle := by
            simp only [StoreState.apply, hoperation]
          rw [happly, heq]
          cases hexists : st.disk.directory.contains (recordFileName sha key) with
          | false =>
              -- The file went before, and the index has not heard of it.
              have hgone : ∃ error, deleteRecord st.store.root input.fault (recordFileName sha key)
                  st.disk = (.error error, st.disk) := by
                unfold deleteRecord
                rw [hexists]
                cases Fault.hits input.fault .remove with
                | some error => exact ⟨_, rfl⟩
                | none => exact ⟨_, rfl⟩
              rcases hgone with ⟨error, hgone⟩
              rw [hgone]
              exact ⟨filed, h, .kept rfl (.inl hwrites)⟩
          | true =>
              rcases h.of_contains hdigest hknown hexists with ⟨other, hother⟩
              rcases deleteRecord_spec st.store.root input.fault hexists with hstays | hgoes
              · rcases hstays with ⟨_, error, hdelete⟩
                rw [hdelete]
                exact ⟨filed, h, .kept rfl (.inl hwrites)⟩
              · rcases hgoes with ⟨hlands, hdelete⟩
                rw [hdelete]
                have hmirrors := h.mirrors.erase hother
                have hfiles : ∀ key' found,
                    Function.update filed key none key' = some found → Filed keys key' found := by
                  intro key' found hfound
                  by_cases hsamekey : key' = key
                  · rw [hsamekey, Function.update_self] at hfound
                    exact absurd hfound (by simp only [reduceCtorEq, not_false_eq_true])
                  · rw [Function.update_of_ne hsamekey] at hfound
                    exact h.filed key' found hfound
                unfold syncDirectory
                cases Fault.hits input.fault .syncDirectory with
                | some error =>
                    exact ⟨_, ⟨hmirrors, hfiles⟩, .removed key hremoves hlands (.inl rfl)⟩
                | none => exact ⟨_, ⟨hmirrors, hfiles⟩, .removed key hremoves hlands (.inr rfl)⟩

/-- An index stays one of its directory. -/
theorem Change.indexes {before after : StoreState} {input : StoreInput} {result : StoreResult}
    {filed' : StoreKey → Option IdempotencyRecord}
    (hindex : Indexes keys filed before.store.records) (hkey : input.operation.key.key ∈ keys)
    (hshaped : input.operation.Shaped) (change : Change before input after result filed filed') :
    Indexes keys filed' after.store.records := by
  cases change with
  | kept hstore _ =>
      rw [hstore]
      exact hindex
  | written record hwrites hstore =>
      rcases writes_spec hindex.indexed hkey hshaped hwrites with ⟨hfiled, hexisting⟩
      rw [← hfiled.ofRecord] at hexisting
      have hrecord : Filed keys (.ofRecord record) record := by
        rw [hfiled.ofRecord]
        exact hfiled
      rcases hstore with ⟨hstore, _⟩ | hstore
      · rw [hstore]
        refine ⟨hindex.indexed, fun key other hother hcompleted => ?_,
          fun key other found hother hfound => ?_⟩
        · by_cases hsame : key = .ofRecord record
          · rw [hsame] at hother
            exact absurd hcompleted (hexisting other hother).1
          · rw [Function.update_of_ne hsame]
            exact hindex.completed key other hother hcompleted
        · by_cases hsame : key = .ofRecord record
          · rw [hsame, Function.update_self, Option.some.injEq] at hfound
            rw [hsame] at hother
            rw [← hfound]
            exact (hexisting other hother).2
          · rw [Function.update_of_ne hsame] at hfound
            exact hindex.same key other found hother hfound
      · rw [hstore]
        refine ⟨fun key other hother => ?_, fun key other hother hcompleted => ?_,
          fun key other found hother hfound => ?_⟩
        · by_cases hsame : key = .ofRecord record
          · rw [hsame, Function.update_self, Option.some.injEq] at hother
            rw [hsame, ← hother]
            exact hrecord
          · rw [Function.update_of_ne hsame] at hother
            exact hindex.indexed key other hother
        · by_cases hsame : key = .ofRecord record
          · rw [hsame, Function.update_self] at hother ⊢
            exact hother
          · rw [Function.update_of_ne hsame] at hother ⊢
            exact hindex.completed key other hother hcompleted
        · by_cases hsame : key = .ofRecord record
          · rw [hsame, Function.update_self, Option.some.injEq] at hother hfound
            rw [← hother, ← hfound]
          · rw [Function.update_of_ne hsame] at hother hfound
            exact hindex.same key other found hother hfound
  | removed key hremoves hlands hstore =>
      rcases removes_spec hremoves with ⟨_, started, _, hstarted, hstatus, _⟩
      have hnone : ∀ key' other, Function.update filed key none key' = some other →
          key' ≠ key ∧ filed key' = some other := by
        intro key' other hother
        by_cases hsame : key' = key
        · rw [hsame, Function.update_self] at hother
          exact absurd hother (by simp only [reduceCtorEq, not_false_eq_true])
        · rw [Function.update_of_ne hsame] at hother
          exact ⟨hsame, hother⟩
      rcases hstore with hstore | hstore
      · rw [hstore]
        refine ⟨hindex.indexed, fun key' other hother hcompleted => ?_,
          fun key' other found hother hfound => ?_⟩
        · have hne : key' ≠ key := by
            rintro rfl
            rw [hstarted, Option.some.injEq] at hother
            rw [← hother, hstatus] at hcompleted
            exact absurd hcompleted (by simp only [reduceCtorEq, not_false_eq_true])
          rw [Function.update_of_ne hne]
          exact hindex.completed key' other hother hcompleted
        · exact hindex.same key' other found hother (hnone key' found hfound).2
      · rw [hstore]
        have hindexed : ∀ key' other,
            Function.update before.store.records key none key' = some other →
            key' ≠ key ∧ before.store.records key' = some other := by
          intro key' other hother
          by_cases hsame : key' = key
          · rw [hsame, Function.update_self] at hother
            exact absurd hother (by simp only [reduceCtorEq, not_false_eq_true])
          · rw [Function.update_of_ne hsame] at hother
            exact ⟨hsame, hother⟩
        refine ⟨fun key' other hother => hindex.indexed key' other (hindexed key' other hother).2,
          fun key' other hother hcompleted => ?_, fun key' other found hother hfound => ?_⟩
        · rcases hindexed key' other hother with ⟨hne, hother⟩
          rw [Function.update_of_ne hne]
          exact hindex.completed key' other hother hcompleted
        · exact hindex.same key' other found (hindexed key' other hother).2 (hnone key' found hfound).2

/-- A completed record stays, in the directory and in the index. -/
theorem Change.keeps_completed {before after : StoreState} {input : StoreInput}
    {result : StoreResult} {filed' : StoreKey → Option IdempotencyRecord}
    (hindex : Indexes keys filed before.store.records) (hkey : input.operation.key.key ∈ keys)
    (hshaped : input.operation.Shaped) (change : Change before input after result filed filed')
    {key : StoreKey} {record : IdempotencyRecord} (hrecord : before.store.records key = some record)
    (hcompleted : record.status = .completed) :
    after.store.records key = some record ∧ filed' key = some record := by
  have hfiled := hindex.completed key record hrecord hcompleted
  cases change with
  | kept hstore _ =>
      rw [hstore]
      exact ⟨hrecord, hfiled⟩
  | written other hwrites hstore =>
      rcases writes_spec hindex.indexed hkey hshaped hwrites with ⟨hother, hexisting⟩
      rw [← hother.ofRecord] at hexisting
      have hne : key ≠ .ofRecord other := by
        rintro rfl
        exact (hexisting record hrecord).1 hcompleted
      rw [Function.update_of_ne hne]
      rcases hstore with ⟨hstore, _⟩ | hstore
      · rw [hstore]
        exact ⟨hrecord, hfiled⟩
      · rw [hstore, Function.update_of_ne hne]
        exact ⟨hrecord, hfiled⟩
  | removed other hremoves hlands hstore =>
      rcases removes_spec hremoves with ⟨_, started, _, hstarted, hstatus, _⟩
      have hne : key ≠ other := by
        rintro rfl
        rw [hrecord, Option.some.injEq] at hstarted
        rw [← hstarted, hcompleted] at hstatus
        exact absurd hstatus (by simp only [reduceCtorEq, not_false_eq_true])
      rw [Function.update_of_ne hne]
      rcases hstore with hstore | hstore
      · rw [hstore]
        exact ⟨hrecord, hfiled⟩
      · rw [hstore, Function.update_of_ne hne]
        exact ⟨hrecord, hfiled⟩

/-- A key stays in use for its request, unless its record is removed. -/
theorem Change.keeps_fingerprint {before after : StoreState} {input : StoreInput}
    {result : StoreResult} {filed' : StoreKey → Option IdempotencyRecord}
    (hindex : Indexes keys filed before.store.records) (hkey : input.operation.key.key ∈ keys)
    (hshaped : input.operation.Shaped) (change : Change before input after result filed filed')
    {key : StoreKey} (hstays : RemovalLands input.fault → before.removes input.operation ≠ some key)
    {record other : IdempotencyRecord} (hrecord : before.store.records key = some record)
    (hfiled : filed key = some other) :
    ∃ record' other', after.store.records key = some record' ∧ filed' key = some other' ∧
      record'.requestFingerprint = record.requestFingerprint := by
  cases change with
  | kept hstore _ =>
      rw [hstore]
      exact ⟨record, other, hrecord, hfiled, rfl⟩
  | written written hwrites hstore =>
      rcases writes_spec hindex.indexed hkey hshaped hwrites with ⟨hwritten, hexisting⟩
      rw [← hwritten.ofRecord] at hexisting
      by_cases hsame : key = .ofRecord written
      · rw [hsame] at hrecord ⊢
        rw [Function.update_self]
        rcases hstore with ⟨hstore, _⟩ | hstore
        · rw [hstore]
          exact ⟨record, written, hrecord, rfl, rfl⟩
        · rw [hstore, Function.update_self]
          exact ⟨written, written, rfl, rfl, (hexisting record hrecord).2⟩
      · rw [Function.update_of_ne hsame]
        rcases hstore with ⟨hstore, _⟩ | hstore
        · rw [hstore]
          exact ⟨record, other, hrecord, hfiled, rfl⟩
        · rw [hstore, Function.update_of_ne hsame]
          exact ⟨record, other, hrecord, hfiled, rfl⟩
  | removed removed hremoves hlands hstore =>
      have hne : key ≠ removed := by
        rintro rfl
        exact hstays hlands hremoves
      rw [Function.update_of_ne hne]
      rcases hstore with hstore | hstore
      · rw [hstore]
        exact ⟨record, other, hrecord, hfiled, rfl⟩
      · rw [hstore, Function.update_of_ne hne]
        exact ⟨record, other, hrecord, hfiled, rfl⟩

end

/-! ### Steps -/

/-- The record of a key: in the index while the process runs, else in the directory. -/
def ProxyState.Has (sha : Sha256) (st : ProxyState) (key : StoreKey)
    (record : IdempotencyRecord) : Prop :=
  match st.store with
  | some store => store.records key = some record
  | none => ∃ filed, Mirrors sha st.disk filed ∧ filed key = some record

/-- The directory holds records of known keys, and the index follows it. -/
def ProxyState.Sound (sha : Sha256) (keys : Set String) (st : ProxyState) : Prop :=
  ∃ filed, Files sha keys st.disk filed ∧
    ∀ store, st.store = some store → Indexes keys filed store.records

/-- A key is in use for a request, in the index and in the directory. -/
def ProxyState.Guards (sha : Sha256) (st : ProxyState) (key : StoreKey)
    (requestFingerprint : RequestFingerprint) : Prop :=
  (∀ store, st.store = some store → ∃ record, store.records key = some record ∧
    record.requestFingerprint = requestFingerprint) ∧
  ∃ filed record, Mirrors sha st.disk filed ∧ filed key = some record ∧
    record.requestFingerprint = requestFingerprint

/-- The process, before it has started for the first time. -/
def ProxyState.initial : ProxyState where
  store := none
  disk := .empty

section

variable (sha : Sha256) (serde : SerdeJson)

/-- The request of a step that gets an answer. -/
def ProxyInput.request? : ProxyInput → Option ProxyRequest
  | .call made _ false => made.request? sha serde
  | _ => none

/-- The key of what a step does to the store. -/
def ProxyInput.key? : ProxyInput → Option String
  | .call made _ _ => (made.operation? sha serde).map fun operation => operation.key.key
  | .load => none

/-- The step removes the started record of a key: the request that was forwarded is
    to be forgotten, and its file goes, whatever happens after that. -/
def RemovesStarted (st : ProxyState) (input : ProxyInput) (key : StoreKey) : Prop :=
  ∃ started fault dies store record, input = .call (.deleteOpenCode started) fault dies ∧
    key = ⟨.openCode, started.operation, started.idempotency.key⟩ ∧ st.store = some store ∧
    store.records key = some record ∧ record.status = .started ∧
    record.requestFingerprint = started.idempotency.requestFingerprint ∧ RemovalLands fault

/-- The request of a step was forwarded. -/
def Forwarded (e : Entry ProxyInput ProxyAnswer) (request : ProxyRequest) : Prop :=
  e.input.request? sha serde = some request ∧ ∃ answer ∈ e.emitted, answer.Forwards

/-- What comes out of a step with a request whose key has a record: one answer, which is
    no forwarding and which the record decides, unless the clock fails. -/
def AnswersRequest (request : ProxyRequest) (record : IdempotencyRecord)
    (out : List ProxyAnswer) : Prop :=
  ∃ answer, out = [answer] ∧ ¬ answer.Forwards ∧
    match request.now with
    | .ok _ => AnsweredFrom request record answer
    | .error error =>
      answer = refusal request.key.runtimeId 500 (clockError request.key.runtimeId error)

variable {sha serde} {keys : Set String}

theorem start?_eq {request : ProxyRequest} {operation : StoreOperation}
    (h : request.start? = some operation) : ∃ now, operation = .start
      ⟨request.key.key, request.key.runtimeId, request.key.operation,
        request.requestFingerprint, now⟩ := by
  unfold ProxyRequest.start? at h
  cases hclock : request.now with
  | error error =>
      rw [hclock] at h
      exact absurd h (by simp only [reduceCtorEq, not_false_eq_true])
  | ok now =>
      rw [hclock, Option.some.injEq] at h
      exact ⟨now, h.symm⟩

theorem start?_ne_delete {request : ProxyRequest} {operation : StoreOperation} {key : StoreKey}
    {fingerprint : RequestFingerprint} (h : request.start? = some operation) :
    operation ≠ .delete key fingerprint := by
  rcases start?_eq h with ⟨now, rfl⟩
  simp only [ne_eq, reduceCtorEq, not_false_eq_true]

theorem shaped_of_operation? {call : ProxyCall} {operation : StoreOperation}
    (h : call.operation? sha serde = some operation) : operation.Shaped := by
  have hstart : ∀ {request : Option ProxyRequest},
      request.bind ProxyRequest.start? = some operation → operation.Shaped := by
    intro request hrequest
    rcases Option.bind_eq_some_iff.mp hrequest with ⟨request, _, hoperation⟩
    rcases start?_eq hoperation with ⟨now, rfl⟩
    trivial
  cases call with
  | prepareCodex payload now => exact hstart h
  | prepareOpenCode input now => exact hstart h
  | completeCodex started response providerConversationId providerExecutionId now =>
      cases now with
      | error error =>
          exact absurd h (by simp only [ProxyCall.operation?, reduceCtorEq, not_false_eq_true])
      | ok now =>
          rw [ProxyCall.operation?, Option.some.injEq] at h
          rw [← h]
          refine ⟨⟨response, rfl⟩, ?_⟩
          simp only [ne_eq, Option.some.injEq, reduceCtorEq, not_false_eq_true]
  | completeOpenCode started response now =>
      cases now with
      | error error =>
          exact absurd h (by simp only [ProxyCall.operation?, reduceCtorEq, not_false_eq_true])
      | ok now =>
          simp only [ProxyCall.operation?] at h
          cases hcompletion : openCodeCompletion serde started response now with
          | error error =>
              rw [hcompletion] at h
              exact absurd h (by simp only [reduceCtorEq, not_false_eq_true])
          | ok completion =>
              rw [hcompletion, Option.some.injEq] at h
              rw [← h]
              rcases openCodeCompletion_ok serde hcompletion with ⟨hresponse, hhint⟩
              exact ⟨⟨response, hresponse⟩, hhint⟩
  | deleteOpenCode started =>
      rw [ProxyCall.operation?, Option.some.injEq] at h
      rw [← h]
      trivial

/-- What a step is: a call of a running process, or the start of one. -/
theorem proxyStep_cases {root : String} {st st' : ProxyState} {input : ProxyInput}
    {out : List ProxyAnswer} (h : ProxySteps sha serde root st input out st') :
    (∃ call fault dies store, input = .call call fault dies ∧ st.store = some store ∧
      st'.disk = (call.run sha serde fault st.disk store).2.disk ∧
      ((dies = true ∧ st'.store = none ∧ out = []) ∨
        (dies = false ∧ st'.store = (call.run sha serde fault st.disk store).2.store ∧
          out = [(call.run sha serde fault st.disk store).1]))) ∨
    (input = .load ∧ st.store = none ∧ out = [] ∧
      ((∃ disk store, loadAll sha serde root st.disk = .ok (disk, store) ∧
        st' = ⟨some store, disk⟩) ∨
      ∃ error, loadAll sha serde root st.disk = .error error)) := by
  unfold ProxySteps proxyStep at h
  cases input with
  | call call fault dies =>
      cases hstore : st.store with
      | none =>
          rw [hstore] at h
          exact absurd h (by simp only [reduceCtorEq, not_false_eq_true])
      | some store =>
          rw [hstore] at h
          refine .inl ⟨call, fault, dies, store, rfl, rfl, ?_⟩
          cases dies with
          | true =>
              simp only [if_true, Option.some.injEq, Prod.mk.injEq] at h
              rw [← h.1]
              exact ⟨rfl, .inl ⟨rfl, rfl, h.2.symm⟩⟩
          | false =>
              simp only [Bool.false_eq_true, if_false, Option.some.injEq, Prod.mk.injEq] at h
              rw [← h.1]
              exact ⟨rfl, .inr ⟨rfl, rfl, h.2.symm⟩⟩
  | load =>
      cases hstore : st.store with
      | some store =>
          rw [hstore] at h
          exact absurd h (by simp only [reduceCtorEq, not_false_eq_true])
      | none =>
          rw [hstore] at h
          simp only at h
          refine .inr ⟨rfl, rfl, ?_⟩
          cases hload : loadAll sha serde root st.disk with
          | error error =>
              rw [hload, Option.some.injEq, Prod.mk.injEq] at h
              exact ⟨h.2.symm, .inr ⟨error, rfl⟩⟩
          | ok loaded =>
              rw [hload, Option.some.injEq, Prod.mk.injEq] at h
              exact ⟨h.2.symm, .inl ⟨loaded.1, loaded.2, rfl, h.1.symm⟩⟩

/-- What a call changes. -/
theorem run_change {disk : Disk} {store : IdempotencyStore}
    {filed : StoreKey → Option IdempotencyRecord} {call : ProxyCall} (fault : Option Fault)
    (h : Files sha keys disk filed) (hindex : Indexes keys filed store.records)
    (hdigest : Set.InjOn (fun key => sha.digest (utf8 key)) keys)
    (hkey : ∀ operation, call.operation? sha serde = some operation →
      operation.key.key ∈ keys) :
    ∃ store' disk' filed', (call.run sha serde fault disk store).2 = ⟨some store', disk'⟩ ∧
      Files sha keys disk' filed' ∧ Indexes keys filed' store'.records ∧
      ((call.operation? sha serde = none ∧ store' = store ∧ filed' = filed) ∨
        ∃ operation, call.operation? sha serde = some operation ∧
          Change ⟨disk, store⟩ ⟨operation, fault⟩ ⟨disk', store'⟩
            ((⟨disk, store⟩ : StoreState).apply sha ⟨operation, fault⟩).2 filed filed') := by
  rw [run_state]
  cases hoperation : call.operation? sha serde with
  | none => exact ⟨store, disk, filed, rfl, h, hindex, .inl ⟨rfl, rfl, rfl⟩⟩
  | some operation =>
      have hknown := hkey operation hoperation
      have hshaped := shaped_of_operation? hoperation
      rcases apply_change ⟨disk, store⟩ h hindex hdigest ⟨operation, fault⟩ hknown hshaped
        with ⟨filed', hfiles, hchange⟩
      exact ⟨_, _, filed', rfl, hfiles, hchange.indexes hindex hknown hshaped,
        .inr ⟨operation, rfl, hchange⟩⟩

/-- A process that starts has the index of its directory. -/
theorem load_ok {root : String} {st st' : ProxyState} {filed : StoreKey → Option IdempotencyRecord}
    (h : Files sha keys st.disk filed)
    (hload : (∃ disk store, loadAll sha serde root st.disk = .ok (disk, store) ∧
      st' = ⟨some store, disk⟩) ∨ ∃ error, loadAll sha serde root st.disk = .error error) :
    st'.store = some ⟨root, filed⟩ ∧ Files sha keys st'.disk filed := by
  rcases loadAll_of_mirrors serde root h.mirrors with ⟨disk', hok, hsame⟩
  rcases hload with ⟨disk, store, hload, hst'⟩ | ⟨error, hload⟩
  · rw [hok, Except.ok.injEq, Prod.mk.injEq] at hload
    rw [hst', ← hload.1, ← hload.2]
    exact ⟨rfl, h.mirrors.congr hsame, h.filed⟩
  · rw [hok] at hload
    exact absurd hload (by simp only [reduceCtorEq, not_false_eq_true])

section

variable {root : String} {st st' : ProxyState} {input : ProxyInput} {out : List ProxyAnswer}
  (hdigest : Set.InjOn (fun key => sha.digest (utf8 key)) keys)
  (hkeys : ∀ key, input.key? sha serde = some key → key ∈ keys)
  (hstep : ProxySteps sha serde root st input out st')

include hdigest hkeys hstep

/-- The change that a step makes, if it is a call. -/
theorem proxyStep_change {filed : StoreKey → Option IdempotencyRecord}
    (h : Files sha keys st.disk filed)
    (hindex : ∀ store, st.store = some store → Indexes keys filed store.records) :
    (∃ call fault dies store store' filed', input = .call call fault dies ∧
      st.store = some store ∧ Files sha keys st'.disk filed' ∧ Indexes keys filed' store'.records ∧
      ((call.operation? sha serde = none ∧ store' = store ∧ filed' = filed) ∨
        ∃ operation, call.operation? sha serde = some operation ∧ operation.key.key ∈ keys ∧
          operation.Shaped ∧ Change ⟨st.disk, store⟩ ⟨operation, fault⟩ ⟨st'.disk, store'⟩
            ((⟨st.disk, store⟩ : StoreState).apply sha ⟨operation, fault⟩).2 filed filed') ∧
      ((dies = true ∧ st'.store = none ∧ out = []) ∨
        (dies = false ∧ st'.store = some store' ∧
          out = [(call.run sha serde fault st.disk store).1]))) ∨
    (input = .load ∧ st.store = none ∧ out = [] ∧ st'.store = some ⟨root, filed⟩ ∧
      Files sha keys st'.disk filed) := by
  rcases proxyStep_cases hstep with hcall | hload
  · rcases hcall with ⟨call, fault, dies, store, hinput, hstore, hdisk, hends⟩
    have hknown : ∀ operation, call.operation? sha serde = some operation →
        operation.key.key ∈ keys := by
      intro operation hoperation
      refine hkeys _ ?_
      rw [hinput, ProxyInput.key?, hoperation, Option.map_some]
    rcases run_change fault h (hindex store hstore) hdigest hknown
      with ⟨store', disk', filed', hrun, hfiles, hindexes, hchange⟩
    rw [hrun] at hdisk hends
    refine .inl ⟨call, fault, dies, store, store', filed', hinput, hstore, hdisk ▸ hfiles, hindexes,
      ?_, hends⟩
    rcases hchange with hnothing | ⟨operation, hoperation, hchange⟩
    · exact .inl hnothing
    · refine .inr ⟨operation, hoperation, hknown operation hoperation,
        shaped_of_operation? hoperation, ?_⟩
      rw [hdisk]
      exact hchange
  · rcases hload with ⟨hinput, hnone, hout, hload⟩
    exact .inr ⟨hinput, hnone, hout, load_ok h hload⟩

theorem proxyStep_sound (h : st.Sound sha keys) : st'.Sound sha keys := by
  rcases h with ⟨filed, hfiles, hindex⟩
  rcases proxyStep_change hdigest hkeys hstep hfiles hindex with hcall | hload
  · rcases hcall with ⟨_, _, _, _, store', filed', _, _, hfiles', hindexes, _, hends⟩
    refine ⟨filed', hfiles', fun store hstore => ?_⟩
    rcases hends with ⟨_, hnone, _⟩ | ⟨_, hsome, _⟩
    · rw [hnone] at hstore
      exact absurd hstore (by simp only [reduceCtorEq, not_false_eq_true])
    · rw [hsome, Option.some.injEq] at hstore
      rw [← hstore]
      exact hindexes
  · rcases hload with ⟨_, _, _, hsome, hfiles'⟩
    refine ⟨filed, hfiles', fun store hstore => ?_⟩
    rw [hsome, Option.some.injEq] at hstore
    rw [← hstore]
    refine ⟨hfiles.filed, fun _ _ h _ => h, fun key record other hrecord hother => ?_⟩
    rw [Option.some.inj (hother.symm.trans hrecord)]

/-- A completed record stays. -/
theorem proxyStep_keeps_completed (h : st.Sound sha keys) {key : StoreKey}
    {record : IdempotencyRecord} (hhas : st.Has sha key record)
    (hcompleted : record.status = .completed) : st'.Has sha key record := by
  rcases h with ⟨filed, hfiles, hindex⟩
  rcases proxyStep_change hdigest hkeys hstep hfiles hindex with hcall | hload
  · rcases hcall with ⟨call, fault, dies, store, store', filed', _, hstore, hfiles', _, hchange,
      hends⟩
    unfold ProxyState.Has at hhas
    rw [hstore] at hhas
    have hkept : store'.records key = some record ∧ filed' key = some record := by
      rcases hchange with ⟨_, hsame, hfiled⟩ | ⟨operation, _, hknown, hshaped, hchange⟩
      · rw [hsame, hfiled]
        exact ⟨hhas, (hindex store hstore).completed key record hhas hcompleted⟩
      · exact hchange.keeps_completed (hindex store hstore) hknown hshaped hhas hcompleted
    unfold ProxyState.Has
    rcases hends with ⟨_, hnone, _⟩ | ⟨_, hsome, _⟩
    · rw [hnone]
      exact ⟨filed', hfiles'.mirrors, hkept.2⟩
    · rw [hsome]
      exact hkept.1
  · rcases hload with ⟨_, hnone, _, hsome, _⟩
    unfold ProxyState.Has at hhas ⊢
    rw [hnone] at hhas
    rw [hsome]
    rcases hhas with ⟨filed', hmirrors, hrecord⟩
    rw [← hfiles.mirrors.unique hmirrors] at hrecord
    exact hrecord

/-- A key stays in use until its started record is removed. -/
theorem proxyStep_guards (h : st.Sound sha keys) {key : StoreKey}
    {fingerprint : RequestFingerprint} (hguards : st.Guards sha key fingerprint)
    (hstays : ¬ RemovesStarted st input key) : st'.Guards sha key fingerprint := by
  rcases h with ⟨filed, hfiles, hindex⟩
  rcases hguards with ⟨hindexed, filed₀, other, hmirrors, hother, hfingerprint⟩
  rw [← hfiles.mirrors.unique hmirrors] at hother
  rcases proxyStep_change hdigest hkeys hstep hfiles hindex with hcall | hload
  · rcases hcall with ⟨call, fault, dies, store, store', filed', hinput, hstore, hfiles', hindexes,
      hchange, hends⟩
    rcases hindexed store hstore with ⟨record, hrecord, hsame⟩
    have hkept : ∃ record' other', store'.records key = some record' ∧ filed' key = some other' ∧
        record'.requestFingerprint = record.requestFingerprint := by
      rcases hchange with ⟨_, hstays, hfiled⟩ | ⟨operation, hoperation, hknown, hshaped, hchange⟩
      · rw [hstays, hfiled]
        exact ⟨record, other, hrecord, hother, rfl⟩
      · refine hchange.keeps_fingerprint (hindex store hstore) hknown hshaped ?_ hrecord hother
        -- Only a deletion removes.
        intro hlands hremoves
        rcases removes_spec hremoves with ⟨found, started, hdelete, hstarted, hstatus, hfound⟩
        refine hstays ?_
        simp only at hdelete hlands
        cases call with
        | deleteOpenCode forgotten =>
            rw [ProxyCall.operation?, Option.some.injEq, hdelete, StoreOperation.delete.injEq]
              at hoperation
            exact ⟨forgotten, fault, dies, store, started, hinput, hoperation.1.symm, hstore,
              hstarted, hstatus, hfound.trans hoperation.2.symm, hlands⟩
        | prepareCodex payload now =>
            rcases Option.bind_eq_some_iff.mp hoperation with ⟨request, _, hstart⟩
            exact absurd hdelete (start?_ne_delete hstart)
        | prepareOpenCode submit now =>
            rcases Option.bind_eq_some_iff.mp hoperation with ⟨request, _, hstart⟩
            exact absurd hdelete (start?_ne_delete hstart)
        | completeCodex started response conversation execution now =>
            cases now with
            | error error =>
                exact absurd hoperation (by
                  simp only [ProxyCall.operation?, reduceCtorEq, not_false_eq_true])
            | ok now =>
                rw [ProxyCall.operation?, Option.some.injEq, hdelete] at hoperation
                exact absurd hoperation (by simp only [reduceCtorEq, not_false_eq_true])
        | completeOpenCode started response now =>
            cases now with
            | error error =>
                exact absurd hoperation (by
                  simp only [ProxyCall.operation?, reduceCtorEq, not_false_eq_true])
            | ok now =>
                simp only [ProxyCall.operation?] at hoperation
                cases hcompletion : openCodeCompletion serde started response now with
                | error error =>
                    rw [hcompletion] at hoperation
                    exact absurd hoperation (by simp only [reduceCtorEq, not_false_eq_true])
                | ok completion =>
                    rw [hcompletion, Option.some.injEq, hdelete] at hoperation
                    exact absurd hoperation (by simp only [reduceCtorEq, not_false_eq_true])
    rcases hkept with ⟨record', other', hrecord', hother', hsame'⟩
    have hfp := hsame'.trans hsame
    refine ⟨fun store'' hstore'' => ?_, filed', other', hfiles'.mirrors, hother',
      (hindexes.same key record' other' hrecord' hother').trans hfp⟩
    rcases hends with ⟨_, hnone, _⟩ | ⟨_, hsome, _⟩
    · rw [hnone] at hstore''
      exact absurd hstore'' (by simp only [reduceCtorEq, not_false_eq_true])
    · rw [hsome, Option.some.injEq] at hstore''
      rw [← hstore'']
      exact ⟨record', hrecord', hfp⟩
  · rcases hload with ⟨_, _, _, hsome, hfiles'⟩
    refine ⟨fun store hstore => ?_, filed, other, hfiles'.mirrors, hother, hfingerprint⟩
    rw [hsome, Option.some.injEq] at hstore
    rw [← hstore]
    exact ⟨other, hother, hfingerprint⟩

/-- A request that is forwarded takes its key into use. -/
theorem proxyStep_forwards (h : st.Sound sha keys) {request : ProxyRequest}
    (hrequest : input.request? sha serde = some request) {answer : ProxyAnswer}
    (hanswer : answer ∈ out) (hforwards : answer.Forwards) :
    st'.Guards sha request.key request.requestFingerprint := by
  rcases h with ⟨filed, hfiles, hindex⟩
  rcases proxyStep_change hdigest hkeys hstep hfiles hindex with hcall | hload
  · rcases hcall with ⟨call, fault, dies, store, store', filed', hinput, hstore, hfiles', _,
      hchange, hends⟩
    rcases hends with ⟨_, _, hout⟩ | ⟨hdies, hsome, hout⟩
    · rw [hout] at hanswer
      exact absurd hanswer List.not_mem_nil
    · rw [hout, List.mem_singleton] at hanswer
      rw [hanswer] at hforwards
      rcases run_forwards sha serde fault st.disk store hforwards
        with ⟨request', operation, hrequest', hoperation, hkey, hstart, hnone, hdone⟩
      rw [hinput, hdies, ProxyInput.request?, hrequest', Option.some.injEq] at hrequest
      rw [hrequest] at hkey hstart hnone
      rcases hchange with ⟨hno, _, _⟩ | ⟨operation', hoperation', _, _, hchange⟩
      · rw [hoperation] at hno
        exact absurd hno (by simp only [reduceCtorEq, not_false_eq_true])
      · rw [hoperation, Option.some.injEq] at hoperation'
        rw [← hoperation', hdone] at hchange
        rcases start?_eq hstart with ⟨now, hoperation⟩
        have hwrites : (⟨st.disk, store⟩ : StoreState).writes operation = some (.started
            ⟨request.key.key, request.key.runtimeId, request.key.operation,
              request.requestFingerprint, now⟩) := by
          rw [hoperation]
          exact if_pos hnone
        generalize hresult : StoreResult.done = result at hchange
        cases hchange with
        | kept _ hnot =>
            rcases hnot with hnot | hnot
            · rw [hwrites] at hnot
              exact absurd hnot (by simp only [reduceCtorEq, not_false_eq_true])
            · exact absurd hresult.symm hnot
        | written record hrecord hindexed =>
            simp only at hrecord
            rw [hwrites, Option.some.injEq] at hrecord
            rcases hindexed with ⟨_, hnot⟩ | hindexed
            · exact absurd hresult.symm hnot
            · have hof : StoreKey.ofRecord record = request.key := by
                rw [← hrecord]
                rfl
              have hfp : record.requestFingerprint = request.requestFingerprint := by
                rw [← hrecord]
                rfl
              refine ⟨fun store'' hstore'' => ?_, _, record, hfiles'.mirrors, ?_, hfp⟩
              · rw [hsome, Option.some.injEq] at hstore''
                rw [← hstore'']
                simp only at hindexed
                rw [hindexed, hof, Function.update_self]
                exact ⟨record, rfl, hfp⟩
              · rw [hof, Function.update_self]
        | removed key hremoves _ _ =>
            rcases removes_spec hremoves with ⟨_, _, hdelete, _⟩
            simp only at hdelete
            rw [hdelete] at hoperation
            exact absurd hoperation (by simp only [reduceCtorEq, not_false_eq_true])
  · rcases hload with ⟨_, _, hout, _⟩
    rw [hout] at hanswer
    exact absurd hanswer List.not_mem_nil

/-- A request whose key has a record is answered from it. -/
theorem proxyStep_answers (h : st.Sound sha keys) {request : ProxyRequest}
    {store : IdempotencyStore} {record : IdempotencyRecord}
    (hrequest : input.request? sha serde = some request) (hstore : st.store = some store)
    (hrecord : store.records request.key = some record) :
    AnswersRequest request record out := by
  rcases h with ⟨filed, hfiles, hindex⟩
  rcases proxyStep_change hdigest hkeys hstep hfiles hindex with hcall | hload
  · rcases hcall with ⟨call, fault, dies, store', _, _, hinput, hstore', _, _, _, hends⟩
    rw [hstore, Option.some.injEq] at hstore'
    rcases hends with ⟨hdies, _, _⟩ | ⟨hdies, _, hout⟩
    · rw [hinput, hdies] at hrequest
      exact absurd hrequest (by simp only [ProxyInput.request?, reduceCtorEq, not_false_eq_true])
    · rw [hinput, hdies, ProxyInput.request?] at hrequest
      refine ⟨_, hout, fun hforwards => ?_, ?_⟩
      · rcases run_forwards sha serde fault st.disk store' hforwards
          with ⟨request', _, hrequest', _, _, _, hnone, _⟩
        rw [hrequest, Option.some.injEq] at hrequest'
        rw [← hrequest', ← hstore', hrecord] at hnone
        exact absurd hnone (by simp only [reduceCtorEq, not_false_eq_true])
      · have hfiled := (hindex store hstore).indexed _ record hrecord
        have hruntime : record.runtimeId = request.key.runtimeId := by
          rw [← hfiled.ofRecord]
          rfl
        cases hclock : request.now with
        | error error => exact run_of_clock_fails sha serde fault st.disk store' hrequest hclock
        | ok now =>
            refine run_answers sha serde fault st.disk store' hrequest hclock (hstore' ▸ hrecord) ?_
            rw [← hruntime]
            exact hfiled.shaped.completed
  · rcases hload with ⟨hinput, _⟩
    rw [hinput] at hrequest
    exact absurd hrequest (by simp only [ProxyInput.request?, reduceCtorEq, not_false_eq_true])

end

end

/-! ### Runs -/

section

variable {sha : Sha256} {serde : SerdeJson} {keys : Set String} {root : String}

theorem sound_initial : ProxyState.initial.Sound sha keys := by
  refine ⟨fun _ => none, ⟨⟨fun name entry hentry => ?_, fun key record hrecord => ?_⟩,
    fun key record hrecord => ?_⟩, fun store hstore => ?_⟩
  · exact absurd hentry (by
      simp only [ProxyState.initial, Disk.empty, Std.ExtTreeMap.getElem?_empty, reduceCtorEq,
        not_false_eq_true])
  · exact absurd hrecord (by simp only [reduceCtorEq, not_false_eq_true])
  · exact absurd hrecord (by simp only [reduceCtorEq, not_false_eq_true])
  · exact absurd hstore (by simp only [ProxyState.initial, reduceCtorEq, not_false_eq_true])

theorem run_sound (hdigest : Set.InjOn (fun key => sha.digest (utf8 key)) keys)
    {trace : List (Entry ProxyInput ProxyAnswer)} {st : ProxyState}
    (run : Run (ProxySteps sha serde root) .initial trace st)
    (hkeys : ∀ e ∈ trace, ∀ key, e.input.key? sha serde = some key → key ∈ keys) :
    st.Sound sha keys := by
  induction run with
  | nil => exact sound_initial
  | snoc run last ih =>
      refine proxyStep_sound hdigest (hkeys _ (List.mem_append_right _ List.mem_cons_self)) last
        (ih fun e he => hkeys e (List.mem_append_left _ he))

end

/-- A request to start a turn, with a key that it comes once for. -/
def turnStart : Json String :=
  .obj [("method", .str "turn/start"), ("idempotency", .obj [
    ("key", .str "delivery_key"), ("operation", .str "submitPayload"),
    ("requestFingerprint", .str "sha256:1")])]

/-- A process that starts, gets the request twice and keeps the answer, dies when the
    request comes again, starts anew and gets it once more. -/
def repeatedTurn : List ProxyInput :=
  let prepare := ProxyCall.prepareCodex turnStart (.ok "2026-05-23T00:00:00Z")
  let started : StartedCodexOperation :=
    ⟨⟨"delivery_key", .submitPayload, ⟨"sha256:1"⟩⟩, .submitPayload, "turn/start"⟩
  let complete := ProxyCall.completeCodex started ⟨.str "done"⟩ none none
    (.ok "2026-05-23T00:00:01Z")
  [.load, .call prepare none false, .call prepare none false, .call complete none false,
    .call prepare none true, .load, .call prepare none false]

/-- One answer forwards, and the last one replays. -/
def forwardsThenReplays : List ProxyAnswer → Bool
  | [.codex (.forward _), .codex (.reject _), .settled (.ok _), .codex (.replay response)] =>
    response.payload == .str "done"
  | _ => false

end Mistle
