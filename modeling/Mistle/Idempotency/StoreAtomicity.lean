import Mistle.Lib.Run
import Mistle.Idempotency.Store

/-!
# What a Failed Store Operation Leaves

The index follows the directory only if the directory changes exactly when the
operation returns a record. A file is in place, or gone, before the directory is
synced, and the index is updated afterwards, so a sync that fails leaves a change on
the disk that the index and the caller know nothing of.

## Main definitions

* `StoreState`, `StoreOperation`, `StoreInput`: The store and its directory, and what
  may be done to them with which step failing.
* `storeStep`: One operation.
* `Rebuilds`: Loading the directory gives the store.
* `Atomic`: An operation leaves the two in agreement, and unchanged if it fails.
* `Survivable`: What an operation needs for that.

## Theorems

* `Mirrors.insert`, `Mirrors.erase`: A file and its index entry change together.
* `writeAndIndexRecord_atomic_iff`, `deleteStarted_atomic_iff`: One operation.
* `store_operations_atomic_iff`: Every run.
-/

namespace Mistle

/-- A store and the disk it writes to. -/
structure StoreState where
  disk : Disk
  store : IdempotencyStore

inductive StoreOperation where
  | start (input : StartIdempotencyOperation)
  | accept (key : StoreKey) (input : AcceptIdempotencyOperation)
  | complete (key : StoreKey) (input : CompleteIdempotencyOperation)
  | delete (key : StoreKey) (requestFingerprint : RequestFingerprint)

/-- An operation, and the step of the file system that fails if it comes to it. -/
structure StoreInput where
  operation : StoreOperation
  fault : Option Fault

/-- What an operation returned. -/
inductive StoreResult where
  | done
  | failed (error : IdempotencyStoreError)
  deriving DecidableEq

/-- The state and the result of an operation. -/
def StoreOutcome.settle {α : Type} (outcome : StoreOutcome α) : StoreState × StoreResult :=
  (⟨outcome.disk, outcome.store⟩, match outcome.result with
    | .ok _ => .done
    | .error error => .failed error)

section

variable (sha : Sha256) (serde : SerdeJson)

def StoreState.apply (st : StoreState) (input : StoreInput) : StoreState × StoreResult :=
  match input.operation with
  | .start start => (st.store.startOperation sha input.fault st.disk start).settle
  | .accept key accept => (st.store.markAccepted sha input.fault st.disk key accept).settle
  | .complete key complete =>
    (st.store.markCompleted sha input.fault st.disk key complete).settle
  | .delete key fingerprint =>
    (st.store.deleteStarted sha input.fault st.disk key fingerprint).settle

def storeStep (st : StoreState) (input : StoreInput) : Option (StoreState × List StoreResult) :=
  let (st', result) := st.apply sha input
  some (st', [result])

/-- The steps of a store. -/
abbrev StoreSteps (st : StoreState) (input : StoreInput) (out : List StoreResult)
    (st' : StoreState) : Prop := storeStep sha st input = some (st', out)

/-- Loading the directory gives the store. -/
def Rebuilds (st : StoreState) : Prop :=
  ∃ disk, loadAll sha serde st.store.root st.disk = .ok (disk, st.store)

/-- The store is what loading gives, and an operation that failed has changed neither
    the index nor a record file. -/
structure AtomicOutcome (before after : StoreState) (result : StoreResult) : Prop where
  rebuilds : Rebuilds sha serde after
  unchanged : ∀ error, result = .failed error → after.store = before.store ∧
    ∀ name : String, isStoreTempRecordFileName name = false →
      after.disk.directory[name]? = before.disk.directory[name]?

def Atomic (st : StoreState) (input : StoreInput) : Prop :=
  AtomicOutcome sha serde st (st.apply sha input).1 (st.apply sha input).2

/-! ### What an operation is about to do -/

/-- The record that an operation writes, if the index lets it. -/
def StoreState.writes (st : StoreState) : StoreOperation → Option IdempotencyRecord
  | .start input =>
    if st.store.records ⟨input.runtimeId, input.operation, input.key⟩ = none then
      some (.started input)
    else none
  | .accept key input => (st.store.records key).bind fun record =>
    match record.markAccepted input with
    | .ok next => some next
    | .error _ => none
  | .complete key input => (st.store.records key).bind fun record =>
    match record.markCompleted input with
    | .ok next => some next
    | .error _ => none
  | .delete _ _ => none

/-- The key that an operation removes, if the index lets it. -/
def StoreState.removes (st : StoreState) : StoreOperation → Option StoreKey
  | .delete key fingerprint => (st.store.records key).bind fun record =>
    if record.requestFingerprint = fingerprint ∧ record.status = .started then some key else none
  | _ => none

/-- The file of a record is that of no other indexed key. -/
def StoreState.Unshared (st : StoreState) (record : IdempotencyRecord) : Prop :=
  ∀ key, st.store.records key ≠ none →
    recordFileName sha key = recordFileName sha (.ofRecord record) → key = .ofRecord record

/-- What an operation needs. If its file comes into place or goes, syncing the
    directory succeeds; and a record that comes into place is one that its document
    determines, in a file of its own. -/
structure Survivable (st : StoreState) (input : StoreInput) : Prop where
  written : ∀ record, st.writes input.operation = some record →
    WriteLands sha input.fault (.ofRecord record) st.disk →
    Fault.hits input.fault .syncDirectory = none ∧ record.Storable ∧ st.Unshared sha record
  removed : ∀ key, st.removes input.operation = some key → RemovalLands input.fault →
    Fault.hits input.fault .syncDirectory = none

/-! ### A file and its index entry -/

variable {sha serde}

/-- Loading gives the store exactly if the index mirrors the directory. -/
theorem rebuilds_iff (st : StoreState) :
    Rebuilds sha serde st ↔ Mirrors sha st.disk st.store.records := by
  constructor
  · rintro ⟨disk, h⟩
    exact mirrors_of_loadAll h
  · intro h
    rcases loadAll_of_mirrors serde st.store.root h with ⟨disk, hload, _⟩
    exact ⟨disk, hload⟩

/-- A record comes into place on the disk and in the index. -/
theorem Mirrors.insert {disk : Disk} {records : StoreKey → Option IdempotencyRecord}
    (h : Mirrors sha disk records) {record : IdempotencyRecord}
    {contents : Except String (Json String)} (hreads : Reads contents record)
    (hunshared : ∀ key, records key ≠ none →
      recordFileName sha key = recordFileName sha (.ofRecord record) → key = .ofRecord record) :
    Mirrors sha { disk with
        directory := disk.directory.insert (recordFileName sha (.ofRecord record)) (.file contents) }
      (Function.update records (.ofRecord record) (some record)) := by
  constructor
  · intro name entry hentry
    rw [Std.ExtTreeMap.getElem?_insert] at hentry
    by_cases hname : compare (recordFileName sha (.ofRecord record)) name = .eq
    · rw [if_pos hname, Option.some.injEq] at hentry
      refine ⟨contents, hentry.symm, .inr ⟨record, hreads, ?_, Function.update_self _ _ _⟩⟩
      exact (Std.LawfulEqCmp.eq_of_compare hname).symm
    · rw [if_neg hname] at hentry
      rcases h.entries name entry hentry with ⟨contents', hfile, htemp | hrecord⟩
      · exact ⟨contents', hfile, .inl htemp⟩
      · rcases hrecord with ⟨other, hreads', hother, hindexed⟩
        refine ⟨contents', hfile, .inr ⟨other, hreads', hother, ?_⟩⟩
        rw [Function.update_of_ne, hindexed]
        intro hkey
        rw [hother, hkey] at hname
        exact hname Std.ReflCmp.compare_self
  · intro key other hother
    by_cases hkey : key = .ofRecord record
    · rw [hkey, Function.update_self, Option.some.injEq] at hother
      rw [hkey, ← hother]
      exact ⟨rfl, contents, Std.ExtTreeMap.getElem?_insert_self, hreads⟩
    · rw [Function.update_of_ne hkey] at hother
      rcases h.records key other hother with ⟨hof, contents', hfile, hreads'⟩
      refine ⟨hof, contents', ?_, hreads'⟩
      rw [Std.ExtTreeMap.getElem?_insert, if_neg, hfile]
      intro hname
      exact hkey (hunshared key (by rw [hother]; simp only [ne_eq, reduceCtorEq,
        not_false_eq_true]) (Std.LawfulEqCmp.eq_of_compare hname).symm)

/-- A record goes from the disk and from the index. -/
theorem Mirrors.erase {disk : Disk} {records : StoreKey → Option IdempotencyRecord}
    (h : Mirrors sha disk records) {key : StoreKey} {record : IdempotencyRecord}
    (hrecord : records key = some record) :
    Mirrors sha { disk with directory := disk.directory.erase (recordFileName sha key) }
      (Function.update records key none) := by
  rcases h.records key record hrecord with ⟨hof, contents, hfile, hreads⟩
  -- No other key has the file: it names the key of its record.
  have hother : ∀ other found, records other = some found → other ≠ key →
      recordFileName sha other ≠ recordFileName sha key := by
    intro other found hfound hne hname
    rcases h.records other found hfound with ⟨hof', contents', hfile', hreads'⟩
    rw [hname, hfile, Option.some.injEq, DirEntry.file.injEq] at hfile'
    rw [← hfile'] at hreads'
    exact hne (hof'.symm.trans ((congrArg _ (hreads'.unique hreads)).trans hof))
  constructor
  · intro name entry hentry
    rw [Std.ExtTreeMap.getElem?_erase] at hentry
    by_cases hname : compare (recordFileName sha key) name = .eq
    · rw [if_pos hname] at hentry
      exact absurd hentry (by simp only [reduceCtorEq, not_false_eq_true])
    · rw [if_neg hname] at hentry
      rcases h.entries name entry hentry with ⟨contents', hfile', htemp | hfound⟩
      · exact ⟨contents', hfile', .inl htemp⟩
      · rcases hfound with ⟨found, hreads', hfoundName, hindexed⟩
        refine ⟨contents', hfile', .inr ⟨found, hreads', hfoundName, ?_⟩⟩
        rw [Function.update_of_ne, hindexed]
        intro hkey
        rw [hfoundName, hkey] at hname
        exact hname Std.ReflCmp.compare_self
  · intro other found hfound
    by_cases hkey : other = key
    · rw [hkey, Function.update_self] at hfound
      exact absurd hfound (by simp only [reduceCtorEq, not_false_eq_true])
    · rw [Function.update_of_ne hkey] at hfound
      rcases h.records other found hfound with ⟨hof', contents', hfile', hreads'⟩
      refine ⟨hof', contents', ?_, hreads'⟩
      rw [Std.ExtTreeMap.getElem?_erase, if_neg, hfile']
      intro hname
      exact hother other found hfound hkey (Std.LawfulEqCmp.eq_of_compare hname).symm

/-- A record file that the index knows nothing of is not mirrored. -/
theorem not_mirrors_of_unindexed {disk : Disk}
    {records : StoreKey → Option IdempotencyRecord} {record : IdempotencyRecord}
    (hversion : record.version = currentIdempotencyRecordVersion)
    (hnew : records (.ofRecord record) ≠ some record.readBack)
    (hfile : disk.directory[recordFileName sha (.ofRecord record)]?
      = some (.file (.ok record.toJson))) : ¬ Mirrors sha disk records := by
  intro h
  rcases h.entries _ _ hfile with ⟨contents, hcontents, htemp | ⟨other, hreads, _, hindexed⟩⟩
  · rw [isStoreTempRecordFileName_record] at htemp
    exact absurd htemp (by decide)
  · rw [DirEntry.file.injEq] at hcontents
    rw [← hcontents] at hreads
    rw [hreads.unique (reads_toJson hversion)] at hindexed
    exact hnew hindexed

/-- When writing a record that the index does not have keeps the two in agreement. -/
theorem writeAndIndexRecord_atomic_iff (st : StoreState) (fault : Option Fault)
    (h : Mirrors sha st.disk st.store.records) {record : IdempotencyRecord}
    (hversion : record.version = currentIdempotencyRecordVersion)
    (hnew : st.store.records (.ofRecord record) ≠ some record.readBack) :
    (AtomicOutcome sha serde st
      (st.store.writeAndIndexRecord sha fault st.disk record).settle.1
      (st.store.writeAndIndexRecord sha fault st.disk record).settle.2) ↔
    (WriteLands sha fault (.ofRecord record) st.disk →
      Fault.hits fault .syncDirectory = none ∧ record.Storable ∧ st.Unshared sha record) := by
  unfold IdempotencyStore.writeAndIndexRecord
  rcases writeRecordAtomically_spec sha st.store.root fault record st.disk with hrefused | hwritten
  · -- Nothing came into place.
    rcases hrefused with ⟨hnot, error, disk', heq, hsame⟩
    rw [heq]
    refine iff_of_true ⟨?_, fun _ _ => ⟨rfl, hsame.records⟩⟩ (fun hlands => absurd hlands hnot)
    exact (rebuilds_iff _).mpr (h.congr hsame)
  · rcases hwritten with ⟨hlands, disk', hsame, heq⟩
    rw [heq]
    unfold syncDirectory
    cases hsync : Fault.hits fault .syncDirectory with
    | some error =>
        -- The file is in place, and the index has not heard of it.
        simp only [StoreOutcome.settle]
        refine iff_of_false (fun hatomic => ?_) (fun hall => ?_)
        · have hmirrors := (rebuilds_iff _).mp hatomic.rebuilds
          exact not_mirrors_of_unindexed hversion hnew Std.ExtTreeMap.getElem?_insert_self hmirrors
        · exact absurd (hall hlands).1 (by simp only [reduceCtorEq, not_false_eq_true])
    | none =>
        simp only [StoreOutcome.settle]
        constructor
        · intro hatomic _
          have hmirrors := (rebuilds_iff _).mp hatomic.rebuilds
          have hread : ∀ key found,
              Function.update st.store.records (.ofRecord record) (some record) key = some found →
              recordFileName sha key = recordFileName sha (.ofRecord record) →
              .ofRecord found = key ∧ found = record.readBack := by
            intro key found hfound hname
            rcases hmirrors.records key found hfound with ⟨hof, contents, hfile, hreads⟩
            rw [hname, Std.ExtTreeMap.getElem?_insert_self, Option.some.injEq,
              DirEntry.file.injEq] at hfile
            rw [← hfile] at hreads
            exact ⟨hof, hreads.unique (reads_toJson hversion)⟩
          refine ⟨trivial, (IdempotencyRecord.readBack_eq_self record).mp ?_, ?_⟩
          · exact (hread _ record (Function.update_self _ _ _) rfl).2.symm
          · intro key hkey hname
            by_contra hne
            cases hother : st.store.records key with
            | none => exact hkey hother
            | some other =>
                have hfound := hread key other (by rw [Function.update_of_ne hne, hother]) hname
                rw [hfound.2] at hfound
                exact hne hfound.1.symm
        · intro hall
          rcases hall hlands with ⟨_, hstorable, hunshared⟩
          have hreads : Reads (.ok record.toJson) record := by
            have hback := reads_toJson hversion
            rwa [(IdempotencyRecord.readBack_eq_self record).mpr hstorable] at hback
          refine ⟨(rebuilds_iff _).mpr ((h.congr hsame).insert hreads hunshared), ?_⟩
          intro error herror
          exact absurd herror (by simp only [reduceCtorEq, not_false_eq_true])

variable (sha) in
/-- A removal that the index does not let through changes nothing. -/
theorem deleteStarted_of_refused (st : StoreState) (fault : Option Fault) {key : StoreKey}
    {fingerprint : RequestFingerprint} (h : st.removes (.delete key fingerprint) = none) :
    ∃ error, st.store.deleteStarted sha fault st.disk key fingerprint
      = ⟨.error error, st.disk, st.store⟩ := by
  unfold IdempotencyStore.deleteStarted IdempotencyStore.getByKey
  simp only [StoreState.removes] at h
  cases hrecord : st.store.records key with
  | none => exact ⟨_, rfl⟩
  | some record =>
      rw [hrecord, Option.bind_some] at h
      by_cases hsame : record.requestFingerprint = fingerprint
      · by_cases hstarted : record.status = .started
        · rw [if_pos ⟨hsame, hstarted⟩] at h
          exact absurd h (by simp only [reduceCtorEq, not_false_eq_true])
        · simp only [IdempotencyRecord.classifyRepeatedRequest_of_same hsame, hstarted, ne_eq,
            not_false_eq_true, if_true]
          exact ⟨_, rfl⟩
      · simp only [IdempotencyRecord.classifyRepeatedRequest_of_different hsame]
        exact ⟨_, rfl⟩

variable (sha) in
/-- A removal that the index lets through is one of the file and then of the entry. -/
theorem deleteStarted_of_removes (st : StoreState) (fault : Option Fault) {key : StoreKey}
    {fingerprint : RequestFingerprint} (h : st.removes (.delete key fingerprint) ≠ none) :
    (∃ record, st.store.records key = some record ∧ record.status = .started ∧
      record.requestFingerprint = fingerprint) ∧
    st.removes (.delete key fingerprint) = some key ∧
    st.store.deleteStarted sha fault st.disk key fingerprint
      = match deleteRecord st.store.root fault (recordFileName sha key) st.disk with
        | (.error error, disk) => ⟨.error error, disk, st.store⟩
        | (.ok (), disk) =>
          ⟨.ok (), disk, { st.store with
            records := Function.update st.store.records key none }⟩ := by
  unfold IdempotencyStore.deleteStarted IdempotencyStore.getByKey
  simp only [StoreState.removes] at h ⊢
  cases hrecord : st.store.records key with
  | none =>
      rw [hrecord, Option.bind_none] at h
      exact absurd rfl h
  | some record =>
      rw [hrecord, Option.bind_some] at h
      by_cases hlet : record.requestFingerprint = fingerprint ∧ record.status = .started
      · refine ⟨⟨record, rfl, hlet.2, hlet.1⟩, ?_, ?_⟩
        · rw [Option.bind_some, if_pos hlet]
        · rcases hdelete : deleteRecord st.store.root fault (recordFileName sha key) st.disk with
            ⟨error | _, disk⟩ <;>
          · simp only [IdempotencyRecord.classifyRepeatedRequest_of_same hlet.1, hlet.2, ne_eq,
              not_true_eq_false, if_false, hdelete]
      · rw [if_neg hlet] at h
        exact absurd rfl h

variable (serde) in
/-- When removing a started record keeps the two in agreement. -/
theorem deleteStarted_atomic_iff (st : StoreState) (fault : Option Fault)
    (h : Mirrors sha st.disk st.store.records) (key : StoreKey)
    (fingerprint : RequestFingerprint) :
    (AtomicOutcome sha serde st
      (st.store.deleteStarted sha fault st.disk key fingerprint).settle.1
      (st.store.deleteStarted sha fault st.disk key fingerprint).settle.2) ↔
    (st.removes (.delete key fingerprint) = some key → RemovalLands fault →
      Fault.hits fault .syncDirectory = none) := by
  have hnothing : ∀ error, AtomicOutcome sha serde st st (.failed error) := fun _ =>
    ⟨(rebuilds_iff _).mpr h, fun _ _ => ⟨rfl, fun _ _ => rfl⟩⟩
  by_cases hremoves : st.removes (.delete key fingerprint) = none
  · rcases deleteStarted_of_refused sha st fault hremoves with ⟨error, heq⟩
    rw [heq]
    refine iff_of_true (hnothing error) fun hsome => ?_
    rw [hremoves] at hsome
    exact absurd hsome (by simp only [reduceCtorEq, not_false_eq_true])
  rcases deleteStarted_of_removes sha st fault hremoves with ⟨⟨record, hrecord, _⟩, hkey, heq⟩
  rcases h.records key record hrecord with ⟨_, contents, hfile, _⟩
  have hexists : st.disk.directory.contains (recordFileName sha key) = true := by
    rw [Std.ExtTreeMap.contains_eq_isSome_getElem?, hfile]
    rfl
  rw [heq]
  rcases deleteRecord_spec st.store.root fault hexists with hkept | hremoved
  · rcases hkept with ⟨hnot, error, hdelete⟩
    rw [hdelete]
    exact iff_of_true (hnothing error) fun _ hlands => absurd hlands hnot
  · rcases hremoved with ⟨hlands, hdelete⟩
    rw [hdelete]
    unfold syncDirectory
    cases hsync : Fault.hits fault .syncDirectory with
    | some error =>
        -- The file is gone, and the index still has the record.
        simp only [StoreOutcome.settle]
        refine iff_of_false (fun hatomic => ?_) (fun hall => ?_)
        · have hmirrors := (rebuilds_iff _).mp hatomic.rebuilds
          rcases hmirrors.records key record hrecord with ⟨_, contents', hgone, _⟩
          rw [Std.ExtTreeMap.getElem?_erase_self] at hgone
          exact absurd hgone (by simp only [reduceCtorEq, not_false_eq_true])
        · exact absurd (hall hkey hlands) (by simp only [reduceCtorEq, not_false_eq_true])
    | none =>
        simp only [StoreOutcome.settle]
        refine iff_of_true ⟨(rebuilds_iff _).mpr (h.erase hrecord), ?_⟩ fun _ _ => trivial
        exact fun _ herror => absurd herror (by simp only [reduceCtorEq, not_false_eq_true])

variable (sha) in
/-- An operation that neither writes nor removes changes nothing. -/
theorem apply_of_idle {st : StoreState} {input : StoreInput}
    (hwrites : st.writes input.operation = none) (hremoves : st.removes input.operation = none) :
    (st.apply sha input).1 = st := by
  unfold StoreState.apply
  cases hoperation : input.operation with
  | start start =>
      rw [hoperation] at hwrites
      simp only [StoreState.writes] at hwrites
      cases hrecord : st.store.records ⟨start.runtimeId, start.operation, start.key⟩ with
      | none =>
          rw [hrecord, if_pos rfl] at hwrites
          exact absurd hwrites (by simp only [reduceCtorEq, not_false_eq_true])
      | some existing =>
          simp only [IdempotencyStore.startOperation, hrecord]
          cases existing.classifyRepeatedRequest start.requestFingerprint with
          | error error => rfl
          | ok status => rfl
  | accept key accept =>
      rw [hoperation] at hwrites
      simp only [StoreState.writes] at hwrites
      simp only [IdempotencyStore.markAccepted, IdempotencyStore.getByKey]
      cases hrecord : st.store.records key with
      | none => rfl
      | some record =>
          rw [hrecord, Option.bind_some] at hwrites
          cases hnext : record.markAccepted accept with
          | error error => simp only [hnext]; rfl
          | ok next =>
              rw [hnext] at hwrites
              exact absurd hwrites (by simp only [reduceCtorEq, not_false_eq_true])
  | complete key complete =>
      rw [hoperation] at hwrites
      simp only [StoreState.writes] at hwrites
      simp only [IdempotencyStore.markCompleted, IdempotencyStore.getByKey]
      cases hrecord : st.store.records key with
      | none => rfl
      | some record =>
          rw [hrecord, Option.bind_some] at hwrites
          cases hnext : record.markCompleted complete with
          | error error => simp only [hnext]; rfl
          | ok next =>
              rw [hnext] at hwrites
              exact absurd hwrites (by simp only [reduceCtorEq, not_false_eq_true])
  | delete key fingerprint =>
      rw [hoperation] at hremoves
      rcases deleteStarted_of_refused sha st input.fault hremoves with ⟨error, heq⟩
      simp only [heq]
      rfl

variable (sha) in
/-- An operation that writes a record does what writing and indexing it does. -/
theorem apply_eq_writeAndIndexRecord {st : StoreState} {input : StoreInput}
    {record : IdempotencyRecord} (hwrites : st.writes input.operation = some record) :
    st.removes input.operation = none ∧
      st.apply sha input = (st.store.writeAndIndexRecord sha input.fault st.disk record).settle := by
  unfold StoreState.apply
  cases hop : input.operation with
  | start start =>
      rw [hop] at hwrites
      simp only [StoreState.writes] at hwrites
      cases hrecord : st.store.records ⟨start.runtimeId, start.operation, start.key⟩ with
      | some existing => simp only [hrecord, reduceCtorEq, if_false] at hwrites
      | none =>
          rw [hrecord, if_pos rfl, Option.some.injEq] at hwrites
          refine ⟨rfl, ?_⟩
          simp only [IdempotencyStore.startOperation, hrecord, hwrites]
  | accept key accept =>
      rw [hop] at hwrites
      simp only [StoreState.writes] at hwrites
      rcases Option.bind_eq_some_iff.mp hwrites with ⟨existing, hrecord, hnext⟩
      refine ⟨rfl, ?_⟩
      simp only [IdempotencyStore.markAccepted, IdempotencyStore.getByKey, hrecord]
      cases hmarked : existing.markAccepted accept with
      | error error =>
          rw [hmarked] at hnext
          exact absurd hnext (by simp only [reduceCtorEq, not_false_eq_true])
      | ok next =>
          rw [hmarked, Option.some.injEq] at hnext
          rw [hnext]
  | complete key complete =>
      rw [hop] at hwrites
      simp only [StoreState.writes] at hwrites
      rcases Option.bind_eq_some_iff.mp hwrites with ⟨existing, hrecord, hnext⟩
      refine ⟨rfl, ?_⟩
      simp only [IdempotencyStore.markCompleted, IdempotencyStore.getByKey, hrecord]
      cases hmarked : existing.markCompleted complete with
      | error error =>
          rw [hmarked] at hnext
          exact absurd hnext (by simp only [reduceCtorEq, not_false_eq_true])
      | ok next =>
          rw [hmarked, Option.some.injEq] at hnext
          rw [hnext]
  | delete key fingerprint =>
      rw [hop] at hwrites
      exact absurd hwrites (by simp only [StoreState.writes, reduceCtorEq, not_false_eq_true])

/-- An operation that writes a record writes one of the current version that is not
    in the index. -/
theorem apply_of_writes {st : StoreState} {input : StoreInput} {record : IdempotencyRecord}
    (h : Mirrors sha st.disk st.store.records) (hwrites : st.writes input.operation = some record) :
    st.removes input.operation = none ∧ record.version = currentIdempotencyRecordVersion ∧
      st.store.records (.ofRecord record) ≠ some record.readBack ∧
      st.apply sha input = (st.store.writeAndIndexRecord sha input.fault st.disk record).settle := by
  rcases apply_eq_writeAndIndexRecord sha hwrites with ⟨hremoves, heq⟩
  have hnew : record.version = currentIdempotencyRecordVersion ∧
      st.store.records (.ofRecord record) ≠ some record.readBack := by
    -- A record that moves on keeps its key and changes its status.
    have hmoves : ∀ {key : StoreKey} {existing : IdempotencyRecord},
        st.store.records key = some existing → record.key = existing.key →
        record.runtimeId = existing.runtimeId → record.operation = existing.operation →
        record.version = existing.version → record.status ≠ existing.status →
        record.version = currentIdempotencyRecordVersion ∧
          st.store.records (.ofRecord record) ≠ some record.readBack := by
      intro key existing hexisting hkey hruntime hoperation hversion hstatus
      rcases h.records key existing hexisting with ⟨hof, _, _, _, _, _, hcurrent⟩
      refine ⟨hversion.trans hcurrent, ?_⟩
      have hsame : StoreKey.ofRecord record = key := by
        rw [← hof, StoreKey.ofRecord, StoreKey.ofRecord, hkey, hruntime, hoperation]
      rw [hsame, hexisting, ne_eq, Option.some.injEq]
      intro heq
      exact hstatus (congrArg IdempotencyRecord.status heq).symm
    cases hop : input.operation with
    | start start =>
        rw [hop] at hwrites
        simp only [StoreState.writes] at hwrites
        cases hrecord : st.store.records ⟨start.runtimeId, start.operation, start.key⟩ with
        | some existing =>
            simp only [hrecord, reduceCtorEq, if_false] at hwrites
        | none =>
            rw [hrecord, if_pos rfl, Option.some.injEq] at hwrites
            rw [← hwrites]
            refine ⟨rfl, ?_⟩
            have hkey : StoreKey.ofRecord (.started start)
                = ⟨start.runtimeId, start.operation, start.key⟩ := rfl
            rw [hkey, hrecord]
            simp only [ne_eq, reduceCtorEq, not_false_eq_true]
    | accept key accept =>
        rw [hop] at hwrites
        simp only [StoreState.writes] at hwrites
        rcases Option.bind_eq_some_iff.mp hwrites with ⟨existing, hrecord, hmarked⟩
        cases hnext : existing.markAccepted accept with
        | error error =>
            rw [hnext] at hmarked
            exact absurd hmarked (by simp only [reduceCtorEq, not_false_eq_true])
        | ok next =>
            rw [hnext, Option.some.injEq] at hmarked
            rcases IdempotencyRecord.markAccepted_ok hnext with ⟨_, hstarted, hfields⟩
            rw [hmarked] at hfields
            exact hmoves hrecord (by rw [hfields]) (by rw [hfields]) (by rw [hfields])
              (by rw [hfields]) (by
                rw [hfields, hstarted]
                simp only [ne_eq, reduceCtorEq, not_false_eq_true])
    | complete key complete =>
        rw [hop] at hwrites
        simp only [StoreState.writes] at hwrites
        rcases Option.bind_eq_some_iff.mp hwrites with ⟨existing, hrecord, hmarked⟩
        cases hnext : existing.markCompleted complete with
        | error error =>
            rw [hnext] at hmarked
            exact absurd hmarked (by simp only [reduceCtorEq, not_false_eq_true])
        | ok next =>
            rw [hnext, Option.some.injEq] at hmarked
            rcases IdempotencyRecord.markCompleted_ok hnext with ⟨_, hopen, hfields⟩
            rw [hmarked] at hfields
            have hkeeps := IdempotencyRecord.completed_keeps existing complete
            have hstatus := (IdempotencyRecord.completed_status existing complete).1
            rw [← hfields] at hkeeps hstatus
            exact hmoves hrecord hkeeps.1 hkeeps.2.1 hkeeps.2.2.1 hkeeps.2.2.2.1
              (by rw [hstatus]; exact hopen.symm)
    | delete key fingerprint =>
        rw [hop] at hwrites
        exact absurd hwrites (by simp only [StoreState.writes, reduceCtorEq, not_false_eq_true])
  exact ⟨hremoves, hnew.1, hnew.2, heq⟩

/-- One operation. -/
theorem atomic_iff_survivable {st : StoreState} (h : Mirrors sha st.disk st.store.records)
    (input : StoreInput) : Atomic sha serde st input ↔ Survivable sha st input := by
  unfold Atomic
  cases hwrites : st.writes input.operation with
  | some record =>
      rcases apply_of_writes h hwrites with ⟨hremoves, hversion, hnew, heq⟩
      rw [heq, writeAndIndexRecord_atomic_iff st input.fault h hversion hnew]
      constructor
      · intro hall
        refine ⟨fun other hother => ?_, fun key hkey => ?_⟩
        · rw [hwrites, Option.some.injEq] at hother
          rw [← hother]
          exact hall
        · rw [hremoves] at hkey
          exact absurd hkey (by simp only [reduceCtorEq, not_false_eq_true])
      · intro hall
        exact hall.written record hwrites
  | none =>
      cases hremoves : st.removes input.operation with
      | none =>
          have hidle := apply_of_idle sha hwrites hremoves
          rw [hidle]
          refine iff_of_true ⟨(rebuilds_iff _).mpr h, fun _ _ => ⟨rfl, fun _ _ => rfl⟩⟩ ⟨?_, ?_⟩
          · intro record hrecord
            rw [hwrites] at hrecord
            exact absurd hrecord (by simp only [reduceCtorEq, not_false_eq_true])
          · intro key hkey
            rw [hremoves] at hkey
            exact absurd hkey (by simp only [reduceCtorEq, not_false_eq_true])
      | some key =>
          cases hop : input.operation with
          | delete key' fingerprint =>
              have hdelete := deleteStarted_atomic_iff serde st input.fault h key'
                fingerprint
              have happly : st.apply sha input = (st.store.deleteStarted sha input.fault st.disk
                  key' fingerprint).settle := by
                simp only [StoreState.apply, hop]
              rw [happly, hdelete]
              rw [hop] at hremoves hwrites
              have hkey := (deleteStarted_of_removes sha st input.fault
                (by rw [hremoves]; simp only [ne_eq, reduceCtorEq, not_false_eq_true])).2.1
              rw [hremoves, Option.some.injEq] at hkey
              constructor
              · intro hall
                refine ⟨fun record hrecord => ?_, fun other hother => ?_⟩
                · rw [hop, hwrites] at hrecord
                  exact absurd hrecord (by simp only [reduceCtorEq, not_false_eq_true])
                · exact hall (hkey ▸ hremoves)
              · intro hall hsome
                exact hall.removed key' (hop ▸ hsome)
          | start start =>
              rw [hop] at hremoves
              exact absurd hremoves (by
                simp only [StoreState.removes, reduceCtorEq, not_false_eq_true])
          | accept key' accept =>
              rw [hop] at hremoves
              exact absurd hremoves (by
                simp only [StoreState.removes, reduceCtorEq, not_false_eq_true])
          | complete key' complete =>
              rw [hop] at hremoves
              exact absurd hremoves (by
                simp only [StoreState.removes, reduceCtorEq, not_false_eq_true])

end

/-- The digest that `sha2` gives for `delivery_key`, as a digest of everything. -/
def deliveryKeySha256 : Sha256 where
  digest _ := [179, 31, 89, 76, 32, 74, 235, 100, 150, 202, 22, 219, 102, 95, 219, 29, 9, 205, 121,
    42, 101, 157, 86, 224, 159, 133, 39, 23, 87, 79, 129, 163]
  length_digest _ := rfl

/-- A first request, whose directory cannot be synced once its record is in place. -/
def unsyncedStart : StoreInput where
  operation := .start ⟨"delivery_key", .codex, .submitPayload, ⟨"sha256:1"⟩, "2026-05-23T00:00:00Z"⟩
  fault := some ⟨.syncDirectory, "Input/output error (os error 5)"⟩

end Mistle
