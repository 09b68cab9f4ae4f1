import Mistle.Idempotency.Files

/-!
# The Idempotency Store

An index of records in memory over a directory of record files. Every operation
writes the file first and the index afterwards, so the index says nothing that is
not on the disk; a process that starts again rebuilds the index from the directory.

## Main definitions

* `IdempotencyStore`: The index and the directory it belongs to.
* `loadAll`: The index of a directory.
* `startOperation`, `markAccepted`, `markCompleted`, `deleteStarted`, `getByKey`: The
  operations.
* `Mirrors`: An index holds what its directory holds.

## Theorems

* `loadAll_of_mirrors`, `mirrors_of_loadAll`, `mirrors_after_loadAll`: Loading finds
  the index that mirrors.
* `Mirrors.unique`: There is no other.
-/

namespace Mistle

structure IdempotencyStore where
  root : String
  records : StoreKey → Option IdempotencyRecord

/-- What an operation returns, and the disk and the store it leaves. -/
structure StoreOutcome (α : Type) where
  result : Except IdempotencyStoreError α
  disk : Disk
  store : IdempotencyStore

/-! ### Loading -/

section

variable (sha : Sha256) (serde : SerdeJson) (root : String)

def validateRecordVersion (path : String) (record : IdempotencyRecord) :
    Except IdempotencyStoreError Unit :=
  if record.version = currentIdempotencyRecordVersion then .ok ()
  else .error (.unsupportedRecordVersion path record.version currentIdempotencyRecordVersion)

def validateRecordPath (name : String) (record : IdempotencyRecord) :
    Except IdempotencyStoreError Unit :=
  let expected := recordFileName sha (.ofRecord record)
  if name = expected then .ok ()
  else .error (.recordPathMismatch s!"{root}/{name}" s!"{root}/{expected}")

def loadRecord (name : String) (contents : Except String (Json String)) :
    Except IdempotencyStoreError IdempotencyRecord := do
  let path := s!"{root}/{name}"
  let document ← contents.mapError (.decodeRecord path)
  match idempotencyRecord? document with
  | none => throw (.decodeRecord path (serde.fromValueError "IdempotencyRecord" document))
  | some record =>
    validateRecordVersion path record
    return record

/-- One entry of the directory: a leftover is removed, a record is indexed, and
    anything else stops the load. -/
def loadEntry (directory : Std.ExtTreeMap String DirEntry compare)
    (records : StoreKey → Option IdempotencyRecord) (name : String) :
    DirEntry → Except IdempotencyStoreError
      (Std.ExtTreeMap String DirEntry compare × (StoreKey → Option IdempotencyRecord))
  | .other => .error (.unexpectedDirectoryEntry s!"{root}/{name}")
  | .file contents =>
    if isStoreTempRecordFileName name then .ok (directory.erase name, records)
    else if fileExtension name ≠ some "json" then
      .error (.unexpectedDirectoryEntry s!"{root}/{name}")
    else do
      let record ← loadRecord serde root name contents
      validateRecordPath sha root name record
      let key := StoreKey.ofRecord record
      if (records key).isSome then
        throw (.duplicateRecord key)
      return (directory, Function.update records key (some record))

def loadEntries (directory : Std.ExtTreeMap String DirEntry compare)
    (records : StoreKey → Option IdempotencyRecord) :
    List (String × DirEntry) → Except IdempotencyStoreError
      (Std.ExtTreeMap String DirEntry compare × (StoreKey → Option IdempotencyRecord))
  | [] => .ok (directory, records)
  | (name, entry) :: rest => do
    let (directory, records) ← loadEntry sha serde root directory records name entry
    loadEntries directory records rest

/-- The store of a directory, in a process that has written nothing yet. The entries
    are taken in the order of their names. -/
def loadAll (disk : Disk) : Except IdempotencyStoreError (Disk × IdempotencyStore) := do
  let (directory, records) ←
    loadEntries sha serde root disk.directory (fun _ => none) disk.directory.toList
  return ({ directory, tempFileCounter := 0 }, { root, records })

end

/-- The disk before anything was written. -/
def Disk.empty : Disk where
  directory := ∅
  tempFileCounter := 0

/-- The store of an empty directory. -/
def IdempotencyStore.empty (root : String) : IdempotencyStore where
  root := root
  records _ := none

theorem loadAll_empty (sha : Sha256) (serde : SerdeJson) (root : String) :
    loadAll sha serde root .empty = .ok (.empty, .empty root) := by
  have hnothing : (∅ : Std.ExtTreeMap String DirEntry compare).toList = [] :=
    Std.ExtTreeMap.toList_eq_nil_iff.mpr rfl
  unfold loadAll Disk.empty
  rw [hnothing]
  rfl

/-! ### Operations -/

namespace IdempotencyStore

section

variable (sha : Sha256) (fault : Option Fault) (disk : Disk) (store : IdempotencyStore)

def getByKey (key : StoreKey) : Except IdempotencyStoreError IdempotencyRecord :=
  match store.records key with
  | some record => .ok record
  | none => .error (.missingRecord key)

def writeAndIndexRecord (record : IdempotencyRecord) : StoreOutcome IdempotencyRecord :=
  match writeRecordAtomically sha store.root fault record disk with
  | (.error error, disk) => ⟨.error error, disk, store⟩
  | (.ok (), disk) =>
    ⟨.ok record, disk, { store with
      records := Function.update store.records (.ofRecord record) (some record) }⟩

def startOperation (input : StartIdempotencyOperation) : StoreOutcome IdempotencyRecord :=
  match store.records ⟨input.runtimeId, input.operation, input.key⟩ with
  | some existing =>
    match existing.classifyRepeatedRequest input.requestFingerprint with
    | .error error => ⟨.error (.record error), disk, store⟩
    | .ok _ => ⟨.ok existing, disk, store⟩
  | none => writeAndIndexRecord sha fault disk store (.started input)

def markAccepted (key : StoreKey) (input : AcceptIdempotencyOperation) :
    StoreOutcome IdempotencyRecord :=
  match store.getByKey key with
  | .error error => ⟨.error error, disk, store⟩
  | .ok existing =>
    match existing.markAccepted input with
    | .error error => ⟨.error (.record error), disk, store⟩
    | .ok record => writeAndIndexRecord sha fault disk store record

def markCompleted (key : StoreKey) (input : CompleteIdempotencyOperation) :
    StoreOutcome IdempotencyRecord :=
  match store.getByKey key with
  | .error error => ⟨.error error, disk, store⟩
  | .ok existing =>
    match existing.markCompleted input with
    | .error error => ⟨.error (.record error), disk, store⟩
    | .ok record => writeAndIndexRecord sha fault disk store record

def deleteStarted (key : StoreKey) (requestFingerprint : RequestFingerprint) :
    StoreOutcome Unit :=
  match store.getByKey key with
  | .error error => ⟨.error error, disk, store⟩
  | .ok record =>
    match record.classifyRepeatedRequest requestFingerprint with
    | .error error => ⟨.error (.record error), disk, store⟩
    | .ok _ =>
      if record.status ≠ .started then
        ⟨.error (.record (.invalidTransition record.status .started)), disk, store⟩
      else
        match deleteRecord store.root fault (recordFileName sha key) disk with
        | (.error error, disk) => ⟨.error error, disk, store⟩
        | (.ok (), disk) =>
          ⟨.ok (), disk, { store with records := Function.update store.records key none }⟩

end

end IdempotencyStore

/-! ### What loading finds -/

/-- The contents of a file are a record of the current version. -/
def Reads (contents : Except String (Json String)) (record : IdempotencyRecord) : Prop :=
  ∃ document, contents = .ok document ∧ idempotencyRecord? document = some record ∧
    record.version = currentIdempotencyRecordVersion

theorem Reads.unique {contents : Except String (Json String)} {a b : IdempotencyRecord}
    (ha : Reads contents a) (hb : Reads contents b) : a = b := by
  rcases ha with ⟨document, hcontents, hread, _⟩
  rcases hb with ⟨document', hcontents', hread', _⟩
  rw [hcontents, Except.ok.injEq] at hcontents'
  rw [← hcontents', hread, Option.some.injEq] at hread'
  exact hread'

/-- A record that was written is read back, as far as its document tells it. -/
theorem reads_toJson {record : IdempotencyRecord}
    (h : record.version = currentIdempotencyRecordVersion) :
    Reads (.ok record.toJson) record.readBack :=
  ⟨record.toJson, rfl, idempotencyRecord?_toJson record, h⟩

section

variable (serde : SerdeJson) (root : String)

theorem loadRecord_ok_iff (name : String) (contents : Except String (Json String))
    (record : IdempotencyRecord) :
    loadRecord serde root name contents = .ok record ↔ Reads contents record := by
  unfold loadRecord Reads
  cases contents with
  | error error => simp only [Except.mapError, bind, Except.bind, reduceCtorEq, false_and,
      exists_false]
  | ok document =>
      simp only [Except.mapError, bind, Except.bind, Except.ok.injEq, exists_eq_left']
      cases idempotencyRecord? document with
      | none => simp only [throw, throwThe, MonadExceptOf.throw, reduceCtorEq, false_and]
      | some found =>
          unfold validateRecordVersion
          by_cases hversion : found.version = currentIdempotencyRecordVersion
          · simp only [if_pos hversion, pure, Except.pure, Except.ok.injEq, Option.some.injEq]
            constructor
            · rintro rfl
              exact ⟨rfl, hversion⟩
            · exact fun h => h.1
          · simp only [if_neg hversion, reduceCtorEq, Option.some.injEq, false_iff, not_and]
            rintro rfl
            exact hversion

end

/-- An index holds exactly the records of a directory: every entry is a leftover file
    or the file of an indexed record, and every indexed record has its file. -/
structure Mirrors (sha : Sha256) (disk : Disk) (records : StoreKey → Option IdempotencyRecord) :
    Prop where
  entries : ∀ name entry, disk.directory[name]? = some entry → ∃ contents, entry = .file contents ∧
    (isStoreTempRecordFileName name = true ∨ ∃ record, Reads contents record ∧
      name = recordFileName sha (.ofRecord record) ∧ records (.ofRecord record) = some record)
  records : ∀ key record, records key = some record → .ofRecord record = key ∧
    ∃ contents, disk.directory[recordFileName sha key]? = some (.file contents) ∧
      Reads contents record

section

variable {sha : Sha256}

/-- There is one index of a directory. -/
theorem Mirrors.unique {disk : Disk} {a b : StoreKey → Option IdempotencyRecord}
    (ha : Mirrors sha disk a) (hb : Mirrors sha disk b) : a = b := by
  have hle : ∀ a b : StoreKey → Option IdempotencyRecord, Mirrors sha disk a →
      Mirrors sha disk b → ∀ key record, a key = some record → b key = some record := by
    intro a b ha hb key record h
    rcases ha.records key record h with ⟨hkey, contents, hfile, hreads⟩
    rcases hb.entries _ _ hfile with ⟨contents', hcontents, hentry⟩
    rw [DirEntry.file.injEq] at hcontents
    rcases hentry with htemp | ⟨record', hreads', _, hindexed⟩
    · rw [isStoreTempRecordFileName_record] at htemp
      exact absurd htemp (by decide)
    · rw [← hcontents] at hreads'
      rwa [← hreads.unique hreads', hkey] at hindexed
  funext key
  cases h : a key with
  | some record => exact (hle a b ha hb key record h).symm
  | none =>
      cases h' : b key with
      | none => rfl
      | some record =>
          rw [hle b a hb ha key record h'] at h
          exact absurd h (by simp only [reduceCtorEq, not_false_eq_true])

/-- Leftovers are not mirrored. -/
theorem Mirrors.congr {disk disk' : Disk} {records : StoreKey → Option IdempotencyRecord}
    (h : Mirrors sha disk records) (hsame : SameRecords disk disk') :
    Mirrors sha disk' records := by
  constructor
  · intro name entry hentry
    cases htemp : isStoreTempRecordFileName name with
    | true =>
        rcases hsame.leftovers name entry htemp hentry with hbefore | ⟨contents, hfile⟩
        · rcases h.entries name entry hbefore with ⟨contents, hfile, _⟩
          exact ⟨contents, hfile, .inl rfl⟩
        · exact ⟨contents, hfile, .inl rfl⟩
    | false =>
        rw [hsame.records name htemp] at hentry
        have hbefore := h.entries name entry hentry
        rwa [htemp] at hbefore
  · intro key record hrecord
    rcases h.records key record hrecord with ⟨hkey, contents, hfile, hreads⟩
    refine ⟨hkey, contents, ?_, hreads⟩
    rw [hsame.records _ (isStoreTempRecordFileName_record sha key), hfile]

theorem loadEntry_record (serde : SerdeJson) (root : String)
    (directory : Std.ExtTreeMap String DirEntry compare)
    {loaded : StoreKey → Option IdempotencyRecord} {contents : Except String (Json String)}
    {record : IdempotencyRecord} (hreads : Reads contents record)
    (hnone : loaded (.ofRecord record) = none) :
    loadEntry sha serde root directory loaded (recordFileName sha (.ofRecord record))
        (.file contents)
      = .ok (directory, Function.update loaded (.ofRecord record) (some record)) := by
  have hload := (loadRecord_ok_iff serde root (recordFileName sha (.ofRecord record)) contents
    record).mpr hreads
  unfold loadEntry
  rw [isStoreTempRecordFileName_record, fileExtension_record]
  simp only [hload, validateRecordPath, hnone, Bool.false_eq_true, ne_eq, not_true_eq_false,
    if_false, if_true, Option.isSome_none, bind, Except.bind, pure, Except.pure]

/-- The entries of a directory load, whatever was loaded before them: every record
    among them is indexed, and the others stay as they were. -/
theorem loadEntries_of_mirrors (serde : SerdeJson) (root : String) {disk : Disk}
    {records : StoreKey → Option IdempotencyRecord} (h : Mirrors sha disk records)
    (rest : List (String × DirEntry)) : ∀ (directory : Std.ExtTreeMap String DirEntry compare)
      (loaded : StoreKey → Option IdempotencyRecord),
      (∀ e ∈ rest, disk.directory[e.1]? = some e.2) → (rest.map Prod.fst).Nodup →
      (∀ key, recordFileName sha key ∈ rest.map Prod.fst → loaded key = none) →
      ∃ directory' loaded', loadEntries sha serde root directory loaded rest
          = .ok (directory', loaded') ∧
        (∀ key, loaded' key = if recordFileName sha key ∈ rest.map Prod.fst then records key
          else loaded key) ∧
        (∀ name : String, isStoreTempRecordFileName name = false →
          directory'[name]? = directory[name]?) ∧
        ∀ (name : String) (entry : DirEntry), directory'[name]? = some entry →
          directory[name]? = some entry := by
  induction rest with
  | nil =>
      intro directory loaded _ _ _
      refine ⟨directory, loaded, rfl, fun key => ?_, fun _ _ => rfl, fun _ _ h => h⟩
      rw [List.map_nil, if_neg (List.not_mem_nil)]
  | cons first rest ih =>
      intro directory loaded hentries hnodup hfresh
      rcases first with ⟨name, entry⟩
      rw [List.map_cons, List.nodup_cons] at hnodup
      have hrest : ∀ e ∈ rest, disk.directory[e.1]? = some e.2 :=
        fun e he => hentries e (List.mem_cons_of_mem _ he)
      rcases h.entries name entry (hentries _ List.mem_cons_self) with ⟨contents, rfl, hentry⟩
      rw [loadEntries]
      rcases hentry with htemp | ⟨record, hreads, hname, hindexed⟩
      · -- A leftover is removed, and no record has its name.
        rw [loadEntry, if_pos htemp]
        have hne : ∀ key, recordFileName sha key ≠ name := by
          intro key hkey
          rw [← hkey, isStoreTempRecordFileName_record] at htemp
          exact absurd htemp (by decide)
        rcases ih (directory.erase name) loaded hrest hnodup.2
          (fun key hkey => hfresh key (List.mem_cons_of_mem _ hkey))
          with ⟨directory', loaded', hload, hloaded, hsame, hsub⟩
        refine ⟨directory', loaded', hload, fun key => ?_, fun other hother => ?_,
          fun other found hfound => ?_⟩
        · rw [hloaded, List.map_cons]
          simp only [List.mem_cons, hne key, false_or]
        · rw [hsame other hother, Std.ExtTreeMap.getElem?_erase, if_neg]
          intro heq
          rw [Std.LawfulEqCmp.eq_of_compare heq, hother] at htemp
          exact absurd htemp (by decide)
        · have herased := hsub other found hfound
          rw [Std.ExtTreeMap.getElem?_erase] at herased
          by_cases heq : compare name other = .eq
          · rw [if_pos heq] at herased
            exact absurd herased (by simp only [reduceCtorEq, not_false_eq_true])
          · rwa [if_neg heq] at herased
      · -- A record is indexed under its key.
        have hmem : recordFileName sha (.ofRecord record) ∈ (name :: rest.map Prod.fst) := by
          rw [← hname]
          exact List.mem_cons_self
        have hkeeps : ∀ key, recordFileName sha key ∈ rest.map Prod.fst →
            key ≠ .ofRecord record := by
          rintro key hkey rfl
          rw [← hname] at hkey
          exact hnodup.1 hkey
        rcases ih directory (Function.update loaded (.ofRecord record) (some record)) hrest
          hnodup.2 (fun key hkey => by
            rw [Function.update_of_ne (hkeeps key hkey)]
            exact hfresh key (List.mem_cons_of_mem _ hkey))
          with ⟨directory', loaded', hload, hloaded, hsame, hsub⟩
        refine ⟨directory', loaded', ?_, fun key => ?_, hsame, hsub⟩
        · rw [hname, loadEntry_record serde root directory hreads (hfresh _ hmem)]
          exact hload
        · rw [hloaded, List.map_cons]
          by_cases hlater : recordFileName sha key ∈ rest.map Prod.fst
          · rw [if_pos hlater, if_pos (List.mem_cons_of_mem _ hlater)]
          · rw [if_neg hlater]
            by_cases hkey : key = .ofRecord record
            · rw [hkey, Function.update_self, if_pos hmem, hindexed]
            · rw [Function.update_of_ne hkey]
              by_cases hcollides : recordFileName sha key = name
              · -- The file names another record, so this key has none.
                rw [if_pos (hcollides ▸ List.mem_cons_self),
                  hfresh key (hcollides ▸ List.mem_cons_self)]
                cases hother : records key with
                | none => rfl
                | some other =>
                    rcases h.records key other hother with ⟨hof, contents', hfile, hreads'⟩
                    rw [hcollides, hentries _ List.mem_cons_self, Option.some.injEq,
                      DirEntry.file.injEq] at hfile
                    rw [← hfile] at hreads'
                    exact absurd (hof.symm.trans (congrArg _ (hreads'.unique hreads))) hkey
              · rw [if_neg (fun hmem' => (List.mem_cons.mp hmem').elim hcollides hlater)]

/-- A mirrored directory loads, and gives back the index that mirrors it. -/
theorem loadAll_of_mirrors (serde : SerdeJson) (root : String) {disk : Disk}
    {records : StoreKey → Option IdempotencyRecord} (h : Mirrors sha disk records) :
    ∃ disk', loadAll sha serde root disk = .ok (disk', ⟨root, records⟩) ∧
      SameRecords disk disk' := by
  have hnodup : (disk.directory.toList.map Prod.fst).Nodup := by
    refine List.pairwise_map.mpr (Std.ExtTreeMap.distinct_keys_toList.imp ?_)
    intro a b hne heq
    exact hne (by rw [heq]; exact Std.ReflCmp.compare_self)
  rcases loadEntries_of_mirrors serde root h disk.directory.toList disk.directory (fun _ => none)
    (fun e he => Std.ExtTreeMap.mem_toList_iff_getElem?_eq_some.mp he) hnodup (fun _ _ => rfl)
    with ⟨directory', loaded', hload, hloaded, hsame, hsub⟩
  have hall : loaded' = records := by
    funext key
    rw [hloaded]
    by_cases hkey : recordFileName sha key ∈ disk.directory.toList.map Prod.fst
    · rw [if_pos hkey]
    · rw [if_neg hkey]
      cases hrecord : records key with
      | none => rfl
      | some record =>
          rcases h.records key record hrecord with ⟨_, contents, hfile, _⟩
          exact absurd (List.mem_map.mpr
            ⟨_, Std.ExtTreeMap.mem_toList_iff_getElem?_eq_some.mpr hfile, rfl⟩) hkey
  refine ⟨⟨directory', 0⟩, ?_, hsame, fun name entry _ hentry => .inl (hsub name entry hentry)⟩
  unfold loadAll
  rw [hload, hall]
  rfl

/-- An entry that loads is a leftover or a record that was not there yet. -/
theorem loadEntry_ok {serde : SerdeJson} {root name : String} {entry : DirEntry}
    {directory directory' : Std.ExtTreeMap String DirEntry compare}
    {loaded loaded' : StoreKey → Option IdempotencyRecord}
    (h : loadEntry sha serde root directory loaded name entry = .ok (directory', loaded')) :
    ∃ contents, entry = .file contents ∧
      ((isStoreTempRecordFileName name = true ∧ loaded' = loaded) ∨
        ∃ record, Reads contents record ∧ name = recordFileName sha (.ofRecord record) ∧
          loaded (.ofRecord record) = none ∧
          loaded' = Function.update loaded (.ofRecord record) (some record)) := by
  cases entry with
  | other => simp only [loadEntry, reduceCtorEq] at h
  | file contents =>
      refine ⟨contents, rfl, ?_⟩
      unfold loadEntry at h
      cases htemp : isStoreTempRecordFileName name with
      | true =>
          simp only [htemp, if_true, Except.ok.injEq, Prod.mk.injEq] at h
          exact .inl ⟨rfl, h.2.symm⟩
      | false =>
          simp only [htemp, Bool.false_eq_true, if_false] at h
          by_cases hextension : fileExtension name ≠ some "json"
          · simp only [if_pos hextension, reduceCtorEq] at h
          simp only [if_neg hextension] at h
          cases hload : loadRecord serde root name contents with
          | error error => simp only [hload, bind, Except.bind, reduceCtorEq] at h
          | ok record =>
              by_cases hname : name = recordFileName sha (.ofRecord record)
              · cases hindexed : loaded (.ofRecord record) with
                | some other =>
                    simp only [hload, validateRecordPath, ← hname, hindexed, Option.isSome_some,
                      if_true, bind, Except.bind, throw, throwThe, MonadExceptOf.throw,
                      reduceCtorEq] at h
                | none =>
                    simp only [hload, validateRecordPath, ← hname, hindexed, Option.isSome_none,
                      Bool.false_eq_true, if_true, if_false, bind, Except.bind, pure, Except.pure,
                      Except.ok.injEq, Prod.mk.injEq] at h
                    exact .inr ⟨record, (loadRecord_ok_iff serde root name contents record).mp hload,
                      hname, hindexed, h.2.symm⟩
              · simp only [hload, validateRecordPath, if_neg hname, bind, Except.bind,
                  reduceCtorEq] at h

/-- What entries that load have put into the index. -/
theorem loadEntries_ok {serde : SerdeJson} {root : String} (rest : List (String × DirEntry)) :
    ∀ {directory directory' : Std.ExtTreeMap String DirEntry compare}
      {loaded loaded' : StoreKey → Option IdempotencyRecord},
      loadEntries sha serde root directory loaded rest = .ok (directory', loaded') →
      (∀ key record, loaded key = some record → loaded' key = some record) ∧
      (∀ e ∈ rest, ∃ contents, e.2 = .file contents ∧ (isStoreTempRecordFileName e.1 = true ∨
        ∃ record, Reads contents record ∧ e.1 = recordFileName sha (.ofRecord record) ∧
          loaded' (.ofRecord record) = some record)) ∧
      ∀ key record, loaded' key = some record → loaded key = some record ∨
        (.ofRecord record = key ∧ ∃ contents,
          (recordFileName sha key, DirEntry.file contents) ∈ rest ∧ Reads contents record) := by
  induction rest with
  | nil =>
      intro directory directory' loaded loaded' h
      simp only [loadEntries, Except.ok.injEq, Prod.mk.injEq] at h
      rw [← h.2]
      exact ⟨fun _ _ h => h, fun e he => absurd he List.not_mem_nil, fun _ _ h => .inl h⟩
  | cons first rest ih =>
      intro directory directory' loaded loaded' h
      rcases first with ⟨name, entry⟩
      rw [loadEntries] at h
      cases hentry : loadEntry sha serde root directory loaded name entry with
      | error error => simp only [hentry, bind, Except.bind, reduceCtorEq] at h
      | ok next =>
          rcases next with ⟨directory'', loaded''⟩
          simp only [hentry, bind, Except.bind] at h
          rcases ih h with ⟨hkept, hrest, hfound⟩
          rcases loadEntry_ok hentry with ⟨contents, rfl, htemp | hrecord⟩
          · rcases htemp with ⟨htemp, rfl⟩
            refine ⟨hkept, ?_, fun key record hkey => ?_⟩
            · intro e he
              rcases List.mem_cons.mp he with rfl | he
              · exact ⟨contents, rfl, .inl htemp⟩
              · exact hrest e he
            · rcases hfound key record hkey with hbefore | ⟨hof, contents', hmem, hreads⟩
              · exact .inl hbefore
              · exact .inr ⟨hof, contents', List.mem_cons_of_mem _ hmem, hreads⟩
          · rcases hrecord with ⟨record, hreads, rfl, hnone, rfl⟩
            refine ⟨fun key other hkey => hkept key other ?_, ?_, fun key other hkey => ?_⟩
            · rw [Function.update_of_ne, hkey]
              rintro rfl
              rw [hnone] at hkey
              exact absurd hkey (by simp only [reduceCtorEq, not_false_eq_true])
            · intro e he
              rcases List.mem_cons.mp he with rfl | he
              · exact ⟨contents, rfl, .inr ⟨record, hreads, rfl,
                  hkept _ _ (Function.update_self _ _ _)⟩⟩
              · exact hrest e he
            · rcases hfound key other hkey with hbefore | ⟨hof, contents', hmem, hreads'⟩
              · by_cases hsame : key = .ofRecord record
                · rw [hsame, Function.update_self, Option.some.injEq] at hbefore
                  rw [hsame, ← hbefore]
                  exact .inr ⟨rfl, contents, List.mem_cons_self, hreads⟩
                · rw [Function.update_of_ne hsame] at hbefore
                  exact .inl hbefore
              · exact .inr ⟨hof, contents', List.mem_cons_of_mem _ hmem, hreads'⟩

/-- What loads is mirrored by the index it gives. -/
theorem mirrors_of_loadAll {serde : SerdeJson} {root : String} {disk disk' : Disk}
    {store : IdempotencyStore} (h : loadAll sha serde root disk = .ok (disk', store)) :
    Mirrors sha disk store.records := by
  unfold loadAll at h
  cases hload : loadEntries sha serde root disk.directory (fun _ => none)
    disk.directory.toList with
  | error error => simp only [hload, bind, Except.bind, reduceCtorEq] at h
  | ok loaded =>
      simp only [hload, bind, Except.bind, pure, Except.pure, Except.ok.injEq,
        Prod.mk.injEq] at h
      rcases loadEntries_ok _ hload with ⟨_, hentries, hfound⟩
      rw [← h.2]
      constructor
      · intro name entry hentry
        exact hentries (name, entry) (Std.ExtTreeMap.mem_toList_iff_getElem?_eq_some.mpr hentry)
      · intro key record hrecord
        rcases hfound key record hrecord with hnone | ⟨hof, contents, hmem, hreads⟩
        · exact absurd hnone (by simp only [reduceCtorEq, not_false_eq_true])
        · exact ⟨hof, contents, Std.ExtTreeMap.mem_toList_iff_getElem?_eq_some.mp hmem, hreads⟩

/-- The store that a load gives mirrors the directory that it leaves. -/
theorem mirrors_after_loadAll {serde : SerdeJson} {root : String} {disk disk' : Disk}
    {store : IdempotencyStore} (h : loadAll sha serde root disk = .ok (disk', store)) :
    Mirrors sha disk' store.records := by
  have hbefore := mirrors_of_loadAll h
  rcases loadAll_of_mirrors serde root hbefore with ⟨disk'', hload, hsame⟩
  rw [h, Except.ok.injEq, Prod.mk.injEq] at hload
  rw [hload.1]
  exact hbefore.congr hsame

end

end Mistle
