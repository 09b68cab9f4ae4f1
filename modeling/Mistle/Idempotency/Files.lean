import Mistle.Lib.Digest
import Mistle.Lib.Split
import Mistle.Idempotency.Record
import Std.Data.ExtTreeMap

/-!
# Files of the Idempotency Store

One file per record, named after the record's runtime, operation and key. A file is
never written in place: a record is written to a temporary file, synced and renamed
over the old one, and the directory is synced last. Each of these steps may fail,
and what it leaves behind is part of the model.

## Main definitions

* `StoreKey`, `recordFileName`, `temporaryRecordName`: Names.
* `isStoreTempRecordFileName`: Which files are leftovers of a write.
* `Disk`, `FileStep`, `Fault`: The directory, and the steps that may fail.
* `writeRecordAtomically`, `deleteRecord`: The source's file operations.

## Theorems

* `recordFileName_injective`: Keys whose digests differ have different files.
* `isStoreTempRecordFileName_temporary`, `isStoreTempRecordFileName_record`: The
  leftovers are told from the records.
* `fileExtension_record`: A record's file is a `json` file.
-/

namespace Mistle

/-! ### Names -/

def runtimeFilePrefix : AgentRuntimeId → String
  | .codex => "codex"
  | .openCode => "opencode"
  | .pi => "pi"

def operationFilePrefix : IdempotencyOperation → String
  | .createConversation => "create-conversation"
  | .submitPayload => "submit-payload"

/-- What a record is found by. -/
structure StoreKey where
  runtimeId : AgentRuntimeId
  operation : IdempotencyOperation
  key : String
  deriving DecidableEq

def StoreKey.ofRecord (record : IdempotencyRecord) : StoreKey where
  runtimeId := record.runtimeId
  operation := record.operation
  key := record.key

section

variable (sha : Sha256)

def recordFileStem (key : StoreKey) : List Char :=
  (runtimeFilePrefix key.runtimeId).toList ++ '-' ::
    ((operationFilePrefix key.operation).toList ++ '-' :: hexLower (sha.digest (utf8 key.key)))

def recordFileName (key : StoreKey) : String :=
  String.ofList (recordFileStem sha key ++ ".json".toList)

def temporaryRecordName (key : StoreKey) (counter : Nat) : String :=
  String.ofList ('.' :: (recordFileStem sha key ++ '.' :: (toString counter).toList ++ ".tmp".toList))

end

def isLowerHexSha256 (value : List Char) : Bool :=
  value.length == 64 && value.all fun c => c.isDigit || ('a'.toNat ≤ c.toNat && c.toNat ≤ 'f'.toNat)

def isRecordFileStem (stem : List Char) : Bool :=
  match splitOnce '-' stem with
  | none => false
  | some (runtime, rest) =>
    (runtime == "codex".toList || runtime == "opencode".toList || runtime == "pi".toList) &&
      ((stripPrefix "create-conversation-".toList rest).or
        (stripPrefix "submit-payload-".toList rest)).any isLowerHexSha256

/-- Whether a file is what an interrupted write left behind. -/
def isStoreTempRecordFileName (fileName : String) : Bool :=
  match stripPrefix ['.'] fileName.toList with
  | none => false
  | some withoutDot =>
    match stripSuffix ".tmp".toList withoutDot with
    | none => false
    | some withoutSuffix =>
      match rsplitOnce '.' withoutSuffix with
      | none => false
      | some (recordStem, counter) =>
        !counter.isEmpty && counter.all Char.isDigit && isRecordFileStem recordStem

/-- What stands behind the last dot of a name, unless the name has no other part. -/
def fileExtension (fileName : String) : Option String :=
  match rsplitOnce '.' fileName.toList with
  | none | some ([], _) => none
  | some (_, fileExtension) => some (String.ofList fileExtension)

theorem hexDigit_lowerHex {n : Nat} (h : n < 16) :
    ((hexDigit n).isDigit || ('a'.toNat ≤ (hexDigit n).toNat && (hexDigit n).toNat ≤ 'f'.toNat))
      = true := by
  revert n
  decide

theorem isLowerHexSha256_hexLower {bytes : List UInt8} (h : bytes.length = 32) :
    isLowerHexSha256 (hexLower bytes) = true := by
  unfold isLowerHexSha256
  rw [length_hexLower, h, Bool.and_eq_true]
  refine ⟨rfl, List.all_eq_true.mpr fun c hc => ?_⟩
  rcases mem_hexLower hc with ⟨n, hn, rfl⟩
  exact hexDigit_lowerHex hn

section

variable (sha : Sha256)

theorem splitOnce_recordFileStem (key : StoreKey) : splitOnce '-' (recordFileStem sha key)
    = some ((runtimeFilePrefix key.runtimeId).toList,
        (operationFilePrefix key.operation).toList ++ '-' ::
          hexLower (sha.digest (utf8 key.key))) := by
  refine splitOnce_append ?_ _
  cases key.runtimeId with
  | codex | openCode | pi => decide

theorem isRecordFileStem_recordFileStem (key : StoreKey) :
    isRecordFileStem (recordFileStem sha key) = true := by
  have hhex := isLowerHexSha256_hexLower (sha.length_digest (utf8 key.key))
  have hruntime : ((runtimeFilePrefix key.runtimeId).toList == "codex".toList
      || (runtimeFilePrefix key.runtimeId).toList == "opencode".toList
      || (runtimeFilePrefix key.runtimeId).toList == "pi".toList) = true := by
    cases key.runtimeId with
    | codex | openCode | pi => decide
  unfold isRecordFileStem
  rw [splitOnce_recordFileStem]
  simp only [hruntime, Bool.true_and]
  cases key.operation with
  | createConversation =>
      have hrest : (operationFilePrefix .createConversation).toList ++ '-' ::
          hexLower (sha.digest (utf8 key.key))
          = "create-conversation-".toList ++ hexLower (sha.digest (utf8 key.key)) := rfl
      rw [hrest, stripPrefix_append]
      exact hhex
  | submitPayload =>
      have hrest : (operationFilePrefix .submitPayload).toList ++ '-' ::
          hexLower (sha.digest (utf8 key.key))
          = "submit-payload-".toList ++ hexLower (sha.digest (utf8 key.key)) := rfl
      have hother : stripPrefix "create-conversation-".toList
          ("submit-payload-".toList ++ hexLower (sha.digest (utf8 key.key))) = none := rfl
      rw [hrest, hother, Option.none_or, stripPrefix_append]
      exact hhex

/-- The leftovers of a write are recognized. -/
theorem isStoreTempRecordFileName_temporary (key : StoreKey) (counter : Nat) :
    isStoreTempRecordFileName (temporaryRecordName sha key counter) = true := by
  have hdigits : ∀ c ∈ (toString counter).toList, c.isDigit = true := by
    intro c hc
    rw [Nat.toString_eq_repr, Nat.repr, String.toList_ofList] at hc
    exact Nat.isDigit_of_mem_toDigits (by decide) (by decide) hc
  have hsome : (toString counter).toList ≠ [] := by
    rw [Nat.toString_eq_repr, Nat.repr, String.toList_ofList]
    exact Nat.toDigits_ne_nil
  have hdot : '.' ∉ (toString counter).toList := fun hmem =>
    absurd (hdigits '.' hmem) (by decide)
  have hstrip : ∀ l : List Char, stripPrefix ['.'] ('.' :: l) = some l := stripPrefix_append ['.']
  unfold isStoreTempRecordFileName temporaryRecordName
  rw [String.toList_ofList, hstrip]
  simp only [stripSuffix_append]
  rw [rsplitOnce_append hdot]
  simp only [isRecordFileStem_recordFileStem, List.all_eq_true.mpr hdigits, Bool.and_true,
    Bool.not_eq_true', List.isEmpty_eq_false_iff]
  exact hsome

/-- A record is no leftover: its name begins with its runtime. -/
theorem isStoreTempRecordFileName_record (key : StoreKey) :
    isStoreTempRecordFileName (recordFileName sha key) = false := by
  have hstrip : stripPrefix ['.'] (recordFileName sha key).toList = none := by
    unfold recordFileName recordFileStem
    rw [String.toList_ofList]
    cases key.runtimeId with
    | codex | openCode | pi => rfl
  unfold isStoreTempRecordFileName
  rw [hstrip]

theorem fileExtension_record (key : StoreKey) :
    fileExtension (recordFileName sha key) = some "json" := by
  have hname : (recordFileName sha key).toList
      = recordFileStem sha key ++ '.' :: "json".toList := by
    unfold recordFileName
    rw [String.toList_ofList]
    rfl
  unfold fileExtension
  rw [hname, rsplitOnce_append (by decide)]
  cases hstem : recordFileStem sha key with
  | nil => exact absurd hstem (List.append_ne_nil_of_right_ne_nil _ (List.cons_ne_nil _ _))
  | cons c stem => rfl

theorem recordFileName_ne_temporary (key key' : StoreKey) (counter : Nat) :
    recordFileName sha key ≠ temporaryRecordName sha key' counter := by
  intro h
  have htemp := isStoreTempRecordFileName_temporary sha key' counter
  rw [← h, isStoreTempRecordFileName_record] at htemp
  exact absurd htemp (by decide)

/-- Keys whose digests differ have different files. -/
theorem recordFileName_injective {key key' : StoreKey}
    (hdigest : sha.digest (utf8 key.key) = sha.digest (utf8 key'.key) → key.key = key'.key)
    (h : recordFileName sha key = recordFileName sha key') : key = key' := by
  unfold recordFileName at h
  have hstem : recordFileStem sha key = recordFileStem sha key' :=
    List.append_cancel_right (String.ofList_injective h)
  have hsplit := splitOnce_recordFileStem sha key
  rw [hstem, splitOnce_recordFileStem, Option.some.injEq, Prod.mk.injEq] at hsplit
  rcases hsplit with ⟨hruntime, hrest⟩
  have hhex : key'.operation = key.operation ∧
      hexLower (sha.digest (utf8 key'.key)) = hexLower (sha.digest (utf8 key.key)) := by
    cases hoperation : key.operation with
    | createConversation =>
        cases hoperation' : key'.operation with
        | createConversation =>
            rw [hoperation, hoperation'] at hrest
            exact ⟨rfl, List.tail_eq_of_cons_eq (List.append_cancel_left hrest)⟩
        | submitPayload =>
            rw [hoperation, hoperation'] at hrest
            exact absurd (congrArg List.head? hrest) (by
              change some 's' ≠ some 'c'
              decide)
    | submitPayload =>
        cases hoperation' : key'.operation with
        | createConversation =>
            rw [hoperation, hoperation'] at hrest
            exact absurd (congrArg List.head? hrest) (by
              change some 'c' ≠ some 's'
              decide)
        | submitPayload =>
            rw [hoperation, hoperation'] at hrest
            exact ⟨rfl, List.tail_eq_of_cons_eq (List.append_cancel_left hrest)⟩
  have hruntimes : ∀ a b : AgentRuntimeId,
      (runtimeFilePrefix a).toList = (runtimeFilePrefix b).toList → a = b := by
    intro a b
    cases a with
    | codex | openCode | pi =>
        cases b with
        | codex | openCode | pi => decide
  cases key with
  | mk runtimeId operation text =>
      cases key' with
      | mk runtimeId' operation' text' =>
          rw [StoreKey.mk.injEq]
          exact ⟨(hruntimes _ _ hruntime).symm, hhex.1.symm,
            hdigest (hexLower_injective hhex.2).symm⟩

end

/-! ### Errors -/

inductive IdempotencyStoreError where
  | createDirectory (path error : String)
  | readDirectory (path error : String)
  | unexpectedDirectoryEntry (path : String)
  | decodeRecord (path error : String)
  | recordPathMismatch (path expectedPath : String)
  | unsupportedRecordVersion (path : String) (version supportedVersion : UInt8)
  | duplicateRecord (key : StoreKey)
  | missingRecord (key : StoreKey)
  | createTempRecord (path error : String)
  | writeTempRecord (path error : String)
  | syncTempRecord (path error : String)
  | renameTempRecord (tempPath finalPath error : String)
  | deleteRecord (path error : String)
  | syncDirectory (path error : String)
  | record (error : IdempotencyRecordError)
  deriving DecidableEq

instance : ToString IdempotencyStoreError where
  toString
    | .createDirectory path error =>
      s!"failed to create idempotency store directory '{path}': {error}"
    | .readDirectory path error =>
      s!"failed to read idempotency store directory '{path}': {error}"
    | .unexpectedDirectoryEntry path =>
      s!"unexpected idempotency store directory entry '{path}'"
    | .decodeRecord path error => s!"failed to decode idempotency record '{path}': {error}"
    | .recordPathMismatch path expectedPath =>
      s!"idempotency record '{path}' belongs at '{expectedPath}'"
    | .unsupportedRecordVersion path version supportedVersion =>
      s!"unsupported idempotency record version {version} in '{path}' " ++
        s!"(supported version: {supportedVersion})"
    | .duplicateRecord key =>
      s!"duplicate idempotency record for runtime {key.runtimeId.debug}, " ++
        s!"operation {key.operation.debug}, and key '{key.key}'"
    | .missingRecord key =>
      s!"missing idempotency record for runtime {key.runtimeId.debug}, " ++
        s!"operation {key.operation.debug}, and key '{key.key}'"
    | .createTempRecord path error =>
      s!"failed to create temporary idempotency record '{path}': {error}"
    | .writeTempRecord path error =>
      s!"failed to write temporary idempotency record '{path}': {error}"
    | .syncTempRecord path error =>
      s!"failed to sync temporary idempotency record '{path}': {error}"
    | .renameTempRecord tempPath finalPath error =>
      s!"failed to rename temporary idempotency record '{tempPath}' to '{finalPath}': {error}"
    | .deleteRecord path error => s!"failed to delete idempotency record '{path}': {error}"
    | .syncDirectory path error =>
      s!"failed to sync idempotency store directory '{path}': {error}"
    | .record error => toString error

/-! ### Steps on the disk -/

/-- What a directory holds under a name. A file is what `serde_json` makes of its
    bytes: a document, or the error of reading one. -/
inductive DirEntry where
  | file (contents : Except String (Json String))
  | other

/-- The store directory, and the counter of the process that writes into it. -/
structure Disk where
  directory : Std.ExtTreeMap String DirEntry compare
  tempFileCounter : Nat

/-- The steps of a write or a removal that the file system may refuse. -/
inductive FileStep where
  | createDirectory
  | readDirectory
  | createTemp
  | writeTemp
  | syncTemp
  | rename
  | remove
  | syncDirectory
  deriving DecidableEq

/-- A step that fails, with the error of the file system. -/
structure Fault where
  step : FileStep
  error : String
  deriving DecidableEq

/-- The error of a step, if it is the one that fails. -/
def Fault.hits (fault : Option Fault) (step : FileStep) : Option String :=
  match fault with
  | none => none
  | some fault => if fault.step = step then some fault.error else none

section

variable (sha : Sha256) (root : String) (fault : Option Fault)

def recordPath (key : StoreKey) : String := s!"{root}/{recordFileName sha key}"

def prepareStoreDirectory : Except IdempotencyStoreError Unit :=
  match Fault.hits fault .createDirectory with
  | some error => .error (.createDirectory root error)
  | none =>
    match Fault.hits fault .readDirectory with
    | some error => .error (.readDirectory root error)
    | none => .ok ()

def syncDirectory : Except IdempotencyStoreError Unit :=
  match Fault.hits fault .syncDirectory with
  | some error => .error (.syncDirectory root error)
  | none => .ok ()

/-- Create a temporary file, write and sync it. A write that fails leaves a file
    whose contents are cut off. -/
def writeTempRecord (name : String) (contents : Json String) (disk : Disk) :
    Except IdempotencyStoreError Unit × Disk :=
  match Fault.hits fault .createTemp with
  | some error => (.error (.createTempRecord s!"{root}/{name}" error), disk)
  | none =>
    if disk.directory.contains name then
      (.error (.createTempRecord s!"{root}/{name}" "File exists (os error 17)"), disk)
    else
      match Fault.hits fault .writeTemp with
      | some error =>
        (.error (.writeTempRecord s!"{root}/{name}" error),
          { disk with
            directory := disk.directory.insert name (.file (.error "EOF while parsing a value")) })
      | none =>
        let disk := { disk with directory := disk.directory.insert name (.file (.ok contents)) }
        match Fault.hits fault .syncTemp with
        | some error => (.error (.syncTempRecord s!"{root}/{name}" error), disk)
        | none => (.ok (), disk)

def renameTempRecord (tempName finalName : String) (disk : Disk) :
    Except IdempotencyStoreError Unit × Disk :=
  let failed := IdempotencyStoreError.renameTempRecord s!"{root}/{tempName}" s!"{root}/{finalName}"
  match Fault.hits fault .rename with
  | some error => (.error (failed error), disk)
  | none =>
    match disk.directory[tempName]? with
    | none => (.error (failed "No such file or directory (os error 2)"), disk)
    | some entry =>
      (.ok (), { disk with directory := (disk.directory.erase tempName).insert finalName entry })

/-- Replace the file of a record. The new contents are in place before the
    directory is synced, whether or not that succeeds. -/
def writeRecordAtomically (record : IdempotencyRecord) (disk : Disk) :
    Except IdempotencyStoreError Unit × Disk :=
  match prepareStoreDirectory root fault with
  | .error error => (.error error, disk)
  | .ok () =>
    let contents := record.toJson
    let tempName := temporaryRecordName sha (.ofRecord record) disk.tempFileCounter
    let disk := { disk with tempFileCounter := disk.tempFileCounter + 1 }
    match writeTempRecord root fault tempName contents disk with
    | (.error error, disk) => (.error error, disk)
    | (.ok (), disk) =>
      match renameTempRecord root fault tempName (recordFileName sha (.ofRecord record))
          disk with
      | (.error error, disk) => (.error error, disk)
      | (.ok (), disk) => (syncDirectory root fault, disk)

/-- Remove a file. It is gone before the directory is synced, whether or not that
    succeeds. -/
def deleteRecord (name : String) (disk : Disk) : Except IdempotencyStoreError Unit × Disk :=
  match Fault.hits fault .remove with
  | some error => (.error (.deleteRecord s!"{root}/{name}" error), disk)
  | none =>
    if disk.directory.contains name then
      (syncDirectory root fault, { disk with directory := disk.directory.erase name })
    else
      (.error (.deleteRecord s!"{root}/{name}" "No such file or directory (os error 2)"), disk)

/-! ### What a step leaves behind -/

/-- Two directories with the same records, whose leftovers are files. -/
structure SameRecords (a b : Disk) : Prop where
  records : ∀ name, isStoreTempRecordFileName name = false → b.directory[name]? = a.directory[name]?
  leftovers : ∀ name entry, isStoreTempRecordFileName name = true →
    b.directory[name]? = some entry → a.directory[name]? = some entry ∨ ∃ c, entry = .file c

theorem SameRecords.refl (disk : Disk) : SameRecords disk disk :=
  ⟨fun _ _ => rfl, fun _ _ _ h => .inl h⟩

theorem SameRecords.trans {a b c : Disk} (hab : SameRecords a b) (hbc : SameRecords b c) :
    SameRecords a c := by
  refine ⟨fun name h => (hbc.records name h).trans (hab.records name h), ?_⟩
  intro name entry htemp h
  rcases hbc.leftovers name entry htemp h with hb | hfile
  · exact hab.leftovers name entry htemp hb
  · exact .inr hfile

/-- A leftover comes and goes without a record noticing. -/
theorem SameRecords.insert {disk : Disk} {name : String} {counter : Nat}
    (htemp : isStoreTempRecordFileName name = true) (contents : Except String (Json String)) :
    SameRecords disk { disk with
      directory := disk.directory.insert name (.file contents), tempFileCounter := counter } := by
  constructor
  · intro other hother
    have hne : name ≠ other := fun h => by rw [h, hother] at htemp; exact absurd htemp (by decide)
    rw [Std.ExtTreeMap.getElem?_insert, if_neg (fun h => hne (Std.LawfulEqCmp.eq_of_compare h))]
  · intro other entry _ h
    rw [Std.ExtTreeMap.getElem?_insert] at h
    by_cases hname : compare name other = .eq
    · rw [if_pos hname, Option.some.injEq] at h
      exact .inr ⟨contents, h.symm⟩
    · rw [if_neg hname] at h
      exact .inl h

theorem SameRecords.erase {disk : Disk} {name : String}
    (htemp : isStoreTempRecordFileName name = true) :
    SameRecords disk { disk with directory := disk.directory.erase name } := by
  constructor
  · intro other hother
    have hne : name ≠ other := fun h => by rw [h, hother] at htemp; exact absurd htemp (by decide)
    rw [Std.ExtTreeMap.getElem?_erase, if_neg (fun h => hne (Std.LawfulEqCmp.eq_of_compare h))]
  · intro other entry _ h
    rw [Std.ExtTreeMap.getElem?_erase] at h
    by_cases hname : compare name other = .eq
    · rw [if_pos hname] at h
      exact absurd h (by simp only [reduceCtorEq, not_false_eq_true])
    · rw [if_neg hname] at h
      exact .inl h

/-- The steps of a write before its file is in place. -/
def stepsBeforeRename : List FileStep :=
  [.createDirectory, .readDirectory, .createTemp, .writeTemp, .syncTemp, .rename]

/-- No step fails before the record is in place, and its temporary name is free. -/
def WriteLands (key : StoreKey) (disk : Disk) : Prop :=
  (∀ step ∈ stepsBeforeRename, Fault.hits fault step = none) ∧
    disk.directory.contains (temporaryRecordName sha key disk.tempFileCounter) = false

/-- No step fails before the file is gone. -/
def RemovalLands : Prop := Fault.hits fault .remove = none

instance (key : StoreKey) (disk : Disk) : Decidable (WriteLands sha fault key disk) :=
  inferInstanceAs (Decidable (_ ∧ _))

instance : Decidable (RemovalLands fault) := inferInstanceAs (Decidable (_ = _))

theorem writeTempRecord_spec {name : String} (htemp : isStoreTempRecordFileName name = true)
    (contents : Json String) (disk : Disk) :
    (((∃ step ∈ stepsBeforeRename, Fault.hits fault step ≠ none) ∨
        disk.directory.contains name = true) ∧
      ∃ error disk', writeTempRecord root fault name contents disk = (.error error, disk') ∧
        SameRecords disk disk') ∨
    (disk.directory.contains name = false ∧ Fault.hits fault .createTemp = none ∧
      Fault.hits fault .writeTemp = none ∧ Fault.hits fault .syncTemp = none ∧
      writeTempRecord root fault name contents disk
        = (.ok (), { disk with directory := disk.directory.insert name (.file (.ok contents)) })) := by
  have hfails : ∀ step error, Fault.hits fault step = some error → step ∈ stepsBeforeRename →
      ∃ step ∈ stepsBeforeRename, Fault.hits fault step ≠ none := by
    intro step error h hstep
    exact ⟨step, hstep, by rw [h]; simp only [ne_eq, reduceCtorEq, not_false_eq_true]⟩
  unfold writeTempRecord
  cases hcreate : Fault.hits fault .createTemp with
  | some error => exact .inl ⟨.inl (hfails _ _ hcreate (by decide)), _, disk, rfl, .refl disk⟩
  | none =>
      cases hexists : disk.directory.contains name with
      | true => exact .inl ⟨.inr rfl, _, disk, rfl, .refl disk⟩
      | false =>
          simp only [Bool.false_eq_true, if_false]
          cases hwrite : Fault.hits fault .writeTemp with
          | some error =>
              exact .inl ⟨.inl (hfails _ _ hwrite (by decide)), _, _, rfl, .insert htemp _⟩
          | none =>
              cases hsync : Fault.hits fault .syncTemp with
              | some error =>
                  exact .inl ⟨.inl (hfails _ _ hsync (by decide)), _, _, rfl, .insert htemp _⟩
              | none => exact .inr ⟨trivial, trivial, rfl, rfl, rfl⟩

/-- A write leaves the records as they were, or it has put the record in place and
    its result is that of syncing the directory. -/
theorem writeRecordAtomically_spec (record : IdempotencyRecord) (disk : Disk) :
    (¬ WriteLands sha fault (.ofRecord record) disk ∧
      ∃ error disk', writeRecordAtomically sha root fault record disk = (.error error, disk') ∧
        SameRecords disk disk') ∨
    (WriteLands sha fault (.ofRecord record) disk ∧
      ∃ disk', SameRecords disk disk' ∧ writeRecordAtomically sha root fault record disk
        = (syncDirectory root fault, { disk' with
          directory := disk'.directory.insert (recordFileName sha (.ofRecord record))
            (.file (.ok record.toJson)) })) := by
  have hstops : ∀ step error, Fault.hits fault step = some error → step ∈ stepsBeforeRename →
      ¬ WriteLands sha fault (.ofRecord record) disk := by
    intro step error h hstep hlands
    rw [hlands.1 step hstep] at h
    exact absurd h (by simp only [reduceCtorEq, not_false_eq_true])
  unfold writeRecordAtomically prepareStoreDirectory
  cases hdirectory : Fault.hits fault .createDirectory with
  | some error => exact .inl ⟨hstops _ _ hdirectory (by decide), _, disk, rfl, .refl disk⟩
  | none =>
  cases hread : Fault.hits fault .readDirectory with
  | some error => exact .inl ⟨hstops _ _ hread (by decide), _, disk, rfl, .refl disk⟩
  | none =>
      simp only
      have htemp := isStoreTempRecordFileName_temporary sha (.ofRecord record) disk.tempFileCounter
      rcases writeTempRecord_spec root fault htemp record.toJson
        { disk with tempFileCounter := disk.tempFileCounter + 1 } with hrefused | hwritten
      · rcases hrefused with ⟨hcause, error, disk', hrefused, hsame⟩
        rw [hrefused]
        refine .inl ⟨?_, error, disk', rfl, hsame.records, hsame.leftovers⟩
        rintro ⟨hsteps, hfree⟩
        rcases hcause with ⟨step, hstep, hhit⟩ | hexists
        · exact hhit (hsteps step hstep)
        · exact absurd (hexists.symm.trans hfree) (by decide)
      · rcases hwritten with ⟨hfree, hcreate, hwrite, hsync, hwritten⟩
        rw [hwritten]
        unfold renameTempRecord
        cases hrename : Fault.hits fault .rename with
        | some error =>
            exact .inl ⟨hstops _ _ hrename (by decide), _, _, rfl, .insert htemp _⟩
        | none =>
            simp only [Std.ExtTreeMap.getElem?_insert_self]
            refine .inr ⟨⟨?_, hfree⟩, _, (SameRecords.insert htemp _).trans (.erase htemp), rfl⟩
            simp only [stepsBeforeRename, List.forall_mem_cons, List.not_mem_nil,
              IsEmpty.forall_iff, implies_true, and_true]
            exact ⟨hdirectory, hread, hcreate, hwrite, hsync, hrename⟩

/-- A removal leaves the directory as it was, or the file is gone and its result is
    that of syncing the directory. -/
theorem deleteRecord_spec {name : String} {disk : Disk}
    (hexists : disk.directory.contains name = true) :
    (¬ RemovalLands fault ∧ ∃ error, deleteRecord root fault name disk = (.error error, disk)) ∨
    (RemovalLands fault ∧ deleteRecord root fault name disk
      = (syncDirectory root fault, { disk with directory := disk.directory.erase name })) := by
  unfold deleteRecord RemovalLands
  cases Fault.hits fault .remove with
  | some error => exact .inl ⟨by simp only [reduceCtorEq, not_false_eq_true], _, rfl⟩
  | none =>
      simp only [hexists, if_true]
      exact .inr ⟨trivial, trivial⟩

end

end Mistle
