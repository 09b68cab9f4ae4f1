import Mathlib.Data.List.Sort
import Mistle.Integrations.RuntimeClient

/-!
# The Clients of a Plan

The clients of all parts of a plan are merged: what several parts say of one client is put
together, and a plan whose parts contradict each other is refused. A file is known by its path
and by its id, so two files of a client that share either one have to be the same file.

No file is lost by merging, since what would take its place is refused.

## Main definitions

* `mergeRuntimeClient`, `mergeRuntimeClients`: One more client, and all of them.
* `resolveRuntimeClients`: The clients as they are merged.

## Theorems

* `mergeRuntimeClients_files`, `hasFile_iff`: Every file of a client is in the plan, alone at its
  path.
-/

namespace Mistle

open Fallible

/-- What is known of one client. Files are kept whole, with what they are found by as the key. -/
structure MergedRuntimeClient where
  env : InsertionMap String String
  filesByPath : InsertionMap String RuntimeClientSetupFile
  filesById : InsertionMap String RuntimeClientSetupFile
  launchArgs : List String
  processesByKey : InsertionMap String RuntimeClientProcessSpec
  endpointsByKey : InsertionMap String RuntimeClientEndpointSpec

def MergedRuntimeClient.empty : MergedRuntimeClient :=
  ⟨.empty, .empty, .empty, [], .empty, .empty⟩

def setupConflict {α : Type} (message : String) : Compiler α :=
  compilerError .runtimeClientSetupConflict message

/-! ### Merging -/

section

variable (clientId : String)

def mergeEnv (mergedClient : MergedRuntimeClient) (entry : String × String) :
    Compiler MergedRuntimeClient :=
  let (envKey, envValue) := entry
  if (mergedClient.env.get? envKey).any fun existingValue => existingValue ≠ envValue then
    setupConflict s!"Runtime client env conflict for client '{clientId}' and key '{envKey}'."
  else return { mergedClient with env := mergedClient.env.set envKey envValue }

def mergeFile (mergedClient : MergedRuntimeClient) (file : RuntimeClientSetupFile) :
    Compiler MergedRuntimeClient :=
  if (mergedClient.filesByPath.get? file.path).any fun existingFile => existingFile ≠ file then
    setupConflict s!"Runtime client file conflict for client '{clientId}' and path '{file.path}'."
  else if (mergedClient.filesById.get? file.fileId).any fun existingFile => existingFile ≠ file then
    setupConflict
      s!"Runtime client file conflict for client '{clientId}' and fileId '{file.fileId}'."
  else return { mergedClient with
    filesByPath := mergedClient.filesByPath.set file.path file
    filesById := mergedClient.filesById.set file.fileId file }

def mergeProcess (mergedClient : MergedRuntimeClient) (process : RuntimeClientProcessSpec) :
    Compiler MergedRuntimeClient :=
  match mergedClient.processesByKey.get? process.processKey with
  | none => return { mergedClient with
      processesByKey := mergedClient.processesByKey.set process.processKey process }
  | some existingProcess =>
    if runtimeClientProcessSpecEquals existingProcess process then return mergedClient
    else setupConflict (s!"Runtime client process conflict for client '{clientId}' and " ++
      s!"processKey '{process.processKey}'.")

def mergeEndpoint (mergedClient : MergedRuntimeClient) (endpoint : RuntimeClientEndpointSpec) :
    Compiler MergedRuntimeClient :=
  match mergedClient.endpointsByKey.get? endpoint.endpointKey with
  | none => return { mergedClient with
      endpointsByKey := mergedClient.endpointsByKey.set endpoint.endpointKey endpoint }
  | some existingEndpoint =>
    if runtimeClientEndpointSpecEquals existingEndpoint endpoint then return mergedClient
    else setupConflict (s!"Runtime client endpoint conflict for client '{clientId}' and " ++
      s!"endpointKey '{endpoint.endpointKey}'.")

end

/-- One more client is put together with what is known of it. -/
def mergeRuntimeClient (mergedByClientId : InsertionMap String MergedRuntimeClient)
    (runtimeClient : RuntimeClient) : Compiler (InsertionMap String MergedRuntimeClient) := do
  let clientId := runtimeClient.clientId
  let mergedClient := (mergedByClientId.get? clientId).getD .empty
  let mergedClient ← runtimeClient.setup.env.entries.foldlM (mergeEnv clientId) mergedClient
  let mergedClient ← runtimeClient.setup.files.foldlM (mergeFile clientId) mergedClient
  let mergedClient := { mergedClient with
    launchArgs := mergedClient.launchArgs ++ runtimeClient.setup.launchArgs.getD [] }
  let mergedClient ← runtimeClient.processes.foldlM (mergeProcess clientId) mergedClient
  let mergedClient ← runtimeClient.endpoints.foldlM (mergeEndpoint clientId) mergedClient
  return mergedByClientId.set clientId mergedClient

section

variable (localeCompare : String → String → Int)

/-- Entries in the order of their keys. -/
def sortByKey {α : Type} (key : α → String) (entries : List α) : List α :=
  entries.insertionSort fun left right => localeCompare (key left) (key right) ≤ 0

def sortRecord (record : InsertionMap String String) : InsertionMap String String where
  entries := sortByKey localeCompare Prod.fst record.entries
  nodup := ((List.perm_insertionSort _ _).map Prod.fst).nodup_iff.mpr record.nodup

/-- The client that the plan has. -/
def mergedRuntimeClient (entry : String × MergedRuntimeClient) : Compiler RuntimeClient :=
  let (clientId, mergedClient) := entry
  let endpoints := sortByKey localeCompare RuntimeClientEndpointSpec.endpointKey
    mergedClient.endpointsByKey.values
  match endpoints.findSome? fun endpoint =>
      endpoint.processKey.bind fun processKey =>
        if mergedClient.processesByKey.has processKey then none
        else some (endpoint.endpointKey, processKey) with
  | some (endpointKey, processKey) => setupConflict
      (s!"Runtime client endpoint '{endpointKey}' references missing process '{processKey}' " ++
        s!"for client '{clientId}'.")
  | none => return {
      clientId
      setup := {
        env := sortRecord localeCompare mergedClient.env
        files := (sortByKey localeCompare Prod.fst mergedClient.filesByPath.entries).map
          fun (path, file) => { file with path }
        launchArgs :=
          if mergedClient.launchArgs = [] then none else some mergedClient.launchArgs }
      processes := sortByKey localeCompare RuntimeClientProcessSpec.processKey
        mergedClient.processesByKey.values
      endpoints }

def mergeRuntimeClients (input : List RuntimeClient) : Compiler (List RuntimeClient) := do
  let mergedByClientId ← input.foldlM mergeRuntimeClient .empty
  (sortByKey localeCompare Prod.fst mergedByClientId.entries).mapM
    (mergedRuntimeClient localeCompare)

end

/-- A client as it is merged: its environment is copied. -/
def resolveRuntimeClient (runtimeClient : RuntimeClient) : RuntimeClient :=
  { runtimeClient with
    setup := { runtimeClient.setup with
      env := runtimeClient.setup.env.entries.foldl (fun env entry =>
        setProperty env entry.1 entry.2) .empty } }

def resolveRuntimeClients (runtimeClients : List RuntimeClient) : List RuntimeClient :=
  runtimeClients.map resolveRuntimeClient

/-! ### No file is lost -/

/-- A client has a file at the path of the file. -/
def MergedRuntimeClient.Has (mergedClient : MergedRuntimeClient) (file : RuntimeClientSetupFile) :
    Prop :=
  mergedClient.filesByPath.get? file.path = some file

theorem mergeFile_has {clientId : String} {mergedClient after : MergedRuntimeClient}
    {file : RuntimeClientSetupFile} (h : mergeFile clientId mergedClient file = .ok after) :
    after.Has file ∧ ∀ other, mergedClient.Has other → after.Has other := by
  unfold mergeFile at h
  rcases ite_ok_iff.mp h with ⟨hsame, h⟩
  rcases ite_ok_iff.mp h with ⟨_, h⟩
  rw [← Except.ok.inj h]
  refine ⟨?_, fun other hother => ?_⟩
  · rw [MergedRuntimeClient.Has, InsertionMap.get?_set, if_pos rfl]
  · rw [MergedRuntimeClient.Has, InsertionMap.get?_set]
    by_cases hpath : other.path = file.path
    · have hexisting : mergedClient.filesByPath.get? file.path = some other := hpath ▸ hother
      rw [hexisting] at hsame
      have heq : other = file := by simpa using hsame
      rw [if_pos hpath, heq]
    · rw [if_neg hpath]
      exact hother

theorem mergeEnv_files {clientId : String} {mergedClient after : MergedRuntimeClient}
    {entry : String × String} (h : mergeEnv clientId mergedClient entry = .ok after) :
    after.filesByPath = mergedClient.filesByPath := by
  unfold mergeEnv at h
  rcases ite_ok_iff.mp h with ⟨_, h⟩
  rw [← Except.ok.inj h]

theorem mergeProcess_files {clientId : String} {mergedClient after : MergedRuntimeClient}
    {process : RuntimeClientProcessSpec}
    (h : mergeProcess clientId mergedClient process = .ok after) :
    after.filesByPath = mergedClient.filesByPath := by
  unfold mergeProcess at h
  cases hexisting : mergedClient.processesByKey.get? process.processKey with
  | none =>
      rw [hexisting] at h
      rw [← Except.ok.inj h]
  | some existingProcess =>
      rw [hexisting] at h
      dsimp only at h
      by_cases hsame : runtimeClientProcessSpecEquals existingProcess process = true
      · rw [if_pos hsame] at h
        rw [← Except.ok.inj h]
      · rw [if_neg hsame] at h
        exact nomatch h

theorem mergeEndpoint_files {clientId : String} {mergedClient after : MergedRuntimeClient}
    {endpoint : RuntimeClientEndpointSpec}
    (h : mergeEndpoint clientId mergedClient endpoint = .ok after) :
    after.filesByPath = mergedClient.filesByPath := by
  unfold mergeEndpoint at h
  cases hexisting : mergedClient.endpointsByKey.get? endpoint.endpointKey with
  | none =>
      rw [hexisting] at h
      rw [← Except.ok.inj h]
  | some existingEndpoint =>
      rw [hexisting] at h
      dsimp only at h
      by_cases hsame : runtimeClientEndpointSpecEquals existingEndpoint endpoint = true
      · rw [if_pos hsame] at h
        rw [← Except.ok.inj h]
      · rw [if_neg hsame] at h
        exact nomatch h

/-- The files of a client are known of it after it was merged, and so are those that were. -/
theorem mergeRuntimeClient_ok {mergedByClientId after : InsertionMap String MergedRuntimeClient}
    {runtimeClient : RuntimeClient}
    (h : mergeRuntimeClient mergedByClientId runtimeClient = .ok after) :
    ∃ mergedClient, after = mergedByClientId.set runtimeClient.clientId mergedClient ∧
      (∀ file ∈ runtimeClient.setup.files, mergedClient.Has file) ∧
      ∀ before, mergedByClientId.get? runtimeClient.clientId = some before →
        ∀ file, before.Has file → mergedClient.Has file := by
  unfold mergeRuntimeClient at h
  dsimp only at h
  rcases bind_ok_iff.mp h with ⟨m₁, henv, h⟩
  rcases bind_ok_iff.mp h with ⟨m₂, hfiles, h⟩
  rcases bind_ok_iff.mp h with ⟨m₃, hprocesses, h⟩
  rcases bind_ok_iff.mp h with ⟨m₄, hendpoints, h⟩
  have hstart := foldlM_eq (g := MergedRuntimeClient.filesByPath) (fun _ _ _ => mergeEnv_files) henv
  have hafterProcesses := foldlM_eq (g := MergedRuntimeClient.filesByPath)
    (fun _ _ _ => mergeProcess_files) hprocesses
  have hafterEndpoints := foldlM_eq (g := MergedRuntimeClient.filesByPath)
    (fun _ _ _ => mergeEndpoint_files) hendpoints
  have hend : m₄.filesByPath = m₂.filesByPath := hafterEndpoints.trans hafterProcesses
  have hkeeps := foldlM_keeps (P := fun file mergedClient => mergedClient.Has file)
    (fun _ _ _ hfile => (mergeFile_has hfile).1)
    (fun _ _ _ other hfile hother => (mergeFile_has hfile).2 other hother) hfiles
  refine ⟨m₄, (Except.ok.inj h).symm, fun file hfile => ?_, fun before hbefore file hfile => ?_⟩
  · rw [MergedRuntimeClient.Has, hend]
    exact hkeeps.1 file hfile
  · rw [hbefore, Option.getD_some] at hstart
    rw [MergedRuntimeClient.Has, hend]
    refine hkeeps.2 file ?_
    rw [MergedRuntimeClient.Has, hstart]
    exact hfile

/-- The files of a client are known under its id. -/
def Knows (mergedByClientId : InsertionMap String MergedRuntimeClient)
    (runtimeClient : RuntimeClient) : Prop :=
  ∃ mergedClient, mergedByClientId.get? runtimeClient.clientId = some mergedClient ∧
    ∀ file ∈ runtimeClient.setup.files, mergedClient.Has file

theorem mergeRuntimeClient_knows {mergedByClientId after : InsertionMap String MergedRuntimeClient}
    {runtimeClient : RuntimeClient}
    (h : mergeRuntimeClient mergedByClientId runtimeClient = .ok after) :
    Knows after runtimeClient ∧ ∀ other, Knows mergedByClientId other → Knows after other := by
  rcases mergeRuntimeClient_ok h with ⟨mergedClient, hafter, hfiles, hkept⟩
  rw [hafter]
  constructor
  · exact ⟨mergedClient, by rw [InsertionMap.get?_set, if_pos rfl], hfiles⟩
  · rintro other ⟨before, hbefore, hother⟩
    by_cases hid : other.clientId = runtimeClient.clientId
    · refine ⟨mergedClient, by rw [InsertionMap.get?_set, if_pos hid], fun file hfile => ?_⟩
      exact hkept before (hid ▸ hbefore) file (hother file hfile)
    · exact ⟨before, by rw [InsertionMap.get?_set, if_neg hid]; exact hbefore, hother⟩

/-- The plan has the files that are known of a client, each at its path. -/
theorem mergedRuntimeClient_ok {localeCompare : String → String → Int} {clientId : String}
    {mergedClient : MergedRuntimeClient} {runtimeClient : RuntimeClient}
    (h : mergedRuntimeClient localeCompare (clientId, mergedClient) = .ok runtimeClient) :
    runtimeClient.clientId = clientId ∧ ∀ file,
      file ∈ runtimeClient.setup.files ↔
        ∃ known, mergedClient.filesByPath.get? file.path = some known ∧
          file = { known with path := file.path } := by
  unfold mergedRuntimeClient at h
  dsimp only at h
  revert h
  generalize List.findSome? _ _ = missing
  cases missing with
  | some reference =>
      intro h
      cases h
  | none =>
      intro h
      rw [← Except.ok.inj h]
      refine ⟨rfl, fun file => ?_⟩
      simp only [sortByKey, List.mem_map, List.mem_insertionSort, Prod.exists,
        InsertionMap.get?_eq_some_iff]
      constructor
      · rintro ⟨path, known, hmem, rfl⟩
        exact ⟨known, hmem, rfl⟩
      · rintro ⟨known, hmem, hfile⟩
        exact ⟨file.path, known, hmem, hfile.symm⟩

/-- Every file of a client is in the plan, alone at its path. -/
theorem mergeRuntimeClients_files {localeCompare : String → String → Int}
    {input merged : List RuntimeClient} (h : mergeRuntimeClients localeCompare input = .ok merged)
    {runtimeClient : RuntimeClient} (hclient : runtimeClient ∈ input)
    {file : RuntimeClientSetupFile} (hfile : file ∈ runtimeClient.setup.files) :
    (∃ client ∈ merged, client.clientId = runtimeClient.clientId ∧ file ∈ client.setup.files) ∧
      ∀ client ∈ merged, client.clientId = runtimeClient.clientId →
        ∀ other ∈ client.setup.files, other.path = file.path → other = file := by
  rcases bind_ok_iff.mp h with ⟨mergedByClientId, hmerge, h⟩
  have hclients := mapM_ok_iff.mp h
  have hknows := foldlM_keeps (P := fun client m => Knows m client)
    (fun _ _ _ hstep => (mergeRuntimeClient_knows hstep).1)
    (fun _ _ _ other hstep hother => (mergeRuntimeClient_knows hstep).2 other hother) hmerge
  rcases hknows.1 runtimeClient hclient with ⟨mergedClient, hget, hfiles⟩
  have hhas : mergedClient.filesByPath.get? file.path = some file := hfiles file hfile
  constructor
  · have hentry : (runtimeClient.clientId, mergedClient) ∈
        sortByKey localeCompare Prod.fst mergedByClientId.entries :=
      (List.mem_insertionSort _).mpr (InsertionMap.get?_eq_some_iff.mp hget)
    rcases exists_of_forall₂ hclients hentry with ⟨client, hmem, hok⟩
    rcases mergedRuntimeClient_ok hok with ⟨hid, hfilesIff⟩
    exact ⟨client, hmem, hid, (hfilesIff file).mpr ⟨file, hhas, rfl⟩⟩
  · intro client hmem hid other hother hpath
    rcases exists_of_forall₂ hclients.flip hmem with ⟨⟨id, known⟩, hentry, hok⟩
    rcases mergedRuntimeClient_ok hok with ⟨hid', hfilesIff⟩
    have hknown : mergedByClientId.get? runtimeClient.clientId = some known := by
      rw [← hid, hid', InsertionMap.get?_eq_some_iff]
      exact (List.mem_insertionSort _).mp hentry
    rw [hget, Option.some.injEq] at hknown
    rcases (hfilesIff other).mp hother with ⟨same, hsame, heq⟩
    rw [← hknown, hpath, hhas, Option.some.injEq] at hsame
    rw [heq, ← hsame, hpath]

/-- A client has a file at a path. -/
def HasFile (runtimeClients : List RuntimeClient) (clientId path : String)
    (file : RuntimeClientSetupFile) : Prop :=
  ∃ client ∈ runtimeClients, client.clientId = clientId ∧ file ∈ client.setup.files ∧
    file.path = path

/-- A file of a client is the one that the plan has at its path. -/
theorem hasFile_iff {localeCompare : String → String → Int} {input merged : List RuntimeClient}
    (h : mergeRuntimeClients localeCompare (resolveRuntimeClients input) = .ok merged)
    {runtimeClient : RuntimeClient} (hclient : runtimeClient ∈ input)
    {file : RuntimeClientSetupFile} (hfile : file ∈ runtimeClient.setup.files)
    (other : RuntimeClientSetupFile) :
    HasFile merged runtimeClient.clientId file.path other ↔ other = file := by
  have hresolved := List.mem_map_of_mem (f := resolveRuntimeClient) hclient
  rcases mergeRuntimeClients_files h hresolved hfile with
    ⟨⟨client, hmem, hid, hthere⟩, halone⟩
  constructor
  · rintro ⟨client', hmem', hid', hother, hpath⟩
    exact halone client' hmem' hid' other hother hpath
  · intro heq
    rw [heq]
    exact ⟨client, hmem, hid, hthere, rfl⟩

end Mistle
