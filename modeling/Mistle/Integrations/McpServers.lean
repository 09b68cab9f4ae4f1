import Mistle.Integrations.Compiler

/-!
# No Server is Lost

The servers of the bindings are checked against each other, so their names are distinct. The
servers of the profile are put behind them with no check, and a table is keyed by name, so a
plan keeps all servers exactly where the profile brings no name twice and none that a binding
has, and where the files are such that the table stays in them.

## Main definitions

* `SameSettings`: A server that was resolved with its own settings.
* `KeepsMcpServers`: No server is lost in a plan, and nothing else of a file changes.
* `SuitsMcpServers`: What the bindings, the profile and the files have to be like.

## Theorems

* `collectResolvedMcpServers_ok`: The servers of the bindings, with distinct names.
* `compileRuntimePlan_ok`: What a compiled plan is made of.
* `keepsMcpServers_iff`: A plan keeps all servers exactly where it was compiled from what suits.
-/

namespace Mistle

open Fallible

variable {κ ρ : Type}

/-! ### Settings -/

/-- A server with the settings of another. Records are compared by what is read of them. -/
structure SameSettings (server resolved : IntegrationMcpServer) : Prop where
  serverId : resolved.serverId = server.serverId
  serverName : resolved.serverName = server.serverName
  transport : resolved.transport = server.transport
  description : resolved.description = server.description
  url : resolved.url = server.url
  command : resolved.command = server.command
  args : resolved.args = server.args
  env : resolved.env.map InsertionMap.get? = server.env.map InsertionMap.get?
  httpHeaders : resolved.httpHeaders.map InsertionMap.get?
    = server.httpHeaders.map InsertionMap.get?

/-- The keys of the records of a server are all kept when the records are copied key by key. -/
def KeysKept (server : IntegrationMcpServer) : Prop :=
  ∀ record, server.env = some record ∨ server.httpHeaders = some record →
    "__proto__" ∉ record.keys

/-- Copying a record key by key loses the key `__proto__`. -/
theorem entries_foldl_setProperty {α : Type} {entries : List (String × α)}
    (hnodup : (entries.map Prod.fst).Nodup) :
    (entries.foldl (fun copy entry => setProperty copy entry.1 entry.2) .empty).entries
      = entries.filter fun entry => entry.1 ≠ "__proto__" := by
  induction entries using List.reverseRecOn with
  | nil => rfl
  | append_singleton entries entry ih =>
      rw [List.map_append, List.nodup_append] at hnodup
      have hcopy := ih hnodup.1
      rw [List.foldl_append, List.foldl_cons, List.foldl_nil, List.filter_append, setProperty]
      by_cases hproto : entry.1 = "__proto__"
      · rw [if_pos hproto, hcopy, List.filter_cons_of_neg (by simpa using hproto), List.filter_nil,
          List.append_nil]
      · rw [if_neg hproto, InsertionMap.entries_set_of_new, hcopy,
          List.filter_cons_of_pos (by simpa using hproto), List.filter_nil]
        rw [InsertionMap.keys, hcopy]
        intro hmem
        rcases List.mem_map.mp hmem with ⟨other, hother, hkey⟩
        refine hnodup.2.2 entry.1 ?_ entry.1 List.mem_cons_self rfl
        rw [← hkey]
        exact List.mem_map_of_mem (f := Prod.fst) (List.mem_filter.mp hother).1

/-- What is read of a copied record is what is read of it exactly where no key was lost. -/
theorem resolveMcpRecord_iff (record : Option (InsertionMap String String)) :
    (resolveMcpRecord record).map InsertionMap.get? = record.map InsertionMap.get? ↔
      ∀ r, record = some r → "__proto__" ∉ r.keys := by
  cases record with
  | none =>
      constructor
      · intro _ r hr
        exact nomatch hr
      · intro _
        rfl
  | some r =>
      have hentries := entries_foldl_setProperty r.nodup
      unfold resolveMcpRecord
      rw [Option.map_some, Option.map_some, Option.map_some, Option.some.injEq]
      constructor
      · intro hsame r' hr'
        rw [← Option.some.inj hr', ← InsertionMap.get?_eq_none_iff, ← hsame,
          InsertionMap.get?_eq_none_iff, InsertionMap.keys, hentries]
        intro hmem
        rcases List.mem_map.mp hmem with ⟨entry, hentry, hkey⟩
        exact absurd hkey (by simpa using (List.mem_filter.mp hentry).2)
      · intro hkeys
        have hproto := hkeys r rfl
        funext key
        refine InsertionMap.get?_eq_of_mem_iff fun value => ?_
        rw [hentries, List.mem_filter]
        refine and_iff_left_of_imp fun hmem => ?_
        have hne : key ≠ "__proto__" := fun heq =>
          hproto (heq ▸ InsertionMap.mem_keys_of_mem hmem)
        simpa using hne

theorem sameSettings_resolveMcpServer_iff (server : IntegrationMcpServer) :
    SameSettings server (resolveMcpServer server) ↔ KeysKept server := by
  constructor
  · intro hsame record hrecord
    rcases hrecord with henv | hheaders
    · exact (resolveMcpRecord_iff server.env).mp hsame.env record henv
    · exact (resolveMcpRecord_iff server.httpHeaders).mp hsame.httpHeaders record hheaders
  · intro hkeys
    refine ⟨rfl, rfl, rfl, rfl, rfl, rfl, rfl, ?_, ?_⟩
    · exact (resolveMcpRecord_iff server.env).mpr fun record henv => hkeys record (.inl henv)
    · exact (resolveMcpRecord_iff server.httpHeaders).mpr fun record hheaders =>
        hkeys record (.inr hheaders)

/-! ### The servers of the bindings -/

/-- The servers that a binding declares, resolved. -/
def PreparedBindingContext.resolvedServers (preparedBinding : PreparedBindingContext κ ρ) :
    List ResolvedIntegrationMcpServer :=
  preparedBinding.rawServers.map fun server =>
    { source := .integration preparedBinding.source, server := resolveMcpServer server }

/-- The names of a collection are those of its servers, and distinct. -/
structure McpServerCollection.Sound (collection : McpServerCollection) : Prop where
  names : collection.serverNames = Mistle.serverNames collection.resolvedServers
  distinct : collection.serverNames.Nodup

theorem collectMcpServer_ok {source : IntegrationBindingMcpServerSource}
    {collection after : McpServerCollection} {server : IntegrationMcpServer}
    (h : collectMcpServer source collection server = .ok after) :
    after.resolvedServers = collection.resolvedServers ++
        [{ source := .integration source, server := resolveMcpServer server }] ∧
      (collection.Sound → after.Sound) := by
  unfold collectMcpServer at h
  dsimp only at h
  rcases ite_ok_iff.mp h with ⟨_, h⟩
  rcases ite_ok_iff.mp h with ⟨hnew, h⟩
  rcases bind_ok_iff.mp h with ⟨_, _, h⟩
  rw [← Except.ok.inj h]
  refine ⟨rfl, fun hsound => ⟨?_, ?_⟩⟩
  · rw [serverNames, List.map_append, hsound.names]
    rfl
  · refine List.nodup_append.mpr ⟨hsound.distinct, List.nodup_singleton _, ?_⟩
    intro name hname other hother heq
    rw [List.mem_singleton.mp hother] at heq
    exact hnew (List.contains_iff_mem.mpr (heq ▸ hname))

/-- The servers of the bindings are collected, and their names are distinct. -/
theorem collectResolvedMcpServers_ok {localeCompare : String → String → Int}
    {preparedBindings : List (PreparedBindingContext κ ρ)}
    {mcpServers : List ResolvedIntegrationMcpServer}
    (h : collectResolvedMcpServers localeCompare preparedBindings = .ok mcpServers) :
    mcpServers.Perm (preparedBindings.flatMap PreparedBindingContext.resolvedServers) ∧
      (serverNames mcpServers).Nodup := by
  rcases bind_ok_iff.mp h with ⟨collection, hcollect, h⟩
  have hservers : collection.resolvedServers =
      preparedBindings.flatMap PreparedBindingContext.resolvedServers := by
    refine foldlM_appends (fun before preparedBinding after hbinding => ?_) hcollect
    have happends := foldlM_appends (f := collectMcpServer preparedBinding.source)
      (g := McpServerCollection.resolvedServers)
      (fun _ _ _ hserver => (collectMcpServer_ok hserver).1) hbinding
    rw [happends, PreparedBindingContext.resolvedServers, List.map_eq_flatMap]
  have hsound : collection.Sound := by
    refine foldlM_invariant (fun before preparedBinding after hbinding hbefore => ?_)
      ⟨rfl, List.nodup_nil⟩ hcollect
    exact foldlM_invariant (f := collectMcpServer preparedBinding.source)
      (fun _ _ _ hserver => (collectMcpServer_ok hserver).2) hbefore hbinding
  have hperm : mcpServers.Perm collection.resolvedServers := by
    rw [← Except.ok.inj h]
    exact List.perm_insertionSort _ _
  refine ⟨hservers ▸ hperm, ?_⟩
  rw [serverNames, (hperm.map _).nodup_iff]
  have hdistinct := hsound.distinct
  rw [hsound.names] at hdistinct
  exact hdistinct

/-! ### Where servers are written -/

theorem applyAgentRuntimeMcpMappings_ok {library : DocumentLibrary} {runtimeId : String}
    {runtimeClients applied : List RuntimeClient} {mcpConfigs : List IntegrationMcpConfig}
    {mcpServers : List ResolvedIntegrationMcpServer}
    (h : applyAgentRuntimeMcpMappings library runtimeId runtimeClients mcpConfigs mcpServers
      = .ok applied) :
    ClientsPassed library mcpServers mcpConfigs runtimeClients applied := by
  unfold applyAgentRuntimeMcpMappings at h
  unfold ClientsPassed
  by_cases hnone : mcpServers = []
  · rw [if_pos hnone] at h ⊢
    exact (Except.ok.inj h).symm
  · rw [if_neg hnone] at h ⊢
    induction mcpConfigs using List.reverseRecOn generalizing applied with
    | nil =>
        rw [← Except.ok.inj h]
        exact clientsWritten_none runtimeClients
    | append_singleton mcpConfigs mcpConfig ih =>
        rcases foldlM_concat_ok_iff.mp h with ⟨middle, hbefore, hlast⟩
        rcases ite_ok_iff.mp hlast with ⟨_, hlast⟩
        exact clientsWritten_concat (ih hbefore) (applyMcpConfigToRuntimeClients_ok hnone hlast)

/-- The clients of a binding went through the config that is its own. -/
theorem applyMcpMappings_ok {library : DocumentLibrary}
    {preparedBindings : List (PreparedBindingContext κ ρ)}
    {mcpServers : List ResolvedIntegrationMcpServer}
    {fragments : List (CompiledRuntimePlanFragment ρ)}
    (h : applyMcpMappings library preparedBindings mcpServers = .ok fragments)
    {preparedBinding : PreparedBindingContext κ ρ} (hmem : preparedBinding ∈ preparedBindings)
    {mcpConfig : IntegrationMcpConfig}
    (hconfig : preparedBinding.providerOwnedMcpConfig = some mcpConfig) :
    ∃ fragment ∈ fragments, ClientsPassed library mcpServers [mcpConfig]
      preparedBinding.compiledRuntimePlanFragment.runtimeClients fragment.runtimeClients := by
  rcases exists_of_forall₂ (mapM_ok_iff.mp h) hmem with ⟨fragment, hfragment, hok⟩
  dsimp only at hok
  rw [hconfig] at hok
  rcases bind_ok_iff.mp hok with ⟨applied, happlied, hok⟩
  refine ⟨fragment, hfragment, ?_⟩
  rw [← Except.ok.inj hok]
  exact applyMcpConfigToRuntimeClients_passed happlied

/-! ### A plan -/

/-- The servers that the profile brings. -/
def CompileRuntimePlanInput.profileServers (input : CompileRuntimePlanInput κ ρ) :
    List ResolvedIntegrationMcpServer :=
  input.mcpServers.getD []

namespace RuntimePlanCompilation

/-- The names of the servers that the bindings declare. -/
def declaredNames (compilation : RuntimePlanCompilation κ ρ) : List String :=
  compilation.preparedBindings.flatMap fun preparedBinding =>
    preparedBinding.rawServers.map fun server => server.serverName

/-- The configs of the agent runtime. -/
def mcpConfigs (compilation : RuntimePlanCompilation κ ρ) : List IntegrationMcpConfig :=
  compilation.runtimeDefinition.materializeMcpConfig.getD []

/-- The servers of the bindings, resolved. -/
def bindingServers (compilation : RuntimePlanCompilation κ ρ) :
    List ResolvedIntegrationMcpServer :=
  compilation.preparedBindings.flatMap PreparedBindingContext.resolvedServers

theorem serverNames_bindingServers (compilation : RuntimePlanCompilation κ ρ) :
    serverNames compilation.bindingServers = compilation.declaredNames := by
  unfold serverNames bindingServers declaredNames
  rw [List.map_flatMap]
  congr 1
  funext preparedBinding
  rw [PreparedBindingContext.resolvedServers, List.map_map]
  rfl

/-- The clients that configs are for have, in the plan, files that are as they should be. -/
def KeepsFiles (library : DocumentLibrary) (compilation : RuntimePlanCompilation κ ρ)
    (mcpConfigs : List IntegrationMcpConfig) (runtimeClients : List RuntimeClient) : Prop :=
  ∀ client ∈ runtimeClients, ∀ file ∈ client.setup.files,
    let mcpConfigs := configsFor mcpConfigs client.clientId file.fileId
    mcpConfigs ≠ [] →
      ∃ file', HasFile compilation.plan.runtimeClients client.clientId file.path file' ∧
        FileKeeps library compilation.resolvedMcpServers mcpConfigs file.content file'.content

end RuntimePlanCompilation

/-- No server is lost in a plan: the names in the table that the agent runtime got are distinct,
    each server that a binding declares and each of the profile is in it with its own settings,
    and all of them are in every file that a config is for. -/
structure KeepsMcpServers (library : DocumentLibrary) (input : CompileRuntimePlanInput κ ρ)
    (compilation : RuntimePlanCompilation κ ρ) : Prop where
  distinct : (serverNames compilation.resolvedMcpServers).Nodup
  declared : ∀ preparedBinding ∈ compilation.preparedBindings,
    ∀ server ∈ preparedBinding.rawServers, ∃ mcpServer ∈ compilation.resolvedMcpServers,
      mcpServer.source = .integration preparedBinding.source ∧ SameSettings server mcpServer.server
  profile : ∀ mcpServer ∈ input.profileServers, mcpServer ∈ compilation.resolvedMcpServers
  agentFiles :
    compilation.KeepsFiles library compilation.mcpConfigs compilation.renderedRuntimeClients
  bindingFiles : ∀ preparedBinding ∈ compilation.preparedBindings,
    ∀ mcpConfig, preparedBinding.providerOwnedMcpConfig = some mcpConfig →
      compilation.KeepsFiles library [mcpConfig]
        preparedBinding.compiledRuntimePlanFragment.runtimeClients

/-- What the bindings, the profile and the files have to be like. The profile brings no name
    twice and none that a binding has, the records of the bindings lose no key, and the table
    stays in the files of the agent runtime. A file of a binding gets the servers of the bindings
    only, so it has to have those of the profile already, or the profile brings none. -/
structure SuitsMcpServers (library : DocumentLibrary) (input : CompileRuntimePlanInput κ ρ)
    (compilation : RuntimePlanCompilation κ ρ) : Prop where
  profileDistinct : (serverNames input.profileServers).Nodup
  apart : ∀ name ∈ compilation.declaredNames, name ∉ serverNames input.profileServers
  keysKept : ∀ preparedBinding ∈ compilation.preparedBindings,
    ∀ server ∈ preparedBinding.rawServers, KeysKept server
  agentFiles : ∀ client ∈ compilation.renderedRuntimeClients, ∀ file ∈ client.setup.files,
    let mcpConfigs := configsFor compilation.mcpConfigs client.clientId file.fileId
    let names := compilation.declaredNames ++ serverNames input.profileServers
    mcpConfigs ≠ [] → names = [] ∨ FileSuits library names mcpConfigs file.content
  bindingFiles : ∀ preparedBinding ∈ compilation.preparedBindings,
    ∀ mcpConfig, preparedBinding.providerOwnedMcpConfig = some mcpConfig →
      ∀ client ∈ preparedBinding.compiledRuntimePlanFragment.runtimeClients,
        ∀ file ∈ client.setup.files,
          configsFor [mcpConfig] client.clientId file.fileId ≠ [] →
            (compilation.declaredNames = [] ∧
              HoldsServers library mcpConfig input.profileServers file.content) ∨
            (compilation.declaredNames ≠ [] ∧ input.profileServers = [] ∧
              FileSuits library compilation.declaredNames [mcpConfig] file.content)

/-- Clients are in a plan with their files. -/
def InPlan (compilation : RuntimePlanCompilation κ ρ) (runtimeClients : List RuntimeClient) :
    Prop :=
  ∀ client ∈ runtimeClients, ∀ file ∈ client.setup.files, ∀ file',
    HasFile compilation.plan.runtimeClients client.clientId file.path file' ↔ file' = file

/-- What a compiled plan is made of. -/
structure CompiledFrom (library : DocumentLibrary) (input : CompileRuntimePlanInput κ ρ)
    (compilation : RuntimePlanCompilation κ ρ)
    (bindingMcpServers : List ResolvedIntegrationMcpServer) : Prop where
  servers : compilation.resolvedMcpServers.Perm (bindingMcpServers ++ input.profileServers)
  bindings : bindingMcpServers.Perm compilation.bindingServers
  distinct : (serverNames bindingMcpServers).Nodup
  agent : ∃ applied, ClientsPassed library compilation.resolvedMcpServers compilation.mcpConfigs
    compilation.renderedRuntimeClients applied ∧ InPlan compilation applied
  provider : ∀ preparedBinding ∈ compilation.preparedBindings,
    ∀ mcpConfig, preparedBinding.providerOwnedMcpConfig = some mcpConfig →
      ∃ applied, ClientsPassed library bindingMcpServers [mcpConfig]
        preparedBinding.compiledRuntimePlanFragment.runtimeClients applied ∧
          InPlan compilation applied

theorem compileRuntimePlan_ok {library : DocumentLibrary} {localeCompare : String → String → Int}
    {input : CompileRuntimePlanInput κ ρ} {compilation : RuntimePlanCompilation κ ρ}
    (h : compileRuntimePlan library localeCompare input = .ok compilation) :
    ∃ bindingMcpServers, CompiledFrom library input compilation bindingMcpServers := by
  unfold compileRuntimePlan at h
  rcases bind_ok_iff.mp h with ⟨preparedBindings, hprepared, h⟩
  rcases bind_ok_iff.mp h with ⟨bindingMcpServers, hcollect, h⟩
  rcases bind_ok_iff.mp h with ⟨fragments, hfragments, h⟩
  dsimp only at h
  cases hruntime : input.definitions.getRuntime input.agentRuntimeId with
  | none =>
      rw [hruntime] at h
      exact nomatch h
  | some runtimeDefinition =>
      rw [hruntime] at h
      dsimp only at h
      rcases bind_ok_iff.mp h with ⟨rendered, hrendered, h⟩
      rcases bind_ok_iff.mp h with ⟨agentRuntimeClients, hagent, h⟩
      rcases bind_ok_iff.mp h with ⟨runtimeClients, hmerge, h⟩
      rw [← Except.ok.inj h]
      refine ⟨bindingMcpServers, List.perm_insertionSort _ _, ?_, ?_, ?_, ?_⟩
      · exact (collectResolvedMcpServers_ok hcollect).1
      · exact (collectResolvedMcpServers_ok hcollect).2
      · refine ⟨agentRuntimeClients, applyAgentRuntimeMcpMappings_ok hagent, ?_⟩
        intro client hclient file hfile file'
        exact hasFile_iff hmerge (List.mem_append_right _ hclient) hfile file'
      · intro preparedBinding hmem mcpConfig hconfig
        rcases applyMcpMappings_ok hfragments hmem hconfig with ⟨fragment, hfragment, hpassed⟩
        refine ⟨fragment.runtimeClients, hpassed, ?_⟩
        intro client hclient file hfile file'
        refine hasFile_iff hmerge (List.mem_append_left _ ?_) hfile file'
        exact List.mem_flatMap.mpr ⟨fragment, hfragment, hclient⟩

/-! ### The files of a plan -/

/-- A file is as it should be in the plan exactly where what it became is. -/
theorem keepsFiles_iff {library : DocumentLibrary} {compilation : RuntimePlanCompilation κ ρ}
    {mcpConfigs : List IntegrationMcpConfig} {handed : List ResolvedIntegrationMcpServer}
    {runtimeClients applied : List RuntimeClient}
    (hpassed : ClientsPassed library handed mcpConfigs runtimeClients applied)
    (hplan : InPlan compilation applied) {P : RuntimeClient → RuntimeClientSetupFile → Prop}
    (hfile : ∀ client file content',
      configsFor mcpConfigs client.clientId file.fileId ≠ [] →
      FilePassed library handed (configsFor mcpConfigs client.clientId file.fileId) file.content
        content' →
      (FileKeeps library compilation.resolvedMcpServers
        (configsFor mcpConfigs client.clientId file.fileId) file.content content' ↔
          P client file)) :
    compilation.KeepsFiles library mcpConfigs runtimeClients ↔
      ∀ client ∈ runtimeClients, ∀ file ∈ client.setup.files,
        configsFor mcpConfigs client.clientId file.fileId ≠ [] → P client file := by
  refine forall₂_congr fun client hclient => forall₂_congr fun file hmem => ?_
  refine forall_congr' fun hconfigs => ?_
  rcases hpassed.file hclient hmem with ⟨client', hclient', hid, written, hwritten, hpath, hcontent⟩
  rw [← hfile client file written.content hconfigs hcontent, ← hid, ← hpath]
  constructor
  · rintro ⟨file', hhas, hkeeps⟩
    rw [(hplan client' hclient' written hwritten file').mp hhas] at hkeeps
    exact hkeeps
  · intro hkeeps
    exact ⟨written, (hplan client' hclient' written hwritten written).mpr rfl, hkeeps⟩

namespace CompiledFrom

variable {library : DocumentLibrary} {input : CompileRuntimePlanInput κ ρ}
variable {compilation : RuntimePlanCompilation κ ρ}
variable {bindingMcpServers : List ResolvedIntegrationMcpServer}

theorem serverNames_perm (h : CompiledFrom library input compilation bindingMcpServers) :
    (serverNames compilation.resolvedMcpServers).Perm
      (compilation.declaredNames ++ serverNames input.profileServers) := by
  have hbindings : (serverNames bindingMcpServers).Perm compilation.declaredNames := by
    rw [← compilation.serverNames_bindingServers]
    exact h.bindings.map _
  have hall : (serverNames compilation.resolvedMcpServers).Perm
      (serverNames bindingMcpServers ++ serverNames input.profileServers) := by
    unfold serverNames
    rw [← List.map_append]
    exact h.servers.map _
  exact hall.trans (hbindings.append_right _)

/-- Names are distinct exactly where the profile brings no name twice and none of a binding. -/
theorem distinct_iff (h : CompiledFrom library input compilation bindingMcpServers) :
    (serverNames compilation.resolvedMcpServers).Nodup ↔
      (serverNames input.profileServers).Nodup ∧
        ∀ name ∈ compilation.declaredNames, name ∉ serverNames input.profileServers := by
  have hdeclared : compilation.declaredNames.Nodup := by
    rw [← compilation.serverNames_bindingServers]
    exact (h.bindings.map _).nodup_iff.mp h.distinct
  rw [h.serverNames_perm.nodup_iff, List.nodup_append, and_iff_right hdeclared]
  refine and_congr_right fun _ => forall₂_congr fun name _ => ?_
  exact ⟨fun hne hname => hne name hname rfl, fun hname other hother heq => hname (heq ▸ hother)⟩

theorem mem_resolved {server : IntegrationMcpServer}
    {preparedBinding : PreparedBindingContext κ ρ}
    (h : CompiledFrom library input compilation bindingMcpServers)
    (hbinding : preparedBinding ∈ compilation.preparedBindings)
    (hserver : server ∈ preparedBinding.rawServers) :
    { source := .integration preparedBinding.source, server := resolveMcpServer server }
      ∈ compilation.resolvedMcpServers := by
  refine h.servers.mem_iff.mpr (List.mem_append_left _ (h.bindings.mem_iff.mpr ?_))
  exact List.mem_flatMap.mpr ⟨preparedBinding, hbinding, List.mem_map_of_mem hserver⟩

/-- Where names are distinct, servers have their own settings exactly where no key was lost. -/
theorem declared_iff (h : CompiledFrom library input compilation bindingMcpServers)
    (hnodup : (serverNames compilation.resolvedMcpServers).Nodup) :
    (∀ preparedBinding ∈ compilation.preparedBindings,
      ∀ server ∈ preparedBinding.rawServers, ∃ mcpServer ∈ compilation.resolvedMcpServers,
        mcpServer.source = .integration preparedBinding.source ∧
          SameSettings server mcpServer.server) ↔
      ∀ preparedBinding ∈ compilation.preparedBindings,
        ∀ server ∈ preparedBinding.rawServers, KeysKept server := by
  refine forall₂_congr fun preparedBinding hbinding => forall₂_congr fun server hserver => ?_
  have hresolved := h.mem_resolved hbinding hserver
  rw [← sameSettings_resolveMcpServer_iff]
  constructor
  · rintro ⟨mcpServer, hmem, _, hsame⟩
    -- No other server has the name.
    have heq := List.inj_on_of_nodup_map hnodup hmem hresolved hsame.serverName
    rw [heq] at hsame
    exact hsame
  · intro hsame
    exact ⟨_, hresolved, rfl, hsame⟩

/-- When the files of the agent runtime are as they should be. -/
theorem agentFiles_iff (hlawful : library.Lawful)
    (h : CompiledFrom library input compilation bindingMcpServers)
    (hnodup : (serverNames compilation.resolvedMcpServers).Nodup) :
    compilation.KeepsFiles library compilation.mcpConfigs compilation.renderedRuntimeClients ↔
      ∀ client ∈ compilation.renderedRuntimeClients, ∀ file ∈ client.setup.files,
        configsFor compilation.mcpConfigs client.clientId file.fileId ≠ [] →
          compilation.declaredNames ++ serverNames input.profileServers = [] ∨
            FileSuits library (compilation.declaredNames ++ serverNames input.profileServers)
              (configsFor compilation.mcpConfigs client.clientId file.fileId) file.content := by
  rcases h.agent with ⟨applied, hpassed, hplan⟩
  refine keepsFiles_iff hpassed hplan fun client file content' hconfigs hcontent => ?_
  rw [hcontent.keeps_iff hlawful hnodup hconfigs,
    FileSuits.congr fun name => h.serverNames_perm.mem_iff]
  refine or_congr_left ?_
  rw [← List.perm_nil, ← List.perm_nil, ← h.serverNames_perm.congr_left, List.perm_nil,
    List.perm_nil, serverNames, List.map_eq_nil_iff]

/-- When the files of a binding are as they should be. -/
theorem bindingFiles_iff (hlawful : library.Lawful)
    (h : CompiledFrom library input compilation bindingMcpServers)
    (hnodup : (serverNames compilation.resolvedMcpServers).Nodup)
    {preparedBinding : PreparedBindingContext κ ρ}
    (hbinding : preparedBinding ∈ compilation.preparedBindings)
    {mcpConfig : IntegrationMcpConfig}
    (hconfig : preparedBinding.providerOwnedMcpConfig = some mcpConfig) :
    compilation.KeepsFiles library [mcpConfig]
        preparedBinding.compiledRuntimePlanFragment.runtimeClients ↔
      ∀ client ∈ preparedBinding.compiledRuntimePlanFragment.runtimeClients,
        ∀ file ∈ client.setup.files, configsFor [mcpConfig] client.clientId file.fileId ≠ [] →
          (compilation.declaredNames = [] ∧
            HoldsServers library mcpConfig input.profileServers file.content) ∨
          (compilation.declaredNames ≠ [] ∧ input.profileServers = [] ∧
            FileSuits library compilation.declaredNames [mcpConfig] file.content) := by
  rcases h.provider preparedBinding hbinding mcpConfig hconfig with ⟨applied, hpassed, hplan⟩
  have hnames : (serverNames bindingMcpServers).Perm compilation.declaredNames := by
    rw [← compilation.serverNames_bindingServers]
    exact h.bindings.map _
  have hnil : bindingMcpServers = [] ↔ compilation.declaredNames = [] := by
    rw [← List.perm_nil, ← List.perm_nil, ← hnames.congr_left, List.perm_nil, List.perm_nil,
      serverNames, List.map_eq_nil_iff]
  refine keepsFiles_iff hpassed hplan fun client file content' hconfigs hcontent => ?_
  have hone : configsFor [mcpConfig] client.clientId file.fileId = [mcpConfig] := by
    rcases List.exists_mem_of_ne_nil _ hconfigs with ⟨other, hother⟩
    rcases mem_configsFor.mp hother with ⟨hmem, hfor⟩
    rw [List.mem_singleton.mp hmem] at hfor
    exact List.filter_cons_of_pos (by simpa using hfor)
  rw [hone] at hcontent ⊢
  rw [hcontent.keeps_iff_of_some hlawful h.servers hnodup, hnil, ne_eq, hnil,
    FileSuits.congr fun name => hnames.mem_iff]

end CompiledFrom

/-- A plan keeps all servers exactly where it was compiled from what suits. -/
theorem keepsMcpServers_iff {library : DocumentLibrary} (hlawful : library.Lawful)
    {localeCompare : String → String → Int} {input : CompileRuntimePlanInput κ ρ}
    {compilation : RuntimePlanCompilation κ ρ}
    (h : compileRuntimePlan library localeCompare input = .ok compilation) :
    KeepsMcpServers library input compilation ↔ SuitsMcpServers library input compilation := by
  rcases compileRuntimePlan_ok h with ⟨bindingMcpServers, hfrom⟩
  constructor
  · intro hkeeps
    have hnodup := hkeeps.distinct
    rcases hfrom.distinct_iff.mp hnodup with ⟨hprofile, hapart⟩
    refine ⟨hprofile, hapart, (hfrom.declared_iff hnodup).mp hkeeps.declared,
      (hfrom.agentFiles_iff hlawful hnodup).mp hkeeps.agentFiles, ?_⟩
    intro preparedBinding hbinding mcpConfig hconfig
    exact (hfrom.bindingFiles_iff hlawful hnodup hbinding hconfig).mp
      (hkeeps.bindingFiles preparedBinding hbinding mcpConfig hconfig)
  · intro hsuits
    have hnodup := hfrom.distinct_iff.mpr ⟨hsuits.profileDistinct, hsuits.apart⟩
    refine ⟨hnodup, (hfrom.declared_iff hnodup).mpr hsuits.keysKept, fun mcpServer hmem => ?_,
      (hfrom.agentFiles_iff hlawful hnodup).mpr hsuits.agentFiles, ?_⟩
    · exact hfrom.servers.mem_iff.mpr (List.mem_append_right _ hmem)
    · intro preparedBinding hbinding mcpConfig hconfig
      exact (hfrom.bindingFiles_iff hlawful hnodup hbinding hconfig).mpr
        (hsuits.bindingFiles preparedBinding hbinding mcpConfig hconfig)

/-! ### Two servers in a file, and one name twice -/

/-- A file with two servers, as it is written. -/
def sampleContent : String :=
  "\x7b\n  \"mcpServers\": \x7b\n    \"github\": \x7b\n      \"url\": \"https://github.example/mcp\"\n" ++
  "    \x7d,\n    \"mistle\": \x7b\n      \"url\": \"https://mistle.example/mcp\"\n    \x7d\n  \x7d\n\x7d"

def sampleDocument : ConfigValue :=
  .record [("mcpServers", .record [
    ("github", .record [("url", .text "https://github.example/mcp")]),
    ("mistle", .record [("url", .text "https://mistle.example/mcp")])])]

/-- The document is written as it is, and no other. -/
def sampleStringify : ConfigValue → Option String
  | .node .record [(path, .node .record
      [(name, .node .record [(key, .leaf (.text url))]),
       (name', .node .record [(key', .leaf (.text url'))])])] =>
    if path = "mcpServers" ∧ name = "github" ∧ key = "url" ∧ url = "https://github.example/mcp" ∧
        name' = "mistle" ∧ key' = "url" ∧ url' = "https://mistle.example/mcp" then
      some sampleContent
    else none
  | _ => none

/-- The file with the two servers and the empty one are read, and the first is written. -/
def sampleLibrary : DocumentLibrary where
  parse
    | .json, content =>
      if content = "\x7b\x7d" then some (.record [])
      else if content = sampleContent ++ "\n" then some sampleDocument
      else none
    | .toml, _ => none
  stringify
    | .json, document => sampleStringify document
    | .toml, _ => none
  reread _ value := value
  dateHas _ := false

theorem sampleStringify_eq {document : ConfigValue} {content : String}
    (h : sampleStringify document = some content) :
    document = sampleDocument ∧ content = sampleContent := by
  unfold sampleStringify at h
  split at h
  · split at h
    · rename_i hwritten
      rcases hwritten with ⟨rfl, rfl, rfl, rfl, rfl, rfl, rfl⟩
      exact ⟨rfl, (Option.some.inj h).symm⟩
    · exact nomatch h
  · exact nomatch h

theorem expressible_of_allTexts {document : ConfigValue} (h : AllTexts document)
    (format : IntegrationMcpConfigFormat) : Expressible format document := by
  intro path value hlook
  rcases h path value hlook with ⟨text, htext⟩
  rw [htext]
  cases format with
  | toml => rfl
  | json => rfl

theorem allTexts_sampleDocument : AllTexts sampleDocument := by
  have hserver : ∀ url, AllTexts (.record [("url", .text url)]) := fun url =>
    allTexts_node (List.forall_mem_singleton.mpr (allTexts_text url))
  refine allTexts_node (List.forall_mem_singleton.mpr (allTexts_node ?_))
  exact List.forall_mem_cons.mpr ⟨hserver _, List.forall_mem_singleton.mpr (hserver _)⟩

theorem parse_sampleContent :
    sampleLibrary.parse .json (sampleContent ++ "\n") = some sampleDocument := by
  have hfull : sampleContent ++ "\n" ≠ "\x7b\x7d" := by decide +kernel
  unfold sampleLibrary
  dsimp only
  rw [if_neg hfull, if_pos rfl]

theorem sampleLibrary_lawful : sampleLibrary.Lawful where
  parse_stringify format document content _ hstringify := by
    cases format with
    | toml => exact nomatch hstringify
    | json =>
        rcases sampleStringify_eq hstringify with ⟨rfl, rfl⟩
        refine ⟨sampleDocument, parse_sampleContent, fun path => ?_⟩
        cases sampleDocument.look path with
        | none => rfl
        | some reading => cases reading <;> rfl
  expressible_of_parse format content document hparse := by
    cases format with
    | toml => exact nomatch hparse
    | json =>
        refine expressible_of_allTexts ?_ .json
        change (if _ then _ else if _ then _ else _) = _ at hparse
        split at hparse
        · rw [← Option.some.inj hparse]
          exact allTexts_node fun _ hentry => absurd hentry List.not_mem_nil
        · split at hparse
          · rw [← Option.some.inj hparse]
            exact allTexts_sampleDocument
          · exact nomatch hparse
  reread_eq_text_iff _ _ _ := Iff.rfl
  isDate_reread _ _ := rfl
  reread_reread _ _ := rfl
  formats_apart format other document content after hne _ hstringify hparse := by
    cases format with
    | toml => exact nomatch hstringify
    | json =>
        cases other with
        | toml => exact nomatch hparse
        | json => exact absurd rfl hne

def sampleCompare (left right : String) : Int :=
  if left = right then 0 else if left < right then -1 else 1

def sampleServer (name url : String) : IntegrationMcpServer where
  serverId := name
  serverName := name
  transport := .streamableHttp
  description := none
  url := some url
  command := none
  args := none
  env := none
  httpHeaders := none

def sampleMistleServer : ResolvedIntegrationMcpServer where
  source := .mistle
  server := sampleServer "mistle" "https://mistle.example/mcp"

/-- A client with one file. -/
def sampleClient (content : String) : RuntimeClient where
  clientId := "client"
  setup := {
    env := .empty
    files := [{
      fileId := "config"
      path := "/config.json"
      mode := 420
      content
      writeMode := none }]
    launchArgs := none }
  processes := []
  endpoints := []

/-- The agent runtime has one client with an empty file, for which there may be a config. -/
def sampleRuntime (mcpConfigs : List IntegrationMcpConfig) : AgentRuntimeDefinition Unit Unit where
  emptyConfig := some ()
  compileRuntime _ := .ok {
    runtimeClients := some [sampleClient "\x7b\x7d"]
    renderRuntimeClients := none }
  materializeMcpConfig := some mcpConfigs

/-- A binding with one server, which declares nothing else. -/
def sampleIntegration (server : IntegrationMcpServer) : IntegrationDefinition Unit Unit where
  familyId := "family"
  variantId := "default"
  kind := .connector
  targetConfigSchema := some
  targetSecretSchema := some
  bindingConfigSchema := some
  validateBindingWrite _ := none
  compileBinding _ := .ok ⟨[], []⟩
  mcp := some (.value (.server server))
  mcpConfig := none

/-- A profile with one binding, and with the server that the platform brings. -/
def sampleInput (server : IntegrationMcpServer) (mcpConfigs : List IntegrationMcpConfig) :
    CompileRuntimePlanInput Unit Unit where
  organizationId := "org"
  sandboxProfileId := "profile"
  version := 1
  agentRuntimeId := "runtime"
  bindings := [{
    targetKey := "target"
    target := ⟨"family", "default", true, (), ()⟩
    connection := ⟨"connection", .active, ()⟩
    binding := ⟨"binding", .connector, "connection", ()⟩ }]
  egressRoutes := none
  mcpServers := some [sampleMistleServer]
  mergeRuntimeSetupFiles := none
  definitions := {
    getDefinition _ _ := some (sampleIntegration server)
    getRuntime _ := some (sampleRuntime mcpConfigs) }

def sampleMcpConfig : IntegrationMcpConfig := ⟨"client", "config", .json, ["mcpServers"]⟩

/-- The plan in which both servers are in the file. -/
def sampleCompilation : RuntimePlanCompilation Unit Unit where
  preparedBindings := [{
    definition := sampleIntegration (sampleServer "github" "https://github.example/mcp")
    compileBindingInput := {
      organizationId := "org"
      sandboxProfileId := "profile"
      version := 1
      targetKey := "target"
      target := ⟨"family", "default", true, (), ()⟩
      connection := ⟨"connection", .active, ()⟩
      binding := ⟨"binding", .connector, "connection", ()⟩ }
    compiledRuntimePlanFragment := ⟨[], []⟩ }]
  resolvedMcpServers := [
    { source := .integration ⟨"binding", "connection", "target", "family", "default"⟩
      server := sampleServer "github" "https://github.example/mcp" },
    sampleMistleServer]
  runtimeDefinition := sampleRuntime [sampleMcpConfig]
  renderedRuntimeClients := [sampleClient "\x7b\x7d"]
  plan := {
    sandboxProfileId := "profile"
    version := 1
    runtimeClients := [sampleClient (sampleContent ++ "\n")] }

theorem compileRuntimePlan_sample :
    compileRuntimePlan sampleLibrary sampleCompare
      (sampleInput (sampleServer "github" "https://github.example/mcp") [sampleMcpConfig])
      = .ok sampleCompilation := by
  rfl

theorem keepsMcpServers_iff_github_and_mistle :
    KeepsMcpServers sampleLibrary
      (sampleInput (sampleServer "github" "https://github.example/mcp") [sampleMcpConfig])
      sampleCompilation := by
  refine (keepsMcpServers_iff sampleLibrary_lawful compileRuntimePlan_sample).mpr ?_
  refine ⟨by decide, by decide, ?_, ?_, ?_⟩
  · intro preparedBinding hbinding server hserver record hrecord
    rw [List.mem_singleton.mp hbinding] at hserver
    rw [List.mem_singleton.mp hserver] at hrecord
    rcases hrecord with henv | hheaders
    · exact nomatch henv
    · exact nomatch hheaders
  · intro client hclient file hfile
    rw [List.mem_singleton.mp hclient] at hfile ⊢
    rw [List.mem_singleton.mp hfile]
    intro mcpConfigs names _
    have hnames : "__proto__" ∉ ["github", "mistle"] := by decide
    refine .inr ⟨hnames, fun mcpConfig hmem document hparse => ?_⟩
    rw [List.mem_singleton.mp hmem] at hparse ⊢
    rw [← Option.some.inj hparse]
    refine ⟨⟨[], [], rfl, fun way hway hne hdate => ?_, fun _ h => absurd h List.not_mem_nil⟩,
      fun _ _ _ _ => rfl⟩
    rcases hdate with ⟨value, hlook, _⟩
    cases way with
    | nil => exact nomatch hlook
    | cons key rest => exact nomatch hlook
  · intro preparedBinding hbinding mcpConfig hconfig
    rw [List.mem_singleton.mp hbinding] at hconfig
    exact nomatch hconfig

/-- A binding and the profile bring servers of one name, and the plan is compiled. -/
theorem mistle_server_twice :
    ∃ compilation, compileRuntimePlan sampleLibrary sampleCompare
        (sampleInput (sampleServer "mistle" "https://other.example/mcp") []) = .ok compilation ∧
      ¬ KeepsMcpServers sampleLibrary
        (sampleInput (sampleServer "mistle" "https://other.example/mcp") []) compilation := by
  refine ⟨_, rfl, fun hkeeps => ?_⟩
  have hdistinct : ["mistle", "mistle"].Nodup := hkeeps.distinct
  exact absurd hdistinct (by decide)

end Mistle
