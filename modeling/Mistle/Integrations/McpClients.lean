import Mistle.Integrations.McpFiles

/-!
# Configs of the Clients

A config is for the files with its file id of the clients with its client id, and goes through
all clients in one pass. The files of the clients then went through the configs that are for
them, in order, and nothing else of a client changed.

## Main definitions

* `configsFor`: The configs that are for a file.
* `FileWritten`, `ClientWritten`: What configs make of a file, and of a client.

## Theorems

* `applyMcpConfigToRuntimeClients_ok`: What one config makes of the clients.
* `clientsWritten_concat`: One more config.
-/

namespace Mistle

open Fallible

variable {library : DocumentLibrary} {mcpServers : List ResolvedIntegrationMcpServer}

/-- The configs that are for a file of a client. -/
def configsFor (mcpConfigs : List IntegrationMcpConfig) (clientId fileId : String) :
    List IntegrationMcpConfig :=
  mcpConfigs.filter fun mcpConfig => mcpConfig.clientId = clientId ∧ mcpConfig.fileId = fileId

theorem mem_configsFor {mcpConfigs : List IntegrationMcpConfig} {clientId fileId : String}
    {mcpConfig : IntegrationMcpConfig} : mcpConfig ∈ configsFor mcpConfigs clientId fileId ↔
      mcpConfig ∈ mcpConfigs ∧ mcpConfig.clientId = clientId ∧ mcpConfig.fileId = fileId := by
  unfold configsFor
  rw [List.mem_filter, decide_eq_true_iff]

/-- A file of a client went through the configs that are for it. -/
structure FileWritten (library : DocumentLibrary) (mcpServers : List ResolvedIntegrationMcpServer)
    (mcpConfigs : List IntegrationMcpConfig) (clientId : String)
    (file file' : RuntimeClientSetupFile) : Prop where
  same : file' = { file with content := file'.content }
  content : replaceAllMcpConfigs library mcpServers (configsFor mcpConfigs clientId file.fileId)
    file.content = .ok file'.content

/-- The files of a client did. -/
structure ClientWritten (library : DocumentLibrary)
    (mcpServers : List ResolvedIntegrationMcpServer) (mcpConfigs : List IntegrationMcpConfig)
    (client client' : RuntimeClient) : Prop where
  same : client' = { client with setup := { client.setup with files := client'.setup.files } }
  files : List.Forall₂ (FileWritten library mcpServers mcpConfigs client.clientId)
    client.setup.files client'.setup.files

theorem FileWritten.none (clientId : String) (file : RuntimeClientSetupFile) :
    FileWritten library mcpServers [] clientId file file := ⟨rfl, rfl⟩

theorem ClientWritten.none (client : RuntimeClient) :
    ClientWritten library mcpServers [] client client where
  same := rfl
  files := (List.forall₂_same).mpr fun file _ => FileWritten.none client.clientId file

theorem clientsWritten_none (runtimeClients : List RuntimeClient) :
    List.Forall₂ (ClientWritten library mcpServers []) runtimeClients runtimeClients :=
  (List.forall₂_same).mpr fun client _ => ClientWritten.none client

/-! ### One config -/

/-- A config that is not for a file leaves it. -/
theorem fileWritten_other {mcpConfig : IntegrationMcpConfig} {clientId : String}
    {file : RuntimeClientSetupFile}
    (hother : ¬ (mcpConfig.clientId = clientId ∧ mcpConfig.fileId = file.fileId)) :
    FileWritten library mcpServers [mcpConfig] clientId file file := by
  refine ⟨rfl, ?_⟩
  rw [configsFor, List.filter_cons_of_neg (by simpa using hother)]
  rfl

theorem applyMcpConfigToFile_ok {mcpConfig : IntegrationMcpConfig} {clientId : String}
    {file file' : RuntimeClientSetupFile} (hclient : mcpConfig.clientId = clientId)
    (h : applyMcpConfigToFile library mcpConfig mcpServers file = .ok file') :
    FileWritten library mcpServers [mcpConfig] clientId file file' := by
  unfold applyMcpConfigToFile at h
  by_cases hfile : file.fileId = mcpConfig.fileId
  · rw [if_pos hfile] at h
    rcases bind_ok_iff.mp h with ⟨content, hcontent, h⟩
    rw [← Except.ok.inj h]
    refine ⟨rfl, ?_⟩
    rw [configsFor, List.filter_cons_of_pos (by simpa using ⟨hclient, hfile.symm⟩)]
    rw [List.filter_nil, replaceAllMcpConfigs_one_iff]
    exact hcontent
  · rw [if_neg hfile] at h
    rw [← Except.ok.inj h]
    exact fileWritten_other fun hsame => hfile hsame.2.symm

theorem applyMcpConfigToClient_ok {mcpConfig : IntegrationMcpConfig}
    {client client' : RuntimeClient}
    (h : applyMcpConfigToClient library mcpConfig mcpServers client = .ok client') :
    ClientWritten library mcpServers [mcpConfig] client client' := by
  unfold applyMcpConfigToClient at h
  by_cases hclient : client.clientId = mcpConfig.clientId
  · rw [if_pos hclient] at h
    rcases bind_ok_iff.mp h with ⟨files, hfiles, h⟩
    rw [← Except.ok.inj h]
    refine ⟨rfl, (mapM_ok_iff.mp hfiles).imp fun file file' hfile => ?_⟩
    exact applyMcpConfigToFile_ok hclient.symm hfile
  · rw [if_neg hclient] at h
    rw [← Except.ok.inj h]
    refine ⟨rfl, (List.forall₂_same).mpr fun file _ => ?_⟩
    exact fileWritten_other fun hsame => hclient hsame.1.symm

/-- One config goes through the files of all clients. -/
theorem applyMcpConfigToRuntimeClients_ok {mcpConfig : IntegrationMcpConfig}
    {runtimeClients applied : List RuntimeClient} (hne : mcpServers ≠ [])
    (h : applyMcpConfigToRuntimeClients library runtimeClients mcpConfig mcpServers
      = .ok applied) :
    List.Forall₂ (ClientWritten library mcpServers [mcpConfig]) runtimeClients applied := by
  unfold applyMcpConfigToRuntimeClients at h
  rw [if_neg hne] at h
  rcases bind_ok_iff.mp h with ⟨clients, hclients, h⟩
  rcases ite_ok_iff.mp h with ⟨_, h⟩
  rcases ite_ok_iff.mp h with ⟨_, h⟩
  rw [← Except.ok.inj h]
  exact (mapM_ok_iff.mp hclients).imp fun _ _ hclient => applyMcpConfigToClient_ok hclient

/-! ### One more config -/

theorem FileWritten.concat {mcpConfigs : List IntegrationMcpConfig}
    {mcpConfig : IntegrationMcpConfig} {clientId : String}
    {file middle file' : RuntimeClientSetupFile}
    (h : FileWritten library mcpServers mcpConfigs clientId file middle)
    (hlast : FileWritten library mcpServers [mcpConfig] clientId middle file') :
    FileWritten library mcpServers (mcpConfigs ++ [mcpConfig]) clientId file file' := by
  have hid : middle.fileId = file.fileId := by rw [h.same]
  constructor
  · rw [hlast.same, h.same]
  · have hcontent := hlast.content
    rw [hid] at hcontent
    rw [configsFor, List.filter_append, replaceAllMcpConfigs, List.foldlM_append, bind_ok_iff]
    exact ⟨middle.content, h.content, hcontent⟩

theorem ClientWritten.concat {mcpConfigs : List IntegrationMcpConfig}
    {mcpConfig : IntegrationMcpConfig} {client middle client' : RuntimeClient}
    (h : ClientWritten library mcpServers mcpConfigs client middle)
    (hlast : ClientWritten library mcpServers [mcpConfig] middle client') :
    ClientWritten library mcpServers (mcpConfigs ++ [mcpConfig]) client client' := by
  have hid : middle.clientId = client.clientId := by rw [h.same]
  constructor
  · rw [hlast.same, h.same]
  · have hfiles := hlast.files
    rw [hid] at hfiles
    refine forall₂_trans ?_ h.files hfiles
    exact fun _ _ _ hfile hlast => hfile.concat hlast

theorem clientsWritten_concat {mcpConfigs : List IntegrationMcpConfig}
    {mcpConfig : IntegrationMcpConfig} {runtimeClients middle applied : List RuntimeClient}
    (h : List.Forall₂ (ClientWritten library mcpServers mcpConfigs) runtimeClients middle)
    (hlast : List.Forall₂ (ClientWritten library mcpServers [mcpConfig]) middle applied) :
    List.Forall₂ (ClientWritten library mcpServers (mcpConfigs ++ [mcpConfig])) runtimeClients
      applied := by
  refine forall₂_trans ?_ h hlast
  exact fun _ _ _ hclient hlast => hclient.concat hlast

/-! ### Clients that servers were handed to -/

/-- Clients went through configs, unless there are no servers to write. -/
def ClientsPassed (library : DocumentLibrary) (mcpServers : List ResolvedIntegrationMcpServer)
    (mcpConfigs : List IntegrationMcpConfig) (runtimeClients applied : List RuntimeClient) : Prop :=
  if mcpServers = [] then applied = runtimeClients
  else List.Forall₂ (ClientWritten library mcpServers mcpConfigs) runtimeClients applied

theorem applyMcpConfigToRuntimeClients_passed {mcpConfig : IntegrationMcpConfig}
    {runtimeClients applied : List RuntimeClient}
    (h : applyMcpConfigToRuntimeClients library runtimeClients mcpConfig mcpServers
      = .ok applied) :
    ClientsPassed library mcpServers [mcpConfig] runtimeClients applied := by
  unfold ClientsPassed
  by_cases hnone : mcpServers = []
  · rw [if_pos hnone]
    rw [applyMcpConfigToRuntimeClients, if_pos hnone] at h
    exact (Except.ok.inj h).symm
  · rw [if_neg hnone]
    exact applyMcpConfigToRuntimeClients_ok hnone h

/-- What becomes of a file. -/
theorem ClientsPassed.file {mcpConfigs : List IntegrationMcpConfig}
    {runtimeClients applied : List RuntimeClient}
    (h : ClientsPassed library mcpServers mcpConfigs runtimeClients applied)
    {client : RuntimeClient} (hclient : client ∈ runtimeClients) {file : RuntimeClientSetupFile}
    (hfile : file ∈ client.setup.files) :
    ∃ client' ∈ applied, client'.clientId = client.clientId ∧
      ∃ file' ∈ client'.setup.files, file'.path = file.path ∧
        FilePassed library mcpServers (configsFor mcpConfigs client.clientId file.fileId)
          file.content file'.content := by
  unfold ClientsPassed at h
  unfold FilePassed
  by_cases hnone : mcpServers = []
  · rw [if_pos hnone] at h
    rw [h]
    exact ⟨client, hclient, rfl, file, hfile, rfl, by rw [if_pos hnone]⟩
  · rw [if_neg hnone] at h
    rcases exists_of_forall₂ h hclient with ⟨client', hclient', hwritten⟩
    rcases exists_of_forall₂ hwritten.files hfile with ⟨file', hfile', hcontent⟩
    refine ⟨client', hclient', by rw [hwritten.same], file', hfile', by rw [hcontent.same], ?_⟩
    rw [if_neg hnone]
    exact hcontent.content

end Mistle
