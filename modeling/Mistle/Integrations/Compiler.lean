import Mistle.Integrations.McpClients
import Mistle.Integrations.RuntimePlan
import Mistle.Lib.Text

/-!
# Compiling Runtime Plans

A plan is compiled from the bindings of a sandbox profile, from the servers that the profile
itself brings, and from the agent runtime. The servers of the bindings are collected and
checked against each other, and written into the files of the bindings that have a config for
them. With the servers of the profile behind them, they are handed to the agent runtime, and
written into its files.

Definitions of integrations and of agent runtimes are given. So are the configurations and
secrets that they read, which nothing here looks into, and the egress routes, which are only
handed on. Artifacts, workspace sources and the checks of the fragments against each other are
left out: they may refuse a plan, and change nothing of its clients.

## Main definitions

* `IntegrationDefinition`, `AgentRuntimeDefinition`: What is given.
* `collectResolvedMcpServers`: The servers of the bindings.
* `applyMcpMappings`, `applyAgentRuntimeMcpMappings`: Where servers are written.
* `compileBindings`, `compileRuntimePlan`: The plan.
-/

namespace Mistle

/-! ### What is given -/

inductive IntegrationKind where
  | agent
  | git
  | connector
  | sandbox
  deriving DecidableEq

def IntegrationKind.text : IntegrationKind → String
  | .agent => "agent"
  | .git => "git"
  | .connector => "connector"
  | .sandbox => "sandbox"

inductive IntegrationConnectionStatus where
  | active
  | error
  | revoked
  deriving DecidableEq

section

variable (κ ρ : Type)

structure IntegrationTarget where
  familyId : String
  variantId : String
  enabled : Bool
  config : κ
  secrets : κ

structure IntegrationConnection where
  id : String
  status : IntegrationConnectionStatus
  config : κ

structure IntegrationBinding where
  id : String
  kind : IntegrationKind
  connectionId : String
  config : κ

structure CompileRuntimePlanBindingInput where
  targetKey : String
  target : IntegrationTarget κ
  connection : IntegrationConnection κ
  binding : IntegrationBinding κ

/-- What a definition compiles a binding from. The target and the binding have the configuration
    that the schemas of the definition gave. -/
structure CompileBindingInput where
  organizationId : String
  sandboxProfileId : String
  version : Nat
  targetKey : String
  target : IntegrationTarget κ
  connection : IntegrationConnection κ
  binding : IntegrationBinding κ

inductive IntegrationMcpDefinitionValue where
  | server (server : IntegrationMcpServer)
  | servers (servers : List IntegrationMcpServer)

inductive IntegrationMcpDefinition where
  | value (value : IntegrationMcpDefinitionValue)
  | resolve (resolve : CompileBindingInput κ → IntegrationMcpDefinitionValue)

/-- The part of a plan that comes from one place. -/
structure CompiledRuntimePlanFragment where
  egressRoutes : List ρ
  runtimeClients : List RuntimeClient

/-- An integration. A schema gives nothing where it refuses, and the contextual validation of a
    binding gives the messages of its issues, or nothing where it has none to report. -/
structure IntegrationDefinition where
  familyId : String
  variantId : String
  kind : IntegrationKind
  targetConfigSchema : κ → Option κ
  targetSecretSchema : κ → Option κ
  bindingConfigSchema : κ → Option κ
  validateBindingWrite : CompileRuntimePlanBindingInput κ → Option (List String)
  compileBinding : CompileBindingInput κ → Compiler (CompiledRuntimePlanFragment ρ)
  mcp : Option (IntegrationMcpDefinition κ)
  mcpConfig : Option IntegrationMcpConfig

structure CompileAgentRuntimeInput where
  organizationId : String
  sandboxProfileId : String
  version : Nat
  runtimeId : String
  runtimeConfig : κ
  mcpServers : List ResolvedIntegrationMcpServer
  mergeRuntimeSetupFiles : Option Bool

/-- The clients of an agent runtime, or how it renders them from the egress routes, which may
    fail with the message of an error, or with something else. -/
structure CompileAgentRuntimeResult where
  runtimeClients : Option (List RuntimeClient)
  renderRuntimeClients : Option (List ρ → Except (Option String) (List RuntimeClient))

/-- An agent runtime, with what its schema gives for an empty configuration. -/
structure AgentRuntimeDefinition where
  emptyConfig : Option κ
  compileRuntime : CompileAgentRuntimeInput κ → Compiler (CompileAgentRuntimeResult ρ)
  materializeMcpConfig : Option (List IntegrationMcpConfig)

structure IntegrationDefinitionsBundle where
  getDefinition : (familyId variantId : String) → Option (IntegrationDefinition κ ρ)
  getRuntime : (runtimeId : String) → Option (AgentRuntimeDefinition κ ρ)

structure CompileRuntimePlanInput where
  organizationId : String
  sandboxProfileId : String
  version : Nat
  agentRuntimeId : String
  bindings : List (CompileRuntimePlanBindingInput κ)
  egressRoutes : Option (List ρ)
  mcpServers : Option (List ResolvedIntegrationMcpServer)
  mergeRuntimeSetupFiles : Option Bool
  definitions : IntegrationDefinitionsBundle κ ρ

structure PreparedBindingContext where
  definition : IntegrationDefinition κ ρ
  compileBindingInput : CompileBindingInput κ
  compiledRuntimePlanFragment : CompiledRuntimePlanFragment ρ

end

variable {κ ρ : Type}

/-! ### The servers of the bindings -/

/-- The record that is built key by key. -/
def resolveMcpRecord (value : Option (InsertionMap String String)) :
    Option (InsertionMap String String) :=
  value.map fun value => value.entries.foldl (fun resolved entry =>
    setProperty resolved entry.1 entry.2) .empty

def resolveMcpServer (server : IntegrationMcpServer) : IntegrationMcpServer :=
  { server with
    env := resolveMcpRecord server.env
    httpHeaders := resolveMcpRecord server.httpHeaders }

def normalizeMcpDefinitionValue : IntegrationMcpDefinitionValue → List IntegrationMcpServer
  | .server server => [server]
  | .servers servers => servers

/-- The servers that a binding declares. -/
def PreparedBindingContext.rawServers (preparedBinding : PreparedBindingContext κ ρ) :
    List IntegrationMcpServer :=
  match preparedBinding.definition.mcp with
  | none => []
  | some (.value value) => normalizeMcpDefinitionValue value
  | some (.resolve resolve) =>
    normalizeMcpDefinitionValue (resolve preparedBinding.compileBindingInput)

def PreparedBindingContext.source (preparedBinding : PreparedBindingContext κ ρ) :
    IntegrationBindingMcpServerSource :=
  let input := preparedBinding.compileBindingInput
  { bindingId := input.binding.id
    connectionId := input.connection.id
    targetKey := input.targetKey
    familyId := input.target.familyId
    variantId := input.target.variantId }

def IntegrationMcpTransport.text : IntegrationMcpTransport → String
  | .streamableHttp => "streamable-http"
  | .stdio => "stdio"

/-- Whether trimming leaves nothing. -/
def trimsToNothing (text : String) : Bool := trimWith isJsWhiteSpace text.toList = []

def validateMcpServerShape (source : IntegrationBindingMcpServerSource)
    (server : IntegrationMcpServer) : Compiler Unit :=
  if trimsToNothing server.serverId then
    mcpConflict s!"Binding '{source.bindingId}' declared an MCP server with an empty serverId."
  else if trimsToNothing server.serverName then
    mcpConflict s!"Binding '{source.bindingId}' declared an MCP server with an empty serverName."
  else match server.transport with
    | .stdio =>
      if server.command.all trimsToNothing then
        mcpConflict (s!"MCP server '{server.serverName}' on binding '{source.bindingId}' must " ++
          "define a command for stdio transport.")
      else return ()
    | .streamableHttp =>
      if server.url.all trimsToNothing then
        mcpConflict (s!"MCP server '{server.serverName}' on binding '{source.bindingId}' must " ++
          s!"define a url for '{server.transport.text}' transport.")
      else return ()

/-- The servers collected so far, with their keys and their names. -/
structure McpServerCollection where
  serverIds : List String
  serverNames : List String
  resolvedServers : List ResolvedIntegrationMcpServer

def collectMcpServer (source : IntegrationBindingMcpServerSource)
    (collection : McpServerCollection) (server : IntegrationMcpServer) :
    Compiler McpServerCollection :=
  let serverKey := s!"{source.bindingId}:{server.serverId}"
  if collection.serverIds.contains serverKey then
    mcpConflict
      s!"Binding '{source.bindingId}' declared duplicate MCP server id '{server.serverId}'."
  else if collection.serverNames.contains server.serverName then
    mcpConflict (s!"Duplicate MCP server name '{server.serverName}' detected across sandbox " ++
      "profile bindings.")
  else do
    validateMcpServerShape source server
    return {
      serverIds := collection.serverIds ++ [serverKey]
      serverNames := collection.serverNames ++ [server.serverName]
      resolvedServers := collection.resolvedServers ++
        [{ source := .integration source, server := resolveMcpServer server }] }

/-- What servers are sorted by first. -/
def ResolvedIntegrationMcpServerSource.sortKey : ResolvedIntegrationMcpServerSource → String
  | .integration source => source.bindingId
  | .mistle => "mistle"

def compareMcpServers (localeCompare : String → String → Int)
    (left right : ResolvedIntegrationMcpServer) : Int :=
  if left.source.sortKey ≠ right.source.sortKey then
    localeCompare left.source.sortKey right.source.sortKey
  else localeCompare left.server.serverId right.server.serverId

def collectResolvedMcpServers (localeCompare : String → String → Int)
    (preparedBindings : List (PreparedBindingContext κ ρ)) :
    Compiler (List ResolvedIntegrationMcpServer) := do
  let collection ← preparedBindings.foldlM (fun collection preparedBinding =>
    preparedBinding.rawServers.foldlM (collectMcpServer preparedBinding.source) collection)
    ⟨[], [], []⟩
  return collection.resolvedServers.insertionSort fun left right =>
    compareMcpServers localeCompare left right ≤ 0

/-! ### Where servers are written -/

/-- A binding of an agent leaves its config to the agent runtime. -/
def PreparedBindingContext.providerOwnedMcpConfig
    (preparedBinding : PreparedBindingContext κ ρ) : Option IntegrationMcpConfig :=
  if preparedBinding.definition.kind = .agent then none else preparedBinding.definition.mcpConfig

section

variable (library : DocumentLibrary)

def applyMcpMappings (preparedBindings : List (PreparedBindingContext κ ρ))
    (mcpServers : List ResolvedIntegrationMcpServer) :
    Compiler (List (CompiledRuntimePlanFragment ρ)) :=
  preparedBindings.mapM fun preparedBinding =>
    let fragment := preparedBinding.compiledRuntimePlanFragment
    match preparedBinding.providerOwnedMcpConfig with
    | none => return fragment
    | some mcpConfig => do
      let runtimeClients ← applyMcpConfigToRuntimeClients library fragment.runtimeClients mcpConfig
        mcpServers
      return { fragment with runtimeClients }

/-- The first file that a config is for. -/
def findTargetFile (runtimeClients : List RuntimeClient) (mcpConfig : IntegrationMcpConfig) :
    Option RuntimeClientSetupFile := do
  let targetClient ← runtimeClients.find? fun client => client.clientId = mcpConfig.clientId
  targetClient.setup.files.find? fun file => file.fileId = mcpConfig.fileId

def applyAgentRuntimeMcpMappings (runtimeId : String) (runtimeClients : List RuntimeClient)
    (materializedMcpConfigs : List IntegrationMcpConfig)
    (mcpServers : List ResolvedIntegrationMcpServer) : Compiler (List RuntimeClient) :=
  if mcpServers = [] then .ok runtimeClients
  else materializedMcpConfigs.foldlM (fun runtimeClients mcpConfig =>
    if findTargetFile runtimeClients mcpConfig = none then
      compilerError .agentRuntimeMcpTargetClientMissing
        (s!"Agent runtime '{runtimeId}' MCP config target " ++
          s!"'{mcpConfig.clientId}::{mcpConfig.fileId}' was not found.")
    else applyMcpConfigToRuntimeClients library runtimeClients mcpConfig mcpServers) runtimeClients

end

/-! ### Bindings -/

/-- An error of the compiler where something does not hold. -/
def ensure (p : Prop) [Decidable p] (code : CompilerErrorCode) (message : String) :
    Compiler Unit :=
  if p then return () else compilerError code message

/-- What a schema gives, or an error of the compiler. -/
def ensureParsed (parsed : Option κ) (code : CompilerErrorCode) (message : String) : Compiler κ :=
  match parsed with
  | some parsed => return parsed
  | none => compilerError code message

/-- A binding is checked, and compiled by the definition of its target. -/
def prepareBinding (input : CompileRuntimePlanInput κ ρ)
    (bindingInput : CompileRuntimePlanBindingInput κ) :
    Compiler (PreparedBindingContext κ ρ) := do
  let targetKey := bindingInput.targetKey
  let target := bindingInput.target
  let connection := bindingInput.connection
  let binding := bindingInput.binding
  ensure (connection.id = binding.connectionId) .connectionMismatch
    (s!"Binding '{binding.id}' references connection '{binding.connectionId}' but resolved " ++
      s!"connection was '{connection.id}'.")
  ensure (target.enabled = true) .targetDisabled s!"Target '{targetKey}' is disabled."
  ensure (connection.status = .active) .connectionNotActive
    s!"Connection '{connection.id}' is not active."
  match input.definitions.getDefinition target.familyId target.variantId with
  | none => .error .thrown
  | some definition => do
    let definitionName := s!"{definition.familyId}::{definition.variantId}"
    ensure (definition.kind = binding.kind) .kindMismatch
      (s!"Binding '{binding.id}' has kind '{binding.kind.text}' but definition " ++
        s!"'{definitionName}' has kind '{definition.kind.text}'.")
    let parsedTargetConfig ← ensureParsed (definition.targetConfigSchema target.config)
      .invalidTargetConfig
      s!"Target config for '{targetKey}' did not satisfy '{definitionName}' schema."
    let parsedTargetSecrets ← ensureParsed (definition.targetSecretSchema target.secrets)
      .invalidTargetSecrets
      s!"Target secrets for '{targetKey}' did not satisfy '{definitionName}' schema."
    let parsedBindingConfig ← ensureParsed (definition.bindingConfigSchema binding.config)
      .invalidBindingConfig
      s!"Binding config for '{binding.id}' did not satisfy '{definitionName}' schema."
    match definition.validateBindingWrite bindingInput with
    | some issues =>
      compilerError .invalidBindingConfig
        (issues.head?.getD "Binding contextual validation failed.")
    | none => do
      let compileBindingInput : CompileBindingInput κ := {
        organizationId := input.organizationId
        sandboxProfileId := input.sandboxProfileId
        version := input.version
        targetKey
        target := { target with config := parsedTargetConfig, secrets := parsedTargetSecrets }
        connection
        binding := { binding with config := parsedBindingConfig } }
      let compiledRuntimePlanFragment ← definition.compileBinding compileBindingInput
      return { definition, compileBindingInput, compiledRuntimePlanFragment }

/-! ### The plan -/

section

variable (library : DocumentLibrary) (localeCompare : String → String → Int)

/-- The clients that the agent runtime renders when the servers are handed to it. -/
def renderRuntimeClients (input : CompileRuntimePlanInput κ ρ)
    (runtimeDefinition : AgentRuntimeDefinition κ ρ) (egressRoutes : List ρ)
    (mcpServers : List ResolvedIntegrationMcpServer) : Compiler (List RuntimeClient) :=
  match runtimeDefinition.emptyConfig with
  | none => compilerError .invalidAgentRuntimeConfig
      s!"Sandbox profile has invalid config for agent runtime '{input.agentRuntimeId}'."
  | some parsedRuntimeConfig => do
    let compileAgentRuntimeResult ← runtimeDefinition.compileRuntime {
      organizationId := input.organizationId
      sandboxProfileId := input.sandboxProfileId
      version := input.version
      runtimeId := input.agentRuntimeId
      runtimeConfig := parsedRuntimeConfig
      mcpServers
      mergeRuntimeSetupFiles := input.mergeRuntimeSetupFiles }
    match compileAgentRuntimeResult.renderRuntimeClients with
    | none => return compileAgentRuntimeResult.runtimeClients.getD []
    | some render =>
      match render egressRoutes with
      | .ok renderedRuntimeClients => return renderedRuntimeClients
      | .error causeMessage =>
        compilerError .invalidAgentRuntimeConfig
          (s!"Agent runtime '{input.agentRuntimeId}' failed to render runtime clients." ++
            (causeMessage.map fun message => " " ++ message).getD "")

structure CompiledRuntimePlan where
  sandboxProfileId : String
  version : Nat
  runtimeClients : List RuntimeClient

/-- A plan with what it was compiled from: the bindings, the servers that were handed to the
    agent runtime, and what the runtime is and rendered. -/
structure RuntimePlanCompilation (κ ρ : Type) where
  preparedBindings : List (PreparedBindingContext κ ρ)
  resolvedMcpServers : List ResolvedIntegrationMcpServer
  runtimeDefinition : AgentRuntimeDefinition κ ρ
  renderedRuntimeClients : List RuntimeClient
  plan : CompiledRuntimePlan

def compileRuntimePlan (input : CompileRuntimePlanInput κ ρ) :
    Compiler (RuntimePlanCompilation κ ρ) := do
  let preparedBindings ← input.bindings.mapM (prepareBinding input)
  let bindingMcpServers ← collectResolvedMcpServers localeCompare preparedBindings
  let bindingFragments ← applyMcpMappings library preparedBindings bindingMcpServers
  let resolvedMcpServers := sortByKey localeCompare
    (fun mcpServer : ResolvedIntegrationMcpServer => mcpServer.server.serverName)
    (bindingMcpServers ++ input.mcpServers.getD [])
  let egressRoutes := bindingFragments.flatMap (fun fragment => fragment.egressRoutes) ++
    input.egressRoutes.getD []
  match input.definitions.getRuntime input.agentRuntimeId with
  | none =>
    compilerError .agentRuntimeNotFound
      s!"Sandbox profile references unknown agent runtime '{input.agentRuntimeId}'."
  | some runtimeDefinition => do
    let renderedRuntimeClients ← renderRuntimeClients input runtimeDefinition egressRoutes
      resolvedMcpServers
    let agentRuntimeClients ← applyAgentRuntimeMcpMappings library input.agentRuntimeId
      renderedRuntimeClients (runtimeDefinition.materializeMcpConfig.getD []) resolvedMcpServers
    let runtimeClients ← mergeRuntimeClients localeCompare (resolveRuntimeClients
      (bindingFragments.flatMap (fun fragment => fragment.runtimeClients) ++ agentRuntimeClients))
    return {
      preparedBindings
      resolvedMcpServers
      runtimeDefinition
      renderedRuntimeClients
      plan := {
        sandboxProfileId := input.sandboxProfileId
        version := input.version
        runtimeClients } }

end

end Mistle
