import Mistle.Proxy.Decision

/-!
# Idempotency of the Codex Proxy

A client puts an `idempotency` object beside the method of a JSON-RPC request. The
proxy takes it off, and the request goes on to Codex only if the store says so.

## Main definitions

* `takeIdempotency`, `codexRequest`: What a payload asks for.
* `StoredCodexProxyResponse`: What is kept of an answer.
* `prepareCodexIdempotency`, `completeCodexIdempotency`: The source's two ends.

## Theorems

* `readCodexResponse_toJson`: A kept answer is read back.
-/

namespace Mistle

structure StoredCodexProxyResponse where
  payload : Json String
  deriving DecidableEq

structure StartedCodexOperation where
  idempotency : ProxyIdempotency
  operation : IdempotencyOperation
  method : String
  deriving DecidableEq

inductive CodexIdempotencyAction where
  | disabled
  | forward (started : StartedCodexOperation)
  | replay (response : StoredCodexProxyResponse)
  | reject (message : String)
  deriving DecidableEq

def StoredCodexProxyResponse.toJson (response : StoredCodexProxyResponse) : Json String :=
  .obj [("payload", response.payload)]

def storedCodexProxyResponse? (document : Json String) : Option StoredCodexProxyResponse := do
  let fields ← strictFields ["payload"] document
  let payload ← field fields "payload" some
  return { payload }

/-- What `CodexProxyError::ConfigureRuntime` shows. -/
def codexConfigureRuntime (error : String) : String :=
  s!"failed to configure Codex proxy runtime: {error}"

section

variable (sha : Sha256) (serde : SerdeJson)

/-- The idempotency object of a payload, and the payload without it. -/
def takeIdempotency (payload : Json String) :
    Except String (Option ProxyIdempotency) × Json String :=
  match payload with
  | .obj fields =>
    match Json.lookup "idempotency" fields with
    | none => (.ok none, payload)
    | some value =>
      let idempotency := match proxyIdempotency? value with
        | some idempotency => .ok (some idempotency)
        | none =>
          let error := serde.fromValueError "CodexProxyIdempotency" value
          .error s!"Codex idempotency envelope is invalid: {error}"
      (idempotency, .obj (fields.filter fun field => field.1 ≠ "idempotency"))
  | _ => (.ok none, payload)

/-- The operation that a method stands for, if it is the one that is asked for. -/
def codexOperation (operation : IdempotencyOperation) (method : String) :
    Except String IdempotencyOperation :=
  match operation with
  | .createConversation =>
    if method = "thread/start" then .ok .createConversation
    else .error "Codex createConversation idempotency requires thread/start."
  | .submitPayload =>
    if method = "turn/start" ∨ method = "turn/steer" then .ok .submitPayload
    else .error "Codex submitPayload idempotency requires turn/start or turn/steer."

/-- What a payload asks for: nothing, an operation, or something that is refused. -/
def codexRequest (payload : Json String) :
    Except String (Option StartedCodexOperation) × Json String :=
  match takeIdempotency serde payload with
  | (.error message, payload) => (.error message, payload)
  | (.ok none, payload) => (.ok none, payload)
  | (.ok (some idempotency), payload) =>
    match (payload.get? "method").bind Json.str? with
    | none => (.error "Codex proxy idempotency requires a JSON-RPC method.", payload)
    | some method =>
      ((codexOperation idempotency.operation method).map fun operation =>
        some { idempotency, operation, method }, payload)

def readCodexResponse (document : Json String) : Except String StoredCodexProxyResponse :=
  match storedCodexProxyResponse? document with
  | some response => .ok response
  | none => .error (serde.fromValueError "StoredCodexProxyResponse" document)

/-- The action that a decision of the store leads to. -/
def codexAction (started : StartedCodexOperation) :
    Decision StoredCodexProxyResponse → CodexIdempotencyAction
  | .forward => .forward started
  | .replay response => .replay response
  | .storeError error => .reject (codexConfigureRuntime (toString error))
  | .notStarted key => .reject s!"Codex idempotency key '{key}' did not start in started status."
  | .conflict error => .reject (toString error)
  | .invalidResponse error => .reject s!"Codex idempotency response is invalid: {error}"
  | .missingResponse key =>
    .reject s!"Codex idempotency key '{key}' completed without a response."
  | .unresolved key status =>
    .reject s!"Codex idempotency key '{key}' has unresolved status {status.debug}."

variable (fault : Option Fault) (disk : Disk)

/-- The action for a payload, and the payload that may go on to Codex. There may be no
    store, and the clock may give no time. -/
def prepareCodexIdempotency (store : Option IdempotencyStore) (payload : Json String)
    (now : Except String String) :
    CodexIdempotencyAction × Json String × Disk × Option IdempotencyStore :=
  match codexRequest serde payload with
  | (.error message, payload) => (.reject message, payload, disk, store)
  | (.ok none, payload) => (.disabled, payload, disk, store)
  | (.ok (some started), payload) =>
    match store with
    | none => (.reject "Codex idempotency store is not configured.", payload, disk, none)
    | some store =>
      match now with
      | .error error => (.reject (codexConfigureRuntime error), payload, disk, some store)
      | .ok now =>
        let (decision, disk, store) := decideRequest (readCodexResponse serde) sha fault disk
          store .codex { started.idempotency with operation := started.operation } now
        (codexAction started decision, payload, disk, some store)

/-- Keep the answer to a request that was forwarded. -/
def completeCodexIdempotency (store : IdempotencyStore) (started : StartedCodexOperation)
    (response : StoredCodexProxyResponse)
    (providerConversationId providerExecutionId : Option String) (now : Except String String) :
    Except String Unit × Disk × IdempotencyStore :=
  match now with
  | .error error => (.error (codexConfigureRuntime error), disk, store)
  | .ok now =>
    let outcome := store.markCompleted sha fault disk
      ⟨.codex, started.operation, started.idempotency.key⟩ {
        requestFingerprint := started.idempotency.requestFingerprint
        providerConversationId
        providerExecutionId
        runtimeArtifactHint := some (.obj [("method", .str started.method)])
        response := response.toJson
        now }
    let result := match outcome.result with
      | .ok _ => .ok ()
      | .error error => .error (codexConfigureRuntime (toString error))
    (result, outcome.disk, outcome.store)

/-- A kept answer is read back. -/
theorem readCodexResponse_toJson (response : StoredCodexProxyResponse) :
    readCodexResponse serde response.toJson = .ok response := rfl

end

end Mistle
