import Mathlib.Data.List.Basic
import Mistle.Proxy.Decision

/-!
# Idempotency of the OpenCode Proxy

A request for OpenCode comes with a method, a path and a body, and perhaps with a
key. The proxy checks that the request is of the kind the key is for and gives a
submitted payload the message id that belongs to its key. A request that fails
before OpenCode has answered is forgotten, so that it may be tried again.

## Main definitions

* `isCreateSessionPath`, `parseSubmitSessionId`: What a path asks for.
* `openCodeRequest`: What a request asks for.
* `StoredOpenCodeProxyResponse`: What is kept of an answer.
* `prepareOpenCodeIdempotency`, `completeSubmitIdempotency`,
  `deleteStartedSubmitIdempotency`: The source's operations.

## Theorems

* `readOpenCodeResponse_toJson`: A kept answer is read back.
-/

namespace Mistle

/-- An answer: its headers are in the order of their names. -/
structure StoredOpenCodeProxyResponse where
  status : UInt16
  headers : List (String × String)
  body : String
  deriving DecidableEq

structure StartedOpenCodeOperation where
  idempotency : ProxyIdempotency
  messageId : Option String
  operation : IdempotencyOperation
  providerConversationId : Option String
  deriving DecidableEq

inductive OpenCodeIdempotencyAction where
  | disabled
  | forward (started : StartedOpenCodeOperation)
  | replay (response : StoredOpenCodeProxyResponse)
  | reject (status : Nat) (message : String)
  deriving DecidableEq

/-- The request that an action is wanted for. -/
structure PrepareSubmitIdempotencyInput where
  body : Option (Json String)
  idempotency : Option ProxyIdempotency
  method : String
  path : String

def StoredOpenCodeProxyResponse.toJson (response : StoredOpenCodeProxyResponse) : Json String :=
  .obj [
    ("status", .int response.status.toNat),
    ("headers", .obj (response.headers.map fun header => (header.1, .str header.2))),
    ("body", .str response.body)]

/-- The fields of an object whose values are all texts. -/
def textFields? : Json String → Option (List (String × String))
  | .obj fields => fields.mapM fun field => field.2.str?.map fun text => (field.1, text)
  | _ => none

def storedOpenCodeProxyResponse? (document : Json String) :
    Option StoredOpenCodeProxyResponse := do
  let fields ← strictFields ["status", "headers", "body"] document
  let status ← field fields "status" u16?
  let headers ← field fields "headers" textFields?
  let body ← field fields "body" Json.str?
  return { status, headers, body }

/-- What `OpenCodeProxyError::ConfigureRuntime` shows. -/
def openCodeConfigureRuntime (error : String) : String :=
  s!"failed to configure OpenCode proxy runtime: {error}"

/-! ### Requests -/

/-- The parts of a path before its query that are not empty. -/
def pathParts (path : String) : List String :=
  let withoutQuery := match splitOnce '?' path.toList with
    | some (path, _) => path
    | none => path.toList
  ((withoutQuery.splitOn '/').filter fun part => !part.isEmpty).map String.ofList

def isCreateSessionPath (path : String) : Bool :=
  pathParts path == ["session"]

def parseSubmitSessionId (path : String) : Option String :=
  match pathParts path with
  | ["session", sessionId, submitEndpoint] =>
    if submitEndpoint = "message" ∨ submitEndpoint = "prompt_async" then some sessionId else none
  | _ => none

def isObject : Json String → Bool
  | .obj _ => true
  | _ => false

section

variable (sha : Sha256) (serde : SerdeJson)

/-- The message id that belongs to a key. -/
def deterministicMessageId (key : String) : String :=
  "msg_mistle_" ++ String.ofList (hexLower (sha.digest (utf8 key)))

def createConversationRequest (input : PrepareSubmitIdempotencyInput)
    (idempotency : ProxyIdempotency) :
    Except OpenCodeIdempotencyAction StartedOpenCodeOperation := do
  if input.method ≠ "POST" then
    throw (.reject 400 "OpenCode createConversation idempotency requires a POST request.")
  if !isCreateSessionPath input.path then
    throw (.reject 400 "OpenCode createConversation idempotency requires a /session request.")
  if input.body.any (!isObject ·) then
    throw (.reject 400
      "OpenCode createConversation idempotency requires a JSON object request body.")
  return {
    idempotency, operation := .createConversation, providerConversationId := none
    messageId := none }

/-- A body with the message id of a key, unless it has another one. -/
def bodyWithMessageId (messageId : String) (fields : Fields) :
    Except OpenCodeIdempotencyAction (Json String) :=
  match Json.lookup "messageID" fields with
  | some (.str existingMessageId) =>
    if existingMessageId = messageId then .ok (.obj fields)
    else .error (.reject 409 ("OpenCode submitPayload idempotency messageID conflicts with " ++
      "the deterministic idempotency messageID."))
  | some _ => .error (.reject 400
      "OpenCode submitPayload idempotency messageID must be a string when provided.")
  | none => .ok ((Json.obj fields).set "messageID" (.str messageId))

def submitRequest (input : PrepareSubmitIdempotencyInput) (idempotency : ProxyIdempotency) :
    Except OpenCodeIdempotencyAction (StartedOpenCodeOperation × Json String) := do
  if input.method ≠ "POST" then
    throw (.reject 400 "OpenCode submitPayload idempotency requires a POST request.")
  let providerConversationId ← match parseSubmitSessionId input.path with
    | some sessionId => .ok sessionId
    | none => .error (.reject 400 ("OpenCode submitPayload idempotency requires a " ++
        "/session/\x7bsessionId\x7d/message or /session/\x7bsessionId\x7d/prompt_async request."))
  match input.body with
  | some (.obj fields) =>
    let messageId := deterministicMessageId sha idempotency.key
    let body ← bodyWithMessageId messageId fields
    return ({
      idempotency, operation := .submitPayload
      providerConversationId := some providerConversationId
      messageId := some messageId }, body)
  | _ => throw (.reject 400
      "OpenCode submitPayload idempotency requires a JSON object request body.")

/-- What a request asks for, and the body that goes on if it does. -/
def openCodeRequest (input : PrepareSubmitIdempotencyInput) :
    Except OpenCodeIdempotencyAction (StartedOpenCodeOperation × Option (Json String)) :=
  match input.idempotency with
  | none => .error .disabled
  | some idempotency =>
    match idempotency.operation with
    | .createConversation =>
      (createConversationRequest input idempotency).map fun started => (started, input.body)
    | .submitPayload =>
      (submitRequest sha input idempotency).map fun (started, body) => (started, some body)

/-- What an operation is called in the texts for it. -/
def openCodeLabel : IdempotencyOperation → String
  | .createConversation => "OpenCode createConversation"
  | .submitPayload => "OpenCode submitPayload"

def readOpenCodeResponse (document : Json String) : Except String StoredOpenCodeProxyResponse :=
  match storedOpenCodeProxyResponse? document with
  | some response => .ok response
  | none => .error (serde.fromValueError "StoredOpenCodeProxyResponse" document)

def storeErrorStatus : IdempotencyStoreError → Nat
  | .record (.fingerprintConflict _ _ _) => 409
  | _ => 500

/-- The action that a decision of the store leads to. -/
def openCodeAction (started : StartedOpenCodeOperation) :
    Decision StoredOpenCodeProxyResponse → OpenCodeIdempotencyAction :=
  let label := openCodeLabel started.operation
  fun
  | .forward => .forward started
  | .replay response => .replay response
  | .storeError error => .reject (storeErrorStatus error) (toString error)
  | .notStarted key =>
    .reject 500 s!"{label} idempotency key '{key}' did not start in started status."
  | .conflict error => .reject 409 (toString error)
  | .invalidResponse error => .reject 500 s!"{label} idempotency response is invalid: {error}"
  | .missingResponse key =>
    .reject 500 s!"{label} idempotency key '{key}' completed without a response."
  | .unresolved key status =>
    .reject 409 s!"{label} idempotency key '{key}' has unresolved status {status.debug}."

variable (fault : Option Fault) (disk : Disk)

/-- The action for a request, and the body that goes on with it. -/
def prepareOpenCodeIdempotency (store : Option IdempotencyStore)
    (input : PrepareSubmitIdempotencyInput) (now : Except String String) :
    OpenCodeIdempotencyAction × Option (Json String) × Disk × Option IdempotencyStore :=
  match openCodeRequest sha input with
  | .error action => (action, input.body, disk, store)
  | .ok (started, body) =>
    match store with
    | none =>
      let label := openCodeLabel started.operation
      (.reject 500 s!"{label} idempotency store is not configured.", body, disk, none)
    | some store =>
      match now with
      | .error error => (.reject 500 (openCodeConfigureRuntime error), body, disk, some store)
      | .ok now =>
        let (decision, disk, store) := decideRequest (readOpenCodeResponse serde) sha fault disk
          store .openCode { started.idempotency with operation := started.operation } now
        (openCodeAction started decision, body, disk, some store)

/-- The id of the session that an answer says was created. -/
def extractCreatedSessionId (response : StoredOpenCodeProxyResponse) :
    Except String (Option String) :=
  if response.status < 200 ∨ response.status ≥ 300 then .ok none
  else match serde.fromStr response.body with
    | .error error => .error (openCodeConfigureRuntime error)
    | .ok body =>
      match (body.get? "id").bind Json.str? with
      | some id => .ok (some id)
      | none => .error (openCodeConfigureRuntime
          ("OpenCode createConversation idempotency requires successful /session responses to " ++
            "include a string id."))

/-- What an answer is kept with. -/
def openCodeCompletion (started : StartedOpenCodeOperation)
    (response : StoredOpenCodeProxyResponse) (now : String) :
    Except String CompleteIdempotencyOperation := do
  let providerConversationId ← match started.operation with
    | .createConversation =>
      (extractCreatedSessionId serde response).map (·.or started.providerConversationId)
    | .submitPayload => .ok started.providerConversationId
  return {
    requestFingerprint := started.idempotency.requestFingerprint
    providerConversationId
    providerExecutionId := match started.operation with
      | .createConversation => none
      | .submitPayload => providerConversationId.map fun id => s!"opencode-session:{id}"
    runtimeArtifactHint := started.messageId.map fun id => .obj [("messageId", .str id)]
    response := response.toJson
    now }

/-- Keep the answer to a request that was forwarded. -/
def completeSubmitIdempotency (store : IdempotencyStore) (started : StartedOpenCodeOperation)
    (response : StoredOpenCodeProxyResponse) (now : Except String String) :
    Except String Unit × Disk × IdempotencyStore :=
  match now with
  | .error error => (.error (openCodeConfigureRuntime error), disk, store)
  | .ok now =>
    match openCodeCompletion serde started response now with
    | .error error => (.error error, disk, store)
    | .ok completion =>
      let outcome := store.markCompleted sha fault disk
        ⟨.openCode, started.operation, started.idempotency.key⟩ completion
      let result := match outcome.result with
        | .ok _ => .ok ()
        | .error error => .error (openCodeConfigureRuntime (toString error))
      (result, outcome.disk, outcome.store)

/-- Forget a request that was forwarded and not answered. -/
def deleteStartedSubmitIdempotency (store : IdempotencyStore)
    (started : StartedOpenCodeOperation) : Except String Unit × Disk × IdempotencyStore :=
  let outcome := store.deleteStarted sha fault disk
    ⟨.openCode, started.operation, started.idempotency.key⟩
    started.idempotency.requestFingerprint
  let result := match outcome.result with
    | .ok _ => .ok ()
    | .error error => .error (openCodeConfigureRuntime (toString error))
  (result, outcome.disk, outcome.store)

theorem bodyWithMessageId_ne_forward {messageId : String} {fields : Fields}
    {action : OpenCodeIdempotencyAction} (h : bodyWithMessageId messageId fields = .error action)
    (started : StartedOpenCodeOperation) : action ≠ .forward started := by
  unfold bodyWithMessageId at h
  split at h
  · split at h
    · exact absurd h (by simp only [reduceCtorEq, not_false_eq_true])
    · rw [← Except.error.inj h]
      simp only [ne_eq, reduceCtorEq, not_false_eq_true]
  · rw [← Except.error.inj h]
    simp only [ne_eq, reduceCtorEq, not_false_eq_true]
  · exact absurd h (by simp only [reduceCtorEq, not_false_eq_true])

theorem createConversationRequest_ne_forward {input : PrepareSubmitIdempotencyInput}
    {idempotency : ProxyIdempotency} {action : OpenCodeIdempotencyAction}
    (h : createConversationRequest input idempotency = .error action)
    (started : StartedOpenCodeOperation) : action ≠ .forward started := by
  rintro rfl
  unfold createConversationRequest at h
  by_cases hmethod : input.method ≠ "POST"
  · simp only [if_pos hmethod, bind, Except.bind, throw, throwThe, MonadExceptOf.throw,
      Except.error.injEq, reduceCtorEq] at h
  · by_cases hpath : (!isCreateSessionPath input.path) = true
    · simp only [if_neg hmethod, if_pos hpath, bind, Except.bind, throw, throwThe,
        MonadExceptOf.throw, pure, Except.pure, Except.error.injEq, reduceCtorEq] at h
    · by_cases hbody : (input.body.any (!isObject ·)) = true
      · simp only [if_neg hmethod, if_neg hpath, if_pos hbody, bind, Except.bind, throw, throwThe,
          MonadExceptOf.throw, pure, Except.pure, Except.error.injEq, reduceCtorEq] at h
      · simp only [if_neg hmethod, if_neg hpath, if_neg hbody, bind, Except.bind, pure,
          Except.pure, reduceCtorEq] at h

theorem submitRequest_ne_forward {input : PrepareSubmitIdempotencyInput}
    {idempotency : ProxyIdempotency} {action : OpenCodeIdempotencyAction}
    (h : submitRequest sha input idempotency = .error action)
    (started : StartedOpenCodeOperation) : action ≠ .forward started := by
  rintro rfl
  unfold submitRequest at h
  by_cases hmethod : input.method ≠ "POST"
  · simp only [if_pos hmethod, bind, Except.bind, throw, throwThe, MonadExceptOf.throw,
      Except.error.injEq, reduceCtorEq] at h
  · cases hsession : parseSubmitSessionId input.path with
    | none =>
        simp only [if_neg hmethod, hsession, bind, Except.bind, Except.error.injEq,
          reduceCtorEq] at h
    | some sessionId =>
        simp only [if_neg hmethod, hsession, bind, Except.bind, pure, Except.pure] at h
        split at h
        · rename_i fields hfields
          cases hbody : bodyWithMessageId (deterministicMessageId sha idempotency.key) fields with
          | error action =>
              rw [hbody] at h
              exact bodyWithMessageId_ne_forward hbody started (Except.error.inj h)
          | ok body =>
              rw [hbody] at h
              exact absurd h (by simp only [reduceCtorEq, not_false_eq_true])
        · exact absurd (Except.error.inj h) (by simp only [reduceCtorEq, not_false_eq_true])

/-- A request that is not an operation is not forwarded as one. -/
theorem openCodeRequest_ne_forward {input : PrepareSubmitIdempotencyInput}
    {action : OpenCodeIdempotencyAction} (h : openCodeRequest sha input = .error action)
    (started : StartedOpenCodeOperation) : action ≠ .forward started := by
  unfold openCodeRequest at h
  cases hidempotency : input.idempotency with
  | none =>
      rw [hidempotency] at h
      rw [← Except.error.inj h]
      simp only [ne_eq, reduceCtorEq, not_false_eq_true]
  | some idempotency =>
      rw [hidempotency] at h
      simp only at h
      cases hoperation : idempotency.operation with
      | createConversation =>
          rw [hoperation] at h
          cases hrequest : createConversationRequest input idempotency with
          | ok started =>
              rw [hrequest] at h
              exact absurd h (by simp only [Except.map, reduceCtorEq, not_false_eq_true])
          | error action' =>
              rw [hrequest] at h
              rw [← Except.error.inj h]
              exact createConversationRequest_ne_forward hrequest started
      | submitPayload =>
          rw [hoperation] at h
          cases hrequest : submitRequest sha input idempotency with
          | ok started =>
              rw [hrequest] at h
              exact absurd h (by simp only [Except.map, reduceCtorEq, not_false_eq_true])
          | error action' =>
              rw [hrequest] at h
              rw [← Except.error.inj h]
              exact submitRequest_ne_forward sha hrequest started

theorem textFields?_toJson (headers : List (String × String)) :
    textFields? (.obj (headers.map fun header => (header.1, .str header.2))) = some headers := by
  simp only [textFields?]
  induction headers with
  | nil => rfl
  | cons header headers ih =>
      rw [List.map_cons, List.mapM_cons, ih]
      rfl

/-- A kept answer is read back. -/
theorem readOpenCodeResponse_toJson (response : StoredOpenCodeProxyResponse) :
    readOpenCodeResponse serde response.toJson = .ok response := by
  have hstatus : u16? (.int response.status.toNat) = some response.status := by
    have hlt : response.status.toNat < UInt16.size := response.status.toNat_lt
    unfold u16?
    change (if response.status.toNat < UInt16.size then some response.status.toNat else none).map
      _ = _
    rw [if_pos hlt, Option.map_some, UInt16.ofNat_toNat]
  have hread : storedOpenCodeProxyResponse? response.toJson = some response := by
    have hfields : strictFields ["status", "headers", "body"] response.toJson = some [
        ("status", .int response.status.toNat),
        ("headers", .obj (response.headers.map fun header => (header.1, .str header.2))),
        ("body", .str response.body)] := rfl
    unfold storedOpenCodeProxyResponse?
    rw [hfields]
    simp only [Option.bind_eq_bind, Option.bind_some]
    rw [field_of_lookup rfl, hstatus, Option.bind_some]
    rw [field_of_lookup rfl, textFields?_toJson, Option.bind_some]
    rw [field_of_lookup rfl, Json.str?, Option.bind_some]
    rfl
  unfold readOpenCodeResponse
  rw [hread]

/-- What an answer is kept with is never `null`. -/
theorem openCodeCompletion_ok {started : StartedOpenCodeOperation}
    {response : StoredOpenCodeProxyResponse} {now : String}
    {completion : CompleteIdempotencyOperation}
    (h : openCodeCompletion serde started response now = .ok completion) :
    completion.response = response.toJson ∧ completion.runtimeArtifactHint ≠ some .null := by
  have hhint : (started.messageId.map fun id => Json.obj [("messageId", Json.str id)])
      ≠ some .null := by
    cases started.messageId with
    | none => simp only [Option.map_none, ne_eq, reduceCtorEq, not_false_eq_true]
    | some id => simp only [Option.map_some, ne_eq, Option.some.injEq, reduceCtorEq,
        not_false_eq_true]
  unfold openCodeCompletion at h
  cases hoperation : started.operation with
  | createConversation =>
      rw [hoperation] at h
      cases hcreated : extractCreatedSessionId serde response with
      | error error =>
          simp only [hcreated, Except.map, bind, Except.bind, reduceCtorEq] at h
      | ok created =>
          simp only [hcreated, Except.map, bind, Except.bind, pure, Except.pure,
            Except.ok.injEq] at h
          rw [← h]
          exact ⟨rfl, hhint⟩
  | submitPayload =>
      rw [hoperation] at h
      simp only [bind, Except.bind, pure, Except.pure, Except.ok.injEq] at h
      rw [← h]
      exact ⟨rfl, hhint⟩

end

end Mistle
