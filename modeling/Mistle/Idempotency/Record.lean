import Mistle.Protocol.Serde

/-!
# Idempotency Records

What sandboxd remembers of a request that must not reach an agent runtime twice:
its key and fingerprint, how far it came, and the response once there is one. A
record moves from started, perhaps over accepted, to completed, and never back.

## Main definitions

* `IdempotencyRecord`: One remembered request.
* `IdempotencyRecord.started`, `IdempotencyRecord.markAccepted`,
  `IdempotencyRecord.markCompleted`: How a record comes to be and moves.
* `IdempotencyRecord.classifyRepeatedRequest`: What a record says to a request.
* `IdempotencyRecord.toJson`, `idempotencyRecord?`: The record as a document.
* `IdempotencyRecord.Storable`: A record that its document determines.

## Theorems

* `idempotencyRecord?_toJson`: What is read from the document of a record.
* `readBack_eq_self`: A storable record is read back as it was.
* `classifyRepeatedRequest_of_same`, `classifyRepeatedRequest_of_different`: Its answer.
* `markAccepted_ok`, `markCompleted_ok`: When a record moves.
* `completed_keeps`, `completed_status`: What completing keeps and what it sets.
-/

namespace Mistle

def currentIdempotencyRecordVersion : UInt8 := 1

inductive AgentRuntimeId where
  | codex
  | openCode
  | pi
  deriving DecidableEq

inductive IdempotencyOperation where
  | createConversation
  | submitPayload
  deriving DecidableEq

inductive IdempotencyRecordStatus where
  | started
  | accepted
  | completed
  deriving DecidableEq

structure RequestFingerprint where
  value : String
  deriving DecidableEq

structure IdempotencyRecord where
  version : UInt8
  key : String
  runtimeId : AgentRuntimeId
  operation : IdempotencyOperation
  requestFingerprint : RequestFingerprint
  status : IdempotencyRecordStatus
  providerConversationId : Option String
  providerExecutionId : Option String
  runtimeArtifactHint : Option (Json String)
  createdAt : String
  updatedAt : String
  response : Option (Json String)
  deriving DecidableEq

structure StartIdempotencyOperation where
  key : String
  runtimeId : AgentRuntimeId
  operation : IdempotencyOperation
  requestFingerprint : RequestFingerprint
  now : String

structure AcceptIdempotencyOperation where
  requestFingerprint : RequestFingerprint
  providerConversationId : Option String
  providerExecutionId : Option String
  runtimeArtifactHint : Option (Json String)
  now : String

structure CompleteIdempotencyOperation where
  requestFingerprint : RequestFingerprint
  providerConversationId : Option String
  providerExecutionId : Option String
  runtimeArtifactHint : Option (Json String)
  response : Json String
  now : String

inductive IdempotencyRecordError where
  | fingerprintConflict (key : String) (existing received : RequestFingerprint)
  | invalidTransition (source target : IdempotencyRecordStatus)
  | providerMetadataConflict (field : String)
  deriving DecidableEq

/-! ### Names of variants -/

/-- The name that a status is shown as. -/
def IdempotencyRecordStatus.debug : IdempotencyRecordStatus → String
  | .started => "Started"
  | .accepted => "Accepted"
  | .completed => "Completed"

def AgentRuntimeId.debug : AgentRuntimeId → String
  | .codex => "Codex"
  | .openCode => "OpenCode"
  | .pi => "Pi"

def IdempotencyOperation.debug : IdempotencyOperation → String
  | .createConversation => "CreateConversation"
  | .submitPayload => "SubmitPayload"

instance : ToString IdempotencyRecordError where
  toString
    | .fingerprintConflict key existing received =>
      s!"idempotency key '{key}' was reused with a different request fingerprint: " ++
        s!"existing={existing.value}, received={received.value}"
    | .invalidTransition source target =>
      s!"invalid idempotency record transition from {source.debug} to {target.debug}"
    | .providerMetadataConflict field =>
      s!"completion metadata field '{field}' conflicts with accepted idempotency record metadata"

namespace IdempotencyRecord

/-! ### Transitions -/

def started (input : StartIdempotencyOperation) : IdempotencyRecord where
  version := currentIdempotencyRecordVersion
  key := input.key
  runtimeId := input.runtimeId
  operation := input.operation
  requestFingerprint := input.requestFingerprint
  status := .started
  providerConversationId := none
  providerExecutionId := none
  runtimeArtifactHint := none
  createdAt := input.now
  updatedAt := input.now
  response := none

def ensureSameFingerprint (record : IdempotencyRecord) (requestFingerprint : RequestFingerprint) :
    Except IdempotencyRecordError Unit :=
  if record.requestFingerprint = requestFingerprint then .ok ()
  else .error (.fingerprintConflict record.key record.requestFingerprint requestFingerprint)

/-- What a record says to a request with its key: how far the first one came. -/
def classifyRepeatedRequest (record : IdempotencyRecord)
    (requestFingerprint : RequestFingerprint) :
    Except IdempotencyRecordError IdempotencyRecordStatus := do
  record.ensureSameFingerprint requestFingerprint
  return record.status

def markAccepted (record : IdempotencyRecord) (input : AcceptIdempotencyOperation) :
    Except IdempotencyRecordError IdempotencyRecord := do
  record.ensureSameFingerprint input.requestFingerprint
  if record.status ≠ .started then
    throw (.invalidTransition record.status .accepted)
  return { record with
    status := .accepted
    providerConversationId := input.providerConversationId
    providerExecutionId := input.providerExecutionId
    runtimeArtifactHint := input.runtimeArtifactHint
    updatedAt := input.now }

def ensureCompletionMetadataMatchesAccepted (record : IdempotencyRecord)
    (input : CompleteIdempotencyOperation) : Except IdempotencyRecordError Unit :=
  if record.providerConversationId ≠ input.providerConversationId then
    .error (.providerMetadataConflict "provider_conversation_id")
  else if record.providerExecutionId ≠ input.providerExecutionId then
    .error (.providerMetadataConflict "provider_execution_id")
  else if record.runtimeArtifactHint ≠ input.runtimeArtifactHint then
    .error (.providerMetadataConflict "runtime_artifact_hint")
  else .ok ()

/-- A record completed with a response. An accepted record keeps its metadata. -/
def completed (record : IdempotencyRecord) (input : CompleteIdempotencyOperation) :
    IdempotencyRecord :=
  let next := { record with
    status := .completed, response := some input.response, updatedAt := input.now }
  if record.status = .started then
    { next with
      providerConversationId := input.providerConversationId
      providerExecutionId := input.providerExecutionId
      runtimeArtifactHint := input.runtimeArtifactHint }
  else next

def markCompleted (record : IdempotencyRecord) (input : CompleteIdempotencyOperation) :
    Except IdempotencyRecordError IdempotencyRecord := do
  record.ensureSameFingerprint input.requestFingerprint
  if record.status = .completed then
    throw (.invalidTransition record.status .completed)
  if record.status = .accepted then
    record.ensureCompletionMetadataMatchesAccepted input
  return record.completed input

theorem ensureSameFingerprint_ok {record : IdempotencyRecord} {fingerprint : RequestFingerprint}
    {u : Unit} (h : record.ensureSameFingerprint fingerprint = .ok u) :
    record.requestFingerprint = fingerprint := by
  unfold ensureSameFingerprint at h
  by_cases hsame : record.requestFingerprint = fingerprint
  · exact hsame
  · simp only [if_neg hsame, reduceCtorEq] at h

theorem classifyRepeatedRequest_of_same {record : IdempotencyRecord}
    {fingerprint : RequestFingerprint} (h : record.requestFingerprint = fingerprint) :
    record.classifyRepeatedRequest fingerprint = .ok record.status := by
  unfold classifyRepeatedRequest ensureSameFingerprint
  rw [if_pos h]
  rfl

theorem classifyRepeatedRequest_of_different {record : IdempotencyRecord}
    {fingerprint : RequestFingerprint} (h : record.requestFingerprint ≠ fingerprint) :
    record.classifyRepeatedRequest fingerprint
      = .error (.fingerprintConflict record.key record.requestFingerprint fingerprint) := by
  unfold classifyRepeatedRequest ensureSameFingerprint
  rw [if_neg h]
  rfl

theorem markAccepted_ok {record next : IdempotencyRecord} {input : AcceptIdempotencyOperation}
    (h : record.markAccepted input = .ok next) :
    record.requestFingerprint = input.requestFingerprint ∧ record.status = .started ∧
      next = { record with
        status := .accepted
        providerConversationId := input.providerConversationId
        providerExecutionId := input.providerExecutionId
        runtimeArtifactHint := input.runtimeArtifactHint
        updatedAt := input.now } := by
  unfold markAccepted at h
  cases hsame : record.ensureSameFingerprint input.requestFingerprint with
  | error e => simp only [hsame, bind, Except.bind, reduceCtorEq] at h
  | ok _ =>
      by_cases hstarted : record.status = .started
      · simp only [hsame, hstarted, ne_eq, not_true_eq_false, if_false, bind, Except.bind, pure,
          Except.pure, Except.ok.injEq] at h
        exact ⟨ensureSameFingerprint_ok hsame, hstarted, h.symm⟩
      · simp only [hsame, hstarted, ne_eq, not_false_eq_true, if_true, bind, Except.bind, throw,
          throwThe, MonadExceptOf.throw, reduceCtorEq] at h

theorem markCompleted_ok {record next : IdempotencyRecord} {input : CompleteIdempotencyOperation}
    (h : record.markCompleted input = .ok next) :
    record.requestFingerprint = input.requestFingerprint ∧ record.status ≠ .completed ∧
      next = record.completed input := by
  unfold markCompleted at h
  cases hsame : record.ensureSameFingerprint input.requestFingerprint with
  | error e => simp only [hsame, bind, Except.bind, reduceCtorEq] at h
  | ok _ =>
      by_cases hcompleted : record.status = .completed
      · simp only [hsame, hcompleted, if_true, bind, Except.bind, throw, throwThe,
          MonadExceptOf.throw, reduceCtorEq] at h
      · refine ⟨ensureSameFingerprint_ok hsame, hcompleted, ?_⟩
        by_cases haccepted : record.status = .accepted
        · cases hmatches : record.ensureCompletionMetadataMatchesAccepted input with
          | error e =>
              simp only [hsame, haccepted, hmatches, if_true, if_false, bind, Except.bind,
                reduceCtorEq] at h
          | ok _ =>
              simp only [hsame, haccepted, hmatches, if_true, if_false, bind, Except.bind, pure,
                Except.pure, reduceCtorEq, Except.ok.injEq] at h
              exact h.symm
        · simp only [hsame, hcompleted, haccepted, if_false, bind, Except.bind, pure, Except.pure,
            Except.ok.injEq] at h
          exact h.symm

/-- Completing leaves a record what it was about. -/
theorem completed_keeps (record : IdempotencyRecord) (input : CompleteIdempotencyOperation) :
    (record.completed input).key = record.key ∧
      (record.completed input).runtimeId = record.runtimeId ∧
      (record.completed input).operation = record.operation ∧
      (record.completed input).version = record.version ∧
      (record.completed input).requestFingerprint = record.requestFingerprint := by
  unfold completed
  by_cases hstarted : record.status = .started
  · rw [if_pos hstarted]
    exact ⟨rfl, rfl, rfl, rfl, rfl⟩
  · rw [if_neg hstarted]
    exact ⟨rfl, rfl, rfl, rfl, rfl⟩

theorem completed_status (record : IdempotencyRecord) (input : CompleteIdempotencyOperation) :
    (record.completed input).status = .completed ∧
      (record.completed input).response = some input.response := by
  unfold completed
  by_cases hstarted : record.status = .started
  · rw [if_pos hstarted]
    exact ⟨rfl, rfl⟩
  · rw [if_neg hstarted]
    exact ⟨rfl, rfl⟩

end IdempotencyRecord

/-! ### Documents -/

def AgentRuntimeId.toJson : AgentRuntimeId → Json String
  | .codex => .str "codex"
  | .openCode => .str "opencode"
  | .pi => .str "pi"

def agentRuntimeId? : Json String → Option AgentRuntimeId
  | .str "codex" => some .codex
  | .str "opencode" => some .openCode
  | .str "pi" => some .pi
  | _ => none

def IdempotencyOperation.toJson : IdempotencyOperation → Json String
  | .createConversation => .str "create_conversation"
  | .submitPayload => .str "submit_payload"

def idempotencyOperation? : Json String → Option IdempotencyOperation
  | .str "create_conversation" => some .createConversation
  | .str "submit_payload" => some .submitPayload
  | _ => none

def IdempotencyRecordStatus.toJson : IdempotencyRecordStatus → Json String
  | .started => .str "started"
  | .accepted => .str "accepted"
  | .completed => .str "completed"

def idempotencyRecordStatus? : Json String → Option IdempotencyRecordStatus
  | .str "started" => some .started
  | .str "accepted" => some .accepted
  | .str "completed" => some .completed
  | _ => none

/-- An absent value is written as `null`. -/
def optionJson {α : Type} (write : α → Json String) : Option α → Json String
  | none => .null
  | some a => write a

def idempotencyRecordFields : List String :=
  ["version", "key", "runtimeId", "operation", "requestFingerprint", "status",
    "providerConversationId", "providerExecutionId", "runtimeArtifactHint", "createdAt",
    "updatedAt", "response"]

def IdempotencyRecord.toJson (record : IdempotencyRecord) : Json String :=
  .obj [
    ("version", .int record.version.toNat),
    ("key", .str record.key),
    ("runtimeId", record.runtimeId.toJson),
    ("operation", record.operation.toJson),
    ("requestFingerprint", .str record.requestFingerprint.value),
    ("status", record.status.toJson),
    ("providerConversationId", optionJson .str record.providerConversationId),
    ("providerExecutionId", optionJson .str record.providerExecutionId),
    ("runtimeArtifactHint", optionJson id record.runtimeArtifactHint),
    ("createdAt", .str record.createdAt),
    ("updatedAt", .str record.updatedAt),
    ("response", optionJson id record.response)]

def idempotencyRecord? (document : Json String) : Option IdempotencyRecord := do
  let fields ← structFields idempotencyRecordFields document
  let version ← field fields "version" fun j => (j.nat? UInt8.size).map UInt8.ofNat
  let key ← field fields "key" Json.str?
  let runtimeId ← field fields "runtimeId" agentRuntimeId?
  let operation ← field fields "operation" idempotencyOperation?
  let requestFingerprint ← field fields "requestFingerprint" Json.str?
  let status ← field fields "status" idempotencyRecordStatus?
  let providerConversationId ← optionField fields "providerConversationId" Json.str?
  let providerExecutionId ← optionField fields "providerExecutionId" Json.str?
  let runtimeArtifactHint ← optionField fields "runtimeArtifactHint" some
  let createdAt ← field fields "createdAt" Json.str?
  let updatedAt ← field fields "updatedAt" Json.str?
  let response ← optionField fields "response" some
  return {
    version, key, runtimeId, operation, status, providerConversationId, providerExecutionId,
    runtimeArtifactHint, createdAt, updatedAt, response
    requestFingerprint := ⟨requestFingerprint⟩ }

/-- What is read of a value that may be any document: `null` reads as absent. -/
def readBack : Option (Json String) → Option (Json String)
  | some .null => none
  | value => value

/-- The record that is read from a record's document. -/
def IdempotencyRecord.readBack (record : IdempotencyRecord) : IdempotencyRecord :=
  { record with
    runtimeArtifactHint := Mistle.readBack record.runtimeArtifactHint
    response := Mistle.readBack record.response }

/-- Neither of the two values that may be any document is `null`: a `null` that is
    there and a value that is absent are written alike. -/
def IdempotencyRecord.Storable (record : IdempotencyRecord) : Prop :=
  record.runtimeArtifactHint ≠ some .null ∧ record.response ≠ some .null

instance (record : IdempotencyRecord) : Decidable record.Storable :=
  inferInstanceAs (Decidable (_ ∧ _))

theorem readBack_eq_self {value : Option (Json String)} :
    readBack value = value ↔ value ≠ some .null := by
  unfold readBack
  split
  · simp only [reduceCtorEq, ne_eq, not_true_eq_false]
  · rename_i hne
    exact ⟨fun _ h => hne h, fun _ => rfl⟩

theorem IdempotencyRecord.readBack_eq_self (record : IdempotencyRecord) :
    record.readBack = record ↔ record.Storable := by
  unfold readBack Storable
  rw [← Mistle.readBack_eq_self, ← Mistle.readBack_eq_self]
  cases record with
  | mk => simp only [mk.injEq, true_and]

theorem agentRuntimeId?_toJson (runtimeId : AgentRuntimeId) :
    agentRuntimeId? runtimeId.toJson = some runtimeId := by
  cases runtimeId with
  | codex => rfl
  | openCode => rfl
  | pi => rfl

theorem idempotencyOperation?_toJson (operation : IdempotencyOperation) :
    idempotencyOperation? operation.toJson = some operation := by
  cases operation with
  | createConversation => rfl
  | submitPayload => rfl

theorem idempotencyRecordStatus?_toJson (status : IdempotencyRecordStatus) :
    idempotencyRecordStatus? status.toJson = some status := by
  cases status with
  | started => rfl
  | accepted => rfl
  | completed => rfl

theorem optionField_text {fields : Fields} {name : String} {value : Option String}
    (h : Json.lookup name fields = some (optionJson .str value)) :
    optionField fields name Json.str? = some value := by
  unfold optionField
  rw [h]
  cases value with
  | none => rfl
  | some text => rfl

theorem optionField_document {fields : Fields} {name : String} {value : Option (Json String)}
    (h : Json.lookup name fields = some (optionJson id value)) :
    optionField fields name some = some (readBack value) := by
  unfold optionField
  rw [h]
  cases value with
  | none => rfl
  | some document =>
      cases document with
      | null => rfl
      | bool _ | int _ | frac _ | str _ | arr _ | obj _ => rfl

theorem field_of_lookup {α : Type} {fields : Fields} {name : String} {value : Json String}
    (h : Json.lookup name fields = some value) (read : Json String → Option α) :
    field fields name read = read value := by
  rw [field, h, Option.bind_some]

/-- What is read from the document of a record. -/
theorem idempotencyRecord?_toJson (record : IdempotencyRecord) :
    idempotencyRecord? record.toJson = some record.readBack := by
  have hversion : ((Json.int record.version.toNat : Json String).nat? UInt8.size).map UInt8.ofNat
      = some record.version := by
    have hlt : record.version.toNat < UInt8.size := record.version.toNat_lt
    change (if record.version.toNat < UInt8.size then some record.version.toNat else none).map _ = _
    rw [if_pos hlt, Option.map_some, UInt8.ofNat_toNat]
  unfold idempotencyRecord? IdempotencyRecord.toJson structFields
  simp only [Option.bind_eq_bind]
  rw [Option.bind_some, field_of_lookup rfl, hversion, Option.bind_some]
  rw [field_of_lookup rfl, Json.str?, Option.bind_some]
  rw [field_of_lookup rfl, agentRuntimeId?_toJson, Option.bind_some]
  rw [field_of_lookup rfl, idempotencyOperation?_toJson, Option.bind_some]
  rw [field_of_lookup rfl, Json.str?, Option.bind_some]
  rw [field_of_lookup rfl, idempotencyRecordStatus?_toJson, Option.bind_some]
  rw [optionField_text rfl, Option.bind_some, optionField_text rfl, Option.bind_some]
  rw [optionField_document rfl, Option.bind_some]
  rw [field_of_lookup rfl, Json.str?, Option.bind_some]
  rw [field_of_lookup rfl, Json.str?, Option.bind_some]
  rw [optionField_document rfl, Option.bind_some]
  rfl

end Mistle
