import Mistle.Idempotency.Store

/-!
# Deciding a Request

The proxies of sandboxd put a request with an idempotency key to the store in the
same way: a request whose key is unknown is recorded as started and forwarded, one
whose key is known gets the recorded response or is refused. They differ in where
the key stands, in the shape of a response and in their texts.

## Main definitions

* `ProxyIdempotency`: The key that comes with a request.
* `Decision`: What the store says to a request.
* `decideStarted`, `decideExisting`, `decideRequest`: The decision.

## Theorems

* `decideRequest_of_some`, `decideRequest_state`, `decideRequest_forward`: A known key,
  what a decision leaves, and when it is to forward.
* `decideExisting_of_completed`, `decideExisting_of_open`, `decideExisting_of_conflict`:
  The three things a record may say.
-/

namespace Mistle

/-- The key of a request, with the operation it is for and what was asked. -/
structure ProxyIdempotency where
  key : String
  operation : IdempotencyOperation
  requestFingerprint : RequestFingerprint
  deriving DecidableEq

/-- The fields of a structure that no other field may stand beside. -/
def strictFields (names : List String) : Json String → Option Fields
  | .obj fields => if fields.all fun field => names.contains field.1 then some fields else none
  | document => structFields names document

def proxyIdempotencyOperation? : Json String → Option IdempotencyOperation
  | .str "createConversation" => some .createConversation
  | .str "submitPayload" => some .submitPayload
  | _ => none

def proxyIdempotency? (document : Json String) : Option ProxyIdempotency := do
  let fields ← strictFields ["key", "operation", "requestFingerprint"] document
  let key ← field fields "key" Json.str?
  let operation ← field fields "operation" proxyIdempotencyOperation?
  let requestFingerprint ← field fields "requestFingerprint" Json.str?
  return { key, operation, requestFingerprint := ⟨requestFingerprint⟩ }

/-- What the store says to a request, over the responses of one proxy. -/
inductive Decision (ρ : Type) where
  | forward
  | replay (response : ρ)
  | storeError (error : IdempotencyStoreError)
  | notStarted (key : String)
  | conflict (error : IdempotencyRecordError)
  | invalidResponse (error : String)
  | missingResponse (key : String)
  | unresolved (key : String) (status : IdempotencyRecordStatus)

section

variable {ρ : Type} (readResponse : Json String → Except String ρ)

/-- The decision about a request that was recorded just now. -/
def decideStarted (record : IdempotencyRecord) : Decision ρ :=
  if record.status ≠ .started then .notStarted record.key else .forward

/-- The decision about a request whose key is known. -/
def decideExisting (record : IdempotencyRecord) (requestFingerprint : RequestFingerprint) :
    Decision ρ :=
  match record.classifyRepeatedRequest requestFingerprint with
  | .error error => .conflict error
  | .ok .completed =>
    match record.response with
    | some response =>
      match readResponse response with
      | .ok response => .replay response
      | .error error => .invalidResponse error
    | none => .missingResponse record.key
  | .ok _ => .unresolved record.key record.status

variable (sha : Sha256) (fault : Option Fault) (disk : Disk) (store : IdempotencyStore)

/-- The decision about a request, which records it if its key is unknown. -/
def decideRequest (runtimeId : AgentRuntimeId) (idempotency : ProxyIdempotency) (now : String) :
    Decision ρ × Disk × IdempotencyStore :=
  match store.getByKey ⟨runtimeId, idempotency.operation, idempotency.key⟩ with
  | .ok record => (decideExisting readResponse record idempotency.requestFingerprint, disk, store)
  | .error _ =>
    let outcome := store.startOperation sha fault disk {
      key := idempotency.key
      runtimeId
      operation := idempotency.operation
      requestFingerprint := idempotency.requestFingerprint
      now }
    let decision := match outcome.result with
      | .ok record => decideStarted record
      | .error error => .storeError error
    (decision, outcome.disk, outcome.store)

theorem decideExisting_of_conflict {record : IdempotencyRecord}
    {fingerprint : RequestFingerprint} (h : record.requestFingerprint ≠ fingerprint) :
    decideExisting readResponse record fingerprint
      = .conflict (.fingerprintConflict record.key record.requestFingerprint fingerprint) := by
  unfold decideExisting
  rw [IdempotencyRecord.classifyRepeatedRequest_of_different h]

theorem decideExisting_of_open {record : IdempotencyRecord} {fingerprint : RequestFingerprint}
    (h : record.requestFingerprint = fingerprint) (hopen : record.status ≠ .completed) :
    decideExisting readResponse record fingerprint = .unresolved record.key record.status := by
  unfold decideExisting
  rw [IdempotencyRecord.classifyRepeatedRequest_of_same h]
  cases hstatus : record.status with
  | started => rfl
  | accepted => rfl
  | completed => exact absurd hstatus hopen

theorem decideExisting_of_completed {record : IdempotencyRecord}
    {fingerprint : RequestFingerprint} (h : record.requestFingerprint = fingerprint)
    (hcompleted : record.status = .completed) {document : Json String} {response : ρ}
    (hresponse : record.response = some document) (hread : readResponse document = .ok response) :
    decideExisting readResponse record fingerprint = .replay response := by
  unfold decideExisting
  rw [IdempotencyRecord.classifyRepeatedRequest_of_same h, hcompleted]
  simp only [hresponse, hread]

theorem decideRequest_of_some (runtimeId : AgentRuntimeId) (idempotency : ProxyIdempotency)
    (now : String) {record : IdempotencyRecord}
    (h : store.records ⟨runtimeId, idempotency.operation, idempotency.key⟩ = some record) :
    decideRequest readResponse sha fault disk store runtimeId idempotency now
      = (decideExisting readResponse record idempotency.requestFingerprint, disk, store) := by
  unfold decideRequest IdempotencyStore.getByKey
  rw [h]

/-- What deciding about a request leaves is what starting it leaves. -/
theorem decideRequest_state (runtimeId : AgentRuntimeId) (idempotency : ProxyIdempotency) (now : String) :
    let outcome := store.startOperation sha fault disk
      ⟨idempotency.key, runtimeId, idempotency.operation, idempotency.requestFingerprint, now⟩
    (decideRequest readResponse sha fault disk store runtimeId idempotency now).2
      = (outcome.disk, outcome.store) := by
  unfold decideRequest IdempotencyStore.getByKey
  cases h : store.records ⟨runtimeId, idempotency.operation, idempotency.key⟩ with
  | none => rfl
  | some record =>
      simp only [IdempotencyStore.startOperation, h]
      cases record.classifyRepeatedRequest idempotency.requestFingerprint with
      | error error => rfl
      | ok status => rfl

/-- A request is forwarded only if its key is unknown and it was started. -/
theorem decideRequest_forward {runtimeId : AgentRuntimeId} {idempotency : ProxyIdempotency} {now : String}
    (h : (decideRequest readResponse sha fault disk store runtimeId idempotency now).1
      = .forward) :
    store.records ⟨runtimeId, idempotency.operation, idempotency.key⟩ = none ∧
      ∃ record, (store.startOperation sha fault disk ⟨idempotency.key, runtimeId,
        idempotency.operation, idempotency.requestFingerprint, now⟩).result = .ok record := by
  unfold decideRequest IdempotencyStore.getByKey at h
  cases hrecord : store.records ⟨runtimeId, idempotency.operation, idempotency.key⟩ with
  | some record =>
      rw [hrecord] at h
      simp only [decideExisting] at h
      split at h
      · exact absurd h (by simp only [reduceCtorEq, not_false_eq_true])
      · split at h
        · split at h
          · exact absurd h (by simp only [reduceCtorEq, not_false_eq_true])
          · exact absurd h (by simp only [reduceCtorEq, not_false_eq_true])
        · exact absurd h (by simp only [reduceCtorEq, not_false_eq_true])
      · exact absurd h (by simp only [reduceCtorEq, not_false_eq_true])
  | none =>
      rw [hrecord] at h
      refine ⟨rfl, ?_⟩
      simp only at h
      cases hresult : (store.startOperation sha fault disk ⟨idempotency.key, runtimeId,
          idempotency.operation, idempotency.requestFingerprint, now⟩).result with
      | ok record => exact ⟨record, rfl⟩
      | error error =>
          rw [hresult] at h
          exact absurd h (by simp only [reduceCtorEq, not_false_eq_true])

end

end Mistle
