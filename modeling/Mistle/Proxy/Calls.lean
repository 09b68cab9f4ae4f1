import Mistle.Idempotency.StoreAtomicity
import Mistle.Proxy.CodexIdempotency
import Mistle.Proxy.OpenCodeIdempotency

/-!
# Calls of the Two Proxies

Both proxies work on one store. A request is prepared, and if it was forwarded its
answer is kept later, or the request is forgotten. Any step of the file system may
fail in a call, the process may die at any step of it, and a process that starts
again loads the directory.

## Main definitions

* `ProxyCall`: What a proxy does to the store.
* `ProxyCall.request?`, `ProxyCall.operation?`: The request a call is for, and the
  operation of the store that it comes to.
* `ProxyCall.run`, `proxyStep`: A call, and a step of the process.
* `AnsweredFrom`: How a request is answered whose key has a record.

## Theorems

* `run_state`: A call changes what its operation changes.
* `run_of_clock_fails`, `run_answers`: A request that is not forwarded.
* `run_forwards`: A request that is forwarded.
-/

namespace Mistle

/-- The process has a store while it runs. -/
structure ProxyState where
  store : Option IdempotencyStore
  disk : Disk

inductive ProxyCall where
  | prepareCodex (payload : Json String) (now : Except String String)
  | completeCodex (started : StartedCodexOperation) (response : StoredCodexProxyResponse)
      (providerConversationId providerExecutionId : Option String) (now : Except String String)
  | prepareOpenCode (input : PrepareSubmitIdempotencyInput) (now : Except String String)
  | completeOpenCode (started : StartedOpenCodeOperation) (response : StoredOpenCodeProxyResponse)
      (now : Except String String)
  | deleteOpenCode (started : StartedOpenCodeOperation)

/-- What the caller of a proxy gets. -/
inductive ProxyAnswer where
  | codex (action : CodexIdempotencyAction)
  | openCode (action : OpenCodeIdempotencyAction)
  | settled (result : Except String Unit)

/-- A call, with the step of the file system that fails in it if it comes to it, and
    whether the process dies there or at the end; or the start of a process. -/
inductive ProxyInput where
  | call (call : ProxyCall) (fault : Option Fault) (dies : Bool)
  | load

/-- A request that comes to the store: its key, its fingerprint and when it came. -/
structure ProxyRequest where
  key : StoreKey
  requestFingerprint : RequestFingerprint
  now : Except String String

def StoreOperation.key : StoreOperation → StoreKey
  | .start input => ⟨input.runtimeId, input.operation, input.key⟩
  | .accept key _ => key
  | .complete key _ => key
  | .delete key _ => key

section

variable (sha : Sha256) (serde : SerdeJson)

/-- The request that a call prepares, if it is one that the store is asked about. -/
def ProxyCall.request? : ProxyCall → Option ProxyRequest
  | .prepareCodex payload now =>
    match (codexRequest serde payload).1 with
    | .ok (some started) => some {
        key := ⟨.codex, started.operation, started.idempotency.key⟩
        requestFingerprint := started.idempotency.requestFingerprint
        now }
    | _ => none
  | .prepareOpenCode input now =>
    match openCodeRequest sha input with
    | .ok (started, _) => some {
        key := ⟨.openCode, started.operation, started.idempotency.key⟩
        requestFingerprint := started.idempotency.requestFingerprint
        now }
    | _ => none
  | _ => none

def ProxyRequest.start? (request : ProxyRequest) : Option StoreOperation :=
  match request.now with
  | .ok now => some (.start {
      key := request.key.key
      runtimeId := request.key.runtimeId
      operation := request.key.operation
      requestFingerprint := request.requestFingerprint
      now })
  | .error _ => none

/-- The operation of the store that a call comes to. -/
def ProxyCall.operation? (call : ProxyCall) : Option StoreOperation :=
  match call with
  | .prepareCodex _ _ | .prepareOpenCode _ _ =>
    (call.request? sha serde).bind ProxyRequest.start?
  | .completeCodex started response providerConversationId providerExecutionId now =>
    match now with
    | .error _ => none
    | .ok now => some (.complete ⟨.codex, started.operation, started.idempotency.key⟩ {
        requestFingerprint := started.idempotency.requestFingerprint
        providerConversationId
        providerExecutionId
        runtimeArtifactHint := some (.obj [("method", .str started.method)])
        response := response.toJson
        now })
  | .completeOpenCode started response now =>
    match now with
    | .error _ => none
    | .ok now =>
      match openCodeCompletion serde started response now with
      | .error _ => none
      | .ok completion =>
        some (.complete ⟨.openCode, started.operation, started.idempotency.key⟩ completion)
  | .deleteOpenCode started =>
    some (.delete ⟨.openCode, started.operation, started.idempotency.key⟩
      started.idempotency.requestFingerprint)

/-- One call, in a process with a store. -/
def ProxyCall.run (fault : Option Fault) (disk : Disk) (store : IdempotencyStore) :
    ProxyCall → ProxyAnswer × ProxyState
  | .prepareCodex payload now =>
    let (action, _, disk, store) :=
      prepareCodexIdempotency sha serde fault disk (some store) payload now
    (.codex action, ⟨store, disk⟩)
  | .completeCodex started response providerConversationId providerExecutionId now =>
    let (result, disk, store) := completeCodexIdempotency sha fault disk store started response
      providerConversationId providerExecutionId now
    (.settled result, ⟨some store, disk⟩)
  | .prepareOpenCode input now =>
    let (action, _, disk, store) :=
      prepareOpenCodeIdempotency sha serde fault disk (some store) input now
    (.openCode action, ⟨store, disk⟩)
  | .completeOpenCode started response now =>
    let (result, disk, store) :=
      completeSubmitIdempotency sha serde fault disk store started response now
    (.settled result, ⟨some store, disk⟩)
  | .deleteOpenCode started =>
    let (result, disk, store) := deleteStartedSubmitIdempotency sha fault disk store started
    (.settled result, ⟨some store, disk⟩)

/-- A step of the process. A call needs a store, and its answer is lost with a
    process that dies. -/
def proxyStep (root : String) (st : ProxyState) :
    ProxyInput → Option (ProxyState × List ProxyAnswer)
  | .call call fault dies =>
    match st.store with
    | none => none
    | some store =>
      let (answer, next) := call.run sha serde fault st.disk store
      if dies then some ({ next with store := none }, []) else some (next, [answer])
  | .load =>
    match st.store with
    | some _ => none
    | none =>
      match loadAll sha serde root st.disk with
      | .ok (disk, store) => some (⟨some store, disk⟩, [])
      | .error _ => some (st, [])

/-- The steps of the process. -/
abbrev ProxySteps (root : String) (st : ProxyState) (input : ProxyInput) (out : List ProxyAnswer)
    (st' : ProxyState) : Prop := proxyStep sha serde root st input = some (st', out)

end

/-! ### Answers -/

/-- A refusal by the proxy of a runtime. Only one of them has a status. -/
def refusal (runtimeId : AgentRuntimeId) (status : Nat) (message : String) : ProxyAnswer :=
  match runtimeId with
  | .codex => .codex (.reject message)
  | _ => .openCode (.reject status message)

/-- What a runtime's proxy says of a request whose first one has no response yet. -/
def unresolvedMessage (request : StoreKey) (key : String) (status : IdempotencyRecordStatus) :
    String :=
  match request.runtimeId with
  | .codex => s!"Codex idempotency key '{key}' has unresolved status {status.debug}."
  | _ =>
    let label := openCodeLabel request.operation
    s!"{label} idempotency key '{key}' has unresolved status {status.debug}."

/-- What a runtime's proxy says of a clock that gives no time. -/
def clockError (runtimeId : AgentRuntimeId) (error : String) : String :=
  match runtimeId with
  | .codex => codexConfigureRuntime error
  | _ => openCodeConfigureRuntime error

def ProxyAnswer.Forwards (answer : ProxyAnswer) : Prop :=
  (∃ started, answer = .codex (.forward started)) ∨ ∃ started, answer = .openCode (.forward started)

/-- The answer replays the response that a document holds. -/
def ProxyAnswer.Replays (answer : ProxyAnswer) (document : Json String) : Prop :=
  (∃ response, answer = .codex (.replay response) ∧ response.toJson = document) ∨
    ∃ response, answer = .openCode (.replay response) ∧ response.toJson = document

/-- How a request is answered whose key has a record: it is refused if it is another
    request or the first one has no response yet, and gets that response otherwise. -/
structure AnsweredFrom (request : ProxyRequest) (record : IdempotencyRecord)
    (answer : ProxyAnswer) : Prop where
  conflict : record.requestFingerprint ≠ request.requestFingerprint →
    answer = refusal request.key.runtimeId 409 (toString (IdempotencyRecordError.fingerprintConflict
      record.key record.requestFingerprint request.requestFingerprint))
  unresolved : record.requestFingerprint = request.requestFingerprint →
    record.status ≠ .completed → answer = refusal request.key.runtimeId 409
      (unresolvedMessage request.key record.key record.status)
  replayed : record.requestFingerprint = request.requestFingerprint → record.status = .completed →
    ∃ document, record.response = some document ∧ answer.Replays document

/-- A document that the proxy of a runtime keeps a response as. -/
def IsResponse : AgentRuntimeId → Json String → Prop
  | .codex, document => ∃ response : StoredCodexProxyResponse, document = response.toJson
  | _, document => ∃ response : StoredOpenCodeProxyResponse, document = response.toJson

/-! ### What a call does -/

section

variable (sha : Sha256) (serde : SerdeJson) (fault : Option Fault) (disk : Disk)
  (store : IdempotencyStore)

/-- A call changes what its operation changes. -/
theorem run_state (call : ProxyCall) :
    (call.run sha serde fault disk store).2 = match call.operation? sha serde with
      | none => ⟨some store, disk⟩
      | some operation =>
        let next := ((⟨disk, store⟩ : StoreState).apply sha ⟨operation, fault⟩).1
        ⟨some next.store, next.disk⟩ := by
  cases call with
  | prepareCodex payload now =>
      simp only [ProxyCall.run, ProxyCall.operation?, ProxyCall.request?, prepareCodexIdempotency]
      rcases codexRequest serde payload with ⟨asked, rest⟩
      rcases asked with message | started | started
      · rfl
      · rfl
      · cases now with
        | error error => rfl
        | ok now =>
            have hstate := decideRequest_state (readCodexResponse serde) sha fault disk store .codex
              ⟨started.idempotency.key, started.operation, started.idempotency.requestFingerprint⟩ now
            exact congrArg (fun left => (⟨some left.2, left.1⟩ : ProxyState)) hstate
  | prepareOpenCode input now =>
      simp only [ProxyCall.run, ProxyCall.operation?, ProxyCall.request?,
        prepareOpenCodeIdempotency]
      rcases openCodeRequest sha input with action | ⟨started, body⟩
      · rfl
      · cases now with
        | error error => rfl
        | ok now =>
            have hstate := decideRequest_state (readOpenCodeResponse serde) sha fault disk
              store .openCode ⟨started.idempotency.key, started.operation,
                started.idempotency.requestFingerprint⟩ now
            exact congrArg (fun left => (⟨some left.2, left.1⟩ : ProxyState)) hstate
  | completeCodex started response providerConversationId providerExecutionId now =>
      cases now with
      | error error => rfl
      | ok now => rfl
  | completeOpenCode started response now =>
      cases now with
      | error error => rfl
      | ok now =>
          simp only [ProxyCall.run, ProxyCall.operation?, completeSubmitIdempotency]
          cases openCodeCompletion serde started response now with
          | error error => rfl
          | ok completion => rfl
  | deleteOpenCode started => rfl

/-- A request whose clock fails is refused. -/
theorem run_of_clock_fails {call : ProxyCall} {request : ProxyRequest} {error : String}
    (hrequest : call.request? sha serde = some request) (hclock : request.now = .error error) :
    (call.run sha serde fault disk store).1
      = refusal request.key.runtimeId 500 (clockError request.key.runtimeId error) := by
  cases call with
  | prepareCodex payload now =>
      simp only [ProxyCall.request?] at hrequest
      simp only [ProxyCall.run, prepareCodexIdempotency]
      revert hrequest
      rcases codexRequest serde payload with ⟨asked, rest⟩
      intro hrequest
      rcases asked with message | started | started
      · exact absurd hrequest (by simp only [reduceCtorEq, not_false_eq_true])
      · exact absurd hrequest (by simp only [reduceCtorEq, not_false_eq_true])
      · rw [Option.some.injEq] at hrequest
        rw [← hrequest] at hclock ⊢
        simp only at hclock
        rw [hclock]
        rfl
  | prepareOpenCode input now =>
      simp only [ProxyCall.request?] at hrequest
      simp only [ProxyCall.run, prepareOpenCodeIdempotency]
      revert hrequest
      rcases openCodeRequest sha input with action | ⟨started, body⟩
      all_goals intro hrequest
      · exact absurd hrequest (by simp only [reduceCtorEq, not_false_eq_true])
      · rw [Option.some.injEq] at hrequest
        rw [← hrequest] at hclock ⊢
        simp only at hclock
        rw [hclock]
        rfl
  | completeCodex _ _ _ _ _ | completeOpenCode _ _ _ | deleteOpenCode _ =>
      exact absurd hrequest (by simp only [ProxyCall.request?, reduceCtorEq, not_false_eq_true])

/-- A request whose key has a record of its proxy is answered from it. -/
theorem run_answers {call : ProxyCall} {request : ProxyRequest} {now : String}
    {record : IdempotencyRecord} (hrequest : call.request? sha serde = some request)
    (hclock : request.now = .ok now) (hrecord : store.records request.key = some record)
    (hresponse : record.status = .completed →
      ∃ document, record.response = some document ∧ IsResponse request.key.runtimeId document) :
    AnsweredFrom request record (call.run sha serde fault disk store).1 := by
  cases call with
  | prepareCodex payload clock =>
      simp only [ProxyCall.request?] at hrequest
      simp only [ProxyCall.run, prepareCodexIdempotency]
      revert hrequest
      rcases codexRequest serde payload with ⟨asked, rest⟩
      intro hrequest
      rcases asked with message | started | started
      · exact absurd hrequest (by simp only [reduceCtorEq, not_false_eq_true])
      · exact absurd hrequest (by simp only [reduceCtorEq, not_false_eq_true])
      · rw [Option.some.injEq] at hrequest
        rw [← hrequest] at hclock hrecord hresponse ⊢
        simp only at hclock hrecord hresponse
        rw [hclock]
        simp only [decideRequest_of_some (readCodexResponse serde) sha fault disk store .codex
          { started.idempotency with operation := started.operation } now hrecord]
        constructor
        · intro hdifferent
          rw [decideExisting_of_conflict _ hdifferent]
          rfl
        · intro hsame hopen
          rw [decideExisting_of_open _ hsame hopen]
          rfl
        · intro hsame hcompleted
          rcases hresponse hcompleted with ⟨document, hdocument, response, heq⟩
          rw [decideExisting_of_completed _ hsame hcompleted hdocument
            (heq ▸ readCodexResponse_toJson serde response)]
          exact ⟨document, hdocument, .inl ⟨response, rfl, heq.symm⟩⟩
  | prepareOpenCode input clock =>
      simp only [ProxyCall.request?] at hrequest
      simp only [ProxyCall.run, prepareOpenCodeIdempotency]
      revert hrequest
      rcases openCodeRequest sha input with action | ⟨started, body⟩
      all_goals intro hrequest
      · exact absurd hrequest (by simp only [reduceCtorEq, not_false_eq_true])
      · rw [Option.some.injEq] at hrequest
        rw [← hrequest] at hclock hrecord hresponse ⊢
        simp only at hclock hrecord hresponse
        rw [hclock]
        simp only [decideRequest_of_some (readOpenCodeResponse serde) sha fault disk store .openCode
          { started.idempotency with operation := started.operation } now hrecord]
        constructor
        · intro hdifferent
          rw [decideExisting_of_conflict _ hdifferent]
          rfl
        · intro hsame hopen
          rw [decideExisting_of_open _ hsame hopen]
          rfl
        · intro hsame hcompleted
          rcases hresponse hcompleted with ⟨document, hdocument, response, heq⟩
          rw [decideExisting_of_completed _ hsame hcompleted hdocument
            (heq ▸ readOpenCodeResponse_toJson serde response)]
          exact ⟨document, hdocument, .inr ⟨response, rfl, heq.symm⟩⟩
  | completeCodex _ _ _ _ _ | completeOpenCode _ _ _ | deleteOpenCode _ =>
      exact absurd hrequest (by simp only [ProxyCall.request?, reduceCtorEq, not_false_eq_true])

/-- A request that is forwarded has an unknown key and was started. -/
theorem run_forwards {call : ProxyCall} (h : (call.run sha serde fault disk store).1.Forwards) :
    ∃ request operation, call.request? sha serde = some request ∧
      call.operation? sha serde = some operation ∧ operation.key = request.key ∧
      request.start? = some operation ∧ store.records request.key = none ∧
      ((⟨disk, store⟩ : StoreState).apply sha ⟨operation, fault⟩).2 = .done := by
  have hcodex : ∀ {started : StartedCodexOperation} {decision : Decision StoredCodexProxyResponse},
      (ProxyAnswer.codex (codexAction started decision)).Forwards → decision = .forward := by
    intro started decision hforwards
    rcases hforwards with ⟨_, heq⟩ | ⟨_, heq⟩
    · cases decision with
      | forward => rfl
      | replay _ | storeError _ | notStarted _ | conflict _ | invalidResponse _
      | missingResponse _ | unresolved _ _ =>
          exact absurd heq (by simp only [codexAction, ProxyAnswer.codex.injEq, reduceCtorEq,
            not_false_eq_true])
    · exact absurd heq (by simp only [reduceCtorEq, not_false_eq_true])
  have hopenCode : ∀ {started : StartedOpenCodeOperation}
      {decision : Decision StoredOpenCodeProxyResponse},
      (ProxyAnswer.openCode (openCodeAction started decision)).Forwards → decision = .forward := by
    intro started decision hforwards
    rcases hforwards with ⟨_, heq⟩ | ⟨_, heq⟩
    · exact absurd heq (by simp only [reduceCtorEq, not_false_eq_true])
    · cases decision with
      | forward => rfl
      | replay _ | storeError _ | notStarted _ | conflict _ | invalidResponse _
      | missingResponse _ | unresolved _ _ =>
          exact absurd heq (by simp only [openCodeAction, ProxyAnswer.openCode.injEq, reduceCtorEq,
            not_false_eq_true])
  have hrejects : ∀ message, ¬ (ProxyAnswer.codex (.reject message)).Forwards := by
    rintro message (⟨_, heq⟩ | ⟨_, heq⟩)
    · exact absurd heq (by simp only [ProxyAnswer.codex.injEq, reduceCtorEq, not_false_eq_true])
    · exact absurd heq (by simp only [reduceCtorEq, not_false_eq_true])
  have hother : ∀ action, (∀ started, action ≠ .forward started) →
      ¬ (ProxyAnswer.openCode action).Forwards := by
    rintro action hne (⟨_, heq⟩ | ⟨started, heq⟩)
    · exact absurd heq (by simp only [reduceCtorEq, not_false_eq_true])
    · exact hne started (ProxyAnswer.openCode.inj heq)
  have hsettled : ∀ result, ¬ (ProxyAnswer.settled result).Forwards := by
    rintro result (⟨_, heq⟩ | ⟨_, heq⟩)
    · exact absurd heq (by simp only [reduceCtorEq, not_false_eq_true])
    · exact absurd heq (by simp only [reduceCtorEq, not_false_eq_true])
  cases call with
  | prepareCodex payload now =>
      simp only [ProxyCall.run, prepareCodexIdempotency] at h
      simp only [ProxyCall.request?, ProxyCall.operation?]
      revert h
      rcases codexRequest serde payload with ⟨asked, rest⟩
      intro h
      rcases asked with message | started | started
      · exact absurd h (hrejects _)
      · rcases h with ⟨_, heq⟩ | ⟨_, heq⟩
        · exact absurd heq (by simp only [ProxyAnswer.codex.injEq, reduceCtorEq, not_false_eq_true])
        · exact absurd heq (by simp only [reduceCtorEq, not_false_eq_true])
      · cases now with
        | error error => exact absurd h (hrejects _)
        | ok now =>
            rcases decideRequest_forward _ sha fault disk store (hcodex h) with ⟨hnone, record, hok⟩
            refine ⟨_, _, rfl, rfl, rfl, rfl, hnone, ?_⟩
            simp only [StoreState.apply, StoreOutcome.settle]
            rw [hok]
  | prepareOpenCode input now =>
      simp only [ProxyCall.run, prepareOpenCodeIdempotency] at h
      simp only [ProxyCall.request?, ProxyCall.operation?]
      rcases hrequest : openCodeRequest sha input with action | ⟨started, body⟩
      · rw [hrequest] at h
        exact absurd h (hother _ (openCodeRequest_ne_forward sha hrequest))
      · rw [hrequest] at h
        cases now with
        | error error =>
            exact absurd h (hother _ fun _ => by simp only [ne_eq, reduceCtorEq,
              not_false_eq_true])
        | ok now =>
            rcases decideRequest_forward _ sha fault disk store (hopenCode h)
              with ⟨hnone, record, hok⟩
            refine ⟨_, _, rfl, rfl, rfl, rfl, hnone, ?_⟩
            simp only [StoreState.apply, StoreOutcome.settle]
            rw [hok]
  | completeCodex _ _ _ _ _ | completeOpenCode _ _ _ | deleteOpenCode _ =>
      exact absurd h (hsettled _)

end

end Mistle
